/-
Names. A text is a name by its characters, or because it is read as itself,
one word that is not reserved, or because it is parsed as the reference of
that name: these are the same (`isName_tfae`). A word with layout around it
is no name, as the word that is read then differs from the text.
-/
import SeriesQuery.Proofs.Expr.Named
import SeriesQuery.Proofs.Token.Cover
import SeriesQuery.Regex.Engine
import Mathlib.Tactic.TFAE

namespace SeriesQuery

open Category

theorem Expr.eq_reference_of_bare {e : Expr} {name : String}
    (h : e.bare = .reference nowhere name) : ∃ span, e = .reference span name := by
  cases e <;> simp only [bare, reduceCtorEq, reference.injEq, true_and] at h
  case reference span _ => exact ⟨span, h ▸ rfl⟩

section Names

variable [PatternEngine]

/-- A name is read as one word. -/
theorem tokenize_of_isName {name : String} (h : isName name = true) :
    tokenize name =
      [.ok ⟨.word name, ⟨0, name.utf8ByteSize⟩⟩, .ok ⟨.stop, .point name.utf8ByteSize⟩] :=
  tokenize_of_scansAs (Scan.scan_isWord (isName_iff.mp h).1 Scan.atBreak_nil)

namespace Expr

variable {limits : Limits} {name : String}

/-- A word that is not reserved is parsed as a reference, which takes one level of nesting. -/
theorem parse_of_word {s t : Span} (hlength : name.utf8ByteSize ≤ limits.length)
    (hnesting : 0 < limits.nesting) (hname : isReserved name = false)
    (h : tokenize name = [.ok ⟨.word name, s⟩, .ok ⟨.stop, t⟩]) :
    ∃ span, parse limits name = .ok (.reference span name) := by
  let p : Phrase (atLeast Level.primary) := .reference rfl ⟨name, hname⟩
  let ts : List Token := [⟨.word name, s⟩]
  obtain ⟨q, hkinds, htree, -, hq⟩ := p.exists_lower (Nat.zero_le _)
  have hts : ts.map Token.kind = q.kinds := hkinds.symm
  have hroom : q.nesting ≤ limits.nesting := hq ▸ hnesting
  obtain ⟨e, he, hbare⟩ := ofTokens_of_phrase q hts hroom (.inr ⟨⟨.stop, t⟩, rfl, rfl⟩)
  obtain ⟨span, rfl⟩ := eq_reference_of_bare (hbare.trans htree)
  refine ⟨span, ?_⟩
  rw [parse_of_le hlength, h]
  exact he

/-- A reference is parsed from a name only. -/
theorem isName_of_parse_reference {span : Span}
    (h : parse limits name = .ok (.reference span name)) : isName name = true := by
  obtain ⟨-, p, ts, -, htree, hts, hlexes⟩ := phrase_of_parse h
  obtain ⟨⟨w, hw⟩, rfl, hkinds, -⟩ := p.of_tree_reference htree
  refine isName_iff.mpr ⟨hlexes.isWord ?_, hw⟩
  rw [hts, hkinds]
  exact List.mem_singleton_self _

/-- A text is a name just when it is read as itself, one word that is not reserved, and just when it
is parsed as the reference of that name. -/
theorem isName_tfae (hlength : name.utf8ByteSize ≤ limits.length) (hnesting : 0 < limits.nesting) :
    [isName name = true,
      (∃ s t, tokenize name = [.ok ⟨.word name, s⟩, .ok ⟨.stop, t⟩]) ∧ isReserved name = false,
      ∃ span, parse limits name = .ok (.reference span name)].TFAE := by
  tfae_have 1 → 2 := fun h => ⟨⟨_, _, tokenize_of_isName h⟩, (isName_iff.mp h).2⟩
  tfae_have 2 → 3 := fun ⟨⟨_, _, h⟩, hname⟩ => parse_of_word hlength hnesting hname h
  tfae_have 3 → 1 := fun ⟨_, h⟩ => isName_of_parse_reference h
  tfae_finish

end Expr

end Names

open scoped Regex

/-- A name with a point in it under the least limits, and a word that is no name for its layout. -/
theorem Expr.isName_tfae_dotted :
    let limits : Limits := ⟨10, 1⟩
    ("cpu.load_1".utf8ByteSize ≤ limits.length ∧ " x".utf8ByteSize ≤ limits.length ∧
      0 < limits.nesting) ∧
    (∃ span, parse limits "cpu.load_1" = .ok (.reference span "cpu.load_1")) ∧
    ¬ ∃ span, parse limits " x" = .ok (.reference span " x") := by
  intro limits
  have hnesting : 0 < limits.nesting := Nat.zero_lt_one
  have hdotted : "cpu.load_1".utf8ByteSize ≤ limits.length := by decide
  have hblank : " x".utf8ByteSize ≤ limits.length := by decide
  have hname : isName "cpu.load_1" = true := by decide
  have hnone : ¬ isName " x" = true := by decide
  refine ⟨⟨hdotted, hblank, hnesting⟩, ?_, ?_⟩
  · exact ((isName_tfae hdotted hnesting).out 0 2).mp hname
  · exact fun h => hnone (((isName_tfae hblank hnesting).out 0 2).mpr h)

end SeriesQuery
