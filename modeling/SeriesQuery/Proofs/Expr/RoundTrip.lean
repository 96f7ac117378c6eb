/-
Printing a parsed query and parsing it again. Both texts are read as tokens
of phrases that differ at most in how `not` is written, so they have one tree
and need one nesting limit.
-/
import SeriesQuery.Proofs.Expr.Text
import SeriesQuery.Regex.Engine

namespace SeriesQuery

open Category

/-! ## Doubles -/

/-- A finite double is equal to itself. -/
theorem beq_self_of_isFinite {x : Float} (h : x.isFinite = true) : (x == x) = true := by
  change x.toModel.unpack.isFinite = true at h
  change (x.toModel.unpack.compare x.toModel.unpack == some .eq) = true
  generalize x.toModel.unpack = u at h ⊢
  cases u with
  | notANumber => cases h
  | infinity s => cases h
  | zero s => rfl
  | finite s m e hm =>
    have hself : (compare e e).then (compare m m) = .eq := by
      rw [Std.ReflOrd.compare_self, Std.ReflOrd.compare_self]
      rfl
    cases s with
    | negative =>
      change (some ((compare e e).then (compare m m)).swap == some .eq) = true
      rw [hself]
      rfl
    | positive =>
      change (some ((compare e e).then (compare m m)) == some .eq) = true
      rw [hself]
      rfl

namespace Scan

theorem isFinite_of_double {text cs text' rest : List Char} {x y : Float}
    (h : number.double text x cs = .token (.double y) text' rest) : y.isFinite = true := by
  unfold number.double at h
  split at h
  · unfold duration at h
    cases h
  · split at h
    · rename_i hx
      cases h
      exact hx
    · cases h

theorem isFinite_of_number {cs text rest : List Char} {x : Float}
    (h : number cs = .token (.double x) text rest) : x.isFinite = true := by
  unfold number at h
  dsimp only at h
  split at h
  · exact isFinite_of_double h
  · split at h
    · exact isFinite_of_double h
    · split at h
      · unfold duration at h
        dsimp only at h
        split at h
        · cases h
        · split at h <;> cases h
      · split at h <;> cases h

end Scan

namespace Phrase

/-- The doubles of one tree, or of several. -/
def doublesIn : (c : Category) → c.Tree → List Float
  | atLeast _, e => e.doubles
  | oneOrMore, es => Expr.doublesOf es
  | anyNumber, es => Expr.doublesOf es

theorem mem_doubles_of_mem_kinds {c : Category} (p : Phrase c) {x : Float}
    (h : .double x ∈ p.kinds) : x ∈ doublesIn c p.tree := by
  induction p with
  | binary op _ l r ihl ihr =>
    have hop : .double x ≠ op.kind := by cases op <;> simp [BinaryOp.kind]
    simp only [kinds, List.mem_append, List.mem_cons, hop, false_or] at h
    exact List.mem_append.mpr (h.imp ihl ihr)
  | letIn _ name v b ihv ihb =>
    simp only [kinds, Name.kind, List.mem_cons, List.mem_append, reduceCtorEq, false_or] at h
    exact List.mem_append.mpr (h.imp ihv ihb)
  | more p q ihp ihq =>
    simp only [kinds, List.mem_append, List.mem_cons, reduceCtorEq, false_or] at h
    exact List.mem_append.mpr (h.imp ihp ihq)
  | tagged _ _ op v ih =>
    have hop : .double x ≠ op.kind := by cases op <;> simp [TagOp.kind]
    simp only [kinds, Name.kind, List.mem_cons, hop, reduceCtorEq, false_or] at h
    exact ih h
  | signed _ s p ih =>
    have hs : .double x ≠ s.kind := by cases s <;> simp [Sign.kind]
    simp only [kinds, List.mem_cons, hs, false_or] at h
    exact ih h
  | literal _ v =>
    rw [kinds, List.mem_singleton] at h
    cases v with
    | double y => cases h; exact List.mem_singleton_self x
    | _ => cases h
  | selector _ key filters ih =>
    cases key <;> simp only [kinds, Name.kind, Option.toList_none, Option.toList_some, List.map_nil,
      List.map_cons, List.nil_append, List.cons_append, List.mem_append, List.mem_cons, reduceCtorEq,
      List.not_mem_nil, or_false, false_or] at h <;> exact ih h
  | one p ih => exact List.mem_append_left _ (ih h)
  | lift p ih => exact ih h
  | some p ih => exact ih h
  | _ =>
    simp_all [kinds, Name.kind, tree, doublesIn, Expr.doubles]

end Phrase

section Printing

variable [PatternEngine]

theorem isFinite_of_readsBack {x : Float} (h : ReadsBack x) : x.isFinite = true := by
  obtain ⟨c, cs, _, hscan⟩ := h
  exact Scan.isFinite_of_number (Scan.number_of_scan_double hscan).2

namespace Expr

/-- The tokens of a parsed text can be written, as far as its doubles read back. -/
theorem writable_of_tokenize {source : String} {p : Phrase (atLeast Level.letBody)}
    {ts : List Token} {rest : List (Except Failure Token)} (hts : ts.map Token.kind = p.kinds)
    (htokens : tokenize source = ts.map .ok ++ rest) (hx : ∀ x ∈ p.tree.doubles, ReadsBack x) :
    ∀ k ∈ p.kinds, k.Writable := by
  intro k hk
  have hk' := hk
  rw [← hts] at hk'
  obtain ⟨t, ht, rfl⟩ := List.mem_map.mp hk'
  have hmem : .ok t ∈ tokenize source := by
    rw [htokens]
    exact List.mem_append_left _ (List.mem_map_of_mem ht)
  obtain hstop | hwritable | ⟨x, hdouble⟩ := writable_of_mem_tokenize hmem
  · exact absurd (hstop ▸ hk) p.stop_not_mem_kinds
  · exact hwritable
  · rw [hdouble] at hk ⊢
    exact hx x (p.mem_doubles_of_mem_kinds hk)

/-- The text of a phrase's tree, within the limits, is parsed as that tree. -/
theorem parse_text_of_phrase (limits : Limits) (p : Phrase (atLeast Level.letBody))
    (hp : ∀ k ∈ p.kinds, k.Writable) (hnesting : p.nesting ≤ limits.nesting)
    (hlength : p.tree.text.utf8ByteSize ≤ limits.length) :
    ∃ e, parse limits p.tree.text = .ok e ∧ e.bare = p.tree := by
  have hread : Reads p.tree.text.toList p.plain.kinds [] := by
    have h := p.reads_written hp Scan.atBreak_nil (.done [])
    rw [List.append_nil, List.append_nil, ← p.textOf_tree] at h
    exact h
  obtain ⟨ts, stop, hts, hstop, htokens⟩ := tokenize_of_reads hread
  have hplain : p.plain.nesting ≤ limits.nesting := by
    rw [p.plain_nesting]
    exact hnesting
  obtain ⟨e, he, htree⟩ := ofTokens_of_phrase p.plain hts hplain (.inr ⟨stop, hstop, rfl⟩)
  refine ⟨e, ?_, htree.trans p.plain_tree⟩
  rw [parse_of_le hlength, htokens, he]

/-- Printing a parsed query and parsing it again gives a tree of the same shape, which prints
alike. The digits of its doubles have to read back. -/
theorem parse_text {limits limits' : Limits} {source : String} {e : Expr}
    (h : parse limits source = .ok e) (hx : ∀ x ∈ e.doubles, ReadsBack x)
    (hnesting : limits.nesting ≤ limits'.nesting)
    (hlength : e.text.utf8ByteSize ≤ limits'.length) :
    ∃ e', parse limits' e.text = .ok e' ∧ e.sameShape e' = true ∧ e'.text = e.text := by
  unfold parse at h
  split at h
  · cases h
  · obtain ⟨p, ts, rest, hp, htree, hts, htokens, _⟩ := phrase_of_ofTokens h
    have htext : p.tree.text = e.text := by rw [htree, text_bare]
    have hwritable : ∀ k ∈ p.kinds, k.Writable :=
      writable_of_tokenize hts htokens (by rwa [htree, doubles_bare])
    obtain ⟨e', he', hbare⟩ := parse_text_of_phrase limits' p hwritable
      (Nat.le_trans hp hnesting) (by rwa [htext])
    rw [htext] at he'
    have hsame : e.bare = e'.bare := by rw [hbare, htree]
    exact ⟨e', he', sameShape_of_bare_eq e e' hsame fun x h =>
      beq_self_of_isFinite (isFinite_of_readsBack (hx x h)), (text_eq_of_bare_eq hsame).symm⟩

theorem readsBack_zero : ReadsBack 0.0 := ⟨'0', ['.', '0'], rfl, rfl⟩

end Expr

end Printing

open scoped Regex

/-- A query whose `not` is printed as `!`. -/
theorem Expr.parse_text_disjunction :
    ∃ e e', parse ⟨64, 5⟩ "not a or 0.0 < b" = .ok e ∧ (∀ x ∈ e.doubles, ReadsBack x) ∧
      e.text.utf8ByteSize ≤ 13 ∧ parse ⟨13, 5⟩ e.text = .ok e' ∧ e.sameShape e' = true ∧
      e'.text = e.text := by
  let e : Expr := .binary ⟨0, 16⟩ .or ⟨6, 8⟩ (.unary ⟨0, 5⟩ .not ⟨0, 3⟩ (.reference ⟨4, 5⟩ "a"))
    (.binary ⟨9, 16⟩ .less ⟨13, 14⟩ (.literal ⟨9, 12⟩ (.double 0.0)) (.reference ⟨15, 16⟩ "b"))
  have h : parse ⟨64, 5⟩ "not a or 0.0 < b" = .ok e := rfl
  have hx : ∀ x ∈ e.doubles, ReadsBack x := by
    intro x hx
    obtain rfl := List.mem_singleton.mp hx
    exact readsBack_zero
  have hlength : e.text.utf8ByteSize ≤ 13 := Nat.le_refl 13
  have hagain : ∃ e', parse ⟨13, 5⟩ e.text = .ok e' ∧ e.sameShape e' = true ∧ e'.text = e.text :=
    parse_text h hx (Nat.le_refl 5) hlength
  obtain ⟨e', he', hshape, htext⟩ := hagain
  exact ⟨e, e', h, hx, hlength, he', hshape, htext⟩

end SeriesQuery
