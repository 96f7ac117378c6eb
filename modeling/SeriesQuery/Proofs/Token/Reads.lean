/-
Texts read as tokens. `Reads` relates a text, the kinds of the tokens read
from its start, and the text left, so that texts can be read piece by piece.
A text that is read to its end is tokenized as just those tokens and the end
(`tokenize_of_reads`).
-/
import SeriesQuery.Proofs.Token.Slice

namespace SeriesQuery

open Scan

variable [PatternEngine]

/-- Tokens of these kinds, and layout, are read from the start of the text. -/
inductive Reads : List Char → List Token.Kind → List Char → Prop
  | done (cs : List Char) : Reads cs [] cs
  | layout {c : Char} {cs ks rest} : isLayout c = true → Reads cs ks rest → Reads (c :: cs) ks rest
  | token {c : Char} {cs text cs' k ks rest} : scan c cs = .token k text cs' →
      cs'.length ≤ cs.length → Reads cs' ks rest → Reads (c :: cs) (k :: ks) rest

namespace Reads

variable {cs rest : List Char} {ks : List Token.Kind} {k : Token.Kind}

theorem of_scansAs {text : List Char} (h : ScansAs k text cs) (h' : Reads cs ks rest) :
    Reads (text ++ cs) (k :: ks) rest := by
  obtain ⟨c, text, rfl, hscan⟩ := h
  exact .token hscan (by simp) h'

/-- A token that can be written is read before a break. -/
theorem spelling (hk : k.Writable) (hcs : AtBreak cs) (h : Reads cs ks rest) :
    Reads (k.spelling ++ cs) (k :: ks) rest :=
  .of_scansAs (scan_spelling hk hcs) h

/-- A symbol is read before anything that does not make it a longer one. -/
theorem symbol (s : Symbol) (hcs : s.grows = true → ∀ c ∈ cs.head?, c ≠ '=' ∧ c ≠ '~')
    (h : Reads cs ks rest) : Reads (s.text.toList ++ cs) (.symbol s :: ks) rest :=
  .of_scansAs (scan_symbol s hcs) h

/-- A symbol that is the start of no longer one is read before anything. -/
theorem lone {s : Symbol} (hs : s.grows = false) (h : Reads cs ks rest) :
    Reads (s.text.toList ++ cs) (.symbol s :: ks) rest :=
  .symbol s (fun hgrows => by rw [hs] at hgrows; cases hgrows) h

theorem space (h : Reads cs ks rest) : Reads (' ' :: cs) ks rest := .layout rfl h

end Reads

theorem Reads.lexes {cs rest : List Char} {ks : List Token.Kind} (h : Reads cs ks rest) :
    ∀ offset, ∃ ts, ts.map Token.kind = ks ∧ Lexes offset cs ts rest := by
  induction h with
  | done cs => exact fun offset => ⟨[], rfl, .done offset cs⟩
  | layout hc _ ih =>
    intro offset
    obtain ⟨ts, hts, h⟩ := ih _
    exact ⟨ts, hts, .layout hc h⟩
  | token hscan _ _ ih =>
    intro offset
    obtain ⟨ts, hts, h⟩ := ih _
    exact ⟨_ :: ts, by rw [List.map_cons, hts], .token hscan h⟩

/-- The tokens of a text that is read whole, then the end. -/
theorem tokenize_of_reads {source : String} {ks : List Token.Kind}
    (h : Reads source.toList ks []) : ∃ (ts : List Token) (stop : Token),
      ts.map Token.kind = ks ∧ stop.kind = .stop ∧
      tokenize source = ts.map .ok ++ [.ok stop] := by
  obtain ⟨ts, hts, h⟩ := h.lexes 0
  obtain ⟨stop, hstop, htokens⟩ := tokenize_of_lexes h
  rw [String.ofList_toList] at htokens
  exact ⟨ts, stop, hts, hstop, htokens⟩

/-- Every token of a text was scanned somewhere in it, but for the end. -/
theorem exists_scan_of_mem_tokenize {source : String} {t : Token} (h : .ok t ∈ tokenize source) :
    t.kind = .stop ∨ ∃ c cs text rest, scan c cs = .token t.kind text rest := by
  obtain ⟨_, _, ts, last, -, hlexes, hlast, hitems⟩ := exists_lexes_tokenize source
  rw [hitems, List.mem_append, List.mem_singleton] at h
  rcases h with h | rfl
  · obtain ⟨_, ht, heq⟩ := List.mem_map.mp h
    cases heq
    exact .inr (hlexes.exists_scan_of_mem_kinds (List.mem_map_of_mem ht))
  · obtain ⟨-, rfl⟩ := hlast.eq_stop
    exact .inl rfl

/-- Every token of a text can be written, if a double can. -/
theorem writable_of_mem_tokenize {source : String} {t : Token} (h : .ok t ∈ tokenize source) :
    t.kind = .stop ∨ t.kind.Writable ∨ ∃ x, t.kind = .double x :=
  (exists_scan_of_mem_tokenize h).imp_right fun ⟨_, _, _, _, hscan⟩ => writable_of_scan hscan

end SeriesQuery
