/-
Layout between tokens. A token is read from its text alone as from any text
that goes on at a break (`ScansAs.before_break`). So the texts that the
tokens of a query cover may be put together anew with any layout between
them, and are read as tokens of the same kinds (`tokenize_spaced`).
-/
import SeriesQuery.Proofs.Token.Reads

namespace SeriesQuery

open Scan

theorem mem_breaks_of_isLayout {c : Char} (h : isLayout c = true) : c ∈ breaks := by
  simp only [isLayout, Bool.or_eq_true, beq_iff_eq] at h
  obtain ((rfl | rfl) | rfl) | rfl := h <;> decide

/-- What follows a piece is a break. -/
theorem atBreak_gap {gap text : String} (hgap : gap.toList.all isLayout = true)
    (hlast : gap = "" → text = "") : AtBreak (gap.toList ++ text.toList) := by
  cases hchars : gap.toList with
  | nil =>
    rw [hlast (String.toList_eq_nil_iff.mp hchars)]
    exact atBreak_nil
  | cons c cs =>
    rw [hchars, List.all_cons, Bool.and_eq_true] at hgap
    exact atBreak_cons (mem_breaks_of_isLayout hgap.1) _

variable [PatternEngine]

/-- The text is made of the pieces, in order, with layout after each of them. There may be none
only where nothing follows. -/
inductive Spaced : List String → String → Prop
  | nil : Spaced [] ""
  | cons {piece gap text : String} {pieces : List String} :
      gap.toList.all isLayout = true → (gap = "" → text = "") → Spaced pieces text →
      Spaced (piece :: pieces) (piece ++ gap ++ text)

/-- A token that is read from its text alone is read so wherever a break follows. -/
theorem ScansAs.before_break {k : Token.Kind} {text more : List Char} (h : ScansAs k text [])
    (hmore : AtBreak more) : ScansAs k text more := by
  obtain ⟨c, cs, rfl, h⟩ := h
  rw [List.append_nil] at h
  -- Words and symbols are written in one way only, which is known to be read before a break.
  have hfixed : k.fixed = true → ScansAs k (c :: cs) more := by
    intro hfixed
    have hk : k.Writable := by
      refine (writable_of_scan h).resolve_right ?_
      rintro ⟨x, rfl⟩
      cases hfixed
    rw [text_of_scan h hfixed]
    exact scan_spelling hk hmore
  cases scanned_of_scan h with
  | number hdigit h => exact scansAs_of_number h ⟨c, cs, rfl, hdigit⟩ hmore
  | string hquote hbody =>
    obtain ⟨-, hlocal⟩ := body_local (by rcases hquote with rfl | rfl <;> decide) _ hbody
    exact ⟨c, cs, rfl, (Scanned.string hquote (hlocal more)).scan⟩
  | regex hbody hp =>
    obtain ⟨-, hlocal⟩ := body_local (by decide) _ hbody
    exact ⟨_, _, rfl, (Scanned.regex (hlocal more) hp).scan⟩
  | word | symbol => exact hfixed rfl

theorem Reads.after_layout {blank cs rest : List Char} {ks : List Token.Kind}
    (hblank : blank.all isLayout = true) (h : Reads cs ks rest) : Reads (blank ++ cs) ks rest := by
  induction blank with
  | nil => exact h
  | cons c blank ih =>
    rw [List.all_cons, Bool.and_eq_true] at hblank
    exact .layout hblank.1 (ih hblank.2)

/-- Pieces that are tokens are read as these tokens. The empty piece is the end. -/
theorem Spaced.reads {ks : List Token.Kind} {pieces : List String} {text : String}
    (hpieces : List.Forall₂ (fun k (piece : String) => ScansAs k piece.toList []) ks pieces)
    (h : Spaced (pieces ++ [""]) text) : Reads text.toList ks [] := by
  induction hpieces generalizing text with
  | nil =>
    cases h with
    | @cons _ gap _ _ hgap _ h =>
      cases h
      rw [String.toList_append, String.toList_append]
      exact .after_layout hgap (.done [])
  | cons hpiece _ ih =>
    cases h with
    | @cons _ gap _ _ hgap hlast h =>
      rw [String.toList_append, String.toList_append, List.append_assoc]
      exact .of_scansAs (hpiece.before_break (atBreak_gap hgap hlast)) (.after_layout hgap (ih h))

/-- A token covers a text that is read as this token alone. -/
theorem Lexes.exists_piece {source : String} {ts : List Token} {rest : List Char} {t : Token}
    (h : Lexes 0 source.toList ts rest) (ht : t ∈ ts) :
    ∃ piece : String, t.span.slice source = some piece ∧ ScansAs t.kind piece.toList [] := by
  obtain ⟨pre, text, post, hsource, hspan, c, cs, _, hscan⟩ := h.exists_scan ht
  obtain ⟨taken, rfl, -, hlocal⟩ := scan_local hscan
  rw [Nat.zero_add] at hspan
  refine ⟨String.ofList (c :: taken), ?_, ?_⟩
  · rw [Span.slice, hsource, hspan, Span.sliceChars_append, Option.map_some]
  · rw [String.toList_ofList]
    exact ⟨c, taken, rfl, hlocal [] List.nil_prefix⟩

theorem exists_pieces {source : String} {ts : List Token}
    (h : ∀ t ∈ ts, ∃ piece : String,
      t.span.slice source = some piece ∧ ScansAs t.kind piece.toList []) :
    ∃ pieces : List String, ts.map (fun t => t.span.slice source) = pieces.map some ∧
      List.Forall₂ (fun k (piece : String) => ScansAs k piece.toList []) (ts.map Token.kind)
        pieces := by
  induction ts with
  | nil => exact ⟨[], rfl, .nil⟩
  | cons t ts ih =>
    obtain ⟨⟨piece, hslice, hscan⟩, hts⟩ := List.forall_mem_cons.mp h
    obtain ⟨pieces, hslices, hscans⟩ := ih hts
    exact ⟨piece :: pieces, by rw [List.map_cons, List.map_cons, hslice, hslices],
      .cons hscan hscans⟩

/-- A text without faults is read to its end. -/
theorem exists_lexes_of_tokenize {source : String} {ts : List Token}
    (h : tokenize source = ts.map .ok) :
    ∃ us, Lexes 0 source.toList us [] ∧ ts = us ++ [⟨.stop, .point source.utf8ByteSize⟩] := by
  obtain ⟨taken, left, us, last, hsource, hlexes, hlast, htokens⟩ := exists_lexes_tokenize source
  obtain ⟨vs, ends, rfl, hvs, hends⟩ := List.map_eq_append_iff.mp (h.symm.trans htokens)
  obtain rfl := (List.map_inj_right fun _ _ => Except.ok.inj).mp hvs
  obtain ⟨t, rfl, rfl⟩ := List.map_eq_singleton_iff.mp hends
  obtain ⟨rfl, rfl⟩ := hlast.eq_stop
  rw [List.append_nil] at hsource
  rw [← byteLength_toList, hsource]
  exact ⟨vs, hsource ▸ hlexes, rfl⟩

/-- The tokens of a text without faults cover pieces of it, and these, with any layout between
them, are read as tokens of the same kinds. -/
theorem tokenize_spaced {source : String} {ts : List Token} (h : tokenize source = ts.map .ok) :
    ∃ pieces, ts.map (fun t => t.span.slice source) = pieces.map some ∧
      ∀ source', Spaced pieces source' →
        ∃ ts' : List Token,
          tokenize source' = ts'.map .ok ∧ ts'.map Token.kind = ts.map Token.kind := by
  obtain ⟨us, hlexes, rfl⟩ := exists_lexes_of_tokenize h
  obtain ⟨pieces, hslices, hscans⟩ := exists_pieces fun _ => hlexes.exists_piece
  refine ⟨pieces ++ [""], ?_, ?_⟩
  · have hend := Span.sliceChars_append source.toList [] []
    rw [byteLength_toList, List.append_nil, List.append_nil] at hend
    rw [List.map_append, List.map_append, hslices, List.map_singleton, Span.slice]
    exact congrArg (fun slice => pieces.map some ++ [slice.map String.ofList]) hend
  · intro source' hspaced
    obtain ⟨ts', stop, hkinds, hstop, htokens⟩ := tokenize_of_reads (hspaced.reads hscans)
    refine ⟨ts' ++ [stop], by rw [htokens, List.map_append, List.map_singleton], ?_⟩
    rw [List.map_append, List.map_append, hkinds, List.map_singleton, hstop, List.map_singleton]

end SeriesQuery
