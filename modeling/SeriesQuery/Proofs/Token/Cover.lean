/-
Nothing of a text is lost when it is read as tokens. The tokens stand in
order on pieces of the text, each piece alone is read as its token, and
between the pieces there is only layout, up to the end or to the one fault
(`tokenize_covers`).
-/
import SeriesQuery.Proofs.Token.Layout
import SeriesQuery.Proofs.Token.Placed
import SeriesQuery.Regex.Engine

namespace SeriesQuery

open Scan

section Coverage

variable [PatternEngine]

namespace Lexes

variable {offset : Nat} {cs rest : List Char} {ts : List Token} {t : Token}

/-- A token covers at least one character, at or after the offset. -/
theorem start_lt (h : Lexes offset cs ts rest) (ht : t ∈ ts) :
    offset ≤ t.span.start ∧ t.span.start < t.span.stop := by
  obtain ⟨pre, _, _, -, hspan, _, _, _, hscan⟩ := h.exists_scan ht
  obtain ⟨text, rfl, -, -⟩ := scan_local hscan
  rw [hspan]
  exact ⟨Nat.le_add_right .., Nat.lt_add_of_pos_right (byteLength_pos (List.cons_ne_nil _ text))⟩

/-- No token reaches into the text that is left. -/
theorem exists_taken (h : Lexes offset cs ts rest) :
    ∃ taken, cs = taken ++ rest ∧ ∀ t ∈ ts, t.span.stop ≤ offset + byteLength taken := by
  induction h with
  | done => exact ⟨[], rfl, List.forall_mem_nil _⟩
  | @layout _ c _ _ _ _ _ ih =>
    obtain ⟨taken, rfl, hstop⟩ := ih
    rw [Nat.add_assoc, ← byteLength] at hstop
    exact ⟨c :: taken, rfl, hstop⟩
  | @token _ c _ _ _ _ _ _ hscan _ ih =>
    obtain ⟨text, rfl, rfl, -⟩ := scan_local hscan
    obtain ⟨taken, rfl, hstop⟩ := ih
    rw [Nat.add_assoc, ← byteLength_append] at hstop
    refine ⟨c :: text ++ taken, by simp, List.forall_mem_cons.mpr ⟨?_, hstop⟩⟩
    rw [byteLength_append, ← Nat.add_assoc]
    exact Nat.le_add_right ..

theorem ordered (h : Lexes offset cs ts rest) :
    ts.Pairwise fun t u => t.span.stop ≤ u.span.start := by
  induction h with
  | done => exact .nil
  | layout _ _ ih => exact ih
  | token _ h ih => exact List.pairwise_cons.mpr ⟨fun _ hu => (h.start_lt hu).1, ih⟩

/-- A character that no token covers is layout, but for those after the last token where some of the
text is left. -/
theorem isLayout_of_outside {c : Char} {before after : List Char} (h : Lexes offset cs ts rest)
    (hcs : cs = before ++ c :: after)
    (hout : ∀ t ∈ ts, offset + byteLength before < t.span.start ∨
      t.span.stop ≤ offset + byteLength before)
    (hlast : rest = [] ∨ ∃ t ∈ ts, offset + byteLength before < t.span.start) :
    isLayout c = true := by
  induction h generalizing before with
  | done offset cs =>
    obtain rfl | ⟨_, ht, -⟩ := hlast
    · simp at hcs
    · cases ht
  | @layout offset c' cs rest ts hc _ ih =>
    cases before with
    | nil =>
      obtain ⟨rfl, -⟩ := List.cons.inj hcs
      exact hc
    | cons b before =>
      obtain ⟨rfl, htail⟩ := List.cons.inj hcs
      rw [byteLength, ← Nat.add_assoc] at hout hlast
      exact ih htail hout hlast
  | @token offset c' cs text cs' rest k ts hscan h ih =>
    obtain ⟨taken, rfl, rfl, -⟩ := scan_local hscan
    rw [List.forall_mem_cons] at hout
    dsimp only at hout
    -- The character stands after the first token, since it cannot stand before it.
    obtain ⟨more, rfl, htail⟩ := exists_append_of_byteLength_le (a := c' :: taken) hcs (by omega)
    rw [byteLength_append, ← Nat.add_assoc] at hout hlast
    refine ih htail hout.2 (hlast.imp_right ?_)
    rintro ⟨t, ht, hlt⟩
    obtain rfl | ht := List.mem_cons.mp ht
    · dsimp only at hlt
      omega
    · exact ⟨t, ht, hlt⟩

end Lexes

/-- A text that is scanned as one token is read as this token and the end. -/
theorem tokenize_of_scansAs {k : Token.Kind} {text : String} (h : ScansAs k text.toList []) :
    tokenize text =
      [.ok ⟨k, ⟨0, text.utf8ByteSize⟩⟩, .ok ⟨.stop, .point text.utf8ByteSize⟩] := by
  obtain ⟨c, cs, hcs, hscan⟩ := h
  rw [List.append_nil] at hscan
  have hlexes : Lexes 0 (c :: cs) [⟨k, ⟨0, 0 + byteLength text.toList⟩⟩] [] :=
    .token hscan (.done _ [])
  rw [← hcs] at hlexes
  have htokens := hlexes.tokensFrom_eq _ (Nat.lt_succ_self _)
  rwa [Nat.zero_add, byteLength_toList] at htokens

/-- The tokens and the item after them account for the whole of the source. -/
structure Covers (source : String) (ts : List Token) (last : Except Failure Token) : Prop where
  items : tokenize source = ts.map .ok ++ [last]
  /-- The tokens are none of them the end, and each covers some text. -/
  token : ∀ t ∈ ts, t.kind ≠ .stop ∧ t.span.start < t.span.stop ∧ t.span.PointsInto source
  ordered : ts.Pairwise fun t u => t.span.stop ≤ u.span.start
  /-- After them comes the end, where the source ends, or a fault that stands after them. -/
  ending : last = .ok ⟨.stop, .point source.utf8ByteSize⟩ ∨
    ∃ span fault, last = .error ⟨span, .lex fault⟩ ∧ span.PointsInto source ∧
      ∀ t ∈ ts, t.span.stop ≤ span.start
  /-- A character outside the tokens is layout. After the last token that holds if there is no
  fault. -/
  between : ∀ before c after, source.toList = before ++ c :: after →
    (∀ t ∈ ts, byteLength before < t.span.start ∨ t.span.stop ≤ byteLength before) →
    ((∃ f, last = .error f) → ∃ t ∈ ts, byteLength before < t.span.start) →
    c ∈ [' ', '\t', '\r', '\n']
  /-- The text of a token alone is read as this token and the end. -/
  alone : ∀ t ∈ ts, ∃ text, t.span.slice source = some text ∧
    tokenize text =
      [.ok ⟨t.kind, ⟨0, text.utf8ByteSize⟩⟩, .ok ⟨.stop, .point text.utf8ByteSize⟩]

/-- Every source is accounted for by its tokens, up to its end or to the first fault. -/
theorem tokenize_covers (source : String) : ∃ ts last, Covers source ts last := by
  obtain ⟨taken, rest, ts, last, hsource, hlexes, hlast, hitems⟩ := exists_lexes_tokenize source
  have hwithin : ∀ item ∈ ts.map .ok ++ [last], (place item).PointsInto source := by
    intro item hitem
    rw [← hitems] at hitem
    exact Span.pointsInto_iff.mpr (place_within hitem)
  refine ⟨ts, last, hitems, ?token, hlexes.ordered, ?ending, ?between, ?alone⟩
  case token =>
    intro t ht
    exact ⟨hlexes.kind_ne_stop ht, (hlexes.start_lt ht).2,
      hwithin (.ok t) (List.mem_append_left _ (List.mem_map_of_mem ht))⟩
  case ending =>
    obtain ⟨taken', htaken', hstop⟩ := hlexes.exists_taken
    obtain rfl := List.append_cancel_right (hsource.symm.trans htaken')
    rw [Nat.zero_add] at hstop
    have hplace := hwithin last (List.mem_append_right _ (List.mem_singleton_self last))
    cases hlast with
    | stop =>
      rw [List.append_nil] at hsource
      rw [← byteLength_toList, hsource]
      exact .inl rfl
    | fault hscan =>
      exact .inr ⟨_, _, rfl, hplace, fun t ht => Nat.le_add_right_of_le (hstop t ht)⟩
  case between =>
    intro before c after hcs hout hfault
    have hlayout : isLayout c = true := by
      refine hlexes.isLayout_of_outside hcs (by simpa using hout) ?_
      rw [Nat.zero_add]
      cases hlast with
      | stop => exact .inl rfl
      | fault => exact .inr (hfault ⟨_, rfl⟩)
    simpa [isLayout, or_assoc] using hlayout
  case alone =>
    intro t ht
    obtain ⟨text, hslice, hscan⟩ := hlexes.exists_piece ht
    exact ⟨text, hslice, tokenize_of_scansAs hscan⟩

end Coverage

open scoped Regex

/-- Three tokens with layout around them, read to the end of the text. -/
theorem tokenize_covers_comparison :
    Covers " dc\t<= 15m\n" [⟨.word "dc", ⟨1, 3⟩⟩, ⟨.symbol .lessEqual, ⟨4, 6⟩⟩,
      ⟨.duration ⟨15, .minutes⟩, ⟨7, 10⟩⟩] (.ok ⟨.stop, ⟨11, 11⟩⟩) := by
  obtain ⟨ts, last, hcovers⟩ := tokenize_covers " dc\t<= 15m\n"
  have hitems : ts.map .ok ++ [last] = [⟨.word "dc", ⟨1, 3⟩⟩, ⟨.symbol .lessEqual, ⟨4, 6⟩⟩,
      ⟨.duration ⟨15, .minutes⟩, ⟨7, 10⟩⟩].map .ok ++ [.ok ⟨.stop, ⟨11, 11⟩⟩] :=
    hcovers.items.symm
  obtain ⟨hts, hlast⟩ := List.append_inj' hitems rfl
  obtain rfl := (List.map_inj_right fun _ _ => Except.ok.inj).mp hts
  cases hlast
  exact hcovers

end SeriesQuery
