/-
Where tokens and faults stand. What a scanner says of the text it took, or
of the text it cannot take, is true of the text it was given
(`Scan.scan_covers`); so every token of a source, and the fault that may end
them, covers text of the source (`place_within`).
-/
import SeriesQuery.Proofs.Token.Slice

namespace SeriesQuery

namespace Scan

/-- A token's text starts the text given, and a fault's text is in it after the skipped bytes. -/
def Step.Covers (cs : List Char) : Step → Prop
  | .token _ text rest => cs = text ++ rest
  | .fault _ skipped text =>
    ∃ before after, cs = before ++ text ++ after ∧ byteLength before = skipped

theorem Step.covers_fault (f : LexFault) (text rest : List Char) :
    (Step.fault f 0 text).Covers (text ++ rest) := ⟨[], rest, rfl, rfl⟩

/-! ## Numbers -/

theorem duration_covers (text : List Char) (whole : Option (List Char)) (cs : List Char) :
    (duration text whole cs).Covers (text ++ cs) := by
  obtain ⟨letters, rest, hletters⟩ : ∃ a b, cs.span Char.isAlpha = (a, b) := ⟨_, _, rfl⟩
  obtain ⟨glued, after, hglued⟩ : ∃ a b, rest.span isNameChar = (a, b) := ⟨_, _, rfl⟩
  obtain ⟨rfl, -⟩ := span_local hletters
  obtain ⟨rfl, -⟩ := span_local hglued
  have htext : text ++ (letters ++ (glued ++ after)) = text ++ (letters ++ glued) ++ after := by
    simp only [List.append_assoc]
  rw [htext]
  simp only [duration, hletters, hglued]
  cases whole with
  | none => exact Step.covers_fault ..
  | some digits =>
    dsimp only
    split
    · exact Step.covers_fault ..
    · split
      · exact Step.covers_fault ..
      · exact rfl

theorem double_covers (text : List Char) (x : Float) (cs : List Char) :
    (number.double text x cs).Covers (text ++ cs) := by
  unfold number.double
  split
  · exact duration_covers text none cs
  · split
    · exact rfl
    · exact Step.covers_fault ..

theorem unscaled_covers (whole digits cs : List Char) :
    (unscaled whole digits cs).Covers (whole ++ point digits ++ cs) := by
  unfold unscaled
  dsimp only
  split
  · exact double_covers ..
  · split
    · exact duration_covers ..
    · split
      · exact Step.covers_fault ..
      · exact rfl

theorem afterDigits_covers (whole digits cs : List Char) :
    (afterDigits whole digits cs).Covers (whole ++ point digits ++ cs) := by
  unfold afterDigits
  split
  · rename_i mark ds rest hexponent
    obtain ⟨rfl, -⟩ := exponent_local hexponent
    have hcovers := double_covers (whole ++ point digits ++ mark ++ ds)
      (Decimal.ofParts whole digits (exponentValue mark ds)) rest
    simpa only [List.append_assoc] using hcovers
  · exact unscaled_covers whole digits cs

theorem number_covers (cs : List Char) : (number cs).Covers cs := by
  obtain ⟨whole, cs₁, hwhole⟩ : ∃ a b, cs.span Char.isDigit = (a, b) := ⟨_, _, rfl⟩
  obtain ⟨digits, cs₂, hdigits⟩ : ∃ a b, fraction cs₁ = (a, b) := ⟨_, _, rfl⟩
  rw [number_eq hwhole hdigits]
  obtain ⟨rfl, -⟩ := span_local hwhole
  obtain ⟨rfl, -⟩ := fraction_local hdigits
  have hcovers := afterDigits_covers whole digits cs₂
  rwa [List.append_assoc] at hcovers

/-! ## Strings and patterns -/

/-- What is taken up to the closing quote, up to the end or before a bad escape starts the text. -/
def Body.Covers (cs : List Char) : Body → Prop
  | .closed _ text rest => cs = text ++ rest
  | .unterminated text => cs = text
  | .badEscape before c => ∃ after, cs = before ++ ['\\', c] ++ after

theorem Body.Covers.cons {cs : List Char} {b : Body} (h : b.Covers cs) (value text : List Char) :
    (b.cons value text).Covers (text ++ cs) := by
  cases b with
  | closed v t rest =>
    obtain rfl : cs = t ++ rest := h
    exact (List.append_assoc ..).symm
  | unterminated t =>
    obtain rfl : cs = t := h
    exact rfl
  | badEscape before c =>
    obtain ⟨after, rfl⟩ := h
    exact ⟨after, by simp only [List.append_assoc]⟩

theorem body_covers (u : Char → Option (List Char)) (quote : Char) (cs : List Char) :
    (body u quote cs).Covers cs := by
  fun_induction body u quote cs with
  | case1 => exact rfl
  | case2 => exact rfl
  | case3 => exact rfl
  | case4 => exact ⟨_, rfl⟩
  | case5 e cs value _ _ ih => exact ih.cons value ['\\', e]
  | case6 c cs _ _ ih => exact ih.cons [c] [c]

theorem string_covers {quote : Char} (hquote : quote.utf8Size = 1) (cs : List Char) :
    (string quote cs).Covers (quote :: cs) := by
  have hbody := body_covers unescape quote cs
  unfold string
  split
  · rename_i value text rest heq
    rw [heq] at hbody
    exact congrArg (quote :: ·) hbody
  · rename_i text heq
    rw [heq] at hbody
    obtain rfl : cs = text := hbody
    exact ⟨[], [], by simp, rfl⟩
  · rename_i before c heq
    rw [heq] at hbody
    obtain ⟨after, rfl⟩ := hbody
    exact ⟨quote :: before, after, rfl, by rw [byteLength, hquote]⟩

theorem regex_covers [PatternEngine] (cs : List Char) : (regex cs).Covers ('r' :: '"' :: cs) := by
  have hbody := body_covers unescapeRegex '"' cs
  unfold regex
  split
  · rename_i value text rest heq
    rw [heq] at hbody
    obtain rfl : cs = text ++ rest := hbody
    dsimp only
    split
    · exact rfl
    · exact Step.covers_fault _ ('r' :: '"' :: text) rest
  · rename_i text heq
    rw [heq] at hbody
    obtain rfl : cs = text := hbody
    exact ⟨[], [], by simp, rfl⟩
  · rename_i before c heq
    rw [heq] at hbody
    obtain ⟨after, rfl⟩ := hbody
    refine ⟨'r' :: '"' :: before, after, rfl, ?_⟩
    have hr : 'r'.utf8Size = 1 := rfl
    have hquote : '"'.utf8Size = 1 := rfl
    rw [byteLength, byteLength, hr, hquote]
    omega

/-! ## Words, symbols and tokens -/

theorem word_covers (cs : List Char) : (word cs).Covers cs := by
  obtain ⟨name, rest, hname⟩ : ∃ a b, cs.span isNameChar = (a, b) := ⟨_, _, rfl⟩
  obtain ⟨hcs, -⟩ := span_local hname
  rw [word, hname]
  exact hcs

theorem symbol_covers (c : Char) (cs : List Char) : (symbol c cs).Covers (c :: cs) := by
  unfold symbol
  split
  · rename_i s text rest heq
    obtain ⟨t, rfl, rfl, -⟩ := symbol?_local heq
    exact rfl
  · exact ⟨[], cs, rfl, rfl⟩

theorem scan_covers [PatternEngine] (c : Char) (cs : List Char) : (scan c cs).Covers (c :: cs) := by
  unfold scan
  split
  · exact number_covers (c :: cs)
  · split
    · rename_i hquote
      refine string_covers ?_ cs
      rcases hquote with rfl | rfl <;> rfl
    · split
      · exact regex_covers _
      · split
        · exact word_covers (c :: _)
        · exact symbol_covers c _

end Scan

/-! ## Tokens of a source -/

/-- The place of a token, or of the fault in its stead. -/
def place : Except Failure Token → Span
  | .ok t => t.span
  | .error f => f.span

/-- Every token of a source, and the fault that ends them, stands within it. -/
theorem place_within [PatternEngine] {source : String} {item : Except Failure Token} (h : item ∈ tokenize source) :
    (place item).Within source.toList := by
  obtain ⟨taken, rest, ts, last, hsource, hlexes, hlast, hitems⟩ := exists_lexes_tokenize source
  rw [hitems, List.mem_append, List.mem_singleton] at h
  rcases h with h | rfl
  · obtain ⟨t, ht, rfl⟩ := List.mem_map.mp h
    obtain ⟨before, text, after, hcs, hspan, -⟩ := hlexes.exists_scan ht
    rw [Nat.zero_add] at hspan
    rw [place, hspan, hcs]
    exact .of_append before text after
  · cases hlast with
    | stop => exact .point ⟨taken, [], hsource, rfl⟩
    | @fault skipped c cs text fault hscan =>
      have hcovers := Scan.scan_covers c cs
      rw [hscan] at hcovers
      obtain ⟨skip, after, hcs, rfl⟩ := hcovers
      have hwithin := Span.Within.of_append (taken ++ skip) text after
      rw [byteLength_append, List.append_assoc, List.append_assoc, ← List.append_assoc skip,
        ← hcs, ← hsource] at hwithin
      exact hwithin

end SeriesQuery
