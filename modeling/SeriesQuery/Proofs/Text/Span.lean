/-
Byte ranges that cover text. A range covers text of a source when both its
ends fall between characters, in order (`Span.Within`), and these are the
ranges that have a slice (`Span.within_iff_isSome`).
-/
import SeriesQuery.Text.Span

namespace SeriesQuery

/-! ## Byte offsets -/

theorem byteLength_append (a b : List Char) : byteLength (a ++ b) = byteLength a + byteLength b := by
  induction a with
  | nil => rw [List.nil_append, byteLength, Nat.zero_add]
  | cons c a ih => rw [List.cons_append, byteLength, ih, byteLength, Nat.add_assoc]

theorem byteLength_pos {cs : List Char} (h : cs ≠ []) : 0 < byteLength cs := by
  obtain ⟨c, cs, rfl⟩ := List.exists_cons_of_ne_nil h
  have := c.utf8Size_pos
  rw [byteLength]
  omega

theorem exists_byteLength_cons (c : Char) (cs : List Char) :
    ∃ n, c.utf8Size + byteLength cs = n + 1 :=
  Nat.exists_eq_add_one_of_ne_zero (Nat.ne_of_gt (byteLength_pos (List.cons_ne_nil c cs)))

theorem byteLength_toList (s : String) : byteLength s.toList = s.utf8ByteSize := by
  have hofList : ∀ cs : List Char, (String.ofList cs).utf8ByteSize = byteLength cs := by
    intro cs
    induction cs with
    | nil => rfl
    | cons c cs ih =>
      rw [String.ofList_cons, String.utf8ByteSize_append, ih, String.utf8ByteSize_singleton,
        byteLength]
  rw [← hofList, String.ofList_toList]

theorem dropBytes_append (a b : List Char) : dropBytes (byteLength a) (a ++ b) = some b := by
  induction a with
  | nil => cases b <;> rfl
  | cons c a ih =>
    obtain ⟨n, hn⟩ := exists_byteLength_cons c a
    rw [byteLength, hn, List.cons_append, dropBytes, if_pos (by omega), ← hn,
      Nat.add_sub_cancel_left, ih]

theorem takeBytes_append (a b : List Char) : takeBytes (byteLength a) (a ++ b) = some a := by
  induction a with
  | nil => cases b <;> rfl
  | cons c a ih =>
    obtain ⟨n, hn⟩ := exists_byteLength_cons c a
    rw [byteLength, hn, List.cons_append, takeBytes, if_pos (by omega), ← hn,
      Nat.add_sub_cancel_left, ih, Option.map_some]

theorem append_of_dropBytes {n : Nat} {cs b : List Char} (h : dropBytes n cs = some b) :
    ∃ a, cs = a ++ b ∧ byteLength a = n := by
  fun_induction dropBytes n cs with
  | case1 cs =>
    obtain rfl := Option.some.inj h
    exact ⟨[], rfl, rfl⟩
  | case2 => cases h
  | case3 n c cs hle ih =>
    obtain ⟨a, rfl, ha⟩ := ih h
    refine ⟨c :: a, rfl, ?_⟩
    rw [byteLength, ha]
    omega
  | case4 => cases h

theorem append_of_takeBytes {n : Nat} {cs a : List Char} (h : takeBytes n cs = some a) :
    ∃ b, cs = a ++ b ∧ byteLength a = n := by
  fun_induction takeBytes n cs generalizing a with
  | case1 cs =>
    obtain rfl := Option.some.inj h
    exact ⟨cs, rfl, rfl⟩
  | case2 => cases h
  | case3 n c cs hle ih =>
    obtain ⟨a, ha, rfl⟩ := Option.map_eq_some_iff.mp h
    obtain ⟨b, rfl, hlen⟩ := ih ha
    refine ⟨b, rfl, ?_⟩
    rw [byteLength, hlen]
    omega
  | case4 => cases h

/-- Of two starts of a text the one of fewer bytes starts the other. -/
theorem exists_append_of_byteLength_le {a b a' b' : List Char} (h : a ++ b = a' ++ b')
    (hle : byteLength a ≤ byteLength a') : ∃ more, a' = a ++ more ∧ b = more ++ b' := by
  rcases List.append_eq_append_iff.mp h with ⟨more, rfl, rfl⟩ | ⟨more, rfl, rfl⟩
  · exact ⟨more, rfl, rfl⟩
  · cases more with
    | nil => exact ⟨[], by simp, rfl⟩
    | cons c more =>
      have := byteLength_pos (List.cons_ne_nil c more)
      rw [byteLength_append] at hle
      omega

theorem Span.sliceChars_append (a b c : List Char) :
    Span.sliceChars ⟨byteLength a, byteLength a + byteLength b⟩ (a ++ b ++ c) = some b := by
  rw [sliceChars, if_pos (Nat.le_add_right ..), Nat.add_sub_cancel_left, List.append_assoc,
    dropBytes_append, Option.bind_some, takeBytes_append]

/-! ## Character boundaries -/

/-- The offset falls between two characters of the text, or at an end of it. -/
def Boundary (n : Nat) (cs : List Char) : Prop := ∃ a b, cs = a ++ b ∧ byteLength a = n

namespace Boundary

variable {n : Nat} {cs : List Char}

theorem zero (cs : List Char) : Boundary 0 cs := ⟨[], cs, rfl, rfl⟩

theorem length (cs : List Char) : Boundary (byteLength cs) cs := ⟨cs, [], by simp, rfl⟩

theorem le (h : Boundary n cs) : n ≤ byteLength cs := by
  obtain ⟨a, b, rfl, rfl⟩ := h
  rw [byteLength_append]
  exact Nat.le_add_right ..

end Boundary

namespace Span

/-- The ends of the range fall between characters of the text, in order. -/
structure Within (s : Span) (cs : List Char) : Prop where
  ordered : s.start ≤ s.stop
  start : Boundary s.start cs
  stop : Boundary s.stop cs

variable {s t : Span} {cs : List Char}

theorem Within.point {n : Nat} (h : Boundary n cs) : (Span.point n).Within cs :=
  ⟨Nat.le_refl n, h, h⟩

theorem Within.join (hs : s.Within cs) (ht : t.Within cs) : (s.join t).Within cs where
  ordered := Nat.le_trans (Nat.min_le_left ..) (Nat.le_trans hs.ordered (Nat.le_max_left ..))
  start := by
    rcases Nat.le_total s.start t.start with hle | hle
    · simpa [Span.join, Nat.min_eq_left hle] using hs.start
    · simpa [Span.join, Nat.min_eq_right hle] using ht.start
  stop := by
    rcases Nat.le_total s.stop t.stop with hle | hle
    · simpa [Span.join, Nat.max_eq_right hle] using ht.stop
    · simpa [Span.join, Nat.max_eq_left hle] using hs.stop

/-- A part of the text stands within it. -/
theorem Within.of_append (a b c : List Char) :
    Within ⟨byteLength a, byteLength a + byteLength b⟩ (a ++ b ++ c) where
  ordered := Nat.le_add_right ..
  start := ⟨a, b ++ c, by simp, rfl⟩
  stop := ⟨a ++ b, c, rfl, byteLength_append a b⟩

/-- The parts of the text before the range, in it and after it. -/
theorem Within.exists_append (h : s.Within cs) :
    ∃ a b c, cs = a ++ b ++ c ∧ s = ⟨byteLength a, byteLength a + byteLength b⟩ := by
  obtain ⟨start, stop⟩ := s
  obtain ⟨hle, ⟨a, rest, hcs, rfl⟩, a', c, hcs', rfl⟩ := h
  dsimp only at hle hcs hcs'
  obtain ⟨b, rfl, rfl⟩ := exists_append_of_byteLength_le (hcs.symm.trans hcs') hle
  exact ⟨a, b, c, hcs', by rw [byteLength_append]⟩

/-- The ranges within a text are those that have a slice. -/
theorem within_iff_isSome : s.Within cs ↔ (s.sliceChars cs).isSome := by
  constructor
  · intro h
    obtain ⟨a, b, c, rfl, rfl⟩ := h.exists_append
    rw [sliceChars_append, Option.isSome_some]
  · intro h
    obtain ⟨text, htext⟩ := Option.isSome_iff_exists.mp h
    obtain ⟨start, stop⟩ := s
    rw [sliceChars] at htext
    split at htext
    case isFalse => cases htext
    case isTrue hle =>
      obtain ⟨rest, hdrop, htake⟩ := Option.bind_eq_some_iff.mp htext
      obtain ⟨a, rfl, rfl⟩ := append_of_dropBytes hdrop
      obtain ⟨c, rfl, hlen⟩ := append_of_takeBytes htake
      obtain rfl : stop = byteLength a + byteLength text := by
        dsimp only at hle hlen
        omega
      rw [← List.append_assoc]
      exact .of_append a text c

/-- The range covers text of the source: it ends where or after it starts and not past the source,
both ends fall between characters, and it has a slice. -/
structure PointsInto (s : Span) (source : String) : Prop where
  ordered : s.start ≤ s.stop
  inside : s.stop ≤ source.utf8ByteSize
  start : Boundary s.start source.toList
  stop : Boundary s.stop source.toList
  slice : (s.slice source).isSome

theorem pointsInto_iff {source : String} : s.PointsInto source ↔ s.Within source.toList := by
  constructor
  · intro h
    exact ⟨h.ordered, h.start, h.stop⟩
  · intro h
    refine ⟨h.ordered, ?_, h.start, h.stop, ?_⟩
    · rw [← byteLength_toList]
      exact h.stop.le
    · rw [Span.slice, Option.isSome_map]
      exact within_iff_isSome.mp h

end Span

end SeriesQuery
