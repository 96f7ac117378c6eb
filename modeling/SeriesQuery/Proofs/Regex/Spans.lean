/-
What patterns match: the parts of a text from one position to another
(`Node.Spans`). Matching works on sets of positions, and reaches just the
ones that a match leads to from where it starts (`Node.mem_ends_iff`).
-/
import Mathlib.Logic.Basic
import SeriesQuery.Regex.Node

namespace SeriesQuery.Regex

/-! ## Steps -/

/-- As many steps as the number says. -/
def Steps (R : Nat → Nat → Prop) : Nat → Nat → Nat → Prop
  | 0, i, j => i = j
  | n + 1, i, j => ∃ k, R i k ∧ Steps R n k j

section Step

variable {R : Nat → Nat → Prop} {step : List Nat → List Nat}

theorem mem_stepTimes_iff (hstep : ∀ starts j, j ∈ step starts ↔ ∃ i ∈ starts, R i j) (n : Nat)
    {starts : List Nat} {j : Nat} :
    j ∈ stepTimes step n starts ↔ ∃ i ∈ starts, Steps R n i j := by
  induction n generalizing starts with
  | zero => simp [stepTimes, Steps]
  | succ n ih =>
    rw [stepTimes]
    split
    · rename_i hempty
      simp [List.isEmpty_iff.mp hempty]
    · rw [ih]
      constructor
      · rintro ⟨k, hk, hj⟩
        obtain ⟨i, hi, hik⟩ := (hstep _ _).mp hk
        exact ⟨i, hi, k, hik, hj⟩
      · rintro ⟨i, hi, k, hik, hj⟩
        exact ⟨k, (hstep _ _).mpr ⟨i, hi, hik⟩, hj⟩

/-- From positions that lead on to others only through the latest ones, steps stay among them or pass
one of the latest. -/
theorem steps_of_closed {latest reached : List Nat}
    (hclosed : ∀ i ∈ reached, i ∉ latest → ∀ j, R i j → j ∈ reached) (n : Nat) {i j : Nat}
    (hi : i ∈ reached) (h : Steps R n i j) :
    j ∈ reached ∨ ∃ k ∈ latest, ∃ m ≤ n, Steps R m k j := by
  induction n generalizing i with
  | zero => exact .inl (h ▸ hi)
  | succ n ih =>
    by_cases hlatest : i ∈ latest
    · exact .inr ⟨i, hlatest, n + 1, Nat.le_refl _, h⟩
    · obtain ⟨k, hik, hj⟩ := h
      rcases ih (hclosed i hi hlatest k hik) hj with hj | ⟨k, hk, m, hm, hj⟩
      · exact .inl hj
      · exact .inr ⟨k, hk, m, Nat.le_succ_of_le hm, hj⟩

theorem mem_stepUpTo_iff (hstep : ∀ starts j, j ∈ step starts ↔ ∃ i ∈ starts, R i j) (n : Nat)
    {latest reached : List Nat} (hsub : ∀ i ∈ latest, i ∈ reached)
    (hclosed : ∀ i ∈ reached, i ∉ latest → ∀ j, R i j → j ∈ reached) {j : Nat} :
    j ∈ stepUpTo step n latest reached ↔
      j ∈ reached ∨ ∃ i ∈ latest, ∃ m ≤ n, Steps R m i j := by
  induction n generalizing latest reached with
  | zero =>
    refine ⟨.inl, ?_⟩
    rintro (hj | ⟨i, hi, m, hm, hj⟩)
    · exact hj
    · obtain rfl := Nat.le_zero.mp hm
      exact hj ▸ hsub i hi
  | succ n ih =>
    have hadded : ∀ k, k ∈ (step latest).filter (fun i => !reached.contains i) ↔
        (∃ i ∈ latest, R i k) ∧ k ∉ reached := by
      intro k
      simp [List.mem_filter, hstep]
    rw [stepUpTo]
    generalize (step latest).filter (fun i => !reached.contains i) = added at hadded
    -- Whatever one step leads to from the positions reached has been reached or is added.
    have hnext : ∀ i ∈ reached, ∀ k, R i k → k ∈ reached ++ added := by
      intro i hi k hik
      rw [List.mem_append, hadded]
      by_cases hk : k ∈ reached
      · exact .inl hk
      · have hlatest : i ∈ latest :=
          Decidable.byContradiction fun hnot => hk (hclosed i hi hnot k hik)
        exact .inr ⟨⟨i, hlatest, hik⟩, hk⟩
    have hclosed' : ∀ i ∈ reached ++ added, i ∉ added → ∀ k, R i k → k ∈ reached ++ added := by
      intro i hi hnot
      exact hnext i ((List.mem_append.mp hi).resolve_right hnot)
    have hforward : ∀ i ∈ latest, ∀ m ≤ n + 1, Steps R m i j →
        j ∈ reached ∨ j ∈ added ∨ ∃ k ∈ added, ∃ m ≤ n, Steps R m k j := by
      intro i hi m hm hj
      cases m with
      | zero => exact .inl (hj ▸ hsub i hi)
      | succ m =>
        obtain ⟨k, hik, hj⟩ := hj
        rcases steps_of_closed hclosed' m (hnext i (hsub i hi) k hik) hj with hj | ⟨k, hk, l, hl, hj⟩
        · exact (List.mem_append.mp hj).imp_right .inl
        · exact .inr (.inr ⟨k, hk, l, by omega, hj⟩)
    split
    · rename_i hempty
      obtain rfl := List.isEmpty_iff.mp hempty
      refine ⟨.inl, ?_⟩
      rintro (hj | ⟨i, hi, m, hm, hj⟩)
      · exact hj
      · rcases hforward i hi m hm hj with hj | hj | ⟨_, hk, -⟩
        · exact hj
        · cases hj
        · cases hk
    · rw [ih (fun i hi => List.mem_append_right _ hi) hclosed', List.mem_append, or_assoc]
      refine or_congr_right' fun hnot => ⟨?_, ?_⟩
      · rintro (hj | ⟨k, hk, m, hm, hj⟩)
        · obtain ⟨⟨i, hi, hij⟩, -⟩ := (hadded j).mp hj
          exact ⟨i, hi, 1, by omega, j, hij, rfl⟩
        · obtain ⟨⟨i, hi, hik⟩, -⟩ := (hadded k).mp hk
          exact ⟨i, hi, m + 1, by omega, k, hik, hj⟩
      · rintro ⟨i, hi, m, hm, hj⟩
        exact (hforward i hi m hm hj).resolve_left hnot

/-- Steps that lead forward and not past a bound do so however many there are. -/
theorem Steps.bounds {bound : Nat} (h : ∀ i j, R i j → i ≤ j ∧ (i ≤ bound → j ≤ bound)) {n i j : Nat}
    (hsteps : Steps R n i j) : i ≤ j ∧ (i ≤ bound → j ≤ bound) := by
  induction n generalizing i with
  | zero => exact hsteps ▸ ⟨Nat.le_refl _, id⟩
  | succ n ih =>
    obtain ⟨k, hik, hj⟩ := hsteps
    have hfirst := h i k hik
    have hrest := ih hj
    exact ⟨Nat.le_trans hfirst.1 hrest.1, hrest.2 ∘ hfirst.2⟩

end Step

/-! ## Nodes -/

namespace Node

/-- The part of the text from the first position to the second matches. Of repetitions no more are
told apart than the text has positions. -/
def Spans (text : Array Char) : Node → Nat → Nat → Prop
  | empty, i, j => i = j
  | one cls, i, j => j = i + 1 ∧ ∃ c, text[i]? = some c ∧ cls.contains c.toNat = true
  | look condition, i, j =>
    i = j ∧ condition.holds (if i = 0 then none else text[i - 1]?) text[i]? = true
  | seq a b, i, j => ∃ k, a.Spans text i k ∧ b.Spans text k j
  | alt a b, i, j => a.Spans text i j ∨ b.Spans text i j
  | repeated node least most, i, j =>
    ∃ k, Steps (node.Spans text) (min least (text.size + 1)) i k ∧
      ∃ m ≤ (match most with
        | none => text.size + 1
        | some most => most - least), Steps (node.Spans text) m k j

variable {text : Array Char}

/-- Matching reaches the positions that a match leads to. -/
theorem mem_ends_iff (node : Node) {starts : List Nat} {j : Nat} :
    j ∈ node.ends text starts ↔ ∃ i ∈ starts, node.Spans text i j := by
  induction node generalizing starts j with
  | empty => simp [ends, Spans]
  | one cls =>
    rw [ends, List.mem_filterMap]
    refine exists_congr fun i => and_congr_right fun _ => ?_
    rw [Option.bind_eq_some_iff, Spans]
    constructor
    · rintro ⟨c, hc, hj⟩
      split at hj
      · rename_i hcls
        exact ⟨(Option.some.inj hj).symm, c, hc, hcls⟩
      · cases hj
    · rintro ⟨rfl, c, hc, hcls⟩
      exact ⟨c, hc, if_pos hcls⟩
  | look condition =>
    rw [ends, List.mem_filter]
    constructor
    · exact fun h => ⟨j, h.1, rfl, h.2⟩
    · rintro ⟨_, hi, rfl, hholds⟩
      exact ⟨hi, hholds⟩
  | seq a b iha ihb =>
    rw [ends, ihb]
    constructor
    · rintro ⟨k, hk, hj⟩
      obtain ⟨i, hi, hik⟩ := iha.mp hk
      exact ⟨i, hi, k, hik, hj⟩
    · rintro ⟨i, hi, k, hik, hj⟩
      exact ⟨k, iha.mpr ⟨i, hi, hik⟩, hj⟩
  | alt a b iha ihb =>
    have hmerge : j ∈ merge (a.ends text starts) (b.ends text starts) ↔
        j ∈ a.ends text starts ∨ j ∈ b.ends text starts := by
      by_cases hj : j ∈ a.ends text starts
      · simp [merge, hj]
      · simp [merge, hj]
    rw [ends, hmerge, iha, ihb]
    simp only [Spans, and_or_left, exists_or]
  | repeated node least most ih =>
    have hstep : ∀ starts j, j ∈ node.ends text starts ↔ ∃ i ∈ starts, node.Spans text i j :=
      fun _ _ => ih
    unfold ends
    rw [mem_stepUpTo_iff hstep _ (fun _ => id) fun i hi hnot => absurd hi hnot]
    simp only [mem_stepTimes_iff hstep, Spans]
    constructor
    · rintro (⟨i, hi, hj⟩ | ⟨k, ⟨i, hi, hk⟩, hj⟩)
      · exact ⟨i, hi, j, hj, 0, Nat.zero_le _, rfl⟩
      · exact ⟨i, hi, k, hk, hj⟩
    · rintro ⟨i, hi, k, hk, hj⟩
      exact .inr ⟨k, ⟨i, hi, hk⟩, hj⟩

/-- A match leads forward, and not past the end of the text. -/
theorem Spans.bounds {node : Node} {i j : Nat} (h : node.Spans text i j) :
    i ≤ j ∧ (i ≤ text.size → j ≤ text.size) := by
  induction node generalizing i j with
  | empty => exact h ▸ ⟨Nat.le_refl _, id⟩
  | one cls =>
    obtain ⟨rfl, c, hc, -⟩ := h
    obtain ⟨hlt, -⟩ := Array.getElem?_eq_some_iff.mp hc
    exact ⟨Nat.le_succ i, fun _ => hlt⟩
  | look condition => exact h.1 ▸ ⟨Nat.le_refl _, id⟩
  | seq a b iha ihb =>
    obtain ⟨k, hik, hkj⟩ := h
    exact ⟨Nat.le_trans (iha hik).1 (ihb hkj).1, (ihb hkj).2 ∘ (iha hik).2⟩
  | alt a b iha ihb => exact h.elim iha ihb
  | repeated node least most ih =>
    obtain ⟨k, hik, m, -, hkj⟩ := h
    have hfirst := hik.bounds fun _ _ => ih
    have hrest := hkj.bounds fun _ _ => ih
    exact ⟨Nat.le_trans hfirst.1 hrest.1, hrest.2 ∘ hfirst.2⟩

/-! ## Parts of a text -/

/-- What stands between the two other parts of a text matches. -/
def Matches (node : Node) (before inside after : List Char) : Prop :=
  node.Spans (before ++ inside ++ after).toArray before.length (before ++ inside).length

/-- A pattern is found in a text just when it matches a part of it. -/
theorem found_iff (node : Node) (value : String) : node.found value = true ↔
    ∃ before inside after, value.toList = before ++ inside ++ after ∧
      node.Matches before inside after := by
  rw [found, Bool.not_eq_true', List.isEmpty_eq_false_iff_exists_mem]
  simp only [mem_ends_iff, List.mem_range, List.size_toArray, Nat.lt_succ_iff]
  generalize value.toList = cs
  constructor
  · rintro ⟨j, i, hi, h⟩
    obtain ⟨hij, hj⟩ := h.bounds
    have hj := hj hi
    rw [List.size_toArray] at hj
    have hsplit : cs.take i ++ (cs.drop i).take (j - i) ++ (cs.drop i).drop (j - i) = cs := by
      rw [List.append_assoc, List.take_append_drop, List.take_append_drop]
    refine ⟨_, _, _, hsplit.symm, ?_⟩
    have hstart : (cs.take i).length = i := List.length_take_of_le hi
    have hstop : (cs.take i ++ (cs.drop i).take (j - i)).length = j := by
      rw [List.length_append, hstart, List.length_take, List.length_drop]
      omega
    rwa [Matches, hsplit, hstart, hstop]
  · rintro ⟨before, inside, after, rfl, h⟩
    exact ⟨_, before.length, by simp, h⟩

variable {before inside after : List Char}

theorem matches_empty_iff (before inside after : List Char) :
    empty.Matches before inside after ↔ inside = [] := by
  rw [Matches, Spans, List.length_append]
  simp

theorem matches_textStart_iff :
    (look .textStart).Matches before inside after ↔ before = [] ∧ inside = [] := by
  rw [Matches, Spans, Look.holds, List.length_append]
  have hnil : before.length = before.length + inside.length ↔ inside = [] := by simp
  rw [hnil]
  cases before with
  | nil => simp
  | cons c before =>
    have hlt : before.length < before.length + (inside.length + after.length) + 1 := by omega
    simp [hlt]

theorem matches_textEnd_iff :
    (look .textEnd).Matches before inside after ↔ inside = [] ∧ after = [] := by
  rw [Matches, Spans, Look.holds, List.length_append]
  simp

/-- One pattern after the other. -/
theorem matches_seq_iff (a b : Node) : (seq a b).Matches before inside after ↔
    ∃ first second, inside = first ++ second ∧ a.Matches before first (second ++ after) ∧
      b.Matches (before ++ first) second after := by
  have htext : ∀ first second, before ++ first ++ (second ++ after) =
      before ++ (first ++ second) ++ after := fun _ _ => by simp only [List.append_assoc]
  have htext' : ∀ first second, before ++ first ++ second ++ after =
      before ++ (first ++ second) ++ after := fun _ _ => by simp only [List.append_assoc]
  simp only [Matches, Spans, htext, htext']
  constructor
  · rintro ⟨k, hfirst, hsecond⟩
    have hlower := hfirst.bounds.1
    have hupper := hsecond.bounds.1
    rw [List.length_append] at hupper
    obtain ⟨first, second, rfl, hlength⟩ :
        ∃ first second, inside = first ++ second ∧ first.length = k - before.length :=
      ⟨_, _, (List.take_append_drop (k - before.length) inside).symm,
        List.length_take_of_le (by omega)⟩
    obtain rfl : k = (before ++ first).length := by
      rw [List.length_append]
      omega
    exact ⟨first, second, rfl, hfirst, by simpa only [List.append_assoc] using hsecond⟩
  · rintro ⟨first, second, rfl, hfirst, hsecond⟩
    exact ⟨_, hfirst, by simpa only [List.append_assoc] using hsecond⟩

end Node

end SeriesQuery.Regex
