/-
Machine words and the integers they stand for.
-/
import SeriesQuery.Word

namespace SeriesQuery

/-- An integer has a machine word just when one stands for it. -/
theorem int64OfInt?_eq_some {n : Int} {x : Int64} : int64OfInt? n = some x ↔ x.toInt = n := by
  have hleast := x.le_toInt
  have hgreatest := x.toInt_lt
  unfold int64OfInt? Word.least Word.greatest
  split
  · rename_i h
    rw [Option.some.injEq]
    constructor
    · rintro rfl
      exact Int64.toInt_ofInt_of_le (by omega) (by omega)
    · rintro rfl
      exact Int64.ofInt_toInt x
  · rename_i h
    simp only [reduceCtorEq, false_iff]
    rintro rfl
    exact h ⟨by omega, by omega⟩

/-- The integer is the value of a machine word. -/
def Word.Fits (n : Int) : Prop := least ≤ n ∧ n ≤ greatest

theorem Word.fits_toInt (x : Int64) : Fits x.toInt := by
  have hleast := x.le_toInt
  have hgreatest := x.toInt_lt
  unfold Fits least greatest
  omega

theorem int64OfInt?_eq_none {n : Int} : int64OfInt? n = none ↔ ¬ Word.Fits n := by
  unfold int64OfInt?
  split
  · rename_i h
    exact iff_of_false nofun (not_not_intro h)
  · rename_i h
    exact iff_of_true rfl h

/-- A truncated quotient of a machine word is one too, but for the negation of the least word. -/
theorem Word.fits_tdiv_iff {m n : Int} (hm : Fits m) (hn : n ≠ 0) :
    Fits (m.tdiv n) ↔ ¬ (m = least ∧ n = -1) := by
  have habs : (m.tdiv n).natAbs = m.natAbs / n.natAbs := Int.natAbs_tdiv m n
  unfold Fits least greatest at *
  by_cases hone : n.natAbs = 1
  · have hsign : n = 1 ∨ n = -1 := by omega
    obtain rfl | rfl := hsign
    · rw [Int.tdiv_one]
      omega
    · rw [Int.tdiv_neg, Int.tdiv_one]
      omega
  · have hhalf : m.natAbs / n.natAbs ≤ m.natAbs / 2 := Nat.div_le_div_left (by omega) (by decide)
    omega

/-- A count below the word's size is read back from its integer. -/
theorem countOfInt?_natCast {n : Nat} (h : n < Word.size) : countOfInt? n = some n := by
  unfold countOfInt?
  rw [if_pos ⟨Int.natCast_nonneg n, by omega⟩, Int.toNat_natCast]

end SeriesQuery
