/-
Durations as exact lengths. Adding and subtracting take place in the finer of
the two units, of which the other is a whole number, so they are exact or an
amount does not fit (`Combines`). Dividing truncates the exact quotient, both
in the unit itself and in milliseconds (`Divides`).
-/
import Mathlib.Algebra.Group.Nat.Defs
import SeriesQuery.Duration
import SeriesQuery.Proofs.Word

namespace SeriesQuery

namespace TimeUnit

theorem millis_pos (u : TimeUnit) : 0 < u.millis := by
  cases u <;> decide

/-- A unit is a whole number of any finer one. -/
theorem millis_dvd_millis {u v : TimeUnit} (h : u.millis ≤ v.millis) : u.millis ∣ v.millis := by
  cases u <;> cases v <;> revert h <;> decide

theorem millis_finer (u v : TimeUnit) : (u.finer v).millis = min u.millis v.millis := by
  unfold finer
  split <;> omega

end TimeUnit

namespace Duration

variable {d : Duration} {unit : TimeUnit} {n : Int}

theorem ofInt?_eq_some : ofInt? n unit = some d ↔ d.amount.toInt = n ∧ d.unit = unit := by
  obtain ⟨amount, unit'⟩ := d
  simp only [ofInt?, Option.map_eq_some_iff, int64OfInt?_eq_some, mk.injEq]
  constructor
  · rintro ⟨x, hx, rfl, rfl⟩
    exact ⟨hx, rfl⟩
  · rintro ⟨hn, rfl⟩
    exact ⟨amount, hn, rfl, rfl⟩

theorem ofInt?_eq_none : ofInt? n unit = none ↔ ¬ Word.Fits n := by
  rw [ofInt?, Option.map_eq_none_iff, int64OfInt?_eq_none]

/-! ## Adding and subtracting -/

/-- The amount in another unit. Nothing is lost when that unit is a finer one. -/
def amountIn (d : Duration) (unit : TimeUnit) : Int :=
  d.amount.toInt * (d.unit.millis / unit.millis)

theorem amountIn_mul_millis (h : unit.millis ≤ d.unit.millis) :
    d.amountIn unit * unit.millis = d.magnitude := by
  rw [amountIn, Int.mul_assoc, Int.ediv_mul_cancel (TimeUnit.millis_dvd_millis h), magnitude]

theorem convert?_eq (d : Duration) (unit : TimeUnit) :
    d.convert? unit = ofInt? (d.amountIn unit) unit := by
  unfold convert?
  split
  · rename_i hunit
    subst hunit
    rw [amountIn, Int.ediv_self (Int.ne_of_gt d.unit.millis_pos), Int.mul_one]
    exact (ofInt?_eq_some.mpr ⟨rfl, rfl⟩).symm
  · rfl

theorem combine?_eq (op : Int → Int → Int) (a b : Duration) :
    combine? op a b =
      (ofInt? (a.amountIn (a.unit.finer b.unit)) (a.unit.finer b.unit)).bind fun x =>
        (ofInt? (b.amountIn (a.unit.finer b.unit)) (a.unit.finer b.unit)).bind fun y =>
          ofInt? (op x.amount.toInt y.amount.toInt) (a.unit.finer b.unit) := by
  rw [← convert?_eq, ← convert?_eq]
  rfl

variable {op : Int → Int → Int} {a b : Duration}

theorem of_combine?_eq_some (h : combine? op a b = some d) :
    d.amount.toInt = op (a.amountIn d.unit) (b.amountIn d.unit) ∧
      d.unit = a.unit.finer b.unit := by
  rw [combine?_eq] at h
  obtain ⟨x, hx, h⟩ := Option.bind_eq_some_iff.mp h
  obtain ⟨y, hy, h⟩ := Option.bind_eq_some_iff.mp h
  obtain ⟨hamount, hunit⟩ := ofInt?_eq_some.mp h
  rw [hunit, hamount, (ofInt?_eq_some.mp hx).1, (ofInt?_eq_some.mp hy).1]
  exact ⟨rfl, rfl⟩

theorem combine?_eq_none :
    combine? op a b = none ↔
      ¬ Word.Fits (a.amountIn (a.unit.finer b.unit)) ∨
      ¬ Word.Fits (b.amountIn (a.unit.finer b.unit)) ∨
      ¬ Word.Fits (op (a.amountIn (a.unit.finer b.unit)) (b.amountIn (a.unit.finer b.unit))) := by
  rw [combine?_eq]
  generalize a.unit.finer b.unit = unit
  cases hx : ofInt? (a.amountIn unit) unit with
  | none => exact iff_of_true rfl (.inl (ofInt?_eq_none.mp hx))
  | some x =>
    obtain ⟨hx, -⟩ := ofInt?_eq_some.mp hx
    cases hy : ofInt? (b.amountIn unit) unit with
    | none => exact iff_of_true rfl (.inr (.inl (ofInt?_eq_none.mp hy)))
    | some y =>
      obtain ⟨hy, -⟩ := ofInt?_eq_some.mp hy
      rw [Option.bind_some, Option.bind_some, ofInt?_eq_none, ← hx, ← hy]
      have hxFits := not_not_intro (Word.fits_toInt x.amount)
      have hyFits := not_not_intro (Word.fits_toInt y.amount)
      exact ⟨fun h => .inr (.inr h), fun h => (h.resolve_left hxFits).resolve_left hyFits⟩

/-- What two durations come to when their lengths are combined: an exact length in the finer of
the two units, or nothing, just when an amount in that unit is no machine word. -/
structure Combines (op : Int → Int → Int) (a b : Duration) (result : Option Duration) : Prop where
  exact : ∀ d, result = some d → d.magnitude = op a.magnitude b.magnitude ∧
    d.unit.millis = min a.unit.millis b.unit.millis
  missing : ∃ x y, x * min a.unit.millis b.unit.millis = a.magnitude ∧
    y * min a.unit.millis b.unit.millis = b.magnitude ∧
    (result = none ↔ ¬ Word.Fits x ∨ ¬ Word.Fits y ∨ ¬ Word.Fits (op x y))

theorem combines_combine? (hop : ∀ x y k, op x y * k = op (x * k) (y * k)) (a b : Duration) :
    Combines op a b (combine? op a b) := by
  have hmillis := TimeUnit.millis_finer a.unit b.unit
  have ha : a.amountIn (a.unit.finer b.unit) * (a.unit.finer b.unit).millis = a.magnitude :=
    amountIn_mul_millis (by omega)
  have hb : b.amountIn (a.unit.finer b.unit) * (a.unit.finer b.unit).millis = b.magnitude :=
    amountIn_mul_millis (by omega)
  refine ⟨fun d hd => ?_, _, _, hmillis ▸ ha, hmillis ▸ hb, combine?_eq_none⟩
  obtain ⟨hamount, hunit⟩ := of_combine?_eq_some hd
  rw [hunit] at hamount
  refine ⟨?_, hunit ▸ hmillis⟩
  rw [magnitude, hamount, hunit, hop, ha, hb]

/-! ## Dividing -/

/-- What dividing a duration comes to: the exact quotient truncated toward zero, in the same unit
if the amount is divisible and else in milliseconds, or nothing, just when the divisor is zero, the
quotient of the amounts is no machine word, or the length in milliseconds is wanted and is none. -/
structure Divides (a : Duration) (n : Int) (result : Option Duration) : Prop where
  exact : ∀ d, result = some d → d.magnitude = a.magnitude.tdiv n ∧
    d.unit = if n ∣ a.amount.toInt then a.unit else .milliseconds
  missing : result = none ↔ n = 0 ∨ (a.amount.toInt = Word.least ∧ n = -1) ∨
    (¬ n ∣ a.amount.toInt ∧ ¬ Word.Fits a.magnitude)

/-- An amount that is divisible is divided in its own unit. -/
theorem divides_of_dvd (hn : n ≠ 0) (hdvd : n ∣ a.amount.toInt) :
    Divides a n (ofInt? (a.amount.toInt.tdiv n) a.unit) := by
  refine ⟨fun d hd => ?_, ?_⟩
  · obtain ⟨hamount, hunit⟩ := ofInt?_eq_some.mp hd
    rw [if_pos hdvd]
    refine ⟨?_, hunit⟩
    obtain ⟨q, hq⟩ := hdvd
    rw [magnitude, magnitude, hamount, hunit, hq, Int.mul_tdiv_cancel_left _ hn, Int.mul_assoc,
      Int.mul_tdiv_cancel_left _ hn]
  · rw [ofInt?_eq_none, Word.fits_tdiv_iff (Word.fits_toInt a.amount) hn, Decidable.not_not]
    exact ⟨fun h => .inr (.inl h), fun h => (h.resolve_left hn).resolve_right fun h => h.1 hdvd⟩

/-- Else the whole length is divided, in milliseconds. The divisor is not minus one then, so that
the quotient is a machine word if the length is. -/
theorem divides_of_not_dvd (hn : n ≠ 0) (hdvd : ¬ n ∣ a.amount.toInt) :
    Divides a n (a.toMillis?.bind fun ms => ofInt? (ms.toInt.tdiv n) .milliseconds) := by
  have hminus : n ≠ -1 := fun h => hdvd (h ▸ Int.neg_dvd.mpr (Int.one_dvd _))
  have hmissing : (n = 0 ∨ (a.amount.toInt = Word.least ∧ n = -1) ∨
      (¬ n ∣ a.amount.toInt ∧ ¬ Word.Fits a.magnitude)) ↔ ¬ Word.Fits a.magnitude :=
    ⟨fun h => ((h.resolve_left hn).resolve_left fun h => hminus h.2).2,
      fun h => .inr (.inr ⟨hdvd, h⟩)⟩
  rw [toMillis?]
  cases hms : int64OfInt? a.magnitude with
  | none => exact ⟨nofun, iff_of_true rfl (hmissing.mpr (int64OfInt?_eq_none.mp hms))⟩
  | some ms =>
    have hms : ms.toInt = a.magnitude := int64OfInt?_eq_some.mp hms
    have hfits : Word.Fits ms.toInt := Word.fits_toInt ms
    refine ⟨fun d hd => ?_, ?_⟩
    · obtain ⟨hamount, hunit⟩ := ofInt?_eq_some.mp hd
      rw [if_neg hdvd]
      refine ⟨?_, hunit⟩
      rw [magnitude, hamount, hunit, hms]
      exact Int.mul_one _
    · rw [hmissing, ← hms]
      refine iff_of_false (fun h => ofInt?_eq_none.mp h ?_) (not_not_intro hfits)
      exact (Word.fits_tdiv_iff hfits hn).mpr fun h => hminus h.2

theorem divides_div? (a : Duration) (n : Int64) : Divides a n.toInt (a.div? n) := by
  unfold div?
  by_cases hzero : n = 0
  · subst hzero
    exact ⟨nofun, iff_of_true rfl (.inl rfl)⟩
  have hn : n.toInt ≠ 0 := fun h => hzero (Int64.toInt_inj.mp h)
  rw [if_neg hzero]
  by_cases hdvd : n.toInt ∣ a.amount.toInt
  · rw [if_pos (Int.tmod_eq_zero_of_dvd hdvd)]
    exact divides_of_dvd hn hdvd
  · rw [if_neg (mt Int.dvd_of_tmod_eq_zero hdvd)]
    exact divides_of_not_dvd hn hdvd

/-! ## Comparing -/

/-- Two durations compare as their lengths do, and these are far from the ends of a word of 128
bits. -/
structure Compares (a b : Duration) : Prop where
  same : a.same b = true ↔ a.magnitude = b.magnitude
  lt : a.compare b = .lt ↔ a.magnitude < b.magnitude
  eq : a.compare b = .eq ↔ a.magnitude = b.magnitude
  gt : a.compare b = .gt ↔ b.magnitude < a.magnitude
  bounded : a.magnitude.natAbs < 2 ^ 93

theorem natAbs_magnitude_lt (d : Duration) : d.magnitude.natAbs < 2 ^ 93 := by
  obtain ⟨amount, unit⟩ := d
  obtain ⟨hleast, hgreatest⟩ := Word.fits_toInt amount
  unfold Word.least at hleast
  unfold Word.greatest at hgreatest
  unfold magnitude
  cases unit <;> dsimp only [TimeUnit.millis] <;> omega

theorem compares (a b : Duration) : Compares a b where
  same := beq_iff_eq
  lt := Int.compare_eq_lt
  eq := Int.compare_eq_eq
  gt := Int.compare_eq_gt
  bounded := a.natAbs_magnitude_lt

/-- The arithmetic of durations is that of their lengths: adding, subtracting, dividing by a number
and dividing a number give the exact result, truncated when dividing, or nothing when an amount does
not fit; and durations are equal and ordered as their lengths. -/
theorem arithmetic_exact (a b : Duration) (n : Int64) :
    Combines (· + ·) a b (a.add? b) ∧ Combines (· - ·) a b (a.sub? b) ∧
    Divides a n.toInt (a.div? n) ∧ Divides ⟨n, a.unit⟩ a.amount.toInt (divInto? n a) ∧
    Compares a b :=
  ⟨combines_combine? Int.add_mul a b, combines_combine? Int.sub_mul a b, divides_div? a n,
    divides_div? ⟨n, a.unit⟩ a.amount, compares a b⟩

end Duration

end SeriesQuery
