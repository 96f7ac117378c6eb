/-
The doubles nearest to integers. Rounding keeps what is not zero from
becoming zero as long as its exponent is one that doubles have
(`nonzero_roundWithAccuracy`), so that the double nearest to an integer is zero
just when the integer is (`Word.toDouble_beq_zero`).
-/
import Mathlib.Algebra.Group.Nat.Defs
import Mathlib.Order.Lattice
import Mathlib.Tactic.ByContra
import SeriesQuery.Word

namespace SeriesQuery

open Float.Model Float.Model.UnpackedFloat

/-- Not zero, and of a size that a double can have: packing keeps it from being zero. -/
def Nonzero : UnpackedFloat → Prop
  | .zero _ => False
  | .finite _ m e _ => m < 2 ^ 53 ∧ -1074 ≤ e
  | _ => True

theorem Nonzero.dite {p : Prop} [Decidable p] {u : p → UnpackedFloat} {v : ¬p → UnpackedFloat}
    (hu : ∀ h, Nonzero (u h)) (hv : ∀ h, Nonzero (v h)) : Nonzero (if h : p then u h else v h) := by
  by_cases h : p
  · rw [dif_pos h]
    exact hu h
  · rw [dif_neg h]
    exact hv h

theorem Nonzero.ite {p : Prop} [Decidable p] {u v : UnpackedFloat} (hu : p → Nonzero u)
    (hv : ¬p → Nonzero v) : Nonzero (if p then u else v) := by
  by_cases h : p
  · rw [if_pos h]
    exact hu h
  · rw [if_neg h]
    exact hv h

/-! ## Rounding -/

theorem mantissa_shiftRight (em : ExtendedMantissa) (n : Nat) :
    (em >>> n).mantissa = em.mantissa / 2 ^ n := by
  induction n with
  | zero => exact (Nat.div_one _).symm
  | succ n ih =>
    calc (em >>> (n + 1)).mantissa = (em >>> n).mantissa / 2 := rfl
      _ = em.mantissa / 2 ^ (n + 1) := by rw [ih, Nat.div_div_eq_div_mul, Nat.pow_succ]

theorem mantissa_le_roundedMantissa (em : ExtendedMantissa) : em.mantissa ≤ em.roundedMantissa := by
  unfold ExtendedMantissa.roundedMantissa Accuracy.roundToNearestEven
  split <;> omega

/-- A shift to the exponent of a double leaves a mantissa and an exponent of its size, and no zero
where there was none. -/
structure Shifted (m : Nat) (e : Int) (result : ExtendedMantissa × Int) : Prop where
  mantissa : result.1.mantissa < 2 ^ 53
  exponent : -1074 ≤ result.2
  nonzero : m ≠ 0 → -1074 ≤ e → result.1.mantissa ≠ 0

theorem shifted (m : Nat) (e : Int) (accuracy : Accuracy) :
    Shifted m e (shiftToTargetExponent .binary64 m e accuracy) := by
  let target := Format.binary64.targetExponent (totalExponent m e)
  let n := (target - e).toNat
  have htarget : target = max ((m.log2 : Int) + 1 + e - 53) (-1074) := rfl
  have hmantissa : (shiftToTargetExponent .binary64 m e accuracy).1.mantissa = m / 2 ^ n := by
    have hstart : (ExtendedMantissa.ofMantissaAndAccuracy m accuracy).mantissa = m := by
      unfold ExtendedMantissa.ofMantissaAndAccuracy
      split <;> rfl
    calc (shiftToTargetExponent .binary64 m e accuracy).1.mantissa
        = (ExtendedMantissa.ofMantissaAndAccuracy m accuracy >>> n).mantissa := rfl
      _ = m / 2 ^ n := by rw [mantissa_shiftRight, hstart]
  have hexponent : (shiftToTargetExponent .binary64 m e accuracy).2 = e + n := rfl
  refine ⟨?_, by omega, fun hm he => ?_⟩
  · rw [hmantissa, Nat.div_lt_iff_lt_mul (Nat.two_pow_pos n), ← Nat.pow_add]
    exact Nat.lt_of_lt_of_le Nat.lt_log2_self (Nat.pow_le_pow_right (by decide) (by omega))
  · rw [hmantissa]
    have hle : 2 ^ n ≤ m :=
      (Nat.pow_le_pow_right (by decide) (by omega)).trans (Nat.log2_self_le hm)
    exact Nat.ne_of_gt (Nat.div_pos hle (Nat.two_pow_pos n))

theorem nonzero_roundWithAccuracy (s : Sign) {m : Nat} {e : Int} (hm : m ≠ 0) (he : -1074 ≤ e)
    (accuracy : Accuracy) : Nonzero (roundWithAccuracy .binary64 s m e accuracy) := by
  have hfirst := shifted m e accuracy
  unfold roundWithAccuracy
  generalize shiftToTargetExponent .binary64 m e accuracy = first at hfirst
  obtain ⟨em, e₁⟩ := first
  have hrounded : em.roundedMantissa ≠ 0 := by
    have := mantissa_le_roundedMantissa em
    have := hfirst.nonzero hm he
    dsimp only at this
    omega
  have hsecond := shifted em.roundedMantissa e₁ .exact
  dsimp only
  generalize shiftToTargetExponent .binary64 em.roundedMantissa e₁ .exact = second at hsecond
  rw [dif_neg (hsecond.nonzero hrounded hfirst.exponent)]
  exact ⟨hsecond.mantissa, hsecond.exponent⟩

theorem nonzero_ofNat {n : Nat} (h : n ≠ 0) : Nonzero (UnpackedFloat.ofNat .binary64 n) := by
  unfold UnpackedFloat.ofNat UnpackedFloat.ofInt UnpackedFloat.normalize
  split
  · rename_i hlt
    have := Int.compare_eq_lt.mp hlt
    omega
  · rename_i heq
    have := Int.compare_eq_eq.mp heq
    omega
  · unfold UnpackedFloat.round decreaseExponent
    dsimp only
    rw [Int.toNat_natCast]
    have htarget : -1074 ≤ Format.binary64.targetExponent (totalExponent n 0) := le_max_right ..
    refine nonzero_roundWithAccuracy _ ?_ (by omega) _
    rw [Nat.shiftLeft_eq]
    exact Nat.mul_ne_zero h (Nat.two_pow_pos _).ne'

theorem Nonzero.neg {u : UnpackedFloat} (h : Nonzero u) : Nonzero u.neg := by
  cases u with
  | zero s => exact h
  | finite s m e hm => exact h
  | _ => trivial

/-! ## Packing -/

/-- The bits, but for the sign, are those of zero. -/
def ZeroBits (b : BitVec Format.binary64.numBits) : Prop :=
  (unpackExponent b).toNat = 0 ∧ (unpackMantissa b).toNat = 0

theorem not_zeroBits_packComponents_of_exponent {s : Sign} {n : Nat} {mantissa : BitVec 52}
    (hn : n ≠ 0) (hlt : n < 2 ^ 11) :
    ¬ ZeroBits (packComponents .binary64 s (BitVec.ofNat 11 n) mantissa) := by
  rintro ⟨hexponent, -⟩
  rw [unpackExponent_packComponents, BitVec.toNat_ofNat] at hexponent
  exact hn ((Nat.mod_eq_of_lt hlt).symm.trans hexponent)

theorem not_zeroBits_packComponents_of_mantissa {s : Sign} {exponent : BitVec 11} {m : Nat}
    (hm : m ≠ 0) (hlt : m < 2 ^ 52) :
    ¬ ZeroBits (packComponents .binary64 s exponent (BitVec.ofNat 52 m)) := by
  rintro ⟨-, hmantissa⟩
  rw [unpackMantissa_packComponents, BitVec.toNat_ofNat] at hmantissa
  exact hm ((Nat.mod_eq_of_lt hlt).symm.trans hmantissa)

theorem Nonzero.not_zeroBits_pack {u : UnpackedFloat} (h : Nonzero u) :
    ¬ ZeroBits (UnpackedFloat.pack .binary64 u) := by
  cases u with
  | zero s => exact h.elim
  | notANumber => exact fun hzero => absurd hzero.1 (by decide)
  | infinity s => cases s <;> exact fun hzero => absurd hzero.1 (by decide)
  | finite s m e hm =>
    obtain ⟨hlt, he⟩ := h
    unfold UnpackedFloat.pack
    dsimp only
    split
    · cases s <;> exact fun hzero => absurd hzero.1 (by decide)
    · rename_i hbound
      have hbias : e + (Format.binary64.exponentBias : Int) +
          (Format.binary64.mantissaBitsWithoutImplicit : Int) = e + 1075 := Int.add_assoc e 1023 52
      rw [hbias] at hbound ⊢
      have hbound : (e + 1075).toNat + 1 < 2 ^ 11 := Nat.lt_of_not_le hbound
      split
      · exact not_zeroBits_packComponents_of_exponent (by omega) (by omega)
      · rename_i hshort
        have hlog : m.log2 < 52 := by
          have := (Nat.log2_lt hm.ne').mpr hlt
          have : m.log2 + 1 ≠ 53 := hshort
          omega
        exact not_zeroBits_packComponents_of_mantissa hm.ne' ((Nat.log2_lt hm.ne').mp hlog)

theorem nonzero_unpack {b : BitVec Format.binary64.numBits} (h : ¬ ZeroBits b) :
    Nonzero (UnpackedFloat.unpack .binary64 b) := by
  unfold UnpackedFloat.unpack
  refine .ite (fun _ => .ite (fun _ => trivial) fun _ => trivial) fun _ => .ite ?_ ?_
  · refine fun hexponent => .dite (fun hmantissa => ?_) fun _ => ?_
    · exact absurd ⟨congrArg BitVec.toNat hexponent, congrArg BitVec.toNat hmantissa⟩ h
    · refine ⟨(unpackMantissa b).isLt.trans (by decide), ?_⟩
      rw [hexponent]
      decide
  · intro hexponent
    refine ⟨(1#1 ++ unpackMantissa b).isLt, ?_⟩
    have hpos : (unpackExponent b).toNat ≠ 0 := fun hzero => hexponent (BitVec.eq_of_toNat_eq hzero)
    show -1074 ≤ ((unpackExponent b).toNat : Int) - (1023 + 52)
    omega

/-! ## Doubles -/

/-- The double is not zero. -/
def NonzeroDouble (x : Float) : Prop := ¬ ZeroBits x.toModel.toBits.toBitVec

theorem NonzeroDouble.neg {x : Float} (h : NonzeroDouble x) : NonzeroDouble (-x) :=
  (nonzero_unpack h).neg.not_zeroBits_pack

theorem nonzeroDouble_toFloat {n : Int64} (h : n ≠ 0) : NonzeroDouble n.toUInt64.toFloat := by
  refine Nonzero.not_zeroBits_pack (nonzero_ofNat fun hzero => h ?_)
  have hword : n.toUInt64 = 0 := UInt64.toNat_inj.mp hzero
  rw [← Int64.toInt64_toUInt64 n, hword]
  rfl

theorem Nonzero.compare_zero {u : UnpackedFloat} (h : Nonzero u) (s : Sign) :
    u.compare (.zero s) ≠ some .eq := by
  cases u with
  | zero => exact h.elim
  | notANumber => nofun
  | infinity t => cases t <;> nofun
  | finite t => cases t <;> nofun

theorem NonzeroDouble.beq_zero {x : Float} (h : NonzeroDouble x) : (x == 0.0) = false := by
  have hzero : (0.0 : Float).toModel.unpack = .zero .positive := rfl
  show (x.toModel.unpack.compare (0.0 : Float).toModel.unpack == some .eq) = false
  rw [hzero, beq_eq_false_iff_ne]
  exact (nonzero_unpack h).compare_zero .positive

/-- The double nearest to an integer is zero just when the integer is. -/
theorem Word.toDouble_beq_zero (n : Int64) : (toDouble n == 0.0) = true ↔ n = 0 := by
  constructor
  · intro h
    by_contra hn
    have hnonzero : NonzeroDouble (toDouble n) := by
      unfold toDouble
      split
      · exact (nonzeroDouble_toFloat (Int64.neg_ne_zero.mpr hn)).neg
      · exact nonzeroDouble_toFloat hn
    rw [hnonzero.beq_zero] at h
    cases h
  · rintro rfl
    decide

end SeriesQuery
