/-
Doubles without a sign. Reading digits gives no others (`unsigned_nearest`),
as products and quotients of unsigned doubles have no sign either. Among them
equality of numbers is equality (`Unsigned.eq_of_beq`): the two zeros are the
only numbers that equal another double, and one of them has a sign.
-/
import Mathlib
import SeriesQuery.Decimal.Read

namespace SeriesQuery

open Float.Model Float.Model.UnpackedFloat

/-- The bit of the sign is clear. -/
def Unsigned (x : Float) : Prop := @unpackSign Format.binary64 x.toModel.toBits.toBitVec = 0#1

/-! ## Unpacked doubles -/

/-- The sign, if there is one, is positive. -/
def IsPositive : UnpackedFloat → Prop
  | .infinity s => s = .positive
  | .notANumber => True
  | .zero s => s = .positive
  | .finite s _ _ _ => s = .positive

theorem unpackSign_pack {u : UnpackedFloat} (h : IsPositive u) :
    unpackSign (UnpackedFloat.pack .binary64 u) = 0#1 := by
  cases u with
  | notANumber => rfl
  | infinity s =>
    obtain rfl : s = .positive := h
    rfl
  | zero s =>
    obtain rfl : s = .positive := h
    rfl
  | finite s m e hm =>
    obtain rfl : s = .positive := h
    unfold UnpackedFloat.pack
    dsimp only
    split
    · rfl
    · split
      · exact unpackSign_packComponents ..
      · exact unpackSign_packComponents ..

theorem isPositive_unpack {b : BitVec Format.binary64.numBits} (h : unpackSign b = 0#1) :
    IsPositive (UnpackedFloat.unpack .binary64 b) := by
  have hsign : Sign.ofBitVec (unpackSign b) = .positive := by
    rw [h]
    rfl
  unfold UnpackedFloat.unpack
  dsimp only
  split
  · split
    · exact hsign
    · trivial
  · split
    · split
      · exact hsign
      · exact hsign
    · exact hsign

theorem isPositive_roundWithAccuracy (m : Nat) (e : Int) (accuracy : Accuracy) :
    IsPositive (roundWithAccuracy .binary64 .positive m e accuracy) := by
  unfold roundWithAccuracy
  dsimp only
  split
  · rfl
  · rfl

theorem isPositive_ofNat (n : Nat) : IsPositive (UnpackedFloat.ofNat .binary64 n) := by
  unfold UnpackedFloat.ofNat UnpackedFloat.ofInt UnpackedFloat.normalize
  split
  · rename_i h
    have hneg : (n : Int) < 0 := Int.compare_eq_lt.mp h
    omega
  · rfl
  · exact isPositive_roundWithAccuracy _ _ _

theorem isPositive_mul {u v : UnpackedFloat} (hu : IsPositive u) (hv : IsPositive v) :
    IsPositive (UnpackedFloat.mul .binary64 u v) := by
  cases u <;> cases v <;> simp only [IsPositive] at hu hv <;> (try subst hu) <;> (try subst hv) <;>
    first
    | trivial
    | rfl
    | exact isPositive_roundWithAccuracy _ _ _

theorem isPositive_div {u v : UnpackedFloat} (hu : IsPositive u) (hv : IsPositive v) :
    IsPositive (UnpackedFloat.div .binary64 u v) := by
  cases u <;> cases v <;> simp only [IsPositive] at hu hv <;> (try subst hu) <;> (try subst hv) <;>
    first
    | trivial
    | rfl
    | exact isPositive_roundWithAccuracy _ _ _

theorem isPositive_ofScientific (m : Nat) (e : Int) :
    IsPositive (UnpackedFloat.ofScientific .binary64 m e) := by
  unfold UnpackedFloat.ofScientific
  split
  · rfl
  · split
    · rfl
    · split
      · rfl
      · split
        · exact isPositive_mul rfl rfl
        · exact isPositive_div rfl rfl

/-! ## Doubles -/

theorem unsigned_pack {u : UnpackedFloat} (h : IsPositive u) : Unsigned (.ofModel (.pack u)) :=
  unpackSign_pack h

variable {x y : Float}

theorem Unsigned.isPositive (h : Unsigned x) : IsPositive x.toModel.unpack := isPositive_unpack h

theorem Unsigned.mul (hx : Unsigned x) (hy : Unsigned y) : Unsigned (x * y) :=
  unsigned_pack (isPositive_mul hx.isPositive hy.isPositive)

theorem Unsigned.div (hx : Unsigned x) (hy : Unsigned y) : Unsigned (x / y) :=
  unsigned_pack (isPositive_div hx.isPositive hy.isPositive)

theorem unsigned_toFloat (n : UInt64) : Unsigned n.toFloat := unsigned_pack (isPositive_ofNat n.toNat)

theorem unsigned_powerOfTen (e : Nat) (h : e < Float.exactlyRepresentablePowersOfTen.size) :
    Unsigned Float.exactlyRepresentablePowersOfTen[e] := by
  have hall : ∀ x ∈ Float.exactlyRepresentablePowersOfTen.toList, Unsigned x := by
    unfold Unsigned
    decide
  exact hall _ (Array.getElem_mem_toList h)

theorem unsigned_ofScientific (m : Nat) (negative : Bool) (e : Nat) :
    Unsigned (Float.ofScientific m negative e) := by
  unfold Float.ofScientific
  split
  · dsimp only
    split
    · exact (unsigned_toFloat _).div (unsigned_powerOfTen ..)
    · exact (unsigned_toFloat _).mul (unsigned_powerOfTen ..)
  · exact unsigned_pack (isPositive_ofScientific _ _)

/-- The double nearest to a decimal number has no sign. -/
theorem unsigned_nearest (m : Nat) (e : Int) : Unsigned (Decimal.nearest m e) := by
  have hzero : Unsigned 0.0 := unsigned_ofScientific 0 true 1
  unfold Decimal.nearest
  dsimp only
  split
  · exact hzero
  · split
    · exact (unsigned_ofScientific 10 true 1).div hzero
    · split
      · exact hzero
      · exact unsigned_ofScientific _ _ _

/-! ## Equality -/

theorem not_unsigned_negative_zero : ¬ Unsigned (-0) := by
  unfold Unsigned
  decide

/-- Unsigned doubles that are equal as numbers are equal. -/
theorem Unsigned.eq_of_beq (hx : Unsigned x) (hy : Unsigned y) (h : (x == y) = true) : x = y := by
  obtain ⟨_, _, heq | ⟨_, hzero⟩ | ⟨hzero, _⟩⟩ := Float.beq_iff_ne_nan_and_eq.mp h
  · exact heq
  · exact absurd (hzero ▸ hy) not_unsigned_negative_zero
  · exact absurd (hzero ▸ hx) not_unsigned_negative_zero

end SeriesQuery
