/-
Equality of lists. Two numbers can be equal without being of one kind, an
integer as the double nearest to it, but lists are compared part by part, and
parts of two kinds are never the same. So lists of one length are equal just
when their items are, each to one of its own kind (`compare_eq_lists`).
-/
import Mathlib.Data.List.Forall2
import SeriesQuery.Regex.Engine
import SeriesQuery.Value.Order

namespace SeriesQuery.Value

/-- One comparison decides which of two doubles is less and whether they are equal. -/
theorem beq_eq_false_of_lt {x y : Float} (h : x < y) : (x == y) = false := by
  have hbeq : (x.toModel.unpack.compare y.toModel.unpack == some .lt) = true := of_decide_eq_true h
  have hlt : x.toModel.unpack.compare y.toModel.unpack = some .lt := eq_of_beq hbeq
  calc (x == y) = (x.toModel.unpack.compare y.toModel.unpack == some .eq) := rfl
    _ = false := by rw [hlt]; rfl

theorem orderDoubles_eq_iff (x y : Float) : orderDoubles x y = some .eq ↔ (x == y) = true := by
  unfold orderDoubles
  by_cases hlt : x < y
  · simp [hlt, beq_eq_false_of_lt hlt]
  · by_cases heq : (x == y) = true
    · simp [hlt, heq]
    · by_cases hgt : x > y <;> simp [hlt, heq, hgt]

section Items

variable [PatternEngine]

/-- Values of two kinds are never the same. -/
theorem kind_of_same {a b : Value} (h : a.same b = true) : a.kind = b.kind := by
  cases a <;> cases b <;> first | rfl | exact absurd h Bool.false_ne_true

/-- The order of numbers of one kind says that they are equal when they are the same. -/
theorem ordering_eq_iff {a b : Value} (hnumber : a.isNumber = true) (hkind : a.kind = b.kind) :
    ordering a b = some .eq ↔ a.same b = true := by
  cases a <;> cases b <;> try contradiction
  case integer m n =>
    rw [ordering, same, Option.some.injEq, Int.compare_eq_eq, beq_iff_eq, Int64.toInt_inj]
  case double x y => exact orderDoubles_eq_iff x y

theorem compare_eq_of_kind {a b : Value} (h : a.kind = b.kind) (span : Span) :
    compare .eq a b span = .ok (boolean (a.same b)) := by
  have hequal : equal? a b = some (a.same b) := by
    unfold equal?
    by_cases hnumber : (a.isNumber && b.isNumber) = true
    · have hiff := ordering_eq_iff (Bool.and_eq_true_iff.mp hnumber).1 h
      rw [if_pos hnumber, Option.some.injEq, Bool.eq_iff_iff, beq_iff_eq, hiff]
    · rw [if_neg hnumber, if_pos h]
  rw [compare, compareEqual, hequal]
  rfl

/-- Two values are the same when they are equal and of one kind. -/
theorem same_iff (a b : Value) (span : Span) :
    a.same b = true ↔ compare .eq a b span = .ok (boolean true) ∧ a.kind = b.kind := by
  refine ⟨fun h => ⟨?_, kind_of_same h⟩, fun ⟨h, hkind⟩ => ?_⟩
  · rw [compare_eq_of_kind (kind_of_same h), h]
  · rw [compare_eq_of_kind hkind] at h
    simpa using h

theorem sameItems_iff (as bs : List Value) :
    sameItems as bs = true ↔ List.Forall₂ (fun a b => a.same b = true) as bs := by
  induction as generalizing bs with
  | nil => cases bs <;> simp [sameItems]
  | cons a as ih => cases bs <;> simp [sameItems, ih]

/-- Lists of one length are always compared. They are equal when each item is equal to the one in
its place and of its kind, and an item that differs from the one in its place makes them differ. -/
theorem compare_eq_lists (xs ys : List Value) (hlen : xs.length = ys.length) (span : Span) :
    ∃ equal, compare .eq (list xs) (list ys) span = .ok (boolean equal) ∧
      (equal = true ↔ ∀ i (hi : i < xs.length),
        compare .eq xs[i] ys[i] span = .ok (boolean true) ∧ xs[i].kind = ys[i].kind) ∧
      ((∃ i, ∃ hi : i < xs.length, compare .eq xs[i] ys[i] span = .ok (boolean false)) →
        equal = false) := by
  have hitems : sameItems xs ys = true ↔ ∀ i (hi : i < xs.length),
      compare .eq xs[i] ys[i] span = .ok (boolean true) ∧ xs[i].kind = ys[i].kind := by
    simp only [sameItems_iff, List.forall₂_iff_get, same_iff _ _ span, List.get_eq_getElem]
    exact ⟨fun h i hi => h.2 i hi (hlen ▸ hi), fun h => ⟨hlen, fun i hi _ => h i hi⟩⟩
  have hequal : compare .eq (list xs) (list ys) span = .ok (boolean (sameItems xs ys)) :=
    compare_eq_of_kind (a := list xs) (b := list ys) rfl span
  refine ⟨sameItems xs ys, hequal, hitems, fun ⟨i, hi, hdiffer⟩ => ?_⟩
  by_contra hne
  obtain ⟨hequal, -⟩ := hitems.mp (eq_true_of_ne_false hne) i hi
  rw [hdiffer] at hequal
  cases hequal

end Items

open scoped Regex

/-- Lists inside lists, with a minute for sixty seconds. -/
theorem compare_eq_lists_nested :
    compare .eq (list [list [duration ⟨1, .minutes⟩], double 0.5])
      (list [list [duration ⟨60, .seconds⟩], double 0.5]) ⟨0, 2⟩ = .ok (boolean true) := by
  obtain ⟨equal, hequal, htrue, -⟩ := compare_eq_lists
    [list [duration ⟨1, .minutes⟩], double 0.5] [list [duration ⟨60, .seconds⟩], double 0.5] rfl
    ⟨0, 2⟩
  rw [hequal, htrue.mpr fun i hi => ?_]
  match i, hi with
  | 0, _ => exact ⟨rfl, rfl⟩
  | 1, _ => exact ⟨rfl, rfl⟩

/-- Equal items of two kinds do not make equal lists: `1 == 1.0` holds and `[1] == [1.0]` does
not. -/
theorem compare_eq_lists_mixed :
    compare .eq (integer 1) (double 1.0) ⟨2, 4⟩ = .ok (boolean true) ∧
      compare .eq (list [integer 1]) (list [double 1.0]) ⟨4, 6⟩ = .ok (boolean false) :=
  ⟨rfl, rfl⟩

end SeriesQuery.Value
