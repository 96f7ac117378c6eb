/-
Where an operator stands. The place only tells where a fault is reported: the
value, or what is wrong, is the same wherever the operator stands
(`movable_binary`, `movable_unary`).
-/
import SeriesQuery.Value.Operator

namespace SeriesQuery

/-- A result that can be had anywhere: its place is where it fails, if it does, and no more. -/
def Movable {α : Type} (f : Span → Except Failure α) : Prop :=
  ∃ r : Except Cause α, ∀ span, f span = r.mapError (Failure.mk span)

section Movable

variable {α : Type} {f g : Span → Except Failure α}

theorem movable_ok (a : α) : Movable fun _ => .ok a := ⟨.ok a, fun _ => rfl⟩

theorem movable_error (cause : Cause) : Movable (α := α) fun span => .error ⟨span, cause⟩ :=
  ⟨.error cause, fun _ => rfl⟩

theorem Movable.ite {p : Prop} [Decidable p] (hf : Movable f) (hg : Movable g) :
    Movable fun span => if p then f span else g span := by
  by_cases h : p
  · simpa only [if_pos h] using hf
  · simpa only [if_neg h] using hg

end Movable

namespace Value

variable [PatternEngine]

theorem movable_fitting (d : Option Duration) : Movable (fitting d) := by
  cases d with
  | some d => exact movable_ok _
  | none => exact movable_error _

/-- A divisor is looked at before the quotient is formed. -/
theorem movable_quotient {p : Prop} [Decidable p] {f : Span → Except Failure Value}
    (hf : Movable f) : Movable fun span => if p then divisionByZero span else f span :=
  (movable_error _).ite hf

theorem movable_integers (op : BinaryOp) (a b : Int64) : Movable (integers op a b) := by
  cases op with
  | add | sub | mul => exact movable_ok _
  | div => exact movable_quotient (movable_ok _)
  | _ => exact movable_error _

theorem movable_doubles (op : BinaryOp) (x y : Float) : Movable (doubles op x y) := by
  cases op with
  | add | sub | mul => exact movable_ok _
  | div => exact movable_quotient (movable_ok _)
  | _ => exact movable_error _

theorem movable_durations (op : BinaryOp) (a b : Duration) : Movable (durations op a b) := by
  cases op with
  | add | sub => exact movable_fitting _
  | _ => exact movable_error _

theorem movable_durationByInteger (op : BinaryOp) (d : Duration) (n : Int64) :
    Movable (durationByInteger op d n) := by
  cases op with
  | mul => exact movable_fitting _
  | div => exact movable_quotient (movable_fitting _)
  | _ => exact movable_error _

theorem movable_durationByDouble (op : BinaryOp) (d : Duration) (x : Float) :
    Movable (durationByDouble op d x) := by
  cases op with
  | mul => exact movable_fitting _
  | div => exact movable_quotient (movable_fitting _)
  | _ => exact movable_error _

theorem movable_integerByDuration (op : BinaryOp) (n : Int64) (d : Duration) :
    Movable (integerByDuration op n d) := by
  cases op with
  | mul => exact movable_fitting _
  | div => exact movable_quotient (movable_fitting _)
  | _ => exact movable_error _

theorem movable_doubleByDuration (op : BinaryOp) (x : Float) (d : Duration) :
    Movable (doubleByDuration op x d) := by
  cases op with
  | mul => exact movable_fitting _
  | div => exact movable_quotient (movable_fitting _)
  | _ => exact movable_error _

theorem movable_arithmetic (op : BinaryOp) (a b : Value) : Movable (arithmetic op a b) := by
  cases a with
  | integer m =>
    cases b with
    | integer n => exact movable_integers op m n
    | double y => exact movable_doubles op _ y
    | duration d => exact movable_integerByDuration op m d
    | _ => exact movable_error _
  | double x =>
    cases b with
    | integer n => exact movable_doubles op x _
    | double y => exact movable_doubles op x y
    | duration d => exact movable_doubleByDuration op x d
    | _ => exact movable_error _
  | duration d =>
    cases b with
    | integer n => exact movable_durationByInteger op d n
    | double y => exact movable_durationByDouble op d y
    | duration e => exact movable_durations op d e
    | _ => exact movable_error _
  | string s =>
    cases b with
    | string t =>
      cases op with
      | add => exact movable_ok _
      | _ => exact movable_error _
    | _ => exact movable_error _
  | _ => cases b <;> exact movable_error _

theorem movable_logical (op : BinaryOp) (a b : Value) : Movable (logical op a b) := by
  cases a with
  | boolean =>
    cases b with
    | boolean => exact movable_ok _
    | _ => exact movable_error _
  | selector =>
    cases b with
    | selector => exact movable_ok _
    | _ => exact movable_error _
  | _ => cases b <;> exact movable_error _

theorem movable_compareEqual (op : BinaryOp) (holds : Bool → Bool) (a b : Value) :
    Movable (compareEqual op holds a b) := by
  unfold compareEqual
  cases equal? a b with
  | some equal => exact movable_ok _
  | none => exact movable_error _

theorem movable_compareBy (op : BinaryOp) (holds : Ordering → Bool) (a b : Value) :
    Movable (compareBy op holds a b) :=
  (movable_ok _).ite (movable_error _)

theorem movable_binary (op : BinaryOp) (a b : Value) : Movable (binary op a b) := by
  cases op with
  | add | sub | mul | div => exact movable_arithmetic _ a b
  | and | or => exact movable_logical _ a b
  | eq | notEq => exact movable_compareEqual ..
  | less | lessEq | greater | greaterEq => exact movable_compareBy ..

theorem movable_unary (op : UnaryOp) (v : Value) : Movable (unary op v) := by
  cases op with
  | negate =>
    cases v with
    | integer | double => exact movable_ok _
    | duration d => exact movable_fitting _
    | _ => exact movable_error _
  | not =>
    cases v with
    | boolean | selector => exact movable_ok _
    | _ => exact movable_error _

end Value

end SeriesQuery
