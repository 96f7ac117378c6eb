/-
The kinds of operands decide what an operator gives: the kind of its result,
or that it is a type fault. Beyond that only arithmetic can fail, by a
divisor that is zero or by a duration that does not fit.
-/
import SeriesQuery.Proofs.Decimal.Nearest
import SeriesQuery.Value.Operator

namespace SeriesQuery

namespace ValueKind

theorem name_injective : Function.Injective name := by
  intro a b h
  cases a <;> cases b <;> first | rfl | exact absurd h (by decide)

def isNumber : ValueKind → Bool
  | integer | double => true
  | _ => false

/-- The kind that holds a sum, a product or a quotient of two numbers. -/
def ofNumbers? : ValueKind → ValueKind → Option ValueKind
  | integer, integer => some integer
  | a, b => if a.isNumber && b.isNumber then some double else none

/-- The kind of a sum or a difference. -/
def ofSum? : ValueKind → ValueKind → Option ValueKind
  | duration, duration => some duration
  | a, b => ofNumbers? a b

/-- The kind of a product or a quotient: a duration is scaled by a number on either side. -/
def ofProduct? (a b : ValueKind) : Option ValueKind :=
  if (a = duration ∧ b.isNumber) ∨ (a.isNumber ∧ b = duration) then some duration
  else ofNumbers? a b

/-- The kind of a conjunction or a disjunction. -/
def ofJunction? : ValueKind → ValueKind → Option ValueKind
  | boolean, boolean => some boolean
  | selector, selector => some selector
  | _, _ => none

/-- Kinds whose values may be equal. -/
def comparable (a b : ValueKind) : Bool := a = b || (a.isNumber && b.isNumber)

/-- Kinds whose values may be less or greater than one another. -/
def ordered (a b : ValueKind) : Bool :=
  comparable a b && (a.isNumber || a = duration || a = string)

end ValueKind

/-- The kind an operator gives for operands of these kinds, if it takes them. -/
def BinaryOp.result? (op : BinaryOp) (a b : ValueKind) : Option ValueKind :=
  match op with
  | add => if a = .string ∧ b = .string then some .string else a.ofSum? b
  | sub => a.ofSum? b
  | mul | div => a.ofProduct? b
  | and | or => a.ofJunction? b
  | eq | notEq => if a.comparable b then some .boolean else none
  | less | lessEq | greater | greaterEq => if a.ordered b then some .boolean else none

def UnaryOp.result? : UnaryOp → ValueKind → Option ValueKind
  | negate, .integer => some .integer
  | negate, .double => some .double
  | negate, .duration => some .duration
  | not, .boolean => some .boolean
  | not, .selector => some .selector
  | _, _ => none

namespace Value

variable [PatternEngine]

/-- A division by a number that is zero, of either sign, or by a duration of no length. -/
def DividesByZero : BinaryOp → Value → Prop
  | .div, integer n => n = 0
  | .div, double x => (x == 0.0) = true
  | .div, duration d => d.amount = 0
  | _, _ => False

/-- How an operator written at a place comes out, from the kind of its result, if it has one,
and whether it divides by zero. -/
inductive Outcome (span : Span) (zero : Prop) : Option ValueKind → Except Failure Value → Prop
  | value {kind : ValueKind} {v : Value} :
      ¬zero → v.kind = kind → Outcome span zero (some kind) (.ok v)
  | overflow :
      ¬zero → Outcome span zero (some .duration) (.error (.arithmetic span .durationOverflow))
  | division {kind : ValueKind} :
      zero → Outcome span zero (some kind) (.error (.arithmetic span .divisionByZero))
  | mismatch (fault : TypeFault) : Outcome span zero none (.error (.type span fault))

variable {span : Span}

theorem outcome_fitting {zero : Prop} (d : Option Duration) (h : ¬zero) :
    Outcome span zero (some .duration) (fitting d span) := by
  cases d with
  | none => exact .overflow h
  | some d => exact .value h rfl

/-- A divisor is looked at before the quotient is formed. -/
theorem outcome_quotient {zero p : Prop} [Decidable p] {kind : ValueKind}
    {r : Except Failure Value} (hp : p ↔ zero) (hr : ¬zero → Outcome span zero (some kind) r) :
    Outcome span zero (some kind) (if p then divisionByZero span else r) := by
  split
  next h => exact .division (hp.mp h)
  next h => exact hr fun hz => h (hp.mpr hz)

theorem outcome_add (a b : Value) : Outcome span (DividesByZero .add b)
    (BinaryOp.result? .add a.kind b.kind) (binary .add a b span) := by
  cases a with
  | integer | double =>
    cases b with
    | integer | double => exact .value id rfl
    | _ => exact .mismatch _
  | duration =>
    cases b with
    | duration => exact outcome_fitting _ id
    | _ => exact .mismatch _
  | string =>
    cases b with
    | string => exact .value id rfl
    | _ => exact .mismatch _
  | _ => cases b <;> exact .mismatch _

theorem outcome_sub (a b : Value) : Outcome span (DividesByZero .sub b)
    (BinaryOp.result? .sub a.kind b.kind) (binary .sub a b span) := by
  cases a with
  | integer | double =>
    cases b with
    | integer | double => exact .value id rfl
    | _ => exact .mismatch _
  | duration =>
    cases b with
    | duration => exact outcome_fitting _ id
    | _ => exact .mismatch _
  | _ => cases b <;> exact .mismatch _

theorem outcome_mul (a b : Value) : Outcome span (DividesByZero .mul b)
    (BinaryOp.result? .mul a.kind b.kind) (binary .mul a b span) := by
  cases a with
  | integer | double =>
    cases b with
    | integer | double => exact .value id rfl
    | duration => exact outcome_fitting _ id
    | _ => exact .mismatch _
  | duration =>
    cases b with
    | integer | double => exact outcome_fitting _ id
    | _ => exact .mismatch _
  | _ => cases b <;> exact .mismatch _

/-- An integer divides a double as the double nearest to it, which is zero for zero only. -/
theorem outcome_div (a b : Value) : Outcome span (DividesByZero .div b)
    (BinaryOp.result? .div a.kind b.kind) (binary .div a b span) := by
  cases a with
  | integer m =>
    cases b with
    | integer n => exact outcome_quotient Iff.rfl fun h => .value h rfl
    | double y => exact outcome_quotient Iff.rfl fun h => .value h rfl
    | duration d => exact outcome_quotient Iff.rfl fun h => outcome_fitting _ h
    | _ => exact .mismatch _
  | double x =>
    cases b with
    | integer n => exact outcome_quotient (Word.toDouble_beq_zero n) fun h => .value h rfl
    | double y => exact outcome_quotient Iff.rfl fun h => .value h rfl
    | duration d => exact outcome_quotient Iff.rfl fun h => outcome_fitting _ h
    | _ => exact .mismatch _
  | duration d =>
    cases b with
    | integer n => exact outcome_quotient Iff.rfl fun h => outcome_fitting _ h
    | double y => exact outcome_quotient Iff.rfl fun h => outcome_fitting _ h
    | _ => exact .mismatch _
  | _ => cases b <;> exact .mismatch _

theorem outcome_logical {op : BinaryOp} (hop : op = .and ∨ op = .or) (a b : Value) :
    Outcome span (DividesByZero op b) (op.result? a.kind b.kind) (binary op a b span) := by
  obtain rfl | rfl := hop <;> cases a with
  | boolean =>
    cases b with
    | boolean => exact .value id rfl
    | _ => exact .mismatch _
  | selector =>
    cases b with
    | selector => exact .value id rfl
    | _ => exact .mismatch _
  | _ => cases b <;> exact .mismatch _

theorem isNumber_kind (a : Value) : a.isNumber = a.kind.isNumber := by
  cases a <;> rfl

theorem isSome_equal? (a b : Value) : (equal? a b).isSome = a.kind.comparable b.kind := by
  rw [equal?, ValueKind.comparable, isNumber_kind, isNumber_kind]
  split
  next h => simp [h]
  next h => by_cases hk : a.kind = b.kind <;> simp [h, hk]

theorem orderable_kind (a b : Value) : orderable a b = a.kind.ordered b.kind := by
  cases a <;> cases b <;> rfl

theorem outcome_compareEqual (op : BinaryOp) (holds : Bool → Bool) (a b : Value) :
    Outcome span False (if a.kind.comparable b.kind then some .boolean else none)
      (compareEqual op holds a b span) := by
  rw [← isSome_equal?, compareEqual]
  cases equal? a b with
  | none => exact .mismatch _
  | some equal => exact .value id rfl

theorem outcome_compareBy (op : BinaryOp) (holds : Ordering → Bool) (a b : Value) :
    Outcome span False (if a.kind.ordered b.kind then some .boolean else none)
      (compareBy op holds a b span) := by
  rw [← orderable_kind, compareBy]
  cases orderable a b with
  | false => exact .mismatch _
  | true => exact .value id rfl

theorem outcome_binary (op : BinaryOp) (a b : Value) (span : Span) :
    Outcome span (DividesByZero op b) (op.result? a.kind b.kind) (binary op a b span) := by
  cases op with
  | add => exact outcome_add a b
  | sub => exact outcome_sub a b
  | mul => exact outcome_mul a b
  | div => exact outcome_div a b
  | and => exact outcome_logical (.inl rfl) a b
  | or => exact outcome_logical (.inr rfl) a b
  | eq | notEq => exact outcome_compareEqual ..
  | less | lessEq | greater | greaterEq => exact outcome_compareBy ..

theorem outcome_unary (op : UnaryOp) (v : Value) (span : Span) :
    Outcome span False (op.result? v.kind) (unary op v span) := by
  cases op with
  | negate =>
    cases v with
    | integer | double => exact .value id rfl
    | duration => exact outcome_fitting _ id
    | _ => exact .mismatch _
  | not =>
    cases v with
    | boolean | selector => exact .value id rfl
    | _ => exact .mismatch _

/-- The kinds of the operands, which have names of their own, decide whether an operator is a type
fault and the kind of its result; arithmetic fails only for a divisor that is zero and for a
duration that does not fit, and every failure is where the operator is. -/
theorem outcome_operators (span : Span) :
    Function.Injective ValueKind.name ∧
    (∀ (op : BinaryOp) (a b : Value),
      Outcome span (DividesByZero op b) (op.result? a.kind b.kind) (binary op a b span)) ∧
    ∀ (op : UnaryOp) (v : Value), Outcome span False (op.result? v.kind) (unary op v span) :=
  ⟨ValueKind.name_injective, fun op a b => outcome_binary op a b span,
    fun op v => outcome_unary op v span⟩

end Value

end SeriesQuery
