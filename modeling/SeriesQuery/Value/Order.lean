/-
Comparing values. Numbers compare with numbers, an integer as the double
nearest to it when the other is a double; durations compare by length and
texts by code points. Every kind can be tested for equality with itself.
A double that is not a number equals nothing and is neither less nor greater.
-/
import SeriesQuery.Failure
import SeriesQuery.Value

namespace SeriesQuery.Value

variable [PatternEngine]

def isNumber : Value → Bool
  | integer _ => true
  | double _ => true
  | _ => false

def orderDoubles (x y : Float) : Option Ordering :=
  if x < y then some .lt else if x == y then some .eq else if x > y then some .gt else none

/-- The order of two values, if they have one. -/
def ordering : Value → Value → Option Ordering
  | integer a, integer b => some (compare a.toInt b.toInt)
  | integer a, double y => orderDoubles (Word.toDouble a) y
  | double x, integer b => orderDoubles x (Word.toDouble b)
  | double x, double y => orderDoubles x y
  | duration a, duration b => some (a.compare b)
  | string a, string b => some (compareText a b)
  | _, _ => none

/-- Whether values of these kinds are ordered, a double that is not a number apart. -/
def orderable : Value → Value → Bool
  | duration _, duration _ => true
  | string _, string _ => true
  | a, b => a.isNumber && b.isNumber

/-- Equality of two numbers, or of two values of one kind. -/
def equal? (a b : Value) : Option Bool :=
  if a.isNumber && b.isNumber then some (ordering a b == some .eq)
  else if a.kind = b.kind then some (a.same b)
  else none

/-- A comparison that asks something of the order. -/
def compareBy (op : BinaryOp) (holds : Ordering → Bool) (a b : Value) (span : Span) :
    Except Failure Value :=
  if orderable a b then .ok (boolean ((ordering a b).any holds))
  else .error (.type span (.comparison op a.kind b.kind))

/-- A comparison that asks whether the values are equal. -/
def compareEqual (op : BinaryOp) (holds : Bool → Bool) (a b : Value) (span : Span) :
    Except Failure Value :=
  match equal? a b with
  | some equal => .ok (boolean (holds equal))
  | none => .error (.type span (.comparison op a.kind b.kind))

/-- The truth of a comparison; what is wrong with it is told about the span. -/
def compare (op : BinaryOp) (a b : Value) (span : Span) : Except Failure Value :=
  match op with
  | .eq => compareEqual op id a b span
  | .notEq => compareEqual op Bool.not a b span
  | .less => compareBy op Ordering.isLT a b span
  | .lessEq => compareBy op Ordering.isLE a b span
  | .greater => compareBy op Ordering.isGT a b span
  | .greaterEq => compareBy op Ordering.isGE a b span
  | _ => .error (.type span (.notComparison op))

end SeriesQuery.Value
