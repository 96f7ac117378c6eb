/-
The operators on values. Integers wrap around and divide toward zero;
a double makes the other number a double. Durations add to durations and
scale by numbers, and a number over a duration is a duration again. What
does not fit a duration, and a division by zero, is an arithmetic fault;
any other pair of kinds is a type fault. Every fault is told about the span
of the operator.
-/
import SeriesQuery.Value.Order

namespace SeriesQuery.Value

variable [PatternEngine]

def mismatch (op : BinaryOp) (a b : Value) (span : Span) : Except Failure Value :=
  .error (.type span (.binary op a.kind b.kind))

def divisionByZero (span : Span) : Except Failure Value :=
  .error (.arithmetic span .divisionByZero)

/-- A duration that may not fit. -/
def fitting (d : Option Duration) (span : Span) : Except Failure Value :=
  match d with
  | some d => .ok (duration d)
  | none => .error (.arithmetic span .durationOverflow)

def integers (op : BinaryOp) (a b : Int64) (span : Span) : Except Failure Value :=
  match op with
  | .add => .ok (integer (a + b))
  | .sub => .ok (integer (a - b))
  | .mul => .ok (integer (a * b))
  | .div => if b = 0 then divisionByZero span else .ok (integer (a / b))
  | _ => mismatch op (integer a) (integer b) span

def doubles (op : BinaryOp) (x y : Float) (span : Span) : Except Failure Value :=
  match op with
  | .add => .ok (double (x + y))
  | .sub => .ok (double (x - y))
  | .mul => .ok (double (x * y))
  | .div => if y == 0.0 then divisionByZero span else .ok (double (x / y))
  | _ => mismatch op (double x) (double y) span

def durations (op : BinaryOp) (a b : Duration) (span : Span) : Except Failure Value :=
  match op with
  | .add => fitting (a.add? b) span
  | .sub => fitting (a.sub? b) span
  | _ => mismatch op (duration a) (duration b) span

def durationByInteger (op : BinaryOp) (d : Duration) (n : Int64) (span : Span) :
    Except Failure Value :=
  match op with
  | .mul => fitting (d.mul? n) span
  | .div => if n = 0 then divisionByZero span else fitting (d.div? n) span
  | _ => mismatch op (duration d) (integer n) span

def durationByDouble (op : BinaryOp) (d : Duration) (x : Float) (span : Span) :
    Except Failure Value :=
  match op with
  | .mul => fitting (d.scale? x) span
  | .div => if x == 0.0 then divisionByZero span else fitting (d.scale? (1.0 / x)) span
  | _ => mismatch op (duration d) (double x) span

def integerByDuration (op : BinaryOp) (n : Int64) (d : Duration) (span : Span) :
    Except Failure Value :=
  match op with
  | .mul => fitting (d.mul? n) span
  | .div => if d.amount = 0 then divisionByZero span else fitting (Duration.divInto? n d) span
  | _ => mismatch op (integer n) (duration d) span

def doubleByDuration (op : BinaryOp) (x : Float) (d : Duration) (span : Span) :
    Except Failure Value :=
  match op with
  | .mul => fitting (d.scale? x) span
  | .div =>
    if d.amount = 0 then divisionByZero span
    else fitting (Duration.scale? ⟨1, d.unit⟩ (x / Word.toDouble d.amount)) span
  | _ => mismatch op (double x) (duration d) span

def arithmetic (op : BinaryOp) (a b : Value) (span : Span) : Except Failure Value :=
  match a, b with
  | integer a, integer b => integers op a b span
  | integer a, double y => doubles op (Word.toDouble a) y span
  | double x, integer b => doubles op x (Word.toDouble b) span
  | double x, double y => doubles op x y span
  | duration a, duration b => durations op a b span
  | duration d, integer n => durationByInteger op d n span
  | duration d, double x => durationByDouble op d x span
  | integer n, duration d => integerByDuration op n d span
  | double x, duration d => doubleByDuration op x d span
  | string a, string b =>
    match op with
    | .add => .ok (string (a ++ b))
    | _ => mismatch op (string a) (string b) span
  | a, b => mismatch op a b span

/-- Conjunction, or disjunction if the operator says so, of two truth values or two selectors. -/
def logical (op : BinaryOp) (a b : Value) (span : Span) : Except Failure Value :=
  match a, b with
  | boolean a, boolean b => .ok (boolean (if op = .or then a || b else a && b))
  | selector f, selector g => .ok (selector (if op = .or then .any [f, g] else .all [f, g]))
  | a, b => mismatch op a b span

def binary (op : BinaryOp) (a b : Value) (span : Span) : Except Failure Value :=
  match op with
  | .add | .sub | .mul | .div => arithmetic op a b span
  | .and | .or => logical op a b span
  | .eq | .notEq | .less | .lessEq | .greater | .greaterEq => compare op a b span

def unary (op : UnaryOp) (v : Value) (span : Span) : Except Failure Value :=
  match op, v with
  | .negate, integer n => .ok (integer (-n))
  | .negate, double x => .ok (double (-x))
  | .negate, duration d => fitting d.neg? span
  | .not, boolean b => .ok (boolean !b)
  | .not, selector f => .ok (selector (.not f))
  | op, v => .error (.type span (.unary op v.kind))

end SeriesQuery.Value
