/-
The functions queries can call. Each takes a fixed number of arguments; a
fault about one argument is reported where that argument stands, any other
where the call stands.
-/
import SeriesQuery.Text.Blank
import SeriesQuery.Token.Scan
import SeriesQuery.Value.Operator

namespace SeriesQuery

variable [PatternEngine]

inductive Builtin
  | abs | min | max | len | str | int | double | seconds | millis | key | has
  deriving DecidableEq, Repr

namespace Builtin

def name : Builtin → String
  | abs => "abs"
  | min => "min"
  | max => "max"
  | len => "len"
  | str => "str"
  | int => "int"
  | double => "double"
  | seconds => "seconds"
  | millis => "millis"
  | key => "key"
  | has => "has"

def all : List Builtin := [abs, min, max, len, str, int, double, seconds, millis, key, has]

def ofName? (name : String) : Option Builtin := all.find? fun f => f.name == name

def arity : Builtin → Nat
  | min | max => 2
  | _ => 1

/-- A fault of the call, or of its first argument. -/
inductive Fault
  | call (cause : Cause)
  | argument (fault : TypeFault)

def wants (f : Builtin) (wanted : Wanted) (v : Value) : Except Fault Value :=
  .error (.argument (.argument f.name wanted v.kind))

def overflow : Except Fault Value := .error (.call (.arithmetic .durationOverflow))

def absolute : Value → Except Fault Value
  | .integer n =>
    if n = Int64.minValue then .error (.call (.arithmetic .absOverflow))
    else .ok (.integer (if n < 0 then -n else n))
  | .double x => .ok (.double x.abs)
  | .duration d =>
    if d.amount < 0 then
      match d.neg? with
      | some d => .ok (.duration d)
      | none => overflow
    else .ok (.duration d)
  | v => abs.wants .numberOrDuration v

/-- The number of characters of a string or items of a list. -/
def length : Value → Except Fault Value
  | .string s => .ok (.integer (Int64.ofNat s.length))
  | .list items => .ok (.integer (Int64.ofNat items.length))
  | v => len.wants .stringOrList v

def toText : Value → Value
  | .string s => .string s
  | v => .string v.text

/-- A double without its fraction. -/
def truncate (x : Float) : Float := if x < 0.0 then x.ceil else x.floor

def toInteger : Value → Except Fault Value
  | .integer n => .ok (.integer n)
  | .double x =>
    let whole := truncate x
    if !whole.isFinite || whole ≥ 9223372036854775808.0 || whole < -9223372036854775808.0 then
      .error (.call (.arithmetic (.notInteger x)))
    else .ok (.integer whole.toInt64)
  | .string s =>
    match Decimal.int64? (trimChars s.toList) with
    | some n => .ok (.integer n)
    | none => .error (.argument (.notInteger s))
  | v => int.wants .numberOrString v

def toDouble : Value → Except Fault Value
  | .integer n => .ok (.double (Word.toDouble n))
  | .double x => .ok (.double x)
  | .string s =>
    match Decimal.double? (trimChars s.toList) with
    | some x => .ok (.double x)
    | none => .error (.argument (.notDouble s))
  | v => double.wants .numberOrString v

/-- The milliseconds of a duration over `divisor`, as an integer. -/
def total (f : Builtin) (divisor : Int64) : Value → Except Fault Value
  | .duration d =>
    match d.toMillis? with
    | some n => .ok (.integer (n / divisor))
    | none => overflow
  | v => f.wants .duration v

def ofKey : Value → Except Fault Value
  | .string s => .ok (.selector (.key s))
  | v => key.wants .string v

def hasTag : Value → Except Fault Value
  | .string s =>
    if isName s then .ok (.selector (.hasTag s)) else .error (.argument (.notTagName s))
  | v => has.wants .string v

/-- One of two ordered values. -/
def pick (f : Builtin) (first : Ordering → Bool) (a b : Value) : Except Fault Value :=
  match Value.ordering a b with
  | some order => .ok (if first order then a else b)
  | none => .error (.call (.type (.unordered f.name a.kind b.kind)))

/-- What a function makes of its arguments. -/
def apply : Builtin → List Value → Except Fault Value
  | abs, [v] => absolute v
  | min, [a, b] => pick min Ordering.isLE a b
  | max, [a, b] => pick max Ordering.isGE a b
  | len, [v] => length v
  | str, [v] => .ok (toText v)
  | int, [v] => toInteger v
  | double, [v] => toDouble v
  | seconds, [v] => total seconds 1000 v
  | millis, [v] => total millis 1 v
  | key, [v] => ofKey v
  | has, [v] => hasTag v
  | f, vs => .error (.call (.arity f.name f.arity vs.length))

/-- The failure a fault comes to, given where the call and its first argument stand. -/
def Fault.at (call argument : Span) : Fault → Failure
  | .call cause => ⟨call, cause⟩
  | .argument fault => .type argument fault

end Builtin

end SeriesQuery
