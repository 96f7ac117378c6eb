/-
Durations: a 64-bit amount of a unit of time. Two durations are compared by
their length in milliseconds, which is exact; arithmetic gives nothing when
an amount would not fit.
-/
import SeriesQuery.Decimal.Read

namespace SeriesQuery

inductive TimeUnit
  | milliseconds | seconds | minutes | hours | days | weeks
  deriving DecidableEq, Repr

namespace TimeUnit

/-- The unit of a literal's suffix. Hours are written in either case. -/
def ofSuffix? : String → Option TimeUnit
  | "ms" => some milliseconds
  | "s" => some seconds
  | "m" => some minutes
  | "h" | "H" => some hours
  | "d" => some days
  | "w" => some weeks
  | _ => none

def suffix : TimeUnit → String
  | milliseconds => "ms"
  | seconds => "s"
  | minutes => "m"
  | hours => "h"
  | days => "d"
  | weeks => "w"

def name : TimeUnit → String
  | milliseconds => "Milliseconds"
  | seconds => "Seconds"
  | minutes => "Minutes"
  | hours => "Hours"
  | days => "Days"
  | weeks => "Weeks"

def all : List TimeUnit := [milliseconds, seconds, minutes, hours, days, weeks]

/-- The milliseconds of one unit. -/
def millis : TimeUnit → Int
  | milliseconds => 1
  | seconds => 1000
  | minutes => 60000
  | hours => 3600000
  | days => 86400000
  | weeks => 604800000

/-- The finer of two units. -/
def finer (a b : TimeUnit) : TimeUnit := if a.millis ≤ b.millis then a else b

def compare (a b : TimeUnit) : Ordering := Ord.compare a.millis b.millis

end TimeUnit

structure Duration where
  amount : Int64
  unit : TimeUnit
  deriving DecidableEq, Repr

namespace Duration

def ofMillis (n : Int64) : Duration := ⟨n, .milliseconds⟩

/-- The exact length in milliseconds. -/
def magnitude (d : Duration) : Int := d.amount.toInt * d.unit.millis

/-- Equality of length: one minute is sixty seconds. -/
def same (a b : Duration) : Bool := a.magnitude == b.magnitude

def compare (a b : Duration) : Ordering := Ord.compare a.magnitude b.magnitude

/-- An amount of a unit, if it fits. -/
def ofInt? (n : Int) (unit : TimeUnit) : Option Duration := (int64OfInt? n).map (⟨·, unit⟩)

/-- The length in milliseconds, if it fits. -/
def toMillis? (d : Duration) : Option Int64 := int64OfInt? d.magnitude

/-- The duration in another unit, meant to be a finer one: the amount is multiplied by the whole
number of target units in one of its own. -/
def convert? (d : Duration) (unit : TimeUnit) : Option Duration :=
  if unit = d.unit then some d
  else ofInt? (d.amount.toInt * (d.unit.millis / unit.millis)) unit

/-- Both amounts in the finer of the two units, combined. -/
def combine? (op : Int → Int → Int) (a b : Duration) : Option Duration := do
  let unit := a.unit.finer b.unit
  let x ← a.convert? unit
  let y ← b.convert? unit
  ofInt? (op x.amount.toInt y.amount.toInt) unit

def add? (a b : Duration) : Option Duration := combine? (· + ·) a b

def sub? (a b : Duration) : Option Duration := combine? (· - ·) a b

def neg? (d : Duration) : Option Duration := ofInt? (-d.amount.toInt) d.unit

def mul? (d : Duration) (n : Int64) : Option Duration := ofInt? (d.amount.toInt * n.toInt) d.unit

/-- Division truncated toward zero: in the unit itself when it is exact, else in milliseconds. -/
def div? (d : Duration) (n : Int64) : Option Duration :=
  if n = 0 then none
  else if d.amount.toInt.tmod n.toInt = 0 then ofInt? (d.amount.toInt.tdiv n.toInt) d.unit
  else do
    let ms ← d.toMillis?
    ofInt? (ms.toInt.tdiv n.toInt) .milliseconds

/-- A number over a duration, read in the duration's unit: `60 / 2m` is `30m`. -/
def divInto? (n : Int64) (d : Duration) : Option Duration := div? ⟨n, d.unit⟩ d.amount

/-- The duration times a double, truncated to milliseconds. -/
def scale? (d : Duration) (factor : Float) : Option Duration := do
  let ms ← d.toMillis?
  let x := Word.toDouble ms * factor
  if !x.isFinite || x ≥ 9223372036854775808.0 || x ≤ -9223372036854775808.0 then none
  else some (ofMillis x.toInt64)

def text (d : Duration) : String := s!"{d.amount.toInt}{d.unit.suffix}"

end Duration

end SeriesQuery
