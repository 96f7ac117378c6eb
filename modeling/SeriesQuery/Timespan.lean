/-
Lengths of time in nanoseconds, as settings give them. They are read from
amounts with units, such as `1h 30m`, and shown in the same way by `words`
or as one number by `short`.
-/
import SeriesQuery.Decimal.Read
import SeriesQuery.Text.Blank

namespace SeriesQuery

structure Timespan where
  nanoseconds : Nat
  deriving DecidableEq, Repr

namespace Timespan

def nanosPerSecond : Nat := 1000000000

def ofSeconds (n : Nat) : Timespan := ⟨n * nanosPerSecond⟩

def seconds (t : Timespan) : Nat := t.nanoseconds / nanosPerSecond

/-- The nanoseconds past the last whole second. -/
def fraction (t : Timespan) : Nat := t.nanoseconds % nanosPerSecond

def milliseconds (t : Timespan) : Nat := t.nanoseconds / 1000000

/-! ## Reading -/

/-- The seconds of a unit of time, or the nanoseconds of a shorter one. -/
inductive Scale
  | seconds (n : Nat)
  | nanoseconds (n : Nat)

/-- A month is a twelfth of a year, less a few minutes; a year is 365 days and a quarter. -/
def scale? : String → Option Scale
  | "nanos" | "nsec" | "ns" => some (.nanoseconds 1)
  | "usec" | "us" | "µs" => some (.nanoseconds 1000)
  | "millis" | "msec" | "ms" => some (.nanoseconds 1000000)
  | "seconds" | "second" | "secs" | "sec" | "s" => some (.seconds 1)
  | "minutes" | "minute" | "min" | "mins" | "m" => some (.seconds 60)
  | "hours" | "hour" | "hrs" | "hr" | "h" => some (.seconds 3600)
  | "days" | "day" | "d" => some (.seconds 86400)
  | "weeks" | "week" | "wks" | "wk" | "w" => some (.seconds 604800)
  | "months" | "month" | "M" => some (.seconds 2630016)
  | "years" | "year" | "yrs" | "yr" | "y" => some (.seconds 31557600)
  | _ => none

/-- A number of 64 bits. -/
def fit? (n : Nat) : Option Nat := if n < Word.size then some n else none

/-- The length made longer, as long as its seconds and the nanoseconds on the way fit. -/
def extend? (t : Timespan) (seconds nanos : Nat) : Option Timespan := do
  let _ ← fit? (t.fraction + nanos)
  let total := t.nanoseconds + seconds * nanosPerSecond + nanos
  let _ ← fit? (total / nanosPerSecond)
  some ⟨total⟩

/-- The length made longer by an amount of a unit. -/
def addAmount? (t : Timespan) (n : Nat) : Scale → Option Timespan
  | .seconds k => do t.extend? (← fit? (n * k)) 0
  | .nanoseconds k => do t.extend? 0 (← fit? (n * k))

/-- A quotient of a number that fits, when nothing is left over. -/
def quotient? (dividend divisor : Nat) : Option Nat := do
  let n ← fit? dividend
  if n % divisor = 0 then some (n / divisor) else none

/-- The length made longer by a part of a unit. A part of an hour or more is of whole seconds, a
part of less of whole nanoseconds, of which there are no parts. -/
def addPart? (t : Timespan) (numerator denominator : Nat) : Scale → Option Timespan
  | .nanoseconds k =>
    if k = 1 then none else do t.extend? 0 (← quotient? (numerator * k) denominator)
  | .seconds k =>
    if k < 3600 then do t.extend? 0 (← quotient? (numerator * (k * nanosPerSecond)) denominator)
    else do t.extend? (← quotient? (numerator * k) denominator) 0

def isUnitChar (c : Char) : Bool := c.isAlpha || c = 'µ'

/-- Digits, between which there may be blanks, without the blanks. -/
def digits (cs : List Char) : List Char × List Char :=
  let (run, rest) := cs.span fun c => c.isDigit || isBlank c
  (run.filter Char.isDigit, rest)

/-- Digits behind a point, or none when there is no point. -/
def decimals? : List Char → Option (List Char × List Char)
  | '.' :: cs =>
    match digits cs with
    | ([], _) => none
    | (ds, rest) => some (ds, rest)
  | cs => some ([], cs)

/-- One amount with its unit, added to a length. -/
def amount? (t : Timespan) (cs : List Char) : Option (Timespan × List Char) := do
  let (whole, cs) := digits cs
  let n ← fit? (Decimal.digitsValue whole)
  let (part, cs) ← decimals? cs
  let (unit, cs) := cs.span isUnitChar
  let scale ← scale? (String.ofList unit)
  let t ← t.addAmount? n scale
  if part.isEmpty then some (t, cs)
  else do
    let denominator ← fit? (Nat.pow 10 part.length)
    some (← t.addPart? (Decimal.digitsValue part) denominator scale, cs)

/-- Amounts with their units, each starting with a digit. -/
def amounts? : Nat → Timespan → List Char → Option Timespan
  | 0, _, _ => none
  | fuel + 1, t, cs =>
    match cs.dropWhile isBlank with
    | [] => some t
    | c :: cs => do
      if !c.isDigit then none
      let (t, cs) ← amount? t (c :: cs)
      amounts? fuel t cs

/-- The length a text gives: amounts with units, of which there is at least one, or a bare zero. -/
def ofText? (text : String) : Option Timespan :=
  let cs := text.toList
  if text = "0" then some ⟨0⟩
  else if (cs.dropWhile isBlank).isEmpty then none
  else amounts? (cs.length + 1) ⟨0⟩ cs

/-! ## Showing -/

/-- An amount with its unit, unless it is zero. -/
def counted (n : Nat) (unit : String) : List String := if n = 0 then [] else [s!"{n}{unit}"]

/-- An amount of a unit with a plural, unless it is zero. -/
def countedPlural (n : Nat) (unit : String) : List String :=
  if n = 0 then [] else if n = 1 then [s!"1{unit}"] else [s!"{n}{unit}s"]

/-- The length in units from years to nanoseconds. -/
def words (t : Timespan) : String :=
  let years := t.seconds / 31557600
  let rest := t.seconds % 31557600
  let months := rest / 2630016
  let rest := rest % 2630016
  let days := rest / 86400
  let rest := rest % 86400
  if t.nanoseconds = 0 then "0s"
  else String.intercalate " " (
    countedPlural years "year" ++ countedPlural months "month" ++ countedPlural days "day"
      ++ counted (rest / 3600) "h" ++ counted (rest % 3600 / 60) "m" ++ counted (rest % 60) "s"
      ++ counted (t.fraction / 1000000) "ms" ++ counted (t.fraction / 1000 % 1000) "us"
      ++ counted (t.fraction % 1000) "ns")

/-- A number with `places` digits behind the point, without the zeros at its end. -/
def pointed (whole part places : Nat) : String :=
  let ds := Nat.toDigits 10 part
  let ds := List.replicate (places - ds.length) '0' ++ ds
  let ds := (ds.reverse.dropWhile (· == '0')).reverse
  if ds.isEmpty then toString whole else toString whole ++ "." ++ String.ofList ds

/-- The length as one number, in the largest unit up to seconds of which there is one. -/
def short (t : Timespan) : String :=
  if 0 < t.seconds then pointed t.seconds t.fraction 9 ++ "s"
  else if 1000000 ≤ t.nanoseconds then
    pointed (t.nanoseconds / 1000000) (t.nanoseconds % 1000000) 6 ++ "ms"
  else if 1000 ≤ t.nanoseconds then
    pointed (t.nanoseconds / 1000) (t.nanoseconds % 1000) 3 ++ "µs"
  else s!"{t.nanoseconds}ns"

end Timespan

end SeriesQuery
