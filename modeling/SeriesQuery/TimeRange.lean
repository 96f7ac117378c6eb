/-
Closed ranges of time, in milliseconds. `ofBounds?` is the way to make one
from bounds that may be in the wrong order.
-/
import SeriesQuery.Json
import SeriesQuery.Duration

namespace SeriesQuery

structure TimeRange where
  start : Int64
  stop : Int64
  deriving DecidableEq, Repr

namespace TimeRange

def ordered (r : TimeRange) : Bool := r.start ≤ r.stop

/-- The range between two bounds, unless the first lies after the second. -/
def ofBounds? (start stop : Int64) : Option TimeRange :=
  if start ≤ stop then some ⟨start, stop⟩ else none

/-- What is said about bounds in the wrong order. -/
def invalidRange (start stop : Int64) : String :=
  s!"Invalid date range [{start.toInt}, {stop.toInt}]: start must not be after end"

/-- The nearest 64-bit integer. -/
def clamp (n : Int) : Int64 := Int64.ofInt (max Word.least (min Word.greatest n))

/-- The range that ends at `stop` and reaches back `lookback` milliseconds, as far as there are
times. A negative lookback counts as none. -/
def endingAt (stop lookback : Int64) : TimeRange :=
  ⟨clamp (stop.toInt - max lookback.toInt 0), stop⟩

def overlaps (a b : TimeRange) : Bool := a.start ≤ b.stop && b.start ≤ a.stop

/-- The least range covering both. -/
def join (a b : TimeRange) : TimeRange := ⟨min a.start b.start, max a.stop b.stop⟩

def toJson (r : TimeRange) : Json :=
  .object [("start", .integer r.start.toInt), ("end", .integer r.stop.toInt)]

/-- Reads a range. The order of the bounds is not checked. -/
def ofJson? (j : Json) : Option TimeRange := do
  match ← j.record? ["start", "end"] with
  | [some start, some stop] => some ⟨← start.int64?, ← stop.int64?⟩
  | _ => none

end TimeRange

end SeriesQuery
