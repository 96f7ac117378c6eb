/-
Named counters, as answers carry them.
-/
import SeriesQuery.Json
import SeriesQuery.SortedMap

namespace SeriesQuery

abbrev Counters := SortedMap Nat

namespace Counters

/-- A single counter. -/
def single (name : String) (n : Nat) : Counters := SortedMap.empty.insert name n

def toJson (c : Counters) : Json := .object (c.toList.map fun (name, n) => (name, .natural n))

/-- Reads counters: an object of counts. -/
def ofJson? (j : Json) : Option Counters := do
  let fields ← j.object?
  let entries ← fields.mapM fun (name, v) => v.count?.map (name, ·)
  some (SortedMap.ofList entries)

/-- Counters that may be missing, but not null. -/
def optional? : Option Json → Option Counters
  | none => some .empty
  | some j => ofJson? j

end Counters

end SeriesQuery
