/-
Expressions as requests: a write of the one series an expression names, or
a request about the series its filter selects.
-/
import SeriesQuery.Expr.Filter
import SeriesQuery.Request

namespace SeriesQuery.Expr

variable [PatternEngine]

/-- The request of a kind that an expression describes, in a range and up to a limit. -/
def request (scope : Scope) (kind : RequestKind) (range : TimeRange) (limit : Option Nat)
    (e : Expr) : Except Failure Request :=
  let selecting (make : Selection → Request) : Except Failure Request := do
    let f ← e.filter scope
    .ok (make ⟨f, range, limit⟩)
  match kind with
  | .write => do
    let s ← e.series scope
    .ok (.write s range)
  | .findTags => selecting .findTags
  | .findSeries => selecting .findSeries
  | .findSeriesIds => selecting .findSeriesIds
  | .countSeries => selecting .countSeries
  | .deleteSeries => selecting .deleteSeries
  | .findKeys => selecting .findKeys

end SeriesQuery.Expr
