/-
Requests to a store of series: write one series, or do something with the
series a filter and a range select. As JSON a request is a record tagged by
its kind.
-/
import SeriesQuery.Filter.Json
import SeriesQuery.TimeRange

namespace SeriesQuery

variable [PatternEngine]

inductive RequestKind
  | write | findTags | findSeries | findSeriesIds | countSeries | deleteSeries | findKeys
  deriving DecidableEq, Repr

namespace RequestKind

def all : List RequestKind :=
  [write, findTags, findSeries, findSeriesIds, countSeries, deleteSeries, findKeys]

def name : RequestKind → String
  | write => "write"
  | findTags => "find-tags"
  | findSeries => "find-series"
  | findSeriesIds => "find-series-ids"
  | countSeries => "count-series"
  | deleteSeries => "delete-series"
  | findKeys => "find-keys"

def ofName? (name : String) : Option RequestKind := all.find? fun k => k.name == name

/-- What is said about a name that is no kind. -/
def unknown (name : String) : String :=
  s!"unknown request kind '{name}', expected one of: "
    ++ String.intercalate ", " (all.map RequestKind.name)

/-- Reads the name of a kind. -/
def ofJson? (j : Json) : Option RequestKind := j.choice?.bind ofName?

end RequestKind

/-- Which stored series a request works on, and at most how many of them. -/
structure Selection where
  filter : Filter
  range : TimeRange
  limit : Option Nat

namespace Selection

def jsonFields (s : Selection) : List (String × Json) :=
  [("filter", s.filter.toJson), ("range", s.range.toJson)]
    ++ (s.limit.map fun n => ("limit", Json.natural n)).toList

/-- Reads the fields of a selection, which lie in another record. -/
def ofJson? (j : Json) : Option Selection := do
  match ← j.record? ["filter", "range", "limit"] with
  | [some filter, some range, limit] =>
    some ⟨← Filter.ofJson? true filter, ← TimeRange.ofJson? range, ← Json.optionalCount? limit⟩
  | _ => none

end Selection

inductive Request
  | write (series : Series) (range : TimeRange)
  | findTags (selection : Selection)
  | findSeries (selection : Selection)
  | findSeriesIds (selection : Selection)
  | countSeries (selection : Selection)
  | deleteSeries (selection : Selection)
  | findKeys (selection : Selection)

namespace Request

def kind : Request → RequestKind
  | write _ _ => .write
  | findTags _ => .findTags
  | findSeries _ => .findSeries
  | findSeriesIds _ => .findSeriesIds
  | countSeries _ => .countSeries
  | deleteSeries _ => .deleteSeries
  | findKeys _ => .findKeys

def jsonFields : Request → List (String × Json)
  | write s r => [("series", s.toJson), ("range", r.toJson)]
  | findTags s | findSeries s | findSeriesIds s | countSeries s | deleteSeries s | findKeys s =>
    s.jsonFields

def toJson (r : Request) : Json := .object (("request", .string r.kind.name) :: r.jsonFields)

/-- Reads a series and a range. -/
def writeOfJson? (j : Json) : Option Request := do
  match ← j.record? ["series", "range"] with
  | [some series, some range] => some (write (← Series.ofJson? series) (← TimeRange.ofJson? range))
  | _ => none

/-- Reads a request. Neither the series nor the order of the range's bounds is checked. -/
def ofJson? (j : Json) : Option Request := do
  let (label, rest) ← j.tagged? "request"
  match ← RequestKind.ofName? (← label.string?) with
  | .write => writeOfJson? rest
  | .findTags => (Selection.ofJson? rest).map findTags
  | .findSeries => (Selection.ofJson? rest).map findSeries
  | .findSeriesIds => (Selection.ofJson? rest).map findSeriesIds
  | .countSeries => (Selection.ofJson? rest).map countSeries
  | .deleteSeries => (Selection.ofJson? rest).map deleteSeries
  | .findKeys => (Selection.ofJson? rest).map findKeys

end Request

end SeriesQuery
