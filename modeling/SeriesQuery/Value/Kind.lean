/-
The kinds of value, by which operators decide what they apply to.
-/
namespace SeriesQuery

inductive ValueKind
  | integer | double | duration | string | boolean | list | selector
  deriving DecidableEq, Repr

def ValueKind.name : ValueKind → String
  | integer => "integer"
  | double => "double"
  | duration => "duration"
  | string => "string"
  | boolean => "boolean"
  | list => "list"
  | selector => "selector"

end SeriesQuery
