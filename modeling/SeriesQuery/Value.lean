/-
What expressions evaluate to. `text` shows a value the way queries write
it; `same` is equality of values part by part, doubles as numbers and
durations by their length.
-/
import SeriesQuery.Decimal.Text
import SeriesQuery.Expr.Json
import SeriesQuery.Filter.Json
import SeriesQuery.Filter.Order
import SeriesQuery.Filter.Query
import SeriesQuery.Value.Kind

namespace SeriesQuery

variable [PatternEngine]

inductive Value
  | integer (n : Int64)
  | double (x : Float)
  | duration (d : Duration)
  | string (s : String)
  | boolean (b : Bool)
  | list (items : List Value)
  /-- Which series are meant. -/
  | selector (filter : Filter)

namespace Value

def kind : Value → ValueKind
  | integer _ => .integer
  | double _ => .double
  | duration _ => .duration
  | string _ => .string
  | boolean _ => .boolean
  | list _ => .list
  | selector _ => .selector

mutual

def text : Value → String
  | integer n => toString n.toInt
  | double x => Decimal.text Decimal.query x
  | duration d => d.text
  | string s => quote s
  | boolean b => if b then "true" else "false"
  | list items => "[" ++ String.intercalate ", " (texts items) ++ "]"
  | selector f => f.query

def texts : List Value → List String
  | [] => []
  | v :: vs => text v :: texts vs

end

mutual

def same : Value → Value → Bool
  | integer a, integer b => a == b
  | double a, double b => a == b
  | duration a, duration b => a.same b
  | string a, string b => a == b
  | boolean a, boolean b => a == b
  | list as, list bs => sameItems as bs
  | selector f, selector g => f.same g
  | _, _ => false

def sameItems : List Value → List Value → Bool
  | [], [] => true
  | a :: as, b :: bs => same a b && sameItems as bs
  | _, _ => false

end

/-- A value in JSON, next to the name of its type. -/
def typed (type : String) (value : Json) : Json :=
  .object [("type", .string type), ("value", value)]

mutual

def toJson : Value → Json
  | integer n => typed "integer" (.integer n.toInt)
  | double x => typed "double" (.double x)
  | duration d => typed "duration" d.toJson
  | string s => typed "string" (.string s)
  | boolean b => typed "boolean" (.boolean b)
  | list items => typed "list" (.array (toJsons items))
  | selector f => typed "series_selector" f.toJson

def toJsons : List Value → List Json
  | [] => []
  | v :: vs => toJson v :: toJsons vs

end

end Value

end SeriesQuery
