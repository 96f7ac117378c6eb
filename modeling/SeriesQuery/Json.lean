/-
JSON values. Objects keep their fields in order. A number is an integer or
a double; which of the two is part of the value.
-/
import SeriesQuery.Word

namespace SeriesQuery

inductive Json
  | null
  | boolean (b : Bool)
  | integer (n : Int)
  | double (x : Float)
  | string (s : String)
  | array (items : List Json)
  | object (fields : List (String × Json))
  deriving Inhabited

namespace Json

def natural (n : Nat) : Json := integer n

def strings (items : List String) : Json := array (items.map string)

mutual

/-- How deep a value is nested; one without parts counts one. -/
def depth : Json → Nat
  | array items => depthItems items + 1
  | object fields => depthFields fields + 1
  | _ => 1

def depthItems : List Json → Nat
  | [] => 0
  | j :: items => max (depth j) (depthItems items)

def depthFields : List (String × Json) → Nat
  | [] => 0
  | (_, j) :: fields => max (depth j) (depthFields fields)

end

/-! ## Reading values out of JSON -/

def boolean? : Json → Option Bool
  | boolean b => some b
  | _ => none

def string? : Json → Option String
  | string s => some s
  | _ => none

def integer? : Json → Option Int
  | integer n => some n
  | _ => none

def int64? (j : Json) : Option Int64 := j.integer?.bind int64OfInt?

def count? (j : Json) : Option Nat := j.integer?.bind countOfInt?

/-- A count that may be absent or null. -/
def optionalCount? : Option Json → Option (Option Nat)
  | none => some none
  | some null => some none
  | some j => j.count?.map some

def array? : Json → Option (List Json)
  | array items => some items
  | _ => none

def object? : Json → Option (List (String × Json))
  | object fields => some fields
  | _ => none

def field? (name : String) : Json → Option Json
  | object fields => fields.lookup name
  | _ => none

/-- The value of the field of a name, if there is such a field. There must not be two of them. -/
def once? (name : String) (fields : List (String × Json)) : Option (Option Json) :=
  match fields.filter (·.1 == name) with
  | [] => some none
  | [(_, j)] => some (some j)
  | _ => none

/-- The values of a record's fields, each present or not: by name from an object, whose other
fields are ignored, or by position from an array, which may be shorter but not longer. -/
def record? (names : List String) : Json → Option (List (Option Json))
  | object fields => names.mapM fun name => once? name fields
  | array items =>
    if items.length ≤ names.length then
      some (items.map some ++ List.replicate (names.length - items.length) none)
    else none
  | _ => none

/-- The tag of a tagged record, and the rest of it: from an object the field of that name, from an
array the first item. -/
def tagged? (tag : String) : Json → Option (Json × Json)
  | object fields =>
    (once? tag fields).join.map fun t => (t, object (fields.filter (·.1 ≠ tag)))
  | array (t :: items) => some (t, array items)
  | _ => none

/-- The name of a choice without data: a string, or an object of that one name with a null. -/
def choice? : Json → Option String
  | string s => some s
  | object [(name, null)] => some name
  | _ => none

end Json

end SeriesQuery
