/-
Tables under construction. A table may be opened once by a header; it may
also come about because a header or a key with dots leads through it, and
what may be added later depends on which of these it was. Nothing is ever
given twice.
-/
import SeriesQuery.Json

namespace SeriesQuery.Toml

/-- How a table came about. -/
inductive Origin
  /-- By a header of its own. -/
  | header
  /-- By the header of a table inside it. -/
  | inner
  /-- By a key with dots. -/
  | dotted
  deriving DecidableEq, Repr

inductive Item
  | value (j : Json)
  | table (origin : Origin) (entries : List (String × Item))
  /-- Tables opened one after the other by headers of one name. -/
  | tables (items : List (List (String × Item)))

abbrev Entries := List (String × Item)

namespace Entries

/-- The entries with another item under a name they have. -/
def replace (name : String) (item : Item) (entries : Entries) : Entries :=
  entries.map fun e => if e.1 == name then (name, item) else e

/-- The entries with another table in place of the last of some. -/
def replaceLast (name : String) (tables : List Entries) (last : Entries) (entries : Entries) :
    Entries :=
  entries.replace name (.tables (tables.dropLast ++ [last]))

/-- Changes the table that a path of headers leads to. -/
def modifyAt (change : Entries → Option Entries) : List String → Entries → Option Entries
  | [], entries => change entries
  | name :: path, entries =>
    match List.lookup name entries with
    | some (.table origin inside) =>
      (modifyAt change path inside).map fun inside => entries.replace name (.table origin inside)
    | some (.tables items) =>
      (modifyAt change path (items.getLast?.getD [])).map fun last =>
        entries.replaceLast name items last
    | _ => none

/-- Opens what the last name of a header stands for, on the way making the tables it leads
through. -/
def openAt (make : String → Entries → Option Entries) : List String → Entries → Option Entries
  | [], _ => none
  | [name], entries => make name entries
  | name :: path, entries =>
    match List.lookup name entries with
    | none => (openAt make path []).map fun inside => entries ++ [(name, .table .inner inside)]
    | some (.table origin inside) =>
      (openAt make path inside).map fun inside => entries.replace name (.table origin inside)
    | some (.tables items) =>
      (openAt make path (items.getLast?.getD [])).map fun last =>
        entries.replaceLast name items last
    | some (.value _) => none

/-- Opens a table, which only a header inside it may have made before. -/
def openTable (name : String) (entries : Entries) : Option Entries :=
  match List.lookup name entries with
  | none => some (entries ++ [(name, .table .header [])])
  | some (.table .inner inside) => some (entries.replace name (.table .header inside))
  | _ => none

/-- Opens one more table of a name. -/
def openNext (name : String) (entries : Entries) : Option Entries :=
  match List.lookup name entries with
  | none => some (entries ++ [(name, .tables [[]])])
  | some (.tables items) => some (entries.replace name (.tables (items ++ [[]])))
  | _ => none

/-- Gives a key its value. With dots the key leads through tables that keys with dots made, or
that lie on the way to one. -/
def assign (value : Json) : List String → Entries → Option Entries
  | [], _ => none
  | [key], entries =>
    if (List.lookup key entries).isSome then none else some (entries ++ [(key, .value value)])
  | name :: path, entries =>
    match List.lookup name entries with
    | none => (assign value path []).map fun inside => entries ++ [(name, .table .dotted inside)]
    | some (.table origin inside) =>
      if origin = .header || (path.length = 1 && origin ≠ .dotted) then none
      else (assign value path inside).map fun inside => entries.replace name (.table origin inside)
    | some (.tables items) =>
      if path.length = 1 then none
      else
        (assign value path (items.getLast?.getD [])).map fun last =>
          entries.replaceLast name items last
    | some (.value _) => none

end Entries

mutual

def Item.toJson : Item → Json
  | .value j => j
  | .table _ entries => .object (fieldsOf entries)
  | .tables items => .array (objectsOf items)

def fieldsOf : List (String × Item) → List (String × Json)
  | [] => []
  | (name, item) :: rest => (name, item.toJson) :: fieldsOf rest

def objectsOf : List (List (String × Item)) → List Json
  | [] => []
  | entries :: rest => .object (fieldsOf entries) :: objectsOf rest

end

end SeriesQuery.Toml
