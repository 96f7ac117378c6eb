/-
The settings of the program: the limits on queries, and the defaults of
requests. They come from built-in values, over which a TOML document and
then variables of the environment are laid. What does not fit the settings
in kind makes all of them unusable; names that are no settings are ignored.
-/
import SeriesQuery.Expr.Parse
import SeriesQuery.Json
import SeriesQuery.Settings.Variable
import SeriesQuery.Timespan
import SeriesQuery.Toml.Document

namespace SeriesQuery

structure Settings where
  limits : Limits
  /-- The limit of requests that do not give one. -/
  defaultLimit : Option Nat
  /-- The length of the range of requests that do not give one; it ends now. -/
  lookback : Timespan

namespace Settings

def default : Settings := ⟨Limits.default, some 1000, .ofSeconds 3600⟩

def toJson (s : Settings) : Json :=
  .object
    [("grammar", .object
      [("max_query_length", .natural s.limits.length),
       ("max_nesting_depth", .natural s.limits.nesting)]),
     ("compile", .object
      [("default_limit", (s.defaultLimit.map Json.natural).getD .null),
       ("lookback", .string s.lookback.words)])]

/-! ## Laying settings over each other -/

/-- The fields with one put in place, its value made of the one that was there. -/
def place (fields : List (String × Json)) (name : String) (value : Option Json → Json) :
    List (String × Json) :=
  match fields.lookup name with
  | none => fields ++ [(name, value none)]
  | some under => fields.map fun f => if f.1 == name then (name, value (some under)) else f

mutual

/-- One value over another: objects field by field, anything else in place of what was there. -/
def merge (under : Option Json) : Json → Json
  | .object upper =>
    match under with
    | some (.object fields) => .object (mergeFields fields upper)
    | _ => .object upper
  | upper => upper

def mergeFields (fields : List (String × Json)) : List (String × Json) → List (String × Json)
  | [] => fields
  | (name, upper) :: rest =>
    mergeFields (place fields name fun under => merge under upper) rest

end

/-! ## Reading -/

/-- The values of a record's fields: by name from an object, or by position from an array, which
has to hold them all and may hold more. -/
def record? (names : List String) : Json → Option (List (Option Json))
  | .object fields => some (names.map fun name => fields.lookup name)
  | .array items =>
    if names.length ≤ items.length then some ((items.take names.length).map some) else none
  | _ => none

def limitsOf? (j : Json) : Option Limits := do
  match ← record? ["max_query_length", "max_nesting_depth"] j with
  | [some length, some nesting] => some ⟨← length.count?, ← nesting.count?⟩
  | _ => none

def requestsOf? (j : Json) : Option (Option Nat × Timespan) := do
  match ← record? ["default_limit", "lookback"] j with
  | [limit, some lookback] =>
    some (← Json.optionalCount? limit, ← Timespan.ofText? (← lookback.string?))
  | _ => none

/-- The settings an object gives. A missing part has the built-in values. -/
def ofJson? (j : Json) : Option Settings := do
  let limits ←
    match j.field? "grammar" with
    | some part => limitsOf? part
    | none => some Limits.default
  let (limit, lookback) ←
    match j.field? "compile" with
    | some part => requestsOf? part
    | none => some (default.defaultLimit, default.lookback)
  some ⟨limits, limit, lookback⟩

/-- The settings with a document, if there is one, and the variables over the built-in ones. -/
def load? (document : Option String) (environment : List (String × String)) : Option Settings := do
  let document ←
    match document with
    | some text => Toml.document? text
    | none => some (.object [])
  let set := environment.filterMap fun (name, text) => ofVariable? name text
  ofJson? ((document :: set).foldl (fun under upper => merge (some under) upper) default.toJson)

/-! ## Showing and checking -/

/-- The settings as lines of text. -/
def text (s : Settings) : String :=
  String.intercalate "\n"
    ["SeriesQL Configuration:",
     "=======================",
     s!"Max query length: {s.limits.length} bytes",
     s!"Max nesting depth: {s.limits.nesting}",
     "Default limit: " ++ (s.defaultLimit.map toString).getD "unlimited",
     "Default lookback: " ++ s.lookback.short]

/-- Settings that no query or request could be served with. -/
inductive Fault
  | queryLength | nesting | defaultLimit | lookback
  deriving DecidableEq, Repr

def Fault.message : Fault → String
  | queryLength => "Max query length must be greater than zero"
  | nesting => "Max nesting depth must be greater than zero"
  | defaultLimit => "Default limit must be greater than zero when set"
  | lookback => "Lookback must be greater than zero"

/-- The first thing wrong with the settings. -/
def fault? (s : Settings) : Option Fault :=
  if s.limits.length = 0 then some .queryLength
  else if s.limits.nesting = 0 then some .nesting
  else if s.defaultLimit = some 0 then some .defaultLimit
  else if s.lookback.nanoseconds = 0 then some .lookback
  else none

end Settings

end SeriesQuery
