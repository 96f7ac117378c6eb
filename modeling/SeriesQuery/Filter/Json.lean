/-
Filters as JSON: a record tagged by the filter's kind. Reading refuses a
text that is no pattern.
-/
import SeriesQuery.Filter

namespace SeriesQuery.Filter

variable [PatternEngine]

mutual

def toJson : Filter → Json
  | always => .object [("type", .string "true")]
  | never => .object [("type", .string "false")]
  | all fs => .object [("type", .string "and"), ("filters", .array (toJsonList fs))]
  | any fs => .object [("type", .string "or"), ("filters", .array (toJsonList fs))]
  | not f => .object [("type", .string "not"), ("filter", toJson f)]
  | key k => .object [("type", .string "match_key"), ("key", .string k)]
  | tag t v => .object [("type", .string "match_tag"), ("tag", .string t), ("value", .string v)]
  | hasTag t => .object [("type", .string "has_tag"), ("tag", .string t)]
  | startsWith t v =>
    .object [("type", .string "starts_with"), ("tag", .string t), ("value", .string v)]
  | matching t p =>
    .object [("type", .string "regex"), ("tag", .string t), ("pattern", .string p.text)]

def toJsonList : List Filter → List Json
  | [] => []
  | f :: fs => toJson f :: toJsonList fs

end

/-- The kinds in order. Inside another record a kind may also be given by its place here. -/
def kinds : List String :=
  ["true", "false", "and", "or", "not", "match_key", "match_tag", "has_tag", "starts_with", "regex"]

def kind? (nested : Bool) : Json → Option String
  | .string s => some s
  | .integer n => if nested && 0 ≤ n then kinds[n.toNat]? else none
  | _ => none

/-- One text field. -/
def oneText? (name : String) (j : Json) : Option String := do
  match ← j.record? [name] with
  | [some a] => a.string?
  | _ => none

/-- Two text fields. -/
def twoTexts? (first second : String) (j : Json) : Option (String × String) := do
  match ← j.record? [first, second] with
  | [some a, some b] => some (← a.string?, ← b.string?)
  | _ => none

/-- Nothing but the tag; the other fields of an object are ignored. -/
def bare? (j : Json) : Option Unit := (j.record? []).map fun _ => ()

/-- The filter a JSON value describes, as far as filters are nested less than `fuel` deep. -/
def ofJsonWithin? : Nat → Bool → Json → Option Filter
  | 0, _, _ => none
  | fuel + 1, nested, j => do
    let (label, rest) ← j.tagged? "type"
    match ← kind? nested label with
    | "true" => (bare? rest).map fun _ => always
    | "false" => (bare? rest).map fun _ => never
    | "and" =>
      match ← rest.record? ["filters"] with
      | [some fs] => (← fs.array?).mapM (ofJsonWithin? fuel true) |>.map all
      | _ => none
    | "or" =>
      match ← rest.record? ["filters"] with
      | [some fs] => (← fs.array?).mapM (ofJsonWithin? fuel true) |>.map any
      | _ => none
    | "not" =>
      match ← rest.record? ["filter"] with
      | [some f] => (ofJsonWithin? fuel true f).map not
      | _ => none
    | "match_key" => (oneText? "key" rest).map key
    | "match_tag" => (twoTexts? "tag" "value" rest).map fun (t, v) => tag t v
    | "has_tag" => (oneText? "tag" rest).map hasTag
    | "starts_with" => (twoTexts? "tag" "value" rest).map fun (t, v) => startsWith t v
    | "regex" => (twoTexts? "tag" "pattern" rest).bind fun (t, p) => (matching? t p).toOption
    | _ => none

/-- The filter a JSON value describes. -/
def ofJson? (nested : Bool) (j : Json) : Option Filter := ofJsonWithin? j.depth nested j

end SeriesQuery.Filter
