/-
Trees as JSON: the place of each node, and a record of its parts tagged by
the kind of node.
-/
import SeriesQuery.Expr
import SeriesQuery.Json

namespace SeriesQuery

def Span.toJson (s : Span) : Json :=
  .object [("start", .natural s.start), ("end", .natural s.stop)]

/-- Reads a range of offsets. -/
def Span.ofJson? (j : Json) : Option Span := do
  match ← j.record? ["start", "end"] with
  | [some start, some stop] => some ⟨← start.count?, ← stop.count?⟩
  | _ => none

def Duration.toJson (d : Duration) : Json :=
  .object [("value", .integer d.amount.toInt), ("unit", .string d.unit.name)]

def TimeUnit.ofName? (name : String) : Option TimeUnit := all.find? fun u => u.name == name

/-- Reads a duration. -/
def Duration.ofJson? (j : Json) : Option Duration := do
  match ← j.record? ["value", "unit"] with
  | [some amount, some unit] => some ⟨← amount.int64?, ← TimeUnit.ofName? (← unit.choice?)⟩
  | _ => none

/-- The type and the value of a literal. -/
def Literal.jsonFields : Literal → List (String × Json)
  | integer n => [("type", .string "integer"), ("value", .integer n.toInt)]
  | double x => [("type", .string "double"), ("value", .double x)]
  | duration d => [("type", .string "duration"), ("value", d.toJson)]
  | string s => [("type", .string "string"), ("value", .string s)]
  | regex p => [("type", .string "regex"), ("value", .string p)]
  | boolean b => [("type", .string "boolean"), ("value", .boolean b)]

namespace Expr

/-- The record of one node. -/
def nodeJson (span : Span) (node : String) (fields : List (String × Json)) : Json :=
  .object [("context", span.toJson), ("kind", .object (("node", .string node) :: fields))]

mutual

def toJson : Expr → Json
  | literal s v => nodeJson s "literal" v.jsonFields
  | reference s name => nodeJson s "reference" [("name", .string name)]
  | list s items => nodeJson s "list" [("items", .array (toJsons items))]
  | binary s op opSpan l r =>
    nodeJson s "binary"
      [("op", .string op.name), ("operator_context", opSpan.toJson), ("left", toJson l),
       ("right", toJson r)]
  | unary s op opSpan a =>
    nodeJson s "unary"
      [("op", .string op.name), ("operator_context", opSpan.toJson), ("operand", toJson a)]
  | group s a => nodeJson s "group" [("inner", toJson a)]
  | call s f args => nodeJson s "call" [("name", .string f), ("args", .array (toJsons args))]
  | letIn s name v b =>
    nodeJson s "let" [("name", .string name), ("value", toJson v), ("body", toJson b)]
  | tagFilter s t op v =>
    nodeJson s "tag_filter" [("tag", .string t), ("op", .string op.name), ("value", toJson v)]
  | hasTag s t => nodeJson s "has_tag" [("tag", .string t)]
  | selector s key filters =>
    nodeJson s "selector"
      [("key", (key.map Json.string).getD .null), ("filters", .array (toJsons filters))]

def toJsons : List Expr → List Json
  | [] => []
  | e :: es => toJson e :: toJsons es

end

end Expr

end SeriesQuery
