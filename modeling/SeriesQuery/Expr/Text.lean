/-
Trees as query text. Parentheses come from group nodes; others are added
only around a part that holds together less tightly than its place asks
for, which no parsed tree has.
-/
import SeriesQuery.Decimal.Text
import SeriesQuery.Expr
import SeriesQuery.Text.Quoted

namespace SeriesQuery

/-- A pattern with its quotes escaped. -/
def escapeQuotes (pattern : String) : String :=
  String.ofList (pattern.toList.flatMap fun c => if c = '"' then ['\\', '"'] else [c])

def Literal.text : Literal → String
  | integer n => toString n.toInt
  | double x => Decimal.text Decimal.query x
  | duration d => d.text
  | string s => quote s
  | regex p => "r\"" ++ escapeQuotes p ++ "\""
  | boolean b => if b then "true" else "false"

namespace Expr

/-- A text in parentheses unless its level is at least the one asked for. -/
def atLevel (least level : Nat) (text : String) : String :=
  if level < least then "(" ++ text ++ ")" else text

mutual

/-- The text of a tree, which parses back to it. -/
def text : Expr → String
  | literal _ v => v.text
  | reference _ name => name
  | list _ items => "[" ++ String.intercalate ", " (texts items) ++ "]"
  | binary _ op _ l r =>
    atLevel op.level l.level (text l) ++ " " ++ op.symbol ++ " "
      ++ atLevel (op.level + 1) r.level (text r)
  | unary _ op _ a => op.symbol ++ atLevel Level.unary a.level (text a)
  | group _ a => "(" ++ text a ++ ")"
  | call _ f args => f ++ "(" ++ String.intercalate ", " (texts args) ++ ")"
  | letIn _ name v b => "let " ++ name ++ " = " ++ text v ++ "; " ++ text b
  | tagFilter _ t op v =>
    t ++ " " ++ op.symbol ++ " " ++ atLevel (Level.comparison + 1) v.level (text v)
  | hasTag _ t => "+" ++ t
  | selector _ key filters =>
    key.getD "" ++ "\x7b" ++ String.intercalate ", " (texts filters) ++ "\x7d"

def texts : List Expr → List String
  | [] => []
  | e :: es => text e :: texts es

end

end Expr

end SeriesQuery
