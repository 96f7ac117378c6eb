/-
The names a tree refers to without binding them: references outside the
body of a `let` of that name, in the order of the text, each with its place.
-/
import SeriesQuery.Expr

namespace SeriesQuery.Expr

mutual

def freeNamesBelow (bound : List String) : Expr → List (String × Span)
  | literal _ _ => []
  | reference s name => if bound.contains name then [] else [(name, s)]
  | list _ items => freeNamesIn bound items
  | binary _ _ _ l r => freeNamesBelow bound l ++ freeNamesBelow bound r
  | unary _ _ _ a => freeNamesBelow bound a
  | group _ a => freeNamesBelow bound a
  | call _ _ args => freeNamesIn bound args
  | letIn _ name v b => freeNamesBelow bound v ++ freeNamesBelow (name :: bound) b
  | tagFilter _ _ _ v => freeNamesBelow bound v
  | hasTag _ _ => []
  | selector _ _ filters => freeNamesIn bound filters

def freeNamesIn (bound : List String) : List Expr → List (String × Span)
  | [] => []
  | e :: es => freeNamesBelow bound e ++ freeNamesIn bound es

end

def freeNames (e : Expr) : List (String × Span) := freeNamesBelow [] e

end SeriesQuery.Expr
