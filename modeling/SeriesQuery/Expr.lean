/-
Syntax trees. Every node knows the text it was read from, and an operator
node where its operator stands. `sameShape` compares trees without their
places; with the places, trees are compared by `same`.
-/
import SeriesQuery.Duration
import SeriesQuery.Expr.Operator
import SeriesQuery.Text.Span

namespace SeriesQuery

inductive Literal
  | integer (n : Int64)
  | double (x : Float)
  | duration (d : Duration)
  | string (s : String)
  /-- The text of a regular expression literal. -/
  | regex (pattern : String)
  | boolean (b : Bool)

/-- Equality of literals: doubles as numbers, durations by their length. -/
def Literal.same : Literal → Literal → Bool
  | integer a, integer b => a == b
  | double a, double b => a == b
  | duration a, duration b => a.same b
  | string a, string b => a == b
  | regex a, regex b => a == b
  | boolean a, boolean b => a == b
  | _, _ => false

inductive Expr
  | literal (span : Span) (value : Literal)
  | reference (span : Span) (name : String)
  | list (span : Span) (items : List Expr)
  | binary (span : Span) (op : BinaryOp) (opSpan : Span) (left right : Expr)
  | unary (span : Span) (op : UnaryOp) (opSpan : Span) (operand : Expr)
  /-- An expression in parentheses. -/
  | group (span : Span) (inner : Expr)
  | call (span : Span) (name : String) (args : List Expr)
  /-- `let name = value; body` -/
  | letIn (span : Span) (name : String) (value body : Expr)
  | tagFilter (span : Span) (tag : String) (op : TagOp) (value : Expr)
  /-- `+tag` -/
  | hasTag (span : Span) (tag : String)
  /-- Filters in braces, after a key or not. -/
  | selector (span : Span) (key : Option String) (filters : List Expr)

namespace Expr

def span : Expr → Span
  | literal s _ => s
  | reference s _ => s
  | list s _ => s
  | binary s _ _ _ _ => s
  | unary s _ _ _ => s
  | group s _ => s
  | call s _ _ => s
  | letIn s _ _ _ => s
  | tagFilter s _ _ _ => s
  | hasTag s _ => s
  | selector s _ _ => s

/-- How tightly the node holds together next to an operator. -/
def level : Expr → Nat
  | letIn _ _ _ _ => Level.letBody
  | binary _ op _ _ _ => op.level
  | tagFilter _ _ _ _ => Level.comparison
  | unary _ _ _ _ => Level.unary
  | _ => Level.primary

mutual

/-- Equality of trees apart from where they stand in a text. -/
def sameShape : Expr → Expr → Bool
  | literal _ a, literal _ b => a.same b
  | reference _ a, reference _ b => a == b
  | list _ a, list _ b => sameShapes a b
  | binary _ op _ l r, binary _ op' _ l' r' => op == op' && sameShape l l' && sameShape r r'
  | unary _ op _ a, unary _ op' _ b => op == op' && sameShape a b
  | group _ a, group _ b => sameShape a b
  | call _ f a, call _ g b => f == g && sameShapes a b
  | letIn _ n v b, letIn _ n' v' b' => n == n' && sameShape v v' && sameShape b b'
  | tagFilter _ t op v, tagFilter _ t' op' v' => t == t' && op == op' && sameShape v v'
  | hasTag _ t, hasTag _ t' => t == t'
  | selector _ k a, selector _ k' b => k == k' && sameShapes a b
  | _, _ => false

def sameShapes : List Expr → List Expr → Bool
  | [], [] => true
  | a :: as, b :: bs => sameShape a b && sameShapes as bs
  | _, _ => false

end

mutual

/-- The places of the nodes and operators, each node before its parts. -/
def spans : Expr → List Span
  | literal s _ => [s]
  | reference s _ => [s]
  | list s items => s :: spansOf items
  | binary s _ op l r => s :: op :: spans l ++ spans r
  | unary s _ op a => s :: op :: spans a
  | group s a => s :: spans a
  | call s _ args => s :: spansOf args
  | letIn s _ v b => s :: spans v ++ spans b
  | tagFilter s _ _ v => s :: spans v
  | hasTag s _ => [s]
  | selector s _ filters => s :: spansOf filters

def spansOf : List Expr → List Span
  | [] => []
  | e :: es => spans e ++ spansOf es

end

/-- Equality of trees with their places. -/
def same (a b : Expr) : Bool := a.sameShape b && a.spans == b.spans

mutual

/-- The number of nodes on the longest way from the root to a leaf. -/
def height : Expr → Nat
  | literal _ _ => 1
  | reference _ _ => 1
  | list _ items => heightOf items + 1
  | binary _ _ _ l r => max (height l) (height r) + 1
  | unary _ _ _ a => height a + 1
  | group _ a => height a + 1
  | call _ _ args => heightOf args + 1
  | letIn _ _ v b => max (height v) (height b) + 1
  | tagFilter _ _ _ v => height v + 1
  | hasTag _ _ => 1
  | selector _ _ filters => heightOf filters + 1

def heightOf : List Expr → Nat
  | [] => 0
  | e :: es => max (height e) (heightOf es)

end

end Expr

end SeriesQuery
