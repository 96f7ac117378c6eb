/-
The operators of the query language, how they are written, and how tightly
they bind. Levels go from `let`, which binds least, to primaries.
-/
namespace SeriesQuery

inductive BinaryOp
  | add | sub | mul | div
  | eq | notEq | less | lessEq | greater | greaterEq
  | and | or
  deriving DecidableEq, Repr

inductive UnaryOp
  | negate | not
  deriving DecidableEq, Repr

/-- Operators between a tag name and a text. -/
inductive TagOp
  | equal | matching | startsWith
  deriving DecidableEq, Repr

namespace Level

def letBody : Nat := 0
def disjunction : Nat := 1
def conjunction : Nat := 2
/-- Comparisons and tag filters. -/
def comparison : Nat := 3
def additive : Nat := 4
def multiplicative : Nat := 5
def unary : Nat := 6
def primary : Nat := 7

end Level

namespace BinaryOp

def symbol : BinaryOp → String
  | add => "+"
  | sub => "-"
  | mul => "*"
  | div => "/"
  | eq => "=="
  | notEq => "!="
  | less => "<"
  | lessEq => "<="
  | greater => ">"
  | greaterEq => ">="
  | and => "and"
  | or => "or"

def level : BinaryOp → Nat
  | or => Level.disjunction
  | and => Level.conjunction
  | eq | notEq | less | lessEq | greater | greaterEq => Level.comparison
  | add | sub => Level.additive
  | mul | div => Level.multiplicative

/-- The operator's name in a syntax tree written as JSON. -/
def name : BinaryOp → String
  | add => "add"
  | sub => "sub"
  | mul => "mul"
  | div => "div"
  | eq => "eq"
  | notEq => "not_eq"
  | less => "less"
  | lessEq => "less_eq"
  | greater => "greater"
  | greaterEq => "greater_eq"
  | and => "and"
  | or => "or"

def all : List BinaryOp :=
  [add, sub, mul, div, eq, notEq, less, lessEq, greater, greaterEq, and, or]

end BinaryOp

namespace UnaryOp

def symbol : UnaryOp → String
  | negate => "-"
  | not => "!"

def name : UnaryOp → String
  | negate => "negate"
  | not => "not"

end UnaryOp

namespace TagOp

def symbol : TagOp → String
  | equal => "="
  | matching => "=~"
  | startsWith => "^"

def name : TagOp → String
  | equal => "equal"
  | matching => "match"
  | startsWith => "prefix"

def all : List TagOp := [equal, matching, startsWith]

end TagOp

end SeriesQuery
