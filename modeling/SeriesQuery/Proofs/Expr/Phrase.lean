/-
The grammar of queries, by levels. A phrase of level `n` is an expression
that holds together at least as tightly as level `n`; the levels are those
of the operators.

  level 0       Expr = Let | Or
                Let  = 'let' name '=' Expr ';' Expr
  level 1       Or   = And | Or 'or' And
  level 2       And  = Cmp | And 'and' Cmp
  level 3       Cmp  = Add | name tagop Add | Cmp cmpop Add
  level 4       Add  = Mul | Add ('+' | '-') Mul
  level 5       Mul  = Pre | Mul ('*' | '/') Pre
  level 6       Pre  = ('-' | '!' | 'not') Pre | Prim
  level 7       Prim = literal | name | '+' name | '(' Expr ')'
                     | name '(' Seq? ')' | name? '{' Seq? '}' | '[' Seq? ']'
  oneOrMore     Seq  = Expr | Expr ',' Seq
  anyNumber     Seq?

A phrase is a derivation: `kinds` are the tokens it derives and `tree` is
the tree it stands for, without places. `nesting` is the depth the limit
has to allow for reading it; `spine` counts the operators that are taken
one after the other at its top.
-/
import SeriesQuery.Proofs.Expr.Bare
import SeriesQuery.Expr.Parse

namespace SeriesQuery

/-! ## Tokens of operators and literals -/

/-- The token a binary operator is written with. -/
def BinaryOp.kind : BinaryOp → Token.Kind
  | add => .symbol .plus
  | sub => .symbol .minus
  | mul => .symbol .star
  | div => .symbol .slash
  | eq => .symbol .equal
  | notEq => .symbol .notEqual
  | less => .symbol .less
  | lessEq => .symbol .lessEqual
  | greater => .symbol .greater
  | greaterEq => .symbol .greaterEqual
  | and => .word "and"
  | or => .word "or"

def TagOp.kind : TagOp → Token.Kind
  | equal => .symbol .assign
  | matching => .symbol .matching
  | startsWith => .symbol .caret

def Literal.kind : Literal → Token.Kind
  | integer n => .integer n
  | double x => .double x
  | duration d => .duration d
  | string s => .string s
  | regex p => .regex p
  | boolean b => .word (if b then "true" else "false")

/-- The ways to write a unary operator. -/
inductive Sign
  | minus | bang | not
  deriving DecidableEq, Repr

namespace Sign

def op : Sign → UnaryOp
  | minus => .negate
  | bang => .not
  | not => .not

def kind : Sign → Token.Kind
  | minus => .symbol .minus
  | bang => .symbol .bang
  | not => .word "not"

end Sign

/-- The symbols that end a list of items. -/
def Symbol.closes : Symbol → Bool
  | rightParen | rightBracket | rightBrace => true
  | _ => false

def Token.Kind.closes : Token.Kind → Bool
  | symbol s => s.closes
  | _ => false

/-- A word that is not reserved. -/
abbrev Name := { s : String // isReserved s = false }

def Name.kind (n : Name) : Token.Kind := .word n.1

/-! ## Phrases -/

inductive Category
  | atLeast (level : Nat)
  | oneOrMore
  | anyNumber

open Category

inductive Phrase : Category → Type
  | letIn {n : Nat} (top : n = Level.letBody) (name : Name) (value body : Phrase (atLeast n)) :
      Phrase (atLeast n)
  /-- What holds together more tightly will do. -/
  | lift {n : Nat} (p : Phrase (atLeast (n + 1))) : Phrase (atLeast n)
  | binary {n : Nat} (op : BinaryOp) (at_ : op.level = n) (left : Phrase (atLeast n))
      (right : Phrase (atLeast (n + 1))) : Phrase (atLeast n)
  | tagged {n : Nat} (comparison : n = Level.comparison) (name : Name) (op : TagOp)
      (value : Phrase (atLeast (n + 1))) : Phrase (atLeast n)
  | signed {n : Nat} (unary : n = Level.unary) (sign : Sign) (operand : Phrase (atLeast n)) :
      Phrase (atLeast n)
  | literal {n : Nat} (primary : n = Level.primary) (v : Literal) : Phrase (atLeast n)
  | reference {n : Nat} (primary : n = Level.primary) (name : Name) : Phrase (atLeast n)
  | hasTag {n : Nat} (primary : n = Level.primary) (tag : Name) : Phrase (atLeast n)
  | group {n : Nat} (primary : n = Level.primary) (inner : Phrase (atLeast Level.letBody)) :
      Phrase (atLeast n)
  | call {n : Nat} (primary : n = Level.primary) (name : Name) (args : Phrase anyNumber) :
      Phrase (atLeast n)
  | selector {n : Nat} (primary : n = Level.primary) (key : Option Name)
      (filters : Phrase anyNumber) : Phrase (atLeast n)
  | list {n : Nat} (primary : n = Level.primary) (elements : Phrase anyNumber) : Phrase (atLeast n)
  | one (p : Phrase (atLeast Level.letBody)) : Phrase oneOrMore
  | more (p : Phrase (atLeast Level.letBody)) (rest : Phrase oneOrMore) : Phrase oneOrMore
  | none : Phrase anyNumber
  | some (p : Phrase oneOrMore) : Phrase anyNumber

/-- What a phrase stands for: one tree, or some trees in order. -/
@[reducible] def Category.Tree : Category → Type
  | atLeast _ => Expr
  | oneOrMore => List Expr
  | anyNumber => List Expr

namespace Phrase

open SeriesQuery.Expr (nowhere)

/-- The tokens of a phrase. -/
def kinds : {c : Category} → Phrase c → List Token.Kind
  | _, letIn _ name v b =>
    .word "let" :: name.kind :: .symbol .assign :: (v.kinds ++ .symbol .semicolon :: b.kinds)
  | _, lift p => p.kinds
  | _, binary op _ l r => l.kinds ++ op.kind :: r.kinds
  | _, tagged _ name op v => name.kind :: op.kind :: v.kinds
  | _, signed _ s p => s.kind :: p.kinds
  | _, literal _ v => [v.kind]
  | _, reference _ name => [name.kind]
  | _, hasTag _ tag => [.symbol .plus, tag.kind]
  | _, group _ p => .symbol .leftParen :: (p.kinds ++ [.symbol .rightParen])
  | _, call _ name args =>
    name.kind :: .symbol .leftParen :: (args.kinds ++ [.symbol .rightParen])
  | _, selector _ key filters =>
    key.toList.map Name.kind ++ .symbol .leftBrace :: (filters.kinds ++ [.symbol .rightBrace])
  | _, list _ p => .symbol .leftBracket :: (p.kinds ++ [.symbol .rightBracket])
  | _, one p => p.kinds
  | _, more p rest => p.kinds ++ .symbol .comma :: rest.kinds
  | _, none => []
  | _, some p => p.kinds

/-- The tree of a phrase, at no place. -/
def tree : {c : Category} → Phrase c → c.Tree
  | _, letIn _ name v b => Expr.letIn nowhere name.1 v.tree b.tree
  | _, lift p => p.tree
  | _, binary op _ l r => Expr.binary nowhere op nowhere l.tree r.tree
  | _, tagged _ name op v => Expr.tagFilter nowhere name.1 op v.tree
  | _, signed _ s p => Expr.unary nowhere s.op nowhere p.tree
  | _, literal _ v => Expr.literal nowhere v
  | _, reference _ name => Expr.reference nowhere name.1
  | _, hasTag _ tag => Expr.hasTag nowhere tag.1
  | _, group _ p => Expr.group nowhere p.tree
  | _, call _ name args => Expr.call nowhere name.1 args.tree
  | _, selector _ key filters => Expr.selector nowhere (key.map (·.1)) filters.tree
  | _, list _ p => Expr.list nowhere p.tree
  | _, one p => [p.tree]
  | _, more p rest => p.tree :: rest.tree
  | _, none => []
  | _, some p => p.tree

/-- The operators at the top of a phrase that are taken in a chain. -/
def spine : {c : Category} → Phrase c → Nat
  | _, lift p => p.spine
  | _, binary _ _ l _ => l.spine + 1
  | _, tagged _ _ _ _ => 1
  | _, _ => 0

/-- The least nesting limit that lets the phrase be read. An operand on the right stands below the
operators taken before it and its own. -/
def nesting : {c : Category} → Phrase c → Nat
  | _, letIn _ _ v b => max v.nesting b.nesting + 1
  | _, lift p => p.nesting
  | _, binary _ _ l r => max l.nesting (l.spine + r.nesting + 2)
  | _, tagged _ _ _ v => v.nesting + 2
  | _, signed _ _ p => p.nesting + 1
  | _, literal _ _ => 1
  | _, reference _ _ => 1
  | _, hasTag _ _ => 1
  | _, group _ p => p.nesting + 1
  | _, call _ _ args => args.nesting + 1
  | _, selector _ _ filters => filters.nesting + 1
  | _, list _ p => p.nesting + 1
  | _, one p => p.nesting
  | _, more p rest => max p.nesting rest.nesting
  | _, none => 0
  | _, some p => p.nesting

/-- A phrase starts with a token, and not with one that ends a list. -/
theorem kinds_eq_cons {c : Category} (p : Phrase c) (hc : c ≠ anyNumber) :
    ∃ k ks, p.kinds = k :: ks ∧ k.closes = false := by
  induction p with
  | letIn | tagged | reference | hasTag | group | call | list =>
    exact ⟨_, _, rfl, rfl⟩
  | signed _ sign => cases sign <;> exact ⟨_, _, rfl, rfl⟩
  | literal _ v => cases v <;> exact ⟨_, _, rfl, rfl⟩
  | selector _ key => cases key <;> exact ⟨_, _, rfl, rfl⟩
  | lift p ih => exact ih (by simp)
  | one p ih => exact ih (by simp)
  | binary op _ l r ih =>
    obtain ⟨k, ks, hl, hk⟩ := ih (by simp)
    exact ⟨k, _, by rw [kinds, hl, List.cons_append], hk⟩
  | more p rest ih =>
    obtain ⟨k, ks, hp, hk⟩ := ih (by simp)
    exact ⟨k, _, by rw [kinds, hp, List.cons_append], hk⟩
  | none => exact absurd rfl hc
  | some p ih => exact absurd rfl hc

theorem nesting_pos {n : Nat} (p : Phrase (atLeast n)) : 0 < p.nesting := by
  generalize hc : atLeast n = c at p
  induction p generalizing n with
  | lift p ih => exact ih rfl
  | binary => simp only [nesting]; omega
  | one | more | none | some => cases hc
  | _ => simp [nesting]

end Phrase

/-- The tokens are those of an expression. -/
def Sentence (kinds : List Token.Kind) : Prop := ∃ p : Phrase (atLeast Level.letBody), p.kinds = kinds

end SeriesQuery
