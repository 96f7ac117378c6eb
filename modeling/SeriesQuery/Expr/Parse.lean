/-
From tokens to trees, by precedence. An operator of level `n` takes what
stands left of it at power `2 n - 1` and asks for an operand of power `2 n`,
so that all operators associate to the left. `let` starts an expression
only where any expression may stand.

The nesting limit is a budget. Entering an expression takes one from it and
so does each operator of a chain; an expression gives back what it took. A
stream without an end token reads as if one stood, empty, at the end of the
last token taken.
-/
import SeriesQuery.Expr.Text
import SeriesQuery.Token.Scan

namespace SeriesQuery

/-- Bounds on what is parsed. -/
structure Limits where
  /-- The longest query, in bytes. -/
  length : Nat
  /-- The deepest nesting; operators in a chain count one each. -/
  nesting : Nat
  deriving DecidableEq, Repr

def Limits.default : Limits := ⟨16384, 128⟩

/-- The tokens not yet taken, and the end of the last one taken. -/
structure Cursor where
  rest : List (Except Failure Token)
  stop : Nat

namespace Cursor

def peek (c : Cursor) : Except Failure Token :=
  match c.rest with
  | [] => .ok ⟨.stop, .point c.stop⟩
  | item :: _ => item

def next (c : Cursor) : Except Failure (Token × Cursor) :=
  match c.rest with
  | [] => .ok (⟨.stop, .point c.stop⟩, c)
  | .ok t :: rest => .ok (t, ⟨rest, t.span.stop⟩)
  | .error f :: _ => .error f

end Cursor

/-- A failure of the grammar at a place. -/
def unexpected (span : Span) (expected : Expected) (found : Found) : Failure :=
  ⟨span, .parse expected found⟩

def Token.Kind.isSymbol (s : Symbol) : Token.Kind → Bool
  | .symbol s' => s == s'
  | _ => false

/-- What stands between two operands. -/
inductive Connective
  | binary (op : BinaryOp)
  | tag (op : TagOp)
  deriving DecidableEq, Repr

namespace Connective

def ofKind? : Token.Kind → Option Connective
  | .symbol .plus => some (binary .add)
  | .symbol .minus => some (binary .sub)
  | .symbol .star => some (binary .mul)
  | .symbol .slash => some (binary .div)
  | .symbol .equal => some (binary .eq)
  | .symbol .notEqual => some (binary .notEq)
  | .symbol .less => some (binary .less)
  | .symbol .lessEqual => some (binary .lessEq)
  | .symbol .greater => some (binary .greater)
  | .symbol .greaterEqual => some (binary .greaterEq)
  | .symbol .assign => some (tag .equal)
  | .symbol .matching => some (tag .matching)
  | .symbol .caret => some (tag .startsWith)
  | .word "and" => some (binary .and)
  | .word "or" => some (binary .or)
  | _ => none

def level : Connective → Nat
  | binary op => op.level
  | tag _ => Level.comparison

def leftPower (i : Connective) : Nat := 2 * i.level - 1

def rightPower (i : Connective) : Nat := 2 * i.level

end Connective

/-- The power a unary operator asks of its operand. -/
def unaryPower : Nat := 2 * Level.unary - 1

namespace Expr

/-- How an expression of at least some power is read. -/
abbrev Operand := Nat → Cursor → Except Failure (Expr × Cursor)

def expectSymbol (s : Symbol) (c : Cursor) : Except Failure (Token × Cursor) := do
  let (t, c) ← c.next
  if t.kind.isSymbol s then .ok (t, c)
  else .error (unexpected t.span (.symbol s) (.token t.kind))

/-- A name: a word that is not reserved. -/
def expectName (expected : Expected) (c : Cursor) : Except Failure ((String × Span) × Cursor) := do
  let (t, c) ← c.next
  match t.kind with
  | .word name =>
    if isReserved name then .error (unexpected t.span expected (.reserved name))
    else .ok ((name, t.span), c)
  | kind => .error (unexpected t.span expected (.token kind))

/-- One expression or more, separated by commas, and the closing symbol. -/
def items (operand : Operand) (close : Symbol) :
    Nat → Cursor → Except Failure ((List Expr × Span) × Cursor)
  | 0, c => .error (unexpected (.point c.stop) .expression (.token .stop))
  | fuel + 1, c => do
    let (e, c) ← operand 0 c
    let (t, c) ← c.next
    if t.kind.isSymbol .comma then
      let ((es, span), c) ← items operand close fuel c
      .ok ((e :: es, span), c)
    else if t.kind.isSymbol close then .ok (([e], t.span), c)
    else .error (unexpected t.span (.commaOr close) (.token t.kind))

/-- Any number of expressions and the closing symbol. Each takes a token, so the tokens left
bound their number. -/
def sequence (operand : Operand) (close : Symbol) (c : Cursor) :
    Except Failure ((List Expr × Span) × Cursor) := do
  let t ← c.peek
  if t.kind.isSymbol close then
    let (t, c) ← c.next
    .ok (([], t.span), c)
  else items operand close (c.rest.length + 1) c

def unaryOperand (operand : Operand) (op : UnaryOp) (opSpan : Span) (c : Cursor) :
    Except Failure (Expr × Cursor) := do
  let (e, c) ← operand unaryPower c
  .ok (.unary (opSpan.join e.span) op opSpan e, c)

def letBinding (operand : Operand) (span : Span) (c : Cursor) : Except Failure (Expr × Cursor) := do
  let ((name, _), c) ← expectName .bindingName c
  let (_, c) ← expectSymbol .assign c
  let (value, c) ← operand 0 c
  let (_, c) ← expectSymbol .semicolon c
  let (body, c) ← operand 0 c
  .ok (.letIn (span.join body.span) name value body, c)

/-- A reference, a call or a selector with a key, whichever the next token makes of the name. -/
def named (operand : Operand) (name : String) (span : Span) (c : Cursor) :
    Except Failure (Expr × Cursor) := do
  let t ← c.peek
  if t.kind.isSymbol .leftParen then
    let (_, c) ← c.next
    let ((args, close), c) ← sequence operand .rightParen c
    .ok (.call (span.join close) name args, c)
  else if t.kind.isSymbol .leftBrace then
    let (_, c) ← c.next
    let ((filters, close), c) ← sequence operand .rightBrace c
    .ok (.selector (span.join close) (some name) filters, c)
  else .ok (.reference span name, c)

/-- What a word starts, when the surroundings ask for a power of at least `least`. -/
def ofWord (operand : Operand) (least : Nat) (word : String) (span : Span) (c : Cursor) :
    Except Failure (Expr × Cursor) :=
  match word with
  | "true" => .ok (.literal span (.boolean true), c)
  | "false" => .ok (.literal span (.boolean false), c)
  | "not" => unaryOperand operand .not span c
  | "let" =>
    if least = 0 then letBinding operand span c
    else .error (unexpected span .expression .bareLet)
  | "and" => .error (unexpected span .expression (.reserved "and"))
  | "or" => .error (unexpected span .expression (.reserved "or"))
  | name => named operand name span c

/-- An expression up to the first operator that is not part of it. -/
def primary (operand : Operand) (least : Nat) (c : Cursor) : Except Failure (Expr × Cursor) := do
  let (t, c) ← c.next
  match t.kind with
  | .integer n => .ok (.literal t.span (.integer n), c)
  | .double x => .ok (.literal t.span (.double x), c)
  | .duration d => .ok (.literal t.span (.duration d), c)
  | .string s => .ok (.literal t.span (.string s), c)
  | .regex p => .ok (.literal t.span (.regex p), c)
  | .word word => ofWord operand least word t.span c
  | .symbol .minus => unaryOperand operand .negate t.span c
  | .symbol .bang => unaryOperand operand .not t.span c
  | .symbol .plus =>
    let ((tag, tagSpan), c) ← expectName .tagName c
    .ok (.hasTag (t.span.join tagSpan) tag, c)
  | .symbol .leftParen =>
    let (inner, c) ← operand 0 c
    let (close, c) ← expectSymbol .rightParen c
    .ok (.group (t.span.join close.span) inner, c)
  | .symbol .leftBracket =>
    let ((es, close), c) ← sequence operand .rightBracket c
    .ok (.list (t.span.join close) es, c)
  | .symbol .leftBrace =>
    let ((filters, close), c) ← sequence operand .rightBrace c
    .ok (.selector (t.span.join close) none filters, c)
  | kind => .error (unexpected t.span .expression (.token kind))

def tooDeep (most : Nat) (span : Span) : Failure := unexpected span (.nesting most) .deeperNesting

/-- The operator at the cursor, if it takes what stands left of it at the power asked for. -/
def operator? (least : Nat) (c : Cursor) : Except Failure (Option Connective) := do
  let t ← c.peek
  .ok ((Connective.ofKind? t.kind).filter fun i => least ≤ i.leftPower)

/-- The tag name left of a tag operator. -/
def tagName (left : Expr) : Except Failure String :=
  match left with
  | .reference _ name => .ok name
  | e => .error (unexpected e.span .tagName (.operand e.text))

mutual

/-- An expression of at least some power, with a budget of nesting. -/
def expression (most : Nat) : Nat → Operand
  | 0, _, c => do
    let t ← c.peek
    .error (tooDeep most t.span)
  | budget + 1, least, c => do
    let (left, c) ← primary (expression most budget) least c
    chain most budget least left c

/-- The operators after an expression, each taking what was read so far as its left side. -/
def chain (most : Nat) : Nat → Nat → Expr → Cursor → Except Failure (Expr × Cursor)
  | 0, least, left, c => do
    match ← operator? least c with
    | none => .ok (left, c)
    | some _ => do
      let (t, _) ← c.next
      .error (tooDeep most t.span)
  | budget + 1, least, left, c => do
    match ← operator? least c with
    | none => .ok (left, c)
    | some i =>
      let (t, c) ← c.next
      match i with
      | .binary op =>
        let (right, c) ← expression most budget i.rightPower c
        chain most budget least (.binary (left.span.join right.span) op t.span left right) c
      | .tag op =>
        let tag ← tagName left
        let (value, c) ← expression most budget i.rightPower c
        chain most budget least (.tagFilter (left.span.join value.span) tag op value) c

end

/-- The tree of a token stream that is one expression. -/
def ofTokens (nesting : Nat) (tokens : List (Except Failure Token)) : Except Failure Expr := do
  let (e, c) ← expression nesting nesting 0 ⟨tokens, 0⟩
  let (t, _) ← c.next
  match t.kind with
  | .stop => .ok e
  | kind => .error (unexpected t.span .endOfInput (.token kind))

variable [PatternEngine]

/-- The tree of a query text within the limits. -/
def parse (limits : Limits) (source : String) : Except Failure Expr :=
  if limits.length < source.utf8ByteSize then
    .error (unexpected ⟨limits.length, source.utf8ByteSize⟩ (.queryLength limits.length)
      (.bytes source.utf8ByteSize))
  else ofTokens limits.nesting (tokenize source)

theorem parse_of_lt {limits : Limits} {source : String} (h : limits.length < source.utf8ByteSize) :
    parse limits source = .error (unexpected ⟨limits.length, source.utf8ByteSize⟩
      (.queryLength limits.length) (.bytes source.utf8ByteSize)) := if_pos h

theorem parse_of_le {limits : Limits} {source : String} (h : source.utf8ByteSize ≤ limits.length) :
    parse limits source = ofTokens limits.nesting (tokenize source) := if_neg (Nat.not_lt.mpr h)

theorem parse_eq_ok {limits : Limits} {source : String} {e : Expr} :
    parse limits source = .ok e ↔
      source.utf8ByteSize ≤ limits.length ∧ ofTokens limits.nesting (tokenize source) = .ok e := by
  rcases Nat.lt_or_ge limits.length source.utf8ByteSize with hlong | hshort
  · rw [parse_of_lt hlong]
    exact iff_of_false nofun fun h => Nat.not_le.mpr hlong h.1
  · rw [parse_of_le hshort]
    exact (and_iff_right hshort).symm

end Expr

end SeriesQuery
