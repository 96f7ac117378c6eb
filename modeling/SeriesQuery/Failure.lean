/-
What can go wrong with a query, from its characters to its compilation. A
failure is a cause and the range of text it is about; the first one ends
the work. `message` gives the words for every cause.
-/
import SeriesQuery.Token
import SeriesQuery.Expr.Operator
import SeriesQuery.Value.Kind
import SeriesQuery.Series
import SeriesQuery.Text.Quoted

namespace SeriesQuery

/-- Text that is no token. -/
inductive LexFault
  | unterminatedString
  | unterminatedRegex
  | invalidRegex (reason : String)
  | unknownEscape (c : Char)
  | unexpectedCharacter (c : Char)
  | integerRange (text : String)
  | doubleRange (text : String)
  | durationFraction (text : String)
  | durationSuffix (suffix : String)
  | durationRange (text : String)
  deriving DecidableEq, Repr

def LexFault.message : LexFault → String
  | unterminatedString => "unterminated string literal"
  | unterminatedRegex => "unterminated regex literal"
  | invalidRegex reason => "invalid regular expression: " ++ reason
  | unknownEscape c => "unknown escape sequence " ++ ticked ("\\" ++ c.toString)
  | unexpectedCharacter c => "unexpected character " ++ ticked c.toString
  | integerRange text => s!"integer literal {ticked text} is out of range"
  | doubleRange text => s!"double literal {ticked text} is out of range"
  | durationFraction text => s!"duration literal {ticked text} must have an integer value"
  | durationSuffix suffix =>
    s!"invalid duration suffix {ticked suffix}, expected one of ms, s, m, h, d, w"
  | durationRange text => s!"duration literal {ticked text} is out of range"

/-- What the grammar wanted. -/
inductive Expected
  | queryLength (most : Nat)
  | nesting (most : Nat)
  | expression
  | tagName
  | bindingName
  | endOfInput
  | symbol (s : Symbol)
  | commaOr (s : Symbol)
  deriving DecidableEq, Repr

def Expected.describe : Expected → String
  | queryLength most => s!"a query of at most {most} bytes"
  | nesting most => s!"nesting depth of at most {most}"
  | expression => "expression"
  | tagName => "tag name"
  | bindingName => "binding name"
  | endOfInput => "end of input"
  | symbol s => ticked s.text
  | commaOr s => s!"{ticked Symbol.comma.text} or {ticked s.text}"

/-- What the grammar met. -/
inductive Found
  | bytes (n : Nat)
  | deeperNesting
  | token (kind : Token.Kind)
  | reserved (word : String)
  | bareLet
  /-- An expression where a name was wanted. -/
  | operand (text : String)

def Found.describe : Found → String
  | bytes n => s!"{n} bytes"
  | deeperNesting => "deeper nesting"
  | token kind => kind.describe
  | reserved word => "reserved word " ++ ticked word
  | bareLet => ticked "let" ++ " (wrap it in parentheses)"
  | operand text => ticked text

/-- What a function takes. -/
inductive Wanted
  | numberOrDuration | numberOrString | stringOrList | duration | string
  deriving DecidableEq, Repr

def Wanted.describe : Wanted → String
  | numberOrDuration => "a number or duration"
  | numberOrString => "a number or string"
  | stringOrList => "a string or list"
  | duration => "a duration"
  | string => "a string"

/-- Values of the wrong kind, or texts that are no value of the wanted kind. -/
inductive TypeFault
  | binary (op : BinaryOp) (left right : ValueKind)
  | unary (op : UnaryOp) (operand : ValueKind)
  | comparison (op : BinaryOp) (left right : ValueKind)
  | notComparison (op : BinaryOp)
  | selectorElement
  | tagValue (op : TagOp) (found : ValueKind)
  | pattern (text reason : String)
  | argument (function : String) (wanted : Wanted) (found : ValueKind)
  | unordered (function : String) (left right : ValueKind)
  | notInteger (text : String)
  | notDouble (text : String)
  | notTagName (text : String)
  deriving DecidableEq, Repr

/-- The words for a text that makes no pattern. -/
def invalidPattern (text reason : String) : String := s!"Invalid pattern {escaped text}: {reason}"

def TypeFault.message : TypeFault → String
  | binary op l r => s!"cannot apply {ticked op.symbol} to {l.name} and {r.name}"
  | unary op k => s!"cannot apply {ticked op.symbol} to {k.name}"
  | comparison op l r => s!"cannot compare {l.name} and {r.name} with {ticked op.symbol}"
  | notComparison op => ticked op.symbol ++ " is not a comparison"
  | selectorElement => "selector elements must be filters"
  | tagValue op k => s!"{ticked op.symbol} expects a string value, found {k.name}"
  | pattern text reason => "invalid regular expression: " ++ invalidPattern text reason
  | argument f wanted k => s!"{ticked f} expects {wanted.describe}, found {k.name}"
  | unordered f l r => s!"{ticked f} cannot order {l.name} and {r.name}"
  | notInteger text => s!"cannot convert {escaped text} to an integer"
  | notDouble text => s!"cannot convert {escaped text} to a double"
  | notTagName text => ticked "has" ++ " expects a tag name, found " ++ quote text

inductive ArithmeticFault
  | divisionByZero
  | durationOverflow
  | absOverflow
  | notInteger (x : Float)

def ArithmeticFault.message : ArithmeticFault → String
  | divisionByZero => "division by zero"
  | durationOverflow => "duration overflow"
  | absOverflow => "integer overflow in " ++ ticked "abs"
  | notInteger x => Decimal.text Decimal.query x ++ " does not fit in an integer"

/-- Parts of an expression that are no filter, or no series to write. -/
inductive CompileFault
  | unbound (name : String)
  | notSelector (found : ValueKind)
  | literal
  | list
  | binary (op : BinaryOp)
  | unary (op : UnaryOp)
  | notOneSeries
  | conflictingTag (tag : String)
  | series (fault : SeriesFault)
  deriving DecidableEq, Repr

def CompileFault.message : CompileFault → String
  | unbound name => ticked name ++ " is not bound at compile time"
  | notSelector k => s!"expected a selector, found {k.name}"
  | literal => "a literal cannot be used as a filter"
  | list => "a list cannot be used as a filter"
  | binary op => ticked op.symbol ++ " cannot be used in a filter"
  | unary op => ticked op.symbol ++ " cannot be used in a filter"
  | notOneSeries => "a write needs exactly one series key and only tag equalities"
  | conflictingTag tag => "conflicting values for tag " ++ ticked tag
  | series fault => fault.message

inductive Cause
  | lex (fault : LexFault)
  | parse (expected : Expected) (found : Found)
  | unboundReference (name : String)
  | type (fault : TypeFault)
  | arithmetic (fault : ArithmeticFault)
  | unknownFunction (name : String)
  | arity (name : String) (expected actual : Nat)
  | notCompilable (fault : CompileFault)

/-- The coarse kinds of failure. -/
inductive FailureKind
  | lex | parse | unboundReference | type | arithmetic | unknownFunction | arity | notCompilable
  deriving DecidableEq, Repr

def FailureKind.describe : FailureKind → String
  | lex => "lex error"
  | parse => "parse error"
  | unboundReference => "unbound reference"
  | type => "type error"
  | arithmetic => "arithmetic error"
  | unknownFunction => "unknown function"
  | arity => "arity error"
  | notCompilable => "not compilable"

namespace Cause

def kind : Cause → FailureKind
  | lex _ => .lex
  | parse _ _ => .parse
  | unboundReference _ => .unboundReference
  | type _ => .type
  | arithmetic _ => .arithmetic
  | unknownFunction _ => .unknownFunction
  | arity _ _ _ => .arity
  | notCompilable _ => .notCompilable

def message : Cause → String
  | lex fault => fault.message
  | parse expected found => s!"expected {expected.describe}, found {found.describe}"
  | unboundReference name => "unbound reference " ++ ticked name
  | type fault => "type error: " ++ fault.message
  | arithmetic fault => "arithmetic error: " ++ fault.message
  | unknownFunction name => "unknown function " ++ ticked name
  | arity name expected actual =>
    s!"function {ticked name} expects {expected} argument(s), got {actual}"
  | notCompilable fault => "not compilable: " ++ fault.message

end Cause

structure Failure where
  span : Span
  cause : Cause

namespace Failure

def kind (f : Failure) : FailureKind := f.cause.kind

def message (f : Failure) : String := f.cause.message

/-- The message with its place in the source. -/
def report (f : Failure) (source : String) : String := f.span.report f.message source

def type (span : Span) (fault : TypeFault) : Failure := ⟨span, .type fault⟩

def arithmetic (span : Span) (fault : ArithmeticFault) : Failure := ⟨span, .arithmetic fault⟩

def notCompilable (span : Span) (fault : CompileFault) : Failure := ⟨span, .notCompilable fault⟩

end Failure

end SeriesQuery
