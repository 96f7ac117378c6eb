/-
Tokens of the query language and how messages name them. Keywords are words
like any other here; the grammar tells them apart.
-/
import SeriesQuery.Duration
import SeriesQuery.Decimal.Text
import SeriesQuery.Text.Escaped
import SeriesQuery.Text.Span

namespace SeriesQuery

/-- Tokens with a fixed text. -/
inductive Symbol
  | plus | minus | star | slash | bang
  | assign | equal | notEqual | less | lessEqual | greater | greaterEqual | matching | caret
  | leftParen | rightParen | leftBracket | rightBracket | leftBrace | rightBrace
  | comma | semicolon
  deriving DecidableEq, Repr

def Symbol.text : Symbol → String
  | plus => "+"
  | minus => "-"
  | star => "*"
  | slash => "/"
  | bang => "!"
  | assign => "="
  | equal => "=="
  | notEqual => "!="
  | less => "<"
  | lessEqual => "<="
  | greater => ">"
  | greaterEqual => ">="
  | matching => "=~"
  | caret => "^"
  | leftParen => "("
  | rightParen => ")"
  | leftBracket => "["
  | rightBracket => "]"
  | leftBrace => "\x7b"
  | rightBrace => "\x7d"
  | comma => ","
  | semicolon => ";"

inductive Token.Kind
  | integer (n : Int64)
  | double (x : Float)
  | duration (d : Duration)
  | string (s : String)
  | regex (pattern : String)
  | word (name : String)
  | symbol (s : Symbol)
  /-- The end of the text. -/
  | stop

structure Token where
  kind : Token.Kind
  span : Span

/-- A text between the marks that messages put around what was written. -/
def ticked (s : String) : String := "`" ++ s ++ "`"

/-- How a message names the token. -/
def Token.Kind.describe : Token.Kind → String
  | integer n => "integer " ++ ticked (toString n.toInt)
  | double x => "double " ++ ticked (Decimal.text Decimal.query x)
  | duration d => "duration " ++ ticked d.text
  | string s => "string " ++ escaped s
  | regex p => "regex " ++ escaped p
  | word name => ticked name
  | symbol s => ticked s.text
  | stop => "end of input"

end SeriesQuery
