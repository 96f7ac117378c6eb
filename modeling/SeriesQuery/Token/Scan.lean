/-
From text to tokens. `scan` reads one token from text that does not start
with layout and says what text it took; `tokenize` reads them all. The
tokens end with the end of the text or with the first fault.
-/
import SeriesQuery.Failure
import SeriesQuery.Pattern.Engine

namespace SeriesQuery

/-- The characters between tokens. -/
def isLayout (c : Char) : Bool := c == ' ' || c == '\t' || c == '\r' || c == '\n'

def isNameStart (c : Char) : Bool := c.isAlpha || c == '_'

def isNameChar (c : Char) : Bool := c.isAlphanum || c == '_' || c == '.'

/-- Words that are no names. -/
def reservedWords : List String := ["let", "and", "or", "not", "true", "false"]

def isReserved (name : String) : Bool := reservedWords.contains name

/-- Whether the text is a name: a word of the language that is not reserved. -/
def isName (name : String) : Bool :=
  match name.toList with
  | [] => false
  | c :: cs => isNameStart c && cs.all isNameChar && !isReserved name

namespace Scan

/-- What reading one token comes to: a token with the text it took and the text left, or a fault
about the text from `skipped` bytes on. -/
inductive Step
  | token (kind : Token.Kind) (text rest : List Char)
  | fault (fault : LexFault) (skipped : Nat) (text : List Char)

/-! ## Numbers -/

/-- A point with digits after it, as the digits; empty when the text has none. -/
def fraction : List Char → List Char × List Char
  | '.' :: c :: cs => if c.isDigit then (c :: cs).span Char.isDigit else ([], '.' :: c :: cs)
  | cs => ([], cs)

/-- An exponent: its mark, its sign if any, its digits, and the text left. -/
def exponent : List Char → Option (List Char × List Char × List Char)
  | e :: cs =>
    if e == 'e' || e == 'E' then
      let (sign, ds) := match cs with
        | '+' :: cs => (['+'], cs)
        | '-' :: cs => (['-'], cs)
        | cs => ([], cs)
      match ds.span Char.isDigit with
      | ([], _) => none
      | (ds, rest) => some (e :: sign, ds, rest)
    else none
  | [] => none

/-- The value of an exponent. -/
def exponentValue (mark ds : List Char) : Int :=
  if mark.contains '-' then -(Decimal.digitsValue ds : Int) else Decimal.digitsValue ds

/-- What is written right after a number belongs to it, as its unit. -/
def duration (text : List Char) (whole : Option (List Char)) (cs : List Char) : Step :=
  let (letters, rest) := cs.span Char.isAlpha
  let (glued, rest) := rest.span isNameChar
  let suffix := letters ++ glued
  let text := text ++ suffix
  match whole with
  | none => .fault (.durationFraction (String.ofList text)) 0 text
  | some digits =>
    match TimeUnit.ofSuffix? (String.ofList suffix) with
    | none => .fault (.durationSuffix (String.ofList suffix)) 0 text
    | some unit =>
      match int64OfInt? (Decimal.digitsValue digits) with
      | none => .fault (.durationRange (String.ofList text)) 0 text
      | some amount => .token (.duration ⟨amount, unit⟩) text rest

def startsWithLetter : List Char → Bool
  | c :: _ => c.isAlpha
  | [] => false

/-- A number, or a duration when a unit follows. -/
def number (cs : List Char) : Step :=
  let (whole, rest) := cs.span Char.isDigit
  let (digits, rest) := fraction rest
  let text := if digits.isEmpty then whole else whole ++ '.' :: digits
  match exponent rest with
  | some (mark, ds, rest) =>
    let text := text ++ mark ++ ds
    double text (Decimal.ofParts whole digits (exponentValue mark ds)) rest
  | none =>
    if !digits.isEmpty then double text (Decimal.ofParts whole digits 0) rest
    else if startsWithLetter rest then duration text (some whole) rest
    else
      match int64OfInt? (Decimal.digitsValue whole) with
      | none => .fault (.integerRange (String.ofList text)) 0 text
      | some n => .token (.integer n) text rest
where
  double (text : List Char) (x : Float) (rest : List Char) : Step :=
    if startsWithLetter rest then duration text none rest
    else if x.isFinite then .token (.double x) text rest
    else .fault (.doubleRange (String.ofList text)) 0 text

/-! ## Strings and patterns -/

/-- What reading up to a closing quote comes to: the value with the text it took, the text running
out, or a bad escape with the text before it. -/
inductive Body
  | closed (value text rest : List Char)
  | unterminated (text : List Char)
  | badEscape (before : List Char) (c : Char)

def Body.cons (value text : List Char) : Body → Body
  | closed v t rest => closed (value ++ v) (text ++ t) rest
  | unterminated t => unterminated (text ++ t)
  | badEscape before c => badEscape (text ++ before) c

/-- Text up to the closing quote. `unescape` says what a backslash and a character stand for. -/
def body (unescape : Char → Option (List Char)) (quote : Char) : List Char → Body
  | [] => .unterminated []
  | c :: cs =>
    if c = quote then .closed [] [c] cs
    else if c = '\\' then
      match cs with
      | [] => .unterminated ['\\']
      | e :: cs =>
        match unescape e with
        | none => .badEscape [] e
        | some value => (body unescape quote cs).cons value ['\\', e]
    else (body unescape quote cs).cons [c] [c]

/-- The escapes of strings. -/
def unescape : Char → Option (List Char)
  | 'n' => some ['\n']
  | 't' => some ['\t']
  | 'r' => some ['\r']
  | '0' => some ['\x00']
  | '\\' => some ['\\']
  | '"' => some ['"']
  | '\'' => some ['\'']
  | _ => none

/-- In a pattern only the quote is escaped; any other backslash is part of the pattern. -/
def unescapeRegex (c : Char) : Option (List Char) := if c = '"' then some ['"'] else some ['\\', c]

def string (quote : Char) (cs : List Char) : Step :=
  match body unescape quote cs with
  | .closed value text rest => .token (.string (String.ofList value)) (quote :: text) rest
  | .unterminated text => .fault .unterminatedString 0 (quote :: text)
  | .badEscape before c => .fault (.unknownEscape c) (1 + byteLength before) ['\\', c]

def regex [PatternEngine] (cs : List Char) : Step :=
  match body unescapeRegex '"' cs with
  | .closed value text rest =>
    let pattern := String.ofList value
    match PatternEngine.compile pattern with
    | .ok _ => .token (.regex pattern) ('r' :: '"' :: text) rest
    | .error reason => .fault (.invalidRegex reason) 0 ('r' :: '"' :: text)
  | .unterminated text => .fault .unterminatedRegex 0 ('r' :: '"' :: text)
  | .badEscape before c => .fault (.unknownEscape c) (2 + byteLength before) ['\\', c]

/-! ## Words and symbols -/

def word (cs : List Char) : Step :=
  let (name, rest) := cs.span isNameChar
  .token (.word (String.ofList name)) name rest

/-- The longest symbol at the start of the text. -/
def symbol? : List Char → Option (Symbol × List Char × List Char)
  | '!' :: '=' :: cs => some (.notEqual, ['!', '='], cs)
  | '!' :: cs => some (.bang, ['!'], cs)
  | '=' :: '=' :: cs => some (.equal, ['=', '='], cs)
  | '=' :: '~' :: cs => some (.matching, ['=', '~'], cs)
  | '=' :: cs => some (.assign, ['='], cs)
  | '<' :: '=' :: cs => some (.lessEqual, ['<', '='], cs)
  | '<' :: cs => some (.less, ['<'], cs)
  | '>' :: '=' :: cs => some (.greaterEqual, ['>', '='], cs)
  | '>' :: cs => some (.greater, ['>'], cs)
  | '+' :: cs => some (.plus, ['+'], cs)
  | '-' :: cs => some (.minus, ['-'], cs)
  | '*' :: cs => some (.star, ['*'], cs)
  | '/' :: cs => some (.slash, ['/'], cs)
  | '^' :: cs => some (.caret, ['^'], cs)
  | '(' :: cs => some (.leftParen, ['('], cs)
  | ')' :: cs => some (.rightParen, [')'], cs)
  | '[' :: cs => some (.leftBracket, ['['], cs)
  | ']' :: cs => some (.rightBracket, [']'], cs)
  | '\x7b' :: cs => some (.leftBrace, ['\x7b'], cs)
  | '\x7d' :: cs => some (.rightBrace, ['\x7d'], cs)
  | ',' :: cs => some (.comma, [','], cs)
  | ';' :: cs => some (.semicolon, [';'], cs)
  | _ => none

def symbol (c : Char) (cs : List Char) : Step :=
  match symbol? (c :: cs) with
  | some (s, text, rest) => .token (.symbol s) text rest
  | none => .fault (.unexpectedCharacter c) 0 [c]

/-- One token from text that starts with the character. -/
def scan [PatternEngine] (c : Char) (cs : List Char) : Step :=
  if c.isDigit then number (c :: cs)
  else if c = '"' ∨ c = '\'' then string c cs
  else
    match c, cs with
    | 'r', '"' :: cs => regex cs
    | c, cs => if isNameStart c then word (c :: cs) else symbol c cs

end Scan

variable [PatternEngine]

/-- The tokens of the text from an offset on, as long as there is fuel. -/
def tokensFrom : Nat → Nat → List Char → List (Except Failure Token)
  | 0, _, _ => []
  | fuel + 1, offset, cs =>
    let (layout, cs) := cs.span isLayout
    let start := offset + byteLength layout
    match cs with
    | [] => [.ok ⟨.stop, .point start⟩]
    | c :: cs =>
      match Scan.scan c cs with
      | .token kind text rest =>
        let stop := start + byteLength text
        .ok ⟨kind, ⟨start, stop⟩⟩ :: tokensFrom fuel stop rest
      | .fault fault skipped text =>
        [.error ⟨⟨start + skipped, start + skipped + byteLength text⟩, .lex fault⟩]

/-- The tokens of a text, then the end token or the first fault. -/
def tokenize (source : String) : List (Except Failure Token) :=
  tokensFrom (source.toList.length + 1) 0 source.toList

end SeriesQuery
