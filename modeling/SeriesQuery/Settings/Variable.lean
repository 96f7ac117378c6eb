/-
Settings from variables of the environment. A name with the program's mark
in front gives the path of a setting, in either case of letters; the text is
a truth value, a number, a text in quotes, a list in brackets or a table in
braces, and otherwise itself.
-/
import SeriesQuery.Decimal.Read
import SeriesQuery.Json
import SeriesQuery.Text.Blank

namespace SeriesQuery.Settings

/-! ## Texts -/

def isSpace (c : Char) : Bool := c = ' ' || c = '\t' || c = '\n'

def spaces (cs : List Char) : List Char := cs.dropWhile isSpace

/-- What ends a bare text. -/
def isSeparator (c : Char) : Bool := c = ',' || c = '\x7b' || c = '\x7d' || c = '[' || c = ']'

/-- A text without quotes: a number if it reads as one. -/
def bare (cs : List Char) : Json :=
  let double := if cs.contains '.' then (Decimal.double? cs).map Json.double else none
  let count := (Decimal.count? cs).map Json.natural
  let integer := (Decimal.int64? cs).map fun n => Json.integer n.toInt
  (double.or (count.or integer)).getD (.string (String.ofList cs))

/-- The text up to a quote that no backslash stands before. -/
def upToQuote : List Char → Option (List Char × List Char)
  | [] => none
  | '"' :: cs => some ([], cs)
  | '\\' :: c :: cs => (upToQuote cs).map fun (s, rest) => ('\\' :: c :: s, rest)
  | c :: cs => (upToQuote cs).map fun (s, rest) => (c :: s, rest)

def unescape : List Char → List Char
  | '\\' :: 'n' :: cs => '\n' :: unescape cs
  | '\\' :: 't' :: cs => '\t' :: unescape cs
  | '\\' :: 'r' :: cs => '\r' :: unescape cs
  | '\\' :: 'b' :: cs => '\x08' :: unescape cs
  | '\\' :: 'f' :: cs => '\x0c' :: unescape cs
  | '\\' :: c :: cs => c :: unescape cs
  | c :: cs => c :: unescape cs
  | [] => []

def quotedText? (cs : List Char) : Option (String × List Char) :=
  (upToQuote cs).map fun (s, rest) => (String.ofList (unescape s), rest)

def isKeyChar (c : Char) : Bool := c.isAlphanum || c = '_' || c = '-'

def key? (cs : List Char) : Option (String × List Char) :=
  match cs with
  | '"' :: cs => quotedText? cs
  | cs =>
    match cs.span isKeyChar with
    | ([], _) => none
    | (name, cs) => some (String.ofList name, cs)

abbrev Reader := List Char → Option (Json × List Char)

/-- Values up to a bracket, with commas between them. -/
def items (value : Reader) : Nat → List Char → Option (List Json × List Char)
  | 0, _ => none
  | _, ']' :: cs => some ([], cs)
  | fuel + 1, cs => do
    let (j, cs) ← value cs
    match cs with
    | ',' :: cs =>
      let (js, cs) ← items value fuel cs
      some (j :: js, cs)
    | ']' :: cs => some ([j], cs)
    | _ => none

/-- Keys with values up to a brace, with commas between them. -/
def fields (value : Reader) : Nat → List Char → Option (List (String × Json) × List Char)
  | 0, _ => none
  | _, '\x7d' :: cs => some ([], cs)
  | fuel + 1, cs => do
    let (name, cs) ← key? (spaces cs)
    match spaces cs with
    | '=' :: cs =>
      let (j, cs) ← value cs
      match cs with
      | ',' :: cs =>
        let (rest, cs) ← fields value fuel cs
        some ((name, j) :: rest, cs)
      | '\x7d' :: cs => some ([(name, j)], cs)
      | _ => none
    | _ => none

/-- A value with the blanks around it, lists and tables nested at most so deep. -/
def value? : Nat → Reader
  | 0, _ => none
  | depth + 1, cs =>
    match spaces cs with
    | 't' :: 'r' :: 'u' :: 'e' :: cs => some (.boolean true, spaces cs)
    | 'f' :: 'a' :: 'l' :: 's' :: 'e' :: cs => some (.boolean false, spaces cs)
    | '[' :: cs =>
      (items (value? depth) (cs.length + 1) cs).map fun (js, cs) => (.array js, spaces cs)
    | '\x7b' :: cs =>
      (fields (value? depth) (cs.length + 1) cs).map fun (fs, cs) => (.object fs.reverse, spaces cs)
    | '"' :: cs => (quotedText? cs).map fun (s, cs) => (.string s, spaces cs)
    | '\'' :: c :: '\'' :: cs => some (.string c.toString, spaces cs)
    | '\'' :: _ => none
    | cs =>
      let (text, rest) := cs.span fun c => !isSeparator c
      some (bare (trimChars text), spaces rest)

/-- The value a text stands for. -/
def ofText (text : String) : Json :=
  let cs := text.toList
  match value? (cs.length + 1) cs with
  | some (j, []) => j
  | _ => .string text

/-! ## Names -/

/-- What stands in front of the names of settings. -/
def mark : List Char := ['s', 'e', 'r', 'i', 'e', 's', 'q', 'l', '_', '_']

/-- The parts of a name, which two underscores or a point divide. -/
def parts : List Char → List (List Char)
  | [] => [[]]
  | '.' :: cs => [] :: parts cs
  | '_' :: '_' :: cs => [] :: parts cs
  | c :: cs =>
    match parts cs with
    | [] => [[c]]
    | p :: ps => (c :: p) :: ps

/-- The path of the setting that a variable names, if it names one. -/
def path? (name : String) : Option (List String) :=
  let cs := (trimChars name.toList).map Char.toLower
  if mark.isPrefixOf cs then
    let ps := parts (cs.drop mark.length)
    if ps.any List.isEmpty then none else some (ps.map String.ofList)
  else none

/-- A value at the end of a path of names. -/
def nested : List String → Json → Json
  | [], j => j
  | name :: path, j => .object [(name, nested path j)]

/-- What a variable sets. -/
def ofVariable? (name text : String) : Option Json :=
  (path? name).map fun path => nested path (ofText text)

end SeriesQuery.Settings
