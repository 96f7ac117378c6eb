/-
TOML documents as JSON values. `document?` reads a whole text: assignments
of values to keys, and headers that say which table the assignments after
them belong to. It gives nothing for a text that is not TOML.
-/
import SeriesQuery.Toml.Scalar
import SeriesQuery.Toml.Table

namespace SeriesQuery.Toml

def isBareKey (c : Char) : Bool := c.isAlphanum || c = '_' || c = '-'

def simpleKey? (cs : List Char) : Option (String × List Char) :=
  match cs.span isBareKey with
  | ([], cs) => line? cs
  | (name, cs) => some (String.ofList name, cs)

/-- Names with dots between them. -/
def key? : Nat → List Char → Option (List String × List Char)
  | 0, _ => none
  | fuel + 1, cs => do
    let (name, cs) ← simpleKey? (blanks cs)
    match blanks cs with
    | '.' :: cs =>
      let (names, cs) ← key? fuel cs
      some (name :: names, cs)
    | cs => some ([name], cs)

/-- Blanks, comments and line ends, all of them. -/
def layout : Nat → List Char → List Char
  | 0, cs => cs
  | fuel + 1, cs =>
    match blanks cs with
    | '#' :: cs => layout fuel (cs.dropWhile isPlain)
    | cs =>
      match newline? cs with
      | some cs => layout fuel cs
      | none => cs

def allLayout (cs : List Char) : List Char := layout (cs.length + 1) cs

abbrev Reader := List Char → Option (Json × List Char)

/-- The values of an array, from behind its bracket or a comma. -/
def items (value : Reader) : Nat → List Char → Option (List Json × List Char)
  | 0, _ => none
  | fuel + 1, cs =>
    match allLayout cs with
    | ']' :: cs => some ([], cs)
    | cs => do
      let (j, cs) ← value cs
      match allLayout cs with
      | ']' :: cs => some ([j], cs)
      | ',' :: cs =>
        let (js, cs) ← items value fuel cs
        some (j :: js, cs)
      | _ => none

/-- A key and its value. -/
def pair? (value : Reader) (cs : List Char) : Option ((List String × Json) × List Char) := do
  let (key, cs) ← key? (cs.length + 1) cs
  match cs with
  | '=' :: cs =>
    let (j, cs) ← value (blanks cs)
    some ((key, j), cs)
  | _ => none

/-- The assignments between braces, from behind the brace or a comma. -/
def pairs (value : Reader) : Nat → Entries → List Char → Option (Entries × List Char)
  | 0, _, _ => none
  | fuel + 1, entries, cs => do
    let ((key, j), cs) ← pair? value cs
    let entries ← entries.assign j key
    match blanks cs with
    | '\x7d' :: cs => some (entries, cs)
    | ',' :: cs => pairs value fuel entries cs
    | _ => none

/-- A table between braces, all on one line. -/
def inlineTable? (value : Reader) (cs : List Char) : Option (Json × List Char) :=
  match blanks cs with
  | '\x7d' :: cs => some (.object [], cs)
  | cs =>
    (pairs value (cs.length + 1) [] cs).map fun (entries, cs) => (.object (fieldsOf entries), cs)

/-- A value in which arrays and tables are nested at most so deep. -/
def value? : Nat → Reader
  | 0, cs => scalar? cs
  | depth + 1, cs =>
    match cs with
    | '[' :: cs => (items (value? depth) (cs.length + 1) cs).map fun (js, cs) => (.array js, cs)
    | '\x7b' :: cs => inlineTable? (value? depth) cs
    | cs => scalar? cs

/-- The deepest nesting of arrays and tables inside a value. -/
def deepest : Nat := 79

/-- The text after the rest of a line, which may only be a comment. -/
def lineEnd? (cs : List Char) : Option (List Char) :=
  let cs :=
    match blanks cs with
    | '#' :: cs => cs.dropWhile isPlain
    | cs => cs
  if cs.isEmpty then some [] else newline? cs

/-- The root table and the path of the table at hand. -/
structure State where
  root : Entries
  path : List String

def header? (make : String → Entries → Option Entries) (closing : List Char) (s : State)
    (cs : List Char) : Option (State × List Char) := do
  let (path, cs) ← key? (cs.length + 1) cs
  if !closing.isPrefixOf cs then none
  let cs ← lineEnd? (cs.drop closing.length)
  some (⟨← s.root.openAt make path, path⟩, cs)

/-- One line that is not empty. -/
def statement? (s : State) : List Char → Option (State × List Char)
  | '[' :: '[' :: cs => header? Entries.openNext [']', ']'] s cs
  | '[' :: cs => header? Entries.openTable [']'] s cs
  | cs => do
    let ((key, j), cs) ← pair? (value? deepest) cs
    let cs ← lineEnd? cs
    some (⟨← s.root.modifyAt (Entries.assign j key) s.path, s.path⟩, cs)

def statements? : Nat → State → List Char → Option State
  | 0, _, _ => none
  | fuel + 1, s, cs =>
    match allLayout cs with
    | [] => some s
    | cs => do
      let (s, cs) ← statement? s cs
      statements? fuel s cs

/-- The document as an object. A mark of the byte order at its start is left out. -/
def document? (text : String) : Option Json :=
  let cs :=
    match text.toList with
    | '\ufeff' :: cs => cs
    | cs => cs
  (statements? (cs.length + 1) ⟨[], []⟩ cs).map fun s => .object (fieldsOf s.root)

end SeriesQuery.Toml
