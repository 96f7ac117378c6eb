/-
JSON as indented text: two blanks a level, one item or field a line, empty
arrays and objects closed at once. Only quotes, backslashes and control
characters are escaped. A double without a finite value is null.
-/
import SeriesQuery.Json
import SeriesQuery.Decimal.Text

namespace SeriesQuery.Json

def escapeChar (c : Char) : List Char :=
  match c with
  | '"' => ['\\', '"']
  | '\\' => ['\\', '\\']
  | '\x08' => ['\\', 'b']
  | '\x0c' => ['\\', 'f']
  | '\n' => ['\\', 'n']
  | '\r' => ['\\', 'r']
  | '\t' => ['\\', 't']
  | c =>
    if c.toNat < 32 then
      ['\\', 'u', '0', '0'] ++ (if c.toNat < 16 then ['0'] else []) ++ Nat.toDigits 16 c.toNat
    else [c]

/-- A string in quotes. -/
def quoted (s : String) : String :=
  String.ofList ('"' :: s.toList.flatMap escapeChar ++ ['"'])

/-- A double as a number, or null. -/
def number (x : Float) : String :=
  if x.isFinite then Decimal.text Decimal.document x else "null"

def indent (level : Nat) : String := String.ofList (List.replicate (2 * level) ' ')

/-- Lines between brackets, one level further in than the brackets. -/
def block (opening closing : String) (level : Nat) (lines : List String) : String :=
  if lines.isEmpty then opening ++ closing
  else
    opening ++ "\n" ++ String.intercalate ",\n" (lines.map (indent (level + 1) ++ ·)) ++ "\n"
      ++ indent level ++ closing

mutual

def prettyAt (level : Nat) : Json → String
  | null => "null"
  | boolean b => if b then "true" else "false"
  | integer n => toString n
  | double x => number x
  | string s => quoted s
  | array items => block "[" "]" level (prettyItems (level + 1) items)
  | object fields => block "\x7b" "\x7d" level (prettyFields (level + 1) fields)

def prettyItems (level : Nat) : List Json → List String
  | [] => []
  | j :: items => prettyAt level j :: prettyItems level items

def prettyFields (level : Nat) : List (String × Json) → List String
  | [] => []
  | (name, j) :: fields => (quoted name ++ ": " ++ prettyAt level j) :: prettyFields level fields

end

def pretty (j : Json) : String := prettyAt 0 j

end SeriesQuery.Json
