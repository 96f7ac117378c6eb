/-
Texts as messages show them: in double quotes, with a backslash before
quotes and backslashes, names for four control characters, and a code point
in place of any character that cannot be seen on its own.
-/
import SeriesQuery.Unicode.Classes

namespace SeriesQuery

def escapeChar : Char → List Char
  | '\x00' => ['\\', '0']
  | '\t' => ['\\', 't']
  | '\r' => ['\\', 'r']
  | '\n' => ['\\', 'n']
  | '"' => ['\\', '"']
  | '\\' => ['\\', '\\']
  | c =>
    if Unicode.isPrintable c.toNat then [c]
    else ['\\', 'u', '\x7b'] ++ Nat.toDigits 16 c.toNat ++ ['\x7d']

/-- The text in quotes, with everything invisible spelled out. -/
def escaped (s : String) : String :=
  String.ofList ('"' :: s.toList.flatMap escapeChar ++ ['"'])

end SeriesQuery
