/-
String literals of the query language, as written. A quote, a backslash and
the four named control characters are escaped; everything else stands for
itself.
-/
namespace SeriesQuery

/-- How one character of a string literal is written. -/
def quoteChar : Char → List Char
  | '"' => ['\\', '"']
  | '\\' => ['\\', '\\']
  | '\n' => ['\\', 'n']
  | '\t' => ['\\', 't']
  | '\r' => ['\\', 'r']
  | '\x00' => ['\\', '0']
  | c => [c]

def quoteChars (cs : List Char) : List Char := '"' :: cs.flatMap quoteChar ++ ['"']

/-- The string literal that reads back as `s`. -/
def quote (s : String) : String := String.ofList (quoteChars s.toList)

end SeriesQuery
