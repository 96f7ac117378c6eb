/-
Trimming: the text without the white space, in the sense of Unicode, at
its two ends.
-/
import SeriesQuery.Unicode.Classes

namespace SeriesQuery

def isBlank (c : Char) : Bool := Unicode.isSpace c.toNat

def trimChars (cs : List Char) : List Char :=
  ((cs.dropWhile isBlank).reverse.dropWhile isBlank).reverse

def trim (s : String) : String := String.ofList (trimChars s.toList)

end SeriesQuery
