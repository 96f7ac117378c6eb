/-
Sets of characters as a pattern describes them, and which code points they
hold. A class is kept as it was written: ranges, named sets, and operations
on classes.

`fold` closes a class under differences of case. `foldAscii` does so for
the ASCII letters alone.
-/
import SeriesQuery.Unicode.Classes
import SeriesQuery.Unicode.Script
import SeriesQuery.Unicode.CaseFolding

namespace SeriesQuery.Regex

inductive CharClass
  | nothing
  | range (lo hi : Nat)
  | digit
  | space
  | word
  | codes (set : Unicode.CodeSet)
  | script (script : Unicode.Script)
  | extensions (script : Unicode.Script)
  | union (a b : CharClass)
  | intersection (a b : CharClass)
  | difference (a b : CharClass)
  | symmetricDifference (a b : CharClass)
  | complement (a : CharClass)
  | fold (a : CharClass)
  | foldAscii (a : CharClass)

/-- The ASCII letter of the other case, and the code point itself. -/
def asciiVariants (code : Nat) : List Nat :=
  if 65 ≤ code && code ≤ 90 then [code, code + 32]
  else if 97 ≤ code && code ≤ 122 then [code, code - 32]
  else [code]

namespace CharClass

def contains : CharClass → Nat → Bool
  | nothing, _ => false
  | range lo hi, code => lo ≤ code && code ≤ hi
  | digit, code => Unicode.isDigit code
  | space, code => Unicode.isSpace code
  | word, code => Unicode.isWord code
  | codes set, code => set.contains code
  | script s, code => s.contains code
  | extensions s, code => s.reaches code
  | union a b, code => a.contains code || b.contains code
  | intersection a b, code => a.contains code && b.contains code
  | difference a b, code => a.contains code && !b.contains code
  | symmetricDifference a b, code => a.contains code != b.contains code
  | complement a, code => !a.contains code
  | fold a, code => (Unicode.caseVariants code).any a.contains
  | foldAscii a, code => (asciiVariants code).any a.contains

/-- The class of one character. -/
def single (c : Char) : CharClass := range c.toNat c.toNat

/-- Every character. -/
def any : CharClass := range 0 0x10FFFF

/-- The characters of ranges of code points in hexadecimal, such as `41-5A 61-7A`. -/
def ofCodes (ranges : String) : CharClass := codes ⟨[], Unicode.readRanges ranges, []⟩

def ofCategories (categories : List Unicode.Category) : CharClass := codes ⟨categories, [], []⟩

/-- The characters of any of some classes. -/
def anyOf (classes : List CharClass) : CharClass := classes.foldl union nothing

/-- The characters of a class that are in none of some others. -/
def without (cls : CharClass) (others : List CharClass) : CharClass := others.foldl difference cls

/-- The class of any of some ranges. -/
def ofRanges (ranges : List (Char × Char)) : CharClass :=
  ranges.foldr (fun (lo, hi) cls => union (range lo.toNat hi.toNat) cls) nothing

end CharClass

/-- The classes that brackets name, such as `[:alpha:]`. They hold ASCII characters only. -/
def posixClasses : List (String × CharClass) :=
  [("alnum", .ofRanges [('0', '9'), ('A', 'Z'), ('a', 'z')]),
   ("alpha", .ofRanges [('A', 'Z'), ('a', 'z')]),
   ("ascii", .range 0 0x7F),
   ("blank", .ofRanges [('\t', '\t'), (' ', ' ')]),
   ("cntrl", .union (.range 0 0x1F) (.range 0x7F 0x7F)),
   ("digit", .ofRanges [('0', '9')]),
   ("graph", .ofRanges [('!', '~')]),
   ("lower", .ofRanges [('a', 'z')]),
   ("print", .ofRanges [(' ', '~')]),
   ("punct", .ofRanges [('!', '/'), (':', '@'), ('[', (Char.ofNat 96)), (Char.ofNat 123, '~')]),
   ("space", .union (.range 9 13) (.single ' ')),
   ("upper", .ofRanges [('A', 'Z')]),
   ("word", .ofRanges [('0', '9'), ('A', 'Z'), ('_', '_'), ('a', 'z')]),
   ("xdigit", .ofRanges [('0', '9'), ('A', 'F'), ('a', 'f')])]

end SeriesQuery.Regex
