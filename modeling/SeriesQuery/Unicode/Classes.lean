/-
The character classes that texts and patterns ask for by name: white space,
digits, word characters, letters, and the characters a message shows as they
are. Below 128 each is decided without the tables.
-/
import SeriesQuery.Unicode.Recent

namespace SeriesQuery.Unicode

def asciiSpace (code : Nat) : Bool := code == 32 || (9 ≤ code && code ≤ 13)

def asciiDigit (code : Nat) : Bool := 48 ≤ code && code ≤ 57

def asciiLetter (code : Nat) : Bool := (65 ≤ code && code ≤ 90) || (97 ≤ code && code ≤ 122)

def asciiWord (code : Nat) : Bool := asciiLetter code || asciiDigit code || code == 95

def isSpace (code : Nat) : Bool :=
  if code < 128 then asciiSpace code else CodeSet.whiteSpace.contains code

def isDigit (code : Nat) : Bool :=
  if code < 128 then asciiDigit code else Category.of code == .nd

def isAlphabetic (code : Nat) : Bool :=
  if code < 128 then asciiLetter code
  else CodeSet.alphabetic.contains code || CodeSet.recentAlphabetic.contains code

/-- A letter or a number of any kind. -/
def isAlphanumeric (code : Nat) : Bool :=
  if code < 128 then asciiLetter code || asciiDigit code
  else
    isAlphabetic code || Category.numbers.contains (Category.of code)
      || CodeSet.recentNumber.contains code

/-- A letter, mark, decimal digit, connecting punctuation or joiner, as patterns know them. -/
def isWord (code : Nat) : Bool :=
  if code < 128 then asciiWord code
  else
    CodeSet.alphabetic.contains code || CodeSet.joinControl.contains code
      || (.nd :: .pc :: Category.marks).contains (Category.of code)

/-- The two marks of half width that stand in a place of their own. -/
def isSoundMark (code : Nat) : Bool := 0xFF9E ≤ code && code ≤ 0xFF9F

/-- Whether a message shows the character as it is: no control, format, private, unassigned or
separating character other than the blank, none without a shape, and none that joins the character
before it. -/
def isPrintable (code : Nat) : Bool :=
  if code < 127 then 32 ≤ code
  else
    isSoundMark code || CodeSet.recentVisible.contains code
      || (!(.zs :: .zl :: .zp :: Category.others).contains (Category.of code)
        && !CodeSet.graphemeExtend.contains code
        && !CodeSet.defaultIgnorableCodePoint.contains code)

end SeriesQuery.Unicode
