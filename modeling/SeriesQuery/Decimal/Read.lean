/-
Reading numbers. Digits with a point and an exponent give the nearest
double; out of range they give infinity or zero. `readInteger` and
`readDouble` read a whole text, with an optional sign, as the conversions
of the query language do.
-/
import SeriesQuery.Word

namespace SeriesQuery.Decimal

/-- The decimal number the digits spell. -/
def digitsValue (ds : List Char) : Nat := ds.foldl (fun n c => 10 * n + (c.toNat - 48)) 0

/-- The double nearest to `m * 10 ^ e`. -/
def nearest (m : Nat) (e : Int) : Float :=
  let digits := ((Nat.toDigits 10 m).length : Int)
  if m = 0 then 0.0
  else if 310 < digits + e then 1.0 / 0.0
  else if digits + e < -330 then 0.0
  else Float.ofScientific m (e < 0) e.natAbs

/-- Whole digits, fraction digits and an exponent part such as `-7`, as a double. -/
def ofParts (whole fraction : List Char) (exponent : Int) : Float :=
  nearest (digitsValue (whole ++ fraction)) (exponent - fraction.length)

/-- A sign and the text after it. -/
def splitSign : List Char → Bool × List Char
  | '-' :: cs => (true, cs)
  | '+' :: cs => (false, cs)
  | cs => (false, cs)

/-- A run of digits that is not empty and is the whole text. -/
def allDigits? (cs : List Char) : Option (List Char) :=
  if !cs.isEmpty && cs.all Char.isDigit then some cs else none

/-- The integer a text spells: digits after an optional sign. -/
def integer? (cs : List Char) : Option Int :=
  let (negative, ds) := splitSign cs
  (allDigits? ds).map fun ds => if negative then -(digitsValue ds : Int) else digitsValue ds

/-- The 64-bit integer a text spells. -/
def int64? (cs : List Char) : Option Int64 := (integer? cs).bind int64OfInt?

/-- The count a text spells. A count has no minus sign, not even zero. -/
def count? (cs : List Char) : Option Nat :=
  if cs.head? = some '-' then none else (integer? cs).bind countOfInt?

/-- The exponent part after the digits of a double, zero when there is none. -/
def exponent? : List Char → Option Int
  | [] => some 0
  | c :: cs => if c == 'e' || c == 'E' then integer? cs else none

/-- A double without sign: digits around an optional point, at least one of them, and an optional
exponent. -/
def unsignedDouble? (cs : List Char) : Option Float :=
  let (whole, rest) := cs.span Char.isDigit
  let (fraction, rest) :=
    match rest with
    | '.' :: rest => rest.span Char.isDigit
    | rest => ([], rest)
  if whole.isEmpty && fraction.isEmpty then none
  else (exponent? rest).map (ofParts whole fraction)

/-- The double a text spells: a decimal number, an infinity or `nan`, after an optional sign. -/
def double? (cs : List Char) : Option Float :=
  let (negative, cs) := splitSign cs
  let lower := String.ofList (cs.map Char.toLower)
  let size :=
    if lower = "inf" || lower = "infinity" then some (1.0 / 0.0)
    else if lower = "nan" then some (0.0 / 0.0)
    else unsignedDouble? cs
  size.map fun x => if negative then -x else x

end SeriesQuery.Decimal
