/-
Doubles as text. A format says which powers of ten are written out in
place; the others get an exponent. Every number keeps a point or an exponent,
so that it never reads as an integer.
-/
import SeriesQuery.Decimal.Shortest

namespace SeriesQuery.Decimal

/-- What a format decides beyond the digits. -/
structure Format where
  /-- The least power of ten of the first digit that is written in place. -/
  least : Int
  /-- The first power of ten that is not. -/
  bound : Int
  /-- Whether a positive exponent has a sign. -/
  signed : Bool
  /-- Whether of two equally near candidates the even one is written, or the larger. -/
  tieToEven : Bool

/-- Doubles of the query language: in place from `0.0001` up to below `1e16`. -/
def query : Format := ⟨-4, 16, false, false⟩

/-- Numbers of JSON documents: in place from `0.00001` up to below `1e16`. -/
def document : Format := ⟨-5, 16, true, true⟩

/-- Decimal digits without the zeros at their end. -/
def significant (ds : List Char) : List Char := (ds.reverse.dropWhile (· == '0')).reverse

/-- Digits with the point after the first `n + 1` of them. -/
def placed (ds : List Char) (n : Nat) : List Char :=
  let whole := ds.take (n + 1) ++ List.replicate (n + 1 - ds.length) '0'
  let fraction := ds.drop (n + 1)
  whole ++ '.' :: (if fraction.isEmpty then ['0'] else fraction)

/-- The digits in place, for a number with its first digit at power `p`. -/
def inPlace (ds : List Char) (p : Int) : List Char :=
  if 0 ≤ p then placed ds p.toNat
  else ['0', '.'] ++ List.replicate ((-p).toNat - 1) '0' ++ ds

def exponentText (format : Format) (p : Int) : List Char :=
  if p < 0 then '-' :: Nat.toDigits 10 (-p).toNat
  else if format.signed then '+' :: Nat.toDigits 10 p.toNat
  else Nat.toDigits 10 p.toNat

/-- One digit, the others after a point, and the exponent. -/
def withExponent (format : Format) (ds : List Char) (p : Int) : List Char :=
  ds.take 1 ++ (if ds.length ≤ 1 then [] else '.' :: ds.drop 1) ++ 'e' :: exponentText format p

/-- The text of a positive finite double. -/
def magnitude (format : Format) (bits : Nat) : List Char :=
  let d := shortest format.tieToEven bits
  let ds := significant (Nat.toDigits 10 d.digits)
  if format.least ≤ d.exponent && d.exponent < format.bound then inPlace ds d.exponent
  else withExponent format ds d.exponent

/-- The bit of a double that is its sign. -/
def signBit : Nat := 9223372036854775808

/-- The text of a double: the shortest digits that read back as it. -/
def text (format : Format) (x : Float) : String :=
  let bits := x.toBits.toNat
  let sign := if bits / signBit = 1 then ['-'] else []
  let size := bits % signBit
  if x.isNaN then "NaN"
  else if x.isInf then String.ofList (sign ++ ['i', 'n', 'f'])
  else if size = 0 then String.ofList (sign ++ ['0', '.', '0'])
  else String.ofList (sign ++ magnitude format size)

end SeriesQuery.Decimal
