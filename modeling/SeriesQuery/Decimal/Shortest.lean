/-
Shortest decimals of binary floating point numbers.

A finite double is `m * 2 ^ q`. Its interval holds the reals that round to
it: half way to the neighbours on both sides, the ends included when `m` is
even. `digits` takes the coarsest decimal grid with a point in the interval,
and of two such points the nearer.
-/
namespace SeriesQuery.Decimal

/-- A positive decimal number: the digits, then the power of ten of the first digit. -/
structure Digits where
  digits : Nat
  exponent : Int
  deriving DecidableEq, Repr

/-- The first bit of a mantissa, which is not stored. -/
def leadingBit : Nat := 4503599627370496

/-- Mantissa and exponent of the finite double with these bits, without its sign. -/
def mantissa (bits : Nat) : Nat × Int :=
  let exponent : Nat := bits / leadingBit % 2048
  let fraction : Nat := bits % leadingBit
  if exponent = 0 then (fraction, -1074) else (fraction + leadingBit, Int.ofNat exponent - 1075)

/-- `x * base ^ e` as a numerator over a denominator. -/
def scaled (x base : Nat) (e : Int) : Nat × Nat :=
  if 0 ≤ e then (x * Nat.pow base e.toNat, 1) else (x, Nat.pow base (-e).toNat)

/-- The reals that round to a double, as multiples of `1 / den`. -/
structure Interval where
  lo : Nat
  value : Nat
  hi : Nat
  den : Nat
  closed : Bool

/-- The interval of `m * 2 ^ q`. The gap below a power of two is half the gap above. -/
def interval (m : Nat) (q : Int) : Interval :=
  let narrow := m == leadingBit && q != -1074
  let (unit, den) := scaled 1 2 (q - 2)
  let below := if narrow then 1 else 2
  ⟨(4 * m - below) * unit, 4 * m * unit, (4 * m + 2) * unit, den, m % 2 == 0⟩

/-- Whether `d * 10 ^ k` rounds to the double. -/
def Interval.contains (i : Interval) (d : Nat) (k : Int) : Bool :=
  let (n, tens) := scaled d 10 k
  let x := n * i.den
  if i.closed then i.lo * tens ≤ x && x ≤ i.hi * tens else i.lo * tens < x && x < i.hi * tens

/-- The power of ten of the first digit of `num / den`, found from a guess no larger. -/
def leadingPower (num den : Nat) : Nat → Int → Int
  | 0, guess => guess
  | fuel + 1, guess =>
    let (tens, unit) := scaled 1 10 (guess + 1)
    if tens * den ≤ num * unit then leadingPower num den fuel (guess + 1) else guess

/-- Whether the upper of two grid points is the one to take: it is nearer, or as near and the tie
goes up. -/
def takesUpper (i : Interval) (tieToEven : Bool) (d : Nat) (k : Int) : Bool :=
  let (n, tens) := scaled (2 * d + 1) 10 k
  let middle := n * i.den
  let value := 2 * i.value * tens
  middle < value || (middle == value && (!tieToEven || d % 2 == 1))

/-- The point of the grid of `10 ^ k` to write for the double, if one rounds to it. -/
def gridPoint (i : Interval) (tieToEven : Bool) (k : Int) : Option Nat :=
  let (tens, unit) := scaled 1 10 k
  let d := i.value * unit / (i.den * tens)
  match i.contains d k && d != 0, i.contains (d + 1) k with
  | true, true => some (if takesUpper i tieToEven d k then d + 1 else d)
  | true, false => some d
  | false, true => some (d + 1)
  | false, false => none

/-- The first grid with a point, from the power `k` downwards. -/
def coarsest (i : Interval) (tieToEven : Bool) : Nat → Int → Option (Nat × Int)
  | 0, _ => none
  | fuel + 1, k =>
    match gridPoint i tieToEven k with
    | some d => some (d, k)
    | none => coarsest i tieToEven fuel (k - 1)

/-- The shortest digits of the positive finite double with these bits. -/
def shortest (tieToEven : Bool) (bits : Nat) : Digits :=
  let (m, q) := mantissa bits
  let i := interval m q
  let guess := ((Nat.log2 m : Int) + q) * 30103 / 100000 - 1
  let power := leadingPower i.value i.den 4 guess
  match coarsest i tieToEven 18 power with
  | some (d, k) =>
    let text := Nat.toDigits 10 d
    ⟨d, k + text.length - 1⟩
  | none => ⟨0, 0⟩

end SeriesQuery.Decimal
