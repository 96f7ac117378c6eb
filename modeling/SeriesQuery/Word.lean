/-
Integers that fit a machine word: signed ones of 64 bits, and counts below
the word's size; the doubles nearest to them, and the bytes of a number.
-/
namespace SeriesQuery

namespace Word

def least : Int := -9223372036854775808

def greatest : Int := 9223372036854775807

/-- The number of values a word has. -/
def size : Nat := 18446744073709551616

end Word

/-- The 64-bit integer of this value, if there is one. -/
def int64OfInt? (n : Int) : Option Int64 :=
  if Word.least ≤ n ∧ n ≤ Word.greatest then some (Int64.ofInt n) else none

/-- The double nearest to a 64-bit integer. The size is rounded, so the least integer is no
exception: its negation stands for its size. -/
def Word.toDouble (n : Int64) : Float :=
  if n < 0 then -(-n).toUInt64.toFloat else n.toUInt64.toFloat

/-- The `count` bytes of a number, the highest first. -/
def Word.bigEndian (count n : Nat) : List UInt8 :=
  (List.range count).reverse.map fun i => UInt8.ofNat (n >>> (8 * i))

/-- The count of this value, if it is one and fits. -/
def countOfInt? (n : Int) : Option Nat := if 0 ≤ n ∧ n < Word.size then some n.toNat else none

end SeriesQuery
