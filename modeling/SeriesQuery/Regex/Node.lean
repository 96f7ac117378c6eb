/-
Patterns as trees, and what they match. Matching works on sets of positions
of the text: from the positions where a match may start, the positions where
it may end. Which of several matches is preferred plays no part.
-/
import SeriesQuery.Regex.CharClass

namespace SeriesQuery.Regex

/-- Conditions on a position. The word conditions see all word characters, or only ASCII ones. -/
inductive Look
  | textStart
  | textEnd
  | lineStart
  | lineEnd
  | lineStartCrlf
  | lineEndCrlf
  | wordBoundary (ascii : Bool)
  | noWordBoundary (ascii : Bool)
  | wordStart (ascii : Bool)
  | wordEnd (ascii : Bool)
  | wordStartHalf (ascii : Bool)
  | wordEndHalf (ascii : Bool)
  deriving DecidableEq, Repr

/-- Whether a neighbouring character is there and belongs to a word. -/
def wordBeside (ascii : Bool) : Option Char → Bool
  | none => false
  | some c => if ascii then Unicode.asciiWord c.toNat else Unicode.isWord c.toNat

/-- Whether a condition holds between two neighbouring characters, either of them missing at an
end of the text. -/
def Look.holds (prev next : Option Char) : Look → Bool
  | textStart => prev.isNone
  | textEnd => next.isNone
  | lineStart => prev.isNone || prev == some '\n'
  | lineEnd => next.isNone || next == some '\n'
  | lineStartCrlf =>
    prev.isNone || prev == some '\n' || (prev == some '\r' && next != some '\n')
  | lineEndCrlf =>
    next.isNone || next == some '\r' || (next == some '\n' && prev != some '\r')
  | wordBoundary ascii => wordBeside ascii prev != wordBeside ascii next
  | noWordBoundary ascii => wordBeside ascii prev == wordBeside ascii next
  | wordStart ascii => !wordBeside ascii prev && wordBeside ascii next
  | wordEnd ascii => wordBeside ascii prev && !wordBeside ascii next
  | wordStartHalf ascii => !wordBeside ascii prev
  | wordEndHalf ascii => !wordBeside ascii next

inductive Node
  | empty
  | one (cls : CharClass)
  | look (condition : Look)
  | seq (first second : Node)
  | alt (first second : Node)
  /-- At least `least` and, when given, at most `most` times. -/
  | repeated (node : Node) (least : Nat) (most : Option Nat)

/-- Positions of either list, without repetition when neither has any. -/
def merge (a b : List Nat) : List Nat := a ++ b.filter fun i => !a.contains i

/-- `n` steps. -/
def stepTimes (step : List Nat → List Nat) : Nat → List Nat → List Nat
  | 0, starts => starts
  | n + 1, starts => if starts.isEmpty then [] else stepTimes step n (step starts)

/-- At most `n` steps, stopping once nothing new is reached. Only the positions that the last step
added are stepped from again. -/
def stepUpTo (step : List Nat → List Nat) : Nat → List Nat → List Nat → List Nat
  | 0, _, reached => reached
  | n + 1, latest, reached =>
    let added := (step latest).filter fun i => !reached.contains i
    if added.isEmpty then reached else stepUpTo step n added (reached ++ added)

namespace Node

/-- Where matches that start at one of the positions may end. Of more repetitions than the text has
characters, one is empty and can be left out or repeated, so their number makes no difference. -/
def ends (text : Array Char) : Node → List Nat → List Nat
  | empty, starts => starts
  | one cls, starts =>
    starts.filterMap fun i =>
      (text[i]?).bind fun c => if cls.contains c.toNat then some (i + 1) else none
  | look condition, starts =>
    starts.filter fun i => condition.holds (if i = 0 then none else text[i - 1]?) text[i]?
  | seq a b, starts => b.ends text (a.ends text starts)
  | alt a b, starts => merge (a.ends text starts) (b.ends text starts)
  | repeated node least most, starts =>
    let extra := match most with
      | none => text.size + 1
      | some most => most - least
    let starts := stepTimes (node.ends text) (min least (text.size + 1)) starts
    stepUpTo (node.ends text) extra starts starts

/-- Whether some part of the text, possibly empty, matches. -/
def found (node : Node) (text : String) : Bool :=
  let chars := text.toList.toArray
  !(node.ends chars (List.range (chars.size + 1))).isEmpty

end Node

end SeriesQuery.Regex
