/-
Byte ranges of a text, and where they lie in it. Offsets count UTF-8 bytes,
lines and columns count from one, and a column counts characters.

`slice` is the text a range covers, none when an end falls inside a
character or past the text. `underline` is the two-line excerpt a
diagnostic shows: the line the range starts on and carets under the part of
it the range covers.
-/
namespace SeriesQuery

/-- The number of bytes the characters take in UTF-8. -/
def byteLength : List Char → Nat
  | [] => 0
  | c :: cs => c.utf8Size + byteLength cs

/-- The text from byte `n` on, none when `n` is not a character boundary. -/
def dropBytes : Nat → List Char → Option (List Char)
  | 0, cs => some cs
  | _ + 1, [] => none
  | n + 1, c :: cs => if c.utf8Size ≤ n + 1 then dropBytes (n + 1 - c.utf8Size) cs else none

/-- The first `n` bytes of the text, none when `n` is not a character boundary. -/
def takeBytes : Nat → List Char → Option (List Char)
  | 0, _ => some []
  | _ + 1, [] => none
  | n + 1, c :: cs =>
    if c.utf8Size ≤ n + 1 then (takeBytes (n + 1 - c.utf8Size) cs).map (c :: ·) else none

/-- The lines of a text without their endings, `\n` or `\r\n`. A final ending starts no line. -/
def lines : List Char → List (List Char)
  | [] => []
  | '\n' :: cs => [] :: lines cs
  | '\r' :: '\n' :: cs => [] :: lines cs
  | c :: cs =>
    match lines cs with
    | [] => [[c]]
    | l :: ls => (c :: l) :: ls

/-- A half-open range of byte offsets. -/
structure Span where
  start : Nat
  stop : Nat
  deriving DecidableEq, Repr, Inhabited

namespace Span

/-- The empty range at an offset. -/
def point (offset : Nat) : Span := ⟨offset, offset⟩

/-- The least range covering both. -/
def join (a b : Span) : Span := ⟨min a.start b.start, max a.stop b.stop⟩

/-- The range moved right by `n` bytes. -/
def shift (n : Nat) (s : Span) : Span := ⟨s.start + n, s.stop + n⟩

def text (s : Span) : String := s!"{s.start}..{s.stop}"

/-- The characters the range covers. -/
def sliceChars (s : Span) (source : List Char) : Option (List Char) :=
  if s.start ≤ s.stop then (dropBytes s.start source).bind (takeBytes (s.stop - s.start)) else none

/-- The text the range covers, if it lies within `source`. -/
def slice (s : Span) (source : String) : Option String :=
  (s.sliceChars source.toList).map String.ofList

/-- The text before the start of the range; all of it when the start is no boundary. -/
def before (s : Span) (source : List Char) : List Char :=
  (takeBytes (min s.start (byteLength source)) source).getD source

/-- Line and column of the start of the range. -/
def locate (s : Span) (source : List Char) : Nat × Nat :=
  let before := s.before source
  (before.count '\n' + 1, (before.reverse.takeWhile (· ≠ '\n')).length + 1)

/-- The line the range starts on. -/
def line (s : Span) (source : List Char) : List Char :=
  (lines source)[(s.locate source).1 - 1]?.getD []

/-- How many carets to draw: one for each character covered on the first line, at least one,
and none past the end of the line unless it is the only one. -/
def caretCount (s : Span) (source : List Char) : Nat :=
  let left := (s.line source).length - ((s.locate source).2 - 1)
  let covered := (((s.sliceChars source).bind fun cs => (lines cs).head?).getD []).length
  min (max 1 covered) (max left 1)

/-- A message with its position, the line it is about, and carets under the covered part. -/
def report (s : Span) (message : String) (source : String) : String :=
  let chars := source.toList
  let (line, column) := s.locate chars
  s!"{line}:{column}: {message}\n  {String.ofList (s.line chars)}\n  "
    ++ String.ofList (List.replicate (column - 1) ' ' ++ List.replicate (s.caretCount chars) '^')

end Span

end SeriesQuery
