/-
The order of filters: by kind, then by their parts from left to right.
Lists compare item by item, a shorter list before its extensions; texts
compare by code points, patterns by their texts.
-/
import SeriesQuery.Filter

namespace SeriesQuery

/-- Texts in order of their code points. -/
def compareText (a b : String) : Ordering := if a < b then .lt else if a = b then .eq else .gt

namespace Filter

variable [PatternEngine]

/-- The place of a filter's kind among the kinds. -/
def rank : Filter → Nat
  | always => 0
  | never => 1
  | all _ => 2
  | any _ => 3
  | not _ => 4
  | key _ => 5
  | tag _ _ => 6
  | hasTag _ => 7
  | startsWith _ _ => 8
  | matching _ _ => 9

mutual

def compare : Filter → Filter → Ordering
  | all fs, all gs => compareList fs gs
  | any fs, any gs => compareList fs gs
  | not f, not g => compare f g
  | key a, key b => compareText a b
  | tag t v, tag u w => (compareText t u).then (compareText v w)
  | hasTag t, hasTag u => compareText t u
  | startsWith t v, startsWith u w => (compareText t u).then (compareText v w)
  | matching t p, matching u q => (compareText t u).then (compareText p.text q.text)
  | f, g => Ord.compare f.rank g.rank

def compareList : List Filter → List Filter → Ordering
  | [], [] => .eq
  | [], _ :: _ => .lt
  | _ :: _, [] => .gt
  | f :: fs, g :: gs => (compare f g).then (compareList fs gs)

end

/-- Whether two filters are the same. -/
def same (f g : Filter) : Bool := compare f g == .eq

/-- A sorted list of filters with one more, unless it is there already. -/
def insertSorted (f : Filter) : List Filter → List Filter
  | [] => [f]
  | g :: gs =>
    match compare f g with
    | .lt => f :: g :: gs
    | .eq => g :: gs
    | .gt => g :: insertSorted f gs

/-- The filters in order, none twice. -/
def sortedSet (fs : List Filter) : List Filter := fs.foldr insertSorted []

/-- The filters in order, equal ones kept. -/
def sorted (fs : List Filter) : List Filter := fs.mergeSort fun f g => compare f g != .gt

end Filter

end SeriesQuery
