/-
Simplified filters. Conjunctions and disjunctions are flattened, sorted and
freed of duplicates; what always or never holds is folded away, and so is a
double negation.
-/
import SeriesQuery.Filter.Order

namespace SeriesQuery.Filter

variable [PatternEngine]

/-- The parts of a conjunction, given those of each member; none when one can never hold. -/
def conjuncts : List Filter → Option (List Filter)
  | [] => some []
  | always :: fs => conjuncts fs
  | never :: _ => none
  | all gs :: fs => (conjuncts fs).map (gs ++ ·)
  | f :: fs => (conjuncts fs).map (f :: ·)

/-- The parts of a disjunction, given those of each member; none when one always holds. -/
def disjuncts : List Filter → Option (List Filter)
  | [] => some []
  | never :: fs => disjuncts fs
  | always :: _ => none
  | any gs :: fs => (disjuncts fs).map (gs ++ ·)
  | f :: fs => (disjuncts fs).map (f :: ·)

def conjunction (fs : List Filter) : Filter :=
  match sortedSet fs with
  | [] => always
  | [f] => f
  | fs => all fs

def disjunction (fs : List Filter) : Filter :=
  match sortedSet fs with
  | [] => never
  | [f] => f
  | fs => any fs

/-- The opposite of a simplified filter. -/
def opposite : Filter → Filter
  | always => never
  | never => always
  | f => not f

mutual

def normalize : Filter → Filter
  | all fs => ((conjuncts (normalizeList fs)).map conjunction).getD never
  | any fs => ((disjuncts (normalizeList fs)).map disjunction).getD always
  | not (not f) => normalize f
  | not f => opposite (normalize f)
  | f => f

def normalizeList : List Filter → List Filter
  | [] => []
  | f :: fs => normalize f :: normalizeList fs

end

end SeriesQuery.Filter
