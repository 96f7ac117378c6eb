/-
Filters: predicates on series. `holds` is their meaning; a filter can also
be named, shown in brackets, and counted by its parts.
-/
import SeriesQuery.Series
import SeriesQuery.Pattern

namespace SeriesQuery

variable [PatternEngine]

inductive Filter
  | always
  | never
  | all (filters : List Filter)
  | any (filters : List Filter)
  | not (filter : Filter)
  | key (key : String)
  | tag (tag value : String)
  | hasTag (tag : String)
  | startsWith (tag value : String)
  | matching (tag : String) (pattern : Pattern)

namespace Filter

/-- A filter by pattern, or why the text makes none. -/
def matching? (tag pattern : String) : Except String Filter :=
  (Pattern.ofText? pattern).map (.matching tag)

theorem matching?_text (tag : String) (p : Pattern) : matching? tag p.text = .ok (matching tag p) := by
  rw [matching?, p.ofText?_text]
  rfl

/-- The short name of a filter's kind. -/
def operator : Filter → String
  | always => "true"
  | never => "false"
  | all _ => "and"
  | any _ => "or"
  | not _ => "not"
  | key _ => "key"
  | tag _ _ => "="
  | hasTag _ => "+"
  | startsWith _ _ => "^"
  | matching _ _ => "~"

mutual

/-- Whether the series passes. -/
def holds (s : Series) : Filter → Bool
  | always => true
  | never => false
  | all filters => allHold s filters
  | any filters => anyHolds s filters
  | not filter => !holds s filter
  | key k => s.key == k
  | tag t v => s.tag? t == some v
  | hasTag t => s.tags.contains t
  | startsWith t v => (s.tag? t).any fun value => v.toList.isPrefixOf value.toList
  | matching t p => (s.tag? t).any p.accepts

def allHold (s : Series) : List Filter → Bool
  | [] => true
  | f :: fs => holds s f && allHold s fs

def anyHolds (s : Series) : List Filter → Bool
  | [] => false
  | f :: fs => holds s f || anyHolds s fs

end

mutual

/-- The filter in brackets: its kind, then its parts. -/
def bracketed : Filter → String
  | always => "[true]"
  | never => "[false]"
  | all filters => "[and" ++ bracketedList filters ++ "]"
  | any filters => "[or" ++ bracketedList filters ++ "]"
  | not filter => "[not, " ++ bracketed filter ++ "]"
  | key k => s!"[key, {k}]"
  | tag t v => s!"[=, {t}, {v}]"
  | hasTag t => s!"[+, {t}]"
  | startsWith t v => s!"[^, {t}, {v}]"
  | matching t p => s!"[~, {t}, {p.text}]"

def bracketedList : List Filter → String
  | [] => ""
  | f :: fs => ", " ++ bracketed f ++ bracketedList fs

end

end Filter

end SeriesQuery
