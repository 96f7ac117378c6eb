/-
Filters as query text that compiles back to them.
-/
import SeriesQuery.Filter

namespace SeriesQuery.Filter

variable [PatternEngine]

def isAllOrAny : Filter → Bool
  | all _ => true
  | any _ => true
  | _ => false

def isAny : Filter → Bool
  | any _ => true
  | _ => false

/-- A text in parentheses if it needs them. -/
def enclose (needed : Bool) (text : String) : String := if needed then "(" ++ text ++ ")" else text

mutual

/-- The query text of a filter. An empty conjunction is true, an empty disjunction false. -/
def query : Filter → String
  | always => "true"
  | never => "false"
  | all [] => "true"
  | any [] => "false"
  | all (f :: fs) => String.intercalate " and " (queryAll (f :: fs))
  | any (f :: fs) => String.intercalate " or " (queryAny (f :: fs))
  | not f => "!(" ++ query f ++ ")"
  | key k => "key(" ++ quote k ++ ")"
  | tag t v => t ++ " = " ++ quote v
  | hasTag t => "+" ++ t
  | startsWith t v => t ++ " ^ " ++ quote v
  | matching t p => t ++ " =~ " ++ quote p.text

/-- The members of a conjunction. -/
def queryAll : List Filter → List String
  | [] => []
  | f :: fs => enclose f.isAllOrAny (query f) :: queryAll fs

/-- The members of a disjunction. -/
def queryAny : List Filter → List String
  | [] => []
  | f :: fs => enclose f.isAny (query f) :: queryAny fs

end

end SeriesQuery.Filter
