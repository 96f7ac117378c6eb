/-
The pattern engine the program runs with: patterns are read as trees, and
matching walks the tree. There is no bound on how large a tree may be, only
on how deep it may be nested; an engine that compiles trees to programs will
have a bound on their size as well.
-/
import SeriesQuery.Pattern.Engine
import SeriesQuery.Regex.Reader

namespace SeriesQuery.Regex

/-- What is said about a text that is no pattern. What is wrong with it is not told. -/
def notAPattern : String := "regex parse error: not a pattern"

scoped instance engine : PatternEngine where
  Program := Node
  compile text := (parse text).elim (.error notAPattern) .ok
  found := Node.found

end SeriesQuery.Regex
