/-
Pattern engines: what compiles patterns and matches them. Which texts are
patterns, and what they match, is the engine's business; the library works
with any of them.
-/
namespace SeriesQuery

/-- What compiles patterns and matches them. It is an instance so that what only hands patterns on
need not name it. -/
class PatternEngine where
  /-- A compiled pattern. -/
  Program : Type
  /-- The program of a text, or why it has none. -/
  compile : String → Except String Program
  /-- Whether a match is found anywhere in a text. -/
  found : Program → String → Bool

namespace PatternEngine

variable [PatternEngine]

/-- Whether the engine takes a text for a pattern. -/
def accepts (text : String) : Bool := (compile text).isOk

theorem accepts_iff {text : String} :
    accepts text = true ↔ ∃ program, compile text = .ok program := by
  unfold accepts
  cases compile text with
  | ok program => exact iff_of_true rfl ⟨program, rfl⟩
  | error reason => exact iff_of_false nofun nofun

end PatternEngine

end SeriesQuery
