/-
Patterns for tag values. A pattern is put between anchors and compiled as a
whole; it is kept with the program that came of it. Patterns are equal when
their texts are.
-/
import SeriesQuery.Pattern.Engine

namespace SeriesQuery

variable [PatternEngine]

/-- The text that is compiled for a pattern. -/
def anchored (pattern : String) : String := "^(?:" ++ pattern ++ ")$"

structure Pattern where
  text : String
  program : PatternEngine.Program
  compiled : PatternEngine.compile (anchored text) = .ok program

namespace Pattern

theorem text_injective {a b : Pattern} (h : a.text = b.text) : a = b := by
  obtain ⟨text, program, ha⟩ := a
  obtain ⟨_, program', hb⟩ := b
  obtain rfl : text = _ := h
  obtain rfl : program = program' := Except.ok.inj (ha.symm.trans hb)
  rfl

instance : DecidableEq Pattern := fun a b =>
  if h : a.text = b.text then isTrue (text_injective h) else isFalse fun e => h (congrArg text e)

instance : Repr Pattern := ⟨fun p _ => repr p.text⟩

/-- The pattern with this text, or why the text does not compile between the anchors. -/
def ofText? (text : String) : Except String Pattern :=
  match h : PatternEngine.compile (anchored text) with
  | .ok program => .ok ⟨text, program, h⟩
  | .error reason => .error reason

theorem ofText?_eq_error_iff {text reason : String} :
    ofText? text = .error reason ↔ PatternEngine.compile (anchored text) = .error reason := by
  unfold ofText?
  split
  · rename_i hprogram
    exact iff_of_false nofun fun hreason => nomatch hprogram.symm.trans hreason
  · rename_i hreason
    rw [hreason, Except.error.injEq, Except.error.injEq]

theorem ofText?_text (p : Pattern) : ofText? p.text = .ok p := by
  unfold ofText?
  split
  · exact congrArg Except.ok (text_injective rfl)
  · rename_i hfault
    rw [p.compiled] at hfault
    cases hfault

theorem text_of_ofText? {text : String} {p : Pattern} (h : ofText? text = .ok p) : p.text = text := by
  unfold ofText? at h
  split at h
  · cases h
    rfl
  · cases h

/-- Whether a match is found in the value, between the anchors. -/
def accepts (p : Pattern) (value : String) : Bool := PatternEngine.found p.program value

end Pattern

end SeriesQuery
