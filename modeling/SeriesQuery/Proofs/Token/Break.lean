/-
Where words and numbers end. Layout, brackets, commas and semicolons end any
word or number before them, so what the scanner makes of a word or a number
does not change when the text goes on with one of these (`number_append`,
`word_append`).
-/
import Mathlib.Data.List.TakeDrop
import SeriesQuery.Token.Scan

namespace SeriesQuery.Scan

/-- Characters that end a word or a number before them. -/
def breaks : List Char :=
  [' ', '\t', '\r', '\n', ',', ';', '(', ')', '[', ']', '\x7b', '\x7d']

/-- What follows, if anything, starts with a character that ends a word or a number. -/
def AtBreak (more : List Char) : Prop := ∀ c ∈ more.head?, c ∈ breaks

theorem atBreak_nil : AtBreak [] := nofun

theorem atBreak_cons {c : Char} (h : c ∈ breaks) (cs : List Char) : AtBreak (c :: cs) := by
  rintro _ ⟨⟩
  exact h

variable {more : List Char}

/-- What no break satisfies, the head of what follows does not. -/
theorem AtBreak.not {p : Char → Bool} (h : AtBreak more)
    (hp : (breaks.all fun c => !p c) = true) : ∀ c ∈ more.head?, p c = false := by
  intro c hc
  have hbreak := List.all_eq_true.mp hp c (h c hc)
  rwa [Bool.not_eq_true'] at hbreak

theorem AtBreak.noDigit (h : AtBreak more) : ∀ c ∈ more.head?, c.isDigit = false :=
  h.not (by decide)

theorem AtBreak.noLetter (h : AtBreak more) : ∀ c ∈ more.head?, c.isAlpha = false :=
  h.not (by decide)

theorem AtBreak.noNameChar (h : AtBreak more) : ∀ c ∈ more.head?, isNameChar c = false :=
  h.not (by decide)

/-- A stretch that stops before `more` stops there also when `more` follows. -/
theorem span_append {p : Char → Bool} (h : ∀ c ∈ more.head?, p c = false) (cs : List Char) :
    (cs ++ more).span p = ((cs.span p).1, (cs.span p).2 ++ more) := by
  simp only [List.span_eq_takeWhile_dropWhile]
  induction cs with
  | nil =>
    cases more with
    | nil => rfl
    | cons c more => simp [h c rfl]
  | cons c cs ih =>
    rw [Prod.mk.injEq] at ih
    cases hc : p c with
    | false => simp [hc]
    | true => simp [hc, ih.1, ih.2]

/-- A stretch is the text before what stops it. -/
theorem span_eq {p : Char → Bool} {cs : List Char} (h : ∀ c ∈ cs, p c = true)
    (hmore : ∀ c ∈ more.head?, p c = false) : (cs ++ more).span p = (cs, more) := by
  rw [List.span_eq_takeWhile_dropWhile, List.takeWhile_append_of_pos h,
    List.dropWhile_append_of_pos h]
  cases more with
  | nil => simp
  | cons c more => simp [hmore c rfl]

/-- The same step on a text that goes on. -/
def Step.append (more : List Char) : Step → Step
  | token kind text rest => token kind text (rest ++ more)
  | fault f skipped text => fault f skipped text

theorem fraction_of_no_point {cs : List Char} (h : ∀ c ∈ cs.head?, (c == '.') = false) :
    fraction cs = ([], cs) := by
  unfold fraction
  split
  · simp at h
  · rfl

theorem fraction_append (h : AtBreak more) (cs : List Char) :
    fraction (cs ++ more) = ((fraction cs).1, (fraction cs).2 ++ more) := by
  have hmore : ∀ c ∈ more.head?, (c == '.') = false := h.not (by decide)
  by_cases hpoint : cs.head? = some '.'
  · obtain ⟨cs, rfl⟩ := List.head?_eq_some_iff.mp hpoint
    cases cs with
    | nil =>
      cases more with
      | nil => rfl
      | cons c more => simp [fraction, h.noDigit c rfl]
    | cons c cs =>
      simp only [List.cons_append, fraction]
      split
      · exact span_append h.noDigit (c :: cs)
      · rfl
  · have hcs : ∀ c ∈ cs.head?, (c == '.') = false := by
      intro c hc
      rw [beq_eq_false_iff_ne]
      rintro rfl
      exact hpoint hc
    have happend : ∀ c ∈ (cs ++ more).head?, (c == '.') = false := by
      cases cs with
      | nil => exact hmore
      | cons c cs => exact hcs
    rw [fraction_of_no_point hcs, fraction_of_no_point happend]

/-- The digits after the mark of an exponent and its sign. -/
def exponentDigits (mark cs : List Char) : Option (List Char × List Char × List Char) :=
  match cs.span Char.isDigit with
  | ([], _) => none
  | (ds, rest) => some (mark, ds, rest)

theorem exponentDigits_append (h : AtBreak more) (mark cs : List Char) :
    exponentDigits mark (cs ++ more) =
      (exponentDigits mark cs).map fun (mark, ds, rest) => (mark, ds, rest ++ more) := by
  simp only [exponentDigits, span_append h.noDigit]
  obtain ⟨ds, rest⟩ := cs.span Char.isDigit
  cases ds <;> rfl

theorem exponent_plus {e : Char} (he : (e == 'e' || e == 'E') = true) (cs : List Char) :
    exponent (e :: '+' :: cs) = exponentDigits [e, '+'] cs :=
  if_pos he

theorem exponent_minus {e : Char} (he : (e == 'e' || e == 'E') = true) (cs : List Char) :
    exponent (e :: '-' :: cs) = exponentDigits [e, '-'] cs :=
  if_pos he

theorem exponent_unsigned {e : Char} (he : (e == 'e' || e == 'E') = true) {cs : List Char}
    (hcs : ∀ c ∈ cs.head?, c ≠ '+' ∧ c ≠ '-') : exponent (e :: cs) = exponentDigits [e] cs := by
  cases cs with
  | nil => exact if_pos he
  | cons c cs =>
    obtain ⟨hplus, hminus⟩ := hcs c rfl
    simp only [exponent, he, if_true, List.cons.injEq, hplus, hminus, false_and, false_implies,
      implies_true]
    rfl

theorem exponent_append (h : AtBreak more) (cs : List Char) :
    exponent (cs ++ more) =
      (exponent cs).map fun (mark, ds, rest) => (mark, ds, rest ++ more) := by
  have hmark : ∀ c ∈ more.head?, (c == 'e' || c == 'E') = false := h.not (by decide)
  have hsign : ∀ c ∈ more.head?, c ≠ '+' ∧ c ≠ '-' := by
    intro c hc
    simpa using h.not (p := fun c => c == '+' || c == '-') (by decide) c hc
  cases cs with
  | nil =>
    cases more with
    | nil => rfl
    | cons c more => simp only [List.nil_append, exponent, hmark c rfl]; rfl
  | cons e cs =>
    cases he : (e == 'e' || e == 'E') with
    | false => simp only [List.cons_append, exponent, he]; rfl
    | true =>
      by_cases hplus : cs.head? = some '+'
      · obtain ⟨cs, rfl⟩ := List.head?_eq_some_iff.mp hplus
        exact (exponent_plus he _).trans ((exponentDigits_append h _ cs).trans
          (by rw [exponent_plus he]))
      by_cases hminus : cs.head? = some '-'
      · obtain ⟨cs, rfl⟩ := List.head?_eq_some_iff.mp hminus
        exact (exponent_minus he _).trans ((exponentDigits_append h _ cs).trans
          (by rw [exponent_minus he]))
      have hcs : ∀ c ∈ cs.head?, c ≠ '+' ∧ c ≠ '-' := fun c hc =>
        ⟨fun heq => hplus (heq ▸ hc), fun heq => hminus (heq ▸ hc)⟩
      have happend : ∀ c ∈ (cs ++ more).head?, c ≠ '+' ∧ c ≠ '-' := by
        cases cs with
        | nil => exact hsign
        | cons c cs => exact hcs
      rw [List.cons_append, exponent_unsigned he happend, exponent_unsigned he hcs]
      exact exponentDigits_append h _ cs

theorem duration_append (h : AtBreak more) (text : List Char) (whole : Option (List Char))
    (cs : List Char) : duration text whole (cs ++ more) = (duration text whole cs).append more := by
  simp only [duration, span_append h.noLetter, span_append h.noNameChar]
  cases whole with
  | none => rfl
  | some digits =>
    dsimp only
    split
    · rfl
    · split <;> rfl

theorem startsWithLetter_append (h : AtBreak more) (cs : List Char) :
    startsWithLetter (cs ++ more) = startsWithLetter cs := by
  cases cs with
  | nil =>
    cases more with
    | nil => rfl
    | cons c more => exact h.noLetter c rfl
  | cons c cs => rfl

theorem double_append (h : AtBreak more) (text : List Char) (x : Float) (cs : List Char) :
    number.double text x (cs ++ more) = (number.double text x cs).append more := by
  simp only [number.double, startsWithLetter_append h]
  split
  · exact duration_append h text none cs
  · split <;> rfl

/-- A number is read alike when the text goes on at a break. -/
theorem number_append (h : AtBreak more) (cs : List Char) :
    number (cs ++ more) = (number cs).append more := by
  simp only [number, span_append h.noDigit, fraction_append h, exponent_append h,
    startsWithLetter_append h]
  cases exponent (fraction (cs.span Char.isDigit).2).2 with
  | some e => exact double_append h _ _ _
  | none =>
    dsimp only [Option.map_none]
    split
    · exact double_append h _ _ _
    · split
      · exact duration_append h _ _ _
      · split <;> rfl

/-- A word is read alike when the text goes on at a break. -/
theorem word_append (h : AtBreak more) (cs : List Char) :
    word (cs ++ more) = (word cs).append more := by
  simp only [word, span_append h.noNameChar]
  rfl

end SeriesQuery.Scan
