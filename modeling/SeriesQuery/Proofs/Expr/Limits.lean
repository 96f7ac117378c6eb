/-
Limits only restrict. A limit that is reached ends the parse with a failure
of its own (`Reached`). Any other result, a tree or a failure, is the result
under all greater limits, and every text has limits that it does not reach
(`limits_only_restrict`).
-/
import SeriesQuery.Proofs.Expr.Nesting
import SeriesQuery.Proofs.Token.Slice
import SeriesQuery.Regex.Engine

namespace SeriesQuery

/-- Limits are compared in both of their bounds. -/
instance : LE Limits := ⟨fun a b => a.length ≤ b.length ∧ a.nesting ≤ b.nesting⟩

namespace Expr

/-- The failure is that the text is too long, or that it is nested too deep, for the limits. -/
inductive Reached (limits : Limits) (source : String) : Failure → Prop
  | length : limits.length < source.utf8ByteSize →
      Reached limits source (unexpected ⟨limits.length, source.utf8ByteSize⟩
        (.queryLength limits.length) (.bytes source.utf8ByteSize))
  | nesting (span : Span) : Reached limits source (tooDeep limits.nesting span)

section Limited

variable [PatternEngine]

/-- The text is parsed, or fails with anything but that a limit is reached. -/
def Within (limits : Limits) (source : String) : Prop :=
  ∀ f, parse limits source = .error f → ¬ Reached limits source f

variable {limits : Limits} {source : String}

theorem Within.length_le (h : Within limits source) : source.utf8ByteSize ≤ limits.length :=
  Nat.le_of_not_lt fun hlong => h _ (parse_of_lt hlong) (.length hlong)

theorem Within.not_tooDeep (h : Within limits source) :
    ¬ TooDeep limits.nesting (ofTokens limits.nesting (tokenize source)) := by
  rintro ⟨span, hdeep⟩
  exact h _ ((parse_of_le h.length_le).trans hdeep) (.nesting span)

theorem within_of_not_tooDeep (hlength : source.utf8ByteSize ≤ limits.length)
    (h : ¬ TooDeep limits.nesting (ofTokens limits.nesting (tokenize source))) :
    Within limits source := by
  intro f hf hreached
  rw [parse_of_le hlength] at hf
  cases hreached with
  | length hlong => exact Nat.not_lt.mpr hlength hlong
  | nesting span => exact h ⟨span, hf⟩

theorem lexFaults_tokenize (source : String) : LexFaults (tokenize source) := by
  obtain ⟨_, _, ts, last, -, -, hlast, hitems⟩ := exists_lexes_tokenize source
  intro f hf
  rw [hitems, List.mem_append, List.mem_singleton] at hf
  rcases hf with hf | rfl
  · simp at hf
  · cases hlast
    rfl

/-- A text that is within limits has the same tree, or the same failure, under all greater limits.
Every text is within limits above its length and the number of its tokens. -/
theorem limits_only_restrict (source : String) :
    (∀ limits limits', limits ≤ limits' → Within limits source →
      parse limits' source = parse limits source) ∧
    ∀ limits : Limits, source.utf8ByteSize ≤ limits.length →
      (tokenize source).length < limits.nesting → Within limits source := by
  constructor
  · intro limits limits' ⟨hlength, hnesting⟩ h
    rw [parse_of_le h.length_le, parse_of_le (Nat.le_trans h.length_le hlength)]
    exact ofTokens_mono hnesting h.not_tooDeep
  · intro limits hlength hnesting
    exact within_of_not_tooDeep hlength
      (ofTokens_not_tooDeep_of_lexFaults (lexFaults_tokenize source) hnesting)

end Limited

open scoped Regex

/-- An operand that is missing is missing at the same place under greater limits, and a text that is
parsed is parsed as the same tree. A text of three tokens is within limits of six bytes and four
levels. -/
theorem limits_only_restrict_missing :
    ⟨6, 6⟩ ≤ Limits.default ∧
    (Within ⟨6, 6⟩ "x*(y+)" ∧ parse .default "x*(y+)" =
      .error (unexpected ⟨5, 6⟩ .expression (.token (.symbol .rightParen)))) ∧
    (Within ⟨6, 6⟩ "x*(-y)" ∧ ∃ e, parse ⟨6, 6⟩ "x*(-y)" = .ok e ∧ parse .default "x*(-y)" = .ok e) ∧
    "x = \"y".utf8ByteSize ≤ 6 ∧ (tokenize "x = \"y").length < 4 ∧ Within ⟨6, 4⟩ "x = \"y" := by
  have hle : ⟨6, 6⟩ ≤ Limits.default := by
    constructor <;> decide
  have hmissing : parse ⟨6, 6⟩ "x*(y+)" =
      .error (unexpected ⟨5, 6⟩ .expression (.token (.symbol .rightParen))) := rfl
  have hwithin : Within ⟨6, 6⟩ "x*(y+)" := by
    intro f hf
    rw [hmissing] at hf
    cases hf
    nofun
  obtain ⟨e, he⟩ : ∃ e, parse ⟨6, 6⟩ "x*(-y)" = .ok e := ⟨_, rfl⟩
  have hparsed : Within ⟨6, 6⟩ "x*(-y)" := by
    intro f hf
    rw [he] at hf
    cases hf
  have hlength : "x = \"y".utf8ByteSize ≤ 6 := by decide
  have htokens : (tokenize "x = \"y").length < 4 := by decide
  have hgreater := (limits_only_restrict "x*(y+)").1 _ _ hle hwithin
  have hsame := (limits_only_restrict "x*(-y)").1 _ _ hle hparsed
  obtain ⟨-, hroom⟩ := limits_only_restrict "x = \"y"
  exact ⟨hle, ⟨hwithin, hgreater.trans hmissing⟩, ⟨hparsed, e, he, hsame.trans he⟩, hlength, htokens,
    hroom ⟨6, 4⟩ hlength htokens⟩

end Expr

end SeriesQuery
