/-
Filters that simplify to a truth value. What `and`, `or` and `not` make of
such filters simplifies to what they make of the truth values.
-/
import SeriesQuery.Filter.Normal

namespace SeriesQuery.Filter

variable [PatternEngine]

/-- The filter of a truth value. -/
def truth (b : Bool) : Filter := if b then always else never

theorem normalize_truth (b : Bool) : (truth b).normalize = truth b := by
  cases b <;> rfl

theorem normalize_all_truth {f g : Filter} {a b : Bool} (hf : f.normalize = truth a)
    (hg : g.normalize = truth b) : (all [f, g]).normalize = truth (a && b) := by
  simp only [normalize, normalizeList, hf, hg]
  cases a <;> cases b <;> rfl

theorem normalize_any_truth {f g : Filter} {a b : Bool} (hf : f.normalize = truth a)
    (hg : g.normalize = truth b) : (any [f, g]).normalize = truth (a || b) := by
  simp only [normalize, normalizeList, hf, hg]
  cases a <;> cases b <;> rfl

theorem opposite_eq_truth {f : Filter} {b : Bool} : opposite f = truth b ↔ f = truth !b := by
  cases b <;> cases f <;> simp [opposite, truth]

theorem normalize_not_of_ne {f : Filter} (h : ∀ g, f ≠ not g) :
    (not f).normalize = opposite f.normalize := by
  cases f with
  | not g => exact absurd rfl (h g)
  | _ => simp only [normalize]

/-- The shortcut for a double negation agrees with negating a truth value twice. -/
theorem normalize_not_eq_truth : (f : Filter) → (b : Bool) →
    ((not f).normalize = truth b ↔ f.normalize = truth !b)
  | not g, b => by
    rw [normalize]
    simpa using (normalize_not_eq_truth g !b).symm
  | always, b | never, b | all _, b | any _, b | key _, b | tag _ _, b | hasTag _, b
  | startsWith _ _, b | matching _ _, b => by
    rw [normalize_not_of_ne (by simp), opposite_eq_truth]

end SeriesQuery.Filter
