/-
Filters with tags that queries can name: every tag name in them is a name of
the language. Simplifying makes no new tag names.
-/
import SeriesQuery.Token.Scan
import SeriesQuery.Proofs.Filter.Normal

namespace SeriesQuery.Filter

variable [PatternEngine]

mutual

/-- Every tag name is a name of the language. -/
def Named : Filter → Prop
  | all fs => AllNamed fs
  | any fs => AllNamed fs
  | not f => Named f
  | tag t _ => isName t = true
  | hasTag t => isName t = true
  | startsWith t _ => isName t = true
  | matching t _ => isName t = true
  | _ => True

def AllNamed : List Filter → Prop
  | [] => True
  | f :: fs => Named f ∧ AllNamed fs

end

theorem allNamed_iff {fs : List Filter} : AllNamed fs ↔ ∀ f ∈ fs, f.Named := by
  induction fs with
  | nil => simp [AllNamed]
  | cons f fs ih => rw [AllNamed, ih, List.forall_mem_cons]

theorem named_of {j : Junction} {fs : List Filter} : (j.of fs).Named ↔ ∀ f ∈ fs, f.Named := by
  rw [← allNamed_iff]
  cases j <;> rw [Junction.of, Named]

theorem named_not {f : Filter} : (not f).Named ↔ f.Named := by rw [Named]

theorem named_truth (b : Bool) : (truth b).Named := by
  cases b <;> simp only [truth, Bool.false_eq_true, if_true, if_false, Named]

theorem inherits_not_named {j : Junction} : j.Inherits fun f => ¬ f.Named where
  neutral h := h (named_truth _)
  of fs := by
    rw [named_of]
    simp

theorem named_reduce {j : Junction} {fs : List Filter} (h : ∀ f ∈ fs, f.Named) :
    (j.reduce fs).Named := by
  by_cases hdecided : j.Decided fs
  · rw [Junction.reduce_of_decided hdecided]
    exact named_truth _
  · refine Classical.byContradiction fun hnot => ?_
    obtain ⟨f, hf, hnamed⟩ := (inherits_not_named.reduce hdecided).mp hnot
    exact hnamed (h f hf)

theorem named_opposite {f : Filter} (h : f.Named) : (opposite f).Named := by
  unfold opposite
  split
  · exact named_truth false
  · exact named_truth true
  · exact named_not.mpr h

theorem named_normalize {f : Filter} (h : f.Named) : f.normalize.Named := by
  refine normalize_induction (motive := fun f g => f.Named → g.Named) (fun b h => h)
    (fun f _ h => h) (fun j fs ih h => ?_) (fun f _ ih h => ?_) (fun f ih h => ?_) f h
  · refine named_reduce fun g hg => ?_
    obtain ⟨f, hf, rfl⟩ := List.mem_map.mp hg
    exact ih f hf (named_of.mp h f hf)
  · exact named_opposite (ih (named_not.mp h))
  · exact ih (named_not.mp (named_not.mp h))

end SeriesQuery.Filter
