/-
Ways to write a junction. Its members may change places or stand twice, a
neutral one may come or go, and a junction of the same kind may give way to its
own members: what the junction simplifies to stays the same
(`normalize_rewritten`). Only the simplified members and their parts count, and
a simplified junction has just the parts of its members (`reduce_splice`).
-/
import Mathlib.Logic.Relation
import SeriesQuery.Proofs.Filter.Normal
import SeriesQuery.Regex.Engine

namespace SeriesQuery

namespace Junction

open SeriesQuery.Filter (truth Simplified)

section Rewriting

variable [PatternEngine] {j : Junction} {f g : Filter} {xs ys zs as bs : List Filter}

/-! ## Simplified junctions among the members -/

/-- The parts of a simplified junction are the parts of its members. -/
theorem partsOf_reduce (hxs : ∀ x ∈ xs, Simplified x) (h : ¬ j.Decided xs) :
    ∃ ps, j.partsOf (j.reduce xs) = some ps ∧ ∀ g, g ∈ ps ↔ j.HasPart xs g := by
  obtain ⟨ps, hps, hmem⟩ := exists_reduce_eq h
  rw [hps, build_eq]
  split
  · rename_i hnil
    refine ⟨[], partsOf_neutral, fun g => ?_⟩
    rw [← hmem, ← hnil, Filter.mem_sortedSet]
  · rename_i f hone
    have hf : j.HasPart xs f := by
      rw [← hmem, ← Filter.mem_sortedSet, hone]
      exact List.mem_singleton_self f
    obtain ⟨hcore, hflat⟩ := core_of_hasPart hxs hf
    refine ⟨[f], partsOf_of_core hcore hflat, fun g => ?_⟩
    rw [← hmem, ← hone, Filter.mem_sortedSet]
  · refine ⟨_, partsOf_of, fun g => ?_⟩
    rw [Filter.mem_sortedSet, hmem]

theorem decided_append : j.Decided (xs ++ ys) ↔ j.Decided xs ∨ j.Decided ys := List.mem_append

theorem hasPart_append : j.HasPart (xs ++ ys) g ↔ j.HasPart xs g ∨ j.HasPart ys g := by
  simp only [HasPart, List.mem_append, or_and_right, exists_or]

/-- Members in the middle may be put for others that decide alike and have the same parts. -/
theorem reduce_append_congr (xs ys : List Filter) (hdecided : j.Decided as ↔ j.Decided bs)
    (hparts : ¬ j.Decided as → ∀ g, j.HasPart as g ↔ j.HasPart bs g) :
    j.reduce (xs ++ as ++ ys) = j.reduce (xs ++ bs ++ ys) := by
  refine reduce_congr ?_ fun h g => ?_
  · simp only [decided_append, hdecided]
  · have has : ¬ j.Decided as := fun hmid =>
      h (decided_append.mpr (.inl (decided_append.mpr (.inr hmid))))
    simp only [hasPart_append, hparts has]

/-- A simplified junction among the members may be put for the members it came from. -/
theorem reduce_splice (xs ys : List Filter) (hzs : ∀ z ∈ zs, Simplified z) :
    j.reduce (xs ++ [j.reduce zs] ++ ys) = j.reduce (xs ++ zs ++ ys) := by
  by_cases h : j.Decided zs
  · have hverdict : j.Decided [j.reduce zs] := by
      rw [reduce_of_decided h]
      exact List.mem_singleton_self _
    exact reduce_append_congr xs ys (iff_of_true hverdict h) fun hnot => absurd hverdict hnot
  · obtain ⟨ps, hps, hmem⟩ := partsOf_reduce hzs h
    have hundecided : ¬ j.Decided [j.reduce zs] := fun hverdict => by
      rw [partsOf_eq_none.mpr (List.mem_singleton.mp hverdict).symm] at hps
      cases hps
    refine reduce_append_congr xs ys (iff_of_false hundecided h) fun _ g => ?_
    rw [← hmem g]
    simp [HasPart, hps]

theorem reduce_neutral (xs ys : List Filter) :
    j.reduce (xs ++ ys) = j.reduce (xs ++ [truth !j.verdict] ++ ys) := by
  have hne : truth j.verdict ≠ truth !j.verdict := by cases j <;> simp [truth, verdict]
  have hdecided : j.Decided [] ↔ j.Decided [truth !j.verdict] := by simp [Decided, hne]
  have h := reduce_append_congr xs ys hdecided fun _ g => by simp [HasPart, partsOf_neutral]
  rwa [List.append_nil] at h

/-- What a junction simplifies to depends on which members it has, not on their places. -/
theorem reduce_of_mem_iff (h : ∀ f, f ∈ xs ↔ f ∈ ys) : j.reduce xs = j.reduce ys :=
  reduce_congr (h _) fun _ g => by simp only [HasPart, h]

/-! ## Rewriting the members -/

/-- One change to the list of the members of a junction. -/
inductive Rewrite (j : Junction) : List Filter → List Filter → Prop
  | permute {xs ys : List Filter} : xs.Perm ys → Rewrite j xs ys
  | duplicate (xs ys : List Filter) {f : Filter} : f ∈ xs ++ ys →
      Rewrite j (xs ++ ys) (xs ++ [f] ++ ys)
  | neutral (xs ys : List Filter) : Rewrite j (xs ++ ys) (xs ++ [truth !j.verdict] ++ ys)
  | splice (xs zs ys : List Filter) : Rewrite j (xs ++ [j.of zs] ++ ys) (xs ++ zs ++ ys)

theorem normalize_of_mem_iff (h : ∀ f, f ∈ xs ↔ f ∈ ys) :
    (j.of xs).normalize = (j.of ys).normalize := by
  rw [normalize_of, normalize_of]
  exact reduce_of_mem_iff fun f => by simp only [List.mem_map, h]

theorem Rewrite.normalize_eq (h : j.Rewrite xs ys) :
    (j.of xs).normalize = (j.of ys).normalize := by
  cases h with
  | permute hperm => exact normalize_of_mem_iff fun f => hperm.mem_iff
  | duplicate xs ys hf =>
    refine normalize_of_mem_iff fun g => ?_
    simp only [List.mem_append, List.mem_singleton] at hf ⊢
    constructor
    · rintro (hg | hg)
      · exact .inl (.inl hg)
      · exact .inr hg
    · rintro ((hg | rfl) | hg)
      · exact .inl hg
      · exact hf
      · exact .inr hg
  | neutral xs ys =>
    rw [normalize_of, normalize_of]
    simp only [List.map_append, List.map_cons, List.map_nil, Filter.normalize_truth]
    exact reduce_neutral _ _
  | splice xs zs ys =>
    have hzs : ∀ z ∈ zs.map Filter.normalize, Simplified z := fun z hz => by
      obtain ⟨f, -, rfl⟩ := List.mem_map.mp hz
      exact Filter.simplified_normalize f
    rw [normalize_of, normalize_of]
    simp only [List.map_append, List.map_cons, List.map_nil, normalize_of]
    exact reduce_splice _ _ hzs

/-- However its members are written, a junction simplifies to the same filter. -/
theorem normalize_rewritten (h : Relation.EqvGen j.Rewrite xs ys) :
    (j.of xs).normalize = (j.of ys).normalize := by
  induction h with
  | rel xs ys hstep => exact hstep.normalize_eq
  | refl xs => rfl
  | symm xs ys _ ih => exact ih.symm
  | trans xs ys zs _ _ hxs hys => exact hxs.trans hys

end Rewriting

open scoped Regex

theorem normalize_rewritten_flat :
    Relation.EqvGen (Rewrite .conj)
        [.hasTag "b", .all [.hasTag "a", .always], .hasTag "b"] [.hasTag "a", .hasTag "b"] ∧
      (Filter.all [.hasTag "b", .all [.hasTag "a", .always], .hasTag "b"]).normalize =
        (Filter.all [.hasTag "a", .hasTag "b"]).normalize := by
  let a : Filter := .hasTag "a"
  let b : Filter := .hasTag "b"
  have hsplice : Rewrite .conj [b, .all [a, .always], b] [b, a, .always, b] :=
    .splice [b] [a, .always] [b]
  have hneutral : Rewrite .conj [b, a, b] [b, a, .always, b] := .neutral [b, a] [b]
  have hduplicate : Rewrite .conj [a, b] [b, a, b] :=
    .duplicate [] [a, b] (List.mem_cons_of_mem a (List.mem_singleton_self b))
  have h : Relation.EqvGen (Rewrite .conj) [b, .all [a, .always], b] [a, b] :=
    .trans _ _ _ (.rel _ _ hsplice)
      (.trans _ _ _ (.symm _ _ (.rel _ _ hneutral)) (.symm _ _ (.rel _ _ hduplicate)))
  exact ⟨h, normalize_rewritten h⟩

end Junction

end SeriesQuery
