/-
Filters as their query texts are read: the members of a junction joined in
pairs from the left, a single member alone, and a truth value for none. This
keeps the meaning (`holds_paired`), and it keeps what a simplified filter
simplifies to (`normalize_paired`): the parts of the pairs are those of all
members.
-/
import SeriesQuery.Proofs.Filter.Rewriting

namespace SeriesQuery

variable [PatternEngine]

namespace Junction

open SeriesQuery.Filter (truth Core Simplified)

variable {j : Junction} {f g : Filter} {fs xs : List Filter} {s : Series}

/-- A filter joined with others, one after the other. -/
def pairs (j : Junction) (f : Filter) (fs : List Filter) : Filter :=
  fs.foldl (fun g h => j.of [g, h]) f

theorem pairs_nil : j.pairs f [] = f := rfl

theorem pairs_cons : j.pairs f (g :: fs) = j.pairs (j.of [f, g]) fs := rfl

theorem holds_pairs : (j.pairs f fs).holds s = j.verdict ↔ (j.of (f :: fs)).holds s = j.verdict := by
  induction fs generalizing f with
  | nil =>
    rw [pairs_nil, holds_of]
    simp
  | cons g fs ih =>
    rw [pairs_cons, ih, holds_of, holds_of]
    simp only [List.mem_cons, exists_eq_or_imp, holds_of, List.not_mem_nil, or_false, exists_eq_left,
      or_assoc]

theorem pairs_of_ne_not (h : Filter) : j.pairs (j.of [f, g]) fs ≠ .not h := by
  induction fs generalizing f g with
  | nil => exact of_ne_not h
  | cons k fs ih => exact ih

/-- A simplified filter is the junction of itself. -/
theorem reduce_singleton (hf : Simplified f) : j.reduce [f] = f := by
  obtain ⟨b, rfl⟩ | hcore := hf
  · cases j <;> cases b <;> rfl
  · by_cases hof : ∃ gs, f = j.of gs
    · obtain ⟨gs, rfl⟩ := hof
      obtain ⟨-, -, hcores, -⟩ := members_of_core hcore
      calc j.reduce [j.of gs] = j.reduce [j.reduce gs] := by rw [reduce_of_core hcore]
        _ = j.reduce ([] ++ gs ++ []) :=
          reduce_splice [] [] fun g hg => (hcores g hg).simplified
        _ = j.of gs := by rw [List.nil_append, List.append_nil, reduce_of_core hcore]
    · have hall : j.allParts [f] = some [f] := allParts_of_partsOf fun g hg => by
        rw [List.mem_singleton.mp hg, partsOf_of_core hcore fun gs h => hof ⟨gs, h⟩]
      rw [reduce, hall]
      cases j <;> rfl

/-- Joining one more member to a simplified junction. -/
theorem reduce_pair (hxs : ∀ x ∈ xs, Simplified x) :
    j.reduce [j.reduce xs, g] = j.reduce (xs ++ [g]) :=
  reduce_splice [] [g] hxs

theorem normalize_pair : (j.of [f, g]).normalize = j.reduce [f.normalize, g.normalize] :=
  normalize_of

/-- Pairs simplify to what all their members simplify to. -/
theorem normalize_pairs (hxs : ∀ x ∈ xs, Simplified x) (h : f.normalize = j.reduce xs) :
    (j.pairs f fs).normalize = j.reduce (xs ++ fs.map Filter.normalize) := by
  induction fs generalizing f xs with
  | nil => rw [pairs_nil, h, List.map_nil, List.append_nil]
  | cons g fs ih =>
    have hpair : (j.of [f, g]).normalize = j.reduce (xs ++ [g.normalize]) := by
      rw [normalize_pair, h, reduce_pair hxs]
    have hall : ∀ x ∈ xs ++ [g.normalize], Simplified x := fun x hx =>
      (List.mem_append.mp hx).elim (hxs x) fun hx => by
        rw [List.mem_singleton.mp hx]
        exact Filter.simplified_normalize g
    rw [pairs_cons, ih hall hpair, List.map_cons, List.append_assoc]
    rfl

end Junction

namespace Filter

mutual

/-- The filter with its junctions as pairs. -/
def paired : Filter → Filter
  | all [] => always
  | any [] => never
  | all (f :: fs) => Junction.conj.pairs (paired f) (pairedList fs)
  | any (f :: fs) => Junction.disj.pairs (paired f) (pairedList fs)
  | not f => not (paired f)
  | f => f

def pairedList : List Filter → List Filter
  | [] => []
  | f :: fs => paired f :: pairedList fs

end

theorem pairedList_eq_map (fs : List Filter) : pairedList fs = fs.map paired := by
  induction fs with
  | nil => rw [pairedList, List.map_nil]
  | cons f fs ih => rw [pairedList, List.map_cons, ih]

theorem paired_truth (b : Bool) : (truth b).paired = truth b := by
  cases b <;> simp only [truth, Bool.false_eq_true, if_true, if_false, paired]

theorem paired_of_isAtom {f : Filter} (h : f.isAtom = true) : f.paired = f := by
  cases f with
  | always | never | all | any | not => cases h
  | _ => simp only [paired]

theorem paired_of_nil (j : Junction) : (j.of []).paired = truth !j.verdict := by
  cases j <;> simp only [Junction.of, paired] <;> rfl

theorem paired_of_cons (j : Junction) (f : Filter) (fs : List Filter) :
    (j.of (f :: fs)).paired = j.pairs f.paired (fs.map paired) := by
  cases j <;> simp only [Junction.of, paired, pairedList_eq_map]

/-- Reading a junction as pairs does not change which series pass. -/
theorem holds_paired (s : Series) (f : Filter) : f.paired.holds s = f.holds s := by
  induction f using induction_members with
  | step f ih =>
    obtain ⟨b, rfl⟩ | hatom | ⟨j, fs, rfl⟩ | ⟨g, rfl⟩ := exists_form f
    · rw [paired_truth]
    · rw [paired_of_isAtom hatom]
    · rw [Junction.members_of] at ih
      apply eq_of_verdict (v := j.verdict)
      cases fs with
      | nil =>
        rw [paired_of_nil, Junction.holds_truth, Junction.holds_of]
        simp
      | cons f fs =>
        rw [paired_of_cons, Junction.holds_pairs, Junction.holds_of, Junction.holds_of,
          ← List.map_cons (f := paired)]
        constructor
        · rintro ⟨_, hg, hholds⟩
          obtain ⟨g, hmem, rfl⟩ := List.mem_map.mp hg
          exact ⟨g, hmem, (ih g hmem).symm.trans hholds⟩
        · rintro ⟨g, hmem, hholds⟩
          exact ⟨g.paired, List.mem_map_of_mem hmem, (ih g hmem).trans hholds⟩
    · rw [paired, holds, holds, ih g (List.mem_singleton_self g)]

theorem paired_ne_not {f : Filter} (h : Core f) (hne : ∀ g, f ≠ not g) (g : Filter) :
    f.paired ≠ not g := by
  obtain ⟨b, rfl⟩ | hatom | ⟨j, fs, rfl⟩ | ⟨k, rfl⟩ := exists_form f
  · exact absurd rfl (h.ne_truth b)
  · rw [paired_of_isAtom hatom]
    exact hne g
  · obtain ⟨hlength, -⟩ := Junction.members_of_core h
    rcases fs with _ | ⟨f, _ | ⟨g, fs⟩⟩
    · cases hlength
    · exact absurd hlength (by simp)
    · rw [paired_of_cons, List.map_cons, Junction.pairs_cons]
      exact Junction.pairs_of_ne_not _
  · exact absurd rfl (hne k)

/-- Simplifying gives the same whether or not the junctions are read as pairs. -/
theorem normalize_paired {f : Filter} (h : Core f) : f.paired.normalize = f.normalize := by
  -- Two negations go at once, so the negation of the filter is carried along.
  suffices f.paired.normalize = f.normalize ∧ (not f).paired.normalize = (not f).normalize from this.1
  induction f using induction_members with
  | step f ih =>
    have hboth (hne : ∀ g, f ≠ not g) (heq : f.paired.normalize = f.normalize) :
        f.paired.normalize = f.normalize ∧ (not f).paired.normalize = (not f).normalize := by
      refine ⟨heq, ?_⟩
      rw [paired, normalize_not_of_ne (paired_ne_not h hne), normalize_not_of_ne hne, heq]
    cases h with
    | atom hatom =>
      exact hboth (fun g h => by rw [h] at hatom; cases hatom) (by rw [paired_of_isAtom hatom])
    | @not g hg =>
      obtain ⟨heq, hnot⟩ := ih g (List.mem_singleton_self g) hg
      refine ⟨hnot, ?_⟩
      rw [paired, paired, normalize, normalize, heq]
    | @of j fs hlength hsorted hcores hflat =>
      refine hboth Junction.of_ne_not ?_
      rw [Junction.members_of] at ih
      cases fs with
      | nil => cases hlength
      | cons f fs =>
        have heq : ∀ g ∈ f :: fs, g.paired.normalize = g.normalize :=
          fun g hg => (ih g hg (hcores g hg)).1
        have hlist : (fs.map paired).map normalize = fs.map normalize := by
          rw [List.map_map]
          exact List.map_congr_left fun g hg => heq g (List.mem_cons_of_mem f hg)
        have hone : ∀ x ∈ [f.normalize], Simplified x := fun x hx => by
          rw [List.mem_singleton.mp hx]
          exact simplified_normalize f
        have hfirst : f.paired.normalize = j.reduce [f.normalize] := by
          rw [heq f List.mem_cons_self, Junction.reduce_singleton (simplified_normalize f)]
        rw [paired_of_cons, Junction.normalize_pairs hone hfirst, hlist, Junction.normalize_of]
        rfl

/-- What a filter simplifies to, read as pairs, simplifies as before. -/
theorem normalize_paired_normalize (f : Filter) :
    f.normalize.paired.normalize = f.normalize.normalize := by
  obtain ⟨b, hb⟩ | h := simplified_normalize f
  · rw [hb, paired_truth]
  · exact normalize_paired h

end Filter

end SeriesQuery
