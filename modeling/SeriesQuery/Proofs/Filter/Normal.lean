/-
What simplifying gives. A simplified filter is a truth value, or it has none
in it and every junction in it has at least two members, in order, none twice,
and none a junction of the same kind (`simplified_normalize`). It holds of the
same series as the filter itself (`holds_normalize`).
-/
import SeriesQuery.Proofs.Filter.Junction

namespace SeriesQuery

theorem eq_of_verdict {a b v : Bool} (h : a = v ↔ b = v) : a = b := by
  cases a <;> cases b <;> cases v <;> simp_all

variable [PatternEngine]

namespace Filter

/-- Neither a truth value nor made of other filters. -/
def isAtom : Filter → Bool
  | key _ => true
  | tag _ _ => true
  | hasTag _ => true
  | startsWith _ _ => true
  | matching _ _ => true
  | _ => false

/-- Simplified filters other than truth values. -/
inductive Core : Filter → Prop
  | atom {f : Filter} : f.isAtom = true → Core f
  | not {f : Filter} : Core f → Core (not f)
  | of (j : Junction) {fs : List Filter} : 2 ≤ fs.length → Sorted fs → (∀ f ∈ fs, Core f) →
      (∀ f ∈ fs, ∀ gs, f ≠ j.of gs) → Core (j.of fs)

/-- A truth value, or simplified without one in it. -/
def Simplified (f : Filter) : Prop := (∃ b, f = truth b) ∨ Core f

theorem Core.ne_truth {f : Filter} (h : Core f) (b : Bool) : f ≠ truth b := by
  cases h with
  | atom h => rintro rfl; cases b <;> cases h
  | not h => cases b <;> simp [truth]
  | of j => cases j <;> cases b <;> simp [truth, Junction.of]

theorem Core.simplified {f : Filter} (h : Core f) : Simplified f := .inr h

theorem simplified_truth (b : Bool) : Simplified (truth b) := .inl ⟨b, rfl⟩

end Filter

namespace Junction

open SeriesQuery.Filter (truth Core Simplified)

variable {j : Junction} {f g : Filter} {fs : List Filter}

theorem of_injective {j' : Junction} {gs : List Filter} (h : j.of fs = j'.of gs) :
    j = j' ∧ fs = gs := by
  cases j <;> cases j' <;> simp_all [of]

/-- What a simplified junction is made of. -/
theorem members_of_core (h : Core (j.of fs)) : 2 ≤ fs.length ∧ Filter.Sorted fs ∧
    (∀ f ∈ fs, Core f) ∧ ∀ f ∈ fs, ∀ gs, f ≠ j.of gs := by
  generalize hj : j.of fs = f at h
  cases h with
  | atom h => cases j <;> subst hj <;> cases h
  | not h => cases j <;> cases hj
  | of j' hlength hsorted hcores hflat =>
    obtain ⟨rfl, rfl⟩ := of_injective hj
    exact ⟨hlength, hsorted, hcores, hflat⟩

/-- The parts of a filter that is no junction of this kind. -/
theorem partsOf_of_core (h : Core f) (hof : ∀ gs, f ≠ j.of gs) : j.partsOf f = some [f] := by
  cases j <;> cases f <;> first
    | rfl
    | exact absurd rfl (h.ne_truth true)
    | exact absurd rfl (h.ne_truth false)
    | exact absurd rfl (hof _)

/-- The parts of a simplified member have no truth values in them, and are no junctions of the
same kind. -/
theorem core_of_mem_partsOf (hf : Simplified f) {ps : List Filter} (hps : j.partsOf f = some ps)
    (hg : g ∈ ps) : Core g ∧ ∀ gs, g ≠ j.of gs := by
  obtain ⟨b, rfl⟩ | hcore := hf
  · by_cases hb : b = j.verdict
    · rw [hb, partsOf_eq_none.mpr rfl] at hps
      cases hps
    · obtain rfl : b = !j.verdict := by cases b <;> cases h : j.verdict <;> simp_all
      rw [partsOf_neutral] at hps
      cases hps
      cases hg
  · by_cases hof : ∃ gs, f = j.of gs
    · obtain ⟨gs, rfl⟩ := hof
      rw [partsOf_of] at hps
      cases hps
      obtain ⟨-, -, hcores, hflat⟩ := members_of_core hcore
      exact ⟨hcores g hg, hflat g hg⟩
    · have hflat : ∀ gs, f ≠ j.of gs := fun gs h => hof ⟨gs, h⟩
      rw [partsOf_of_core hcore hflat] at hps
      cases hps
      obtain rfl := List.mem_singleton.mp hg
      exact ⟨hcore, hflat⟩

/-- Members that are no junctions of the same kind are the parts themselves. -/
theorem allParts_of_partsOf (h : ∀ f ∈ fs, j.partsOf f = some [f]) : j.allParts fs = some fs := by
  induction fs with
  | nil => exact allParts_nil
  | cons f fs ih =>
    rw [allParts_cons, h f List.mem_cons_self, ih fun g hg => h g (List.mem_cons_of_mem f hg)]
    rfl

theorem build_of_sorted (hlength : 2 ≤ fs.length) (hsorted : Filter.Sorted fs) :
    j.build fs = j.of fs := by
  rw [build_eq, Filter.sortedSet_of_sorted hsorted]
  rcases fs with _ | ⟨f, _ | ⟨g, fs⟩⟩
  · cases hlength
  · exact absurd hlength (by simp)
  · rfl

/-- The members of a simplified junction make that junction again. -/
theorem reduce_of_core (h : Core (j.of fs)) : j.reduce fs = j.of fs := by
  obtain ⟨hlength, hsorted, hcores, hflat⟩ := members_of_core h
  have hall : j.allParts fs = some fs :=
    allParts_of_partsOf fun f hf => partsOf_of_core (hcores f hf) (hflat f hf)
  rw [reduce, hall, Option.map_some, Option.getD_some, build_of_sorted hlength hsorted]

theorem core_of_hasPart (hfs : ∀ f ∈ fs, Simplified f) (h : j.HasPart fs g) :
    Core g ∧ ∀ gs, g ≠ j.of gs := by
  obtain ⟨f, hf, ps, hps, hg⟩ := h
  exact core_of_mem_partsOf (hfs f hf) hps hg

theorem simplified_build (h : ∀ f ∈ fs, Core f ∧ ∀ gs, f ≠ j.of gs) :
    Simplified (j.build fs) := by
  have hset : ∀ f ∈ Filter.sortedSet fs, Core f ∧ ∀ gs, f ≠ j.of gs :=
    fun f hf => h f (Filter.mem_sortedSet.mp hf)
  rw [build_eq]
  split
  · exact Filter.simplified_truth _
  · rename_i f heq
    rw [heq] at hset
    exact (hset f (List.mem_singleton_self f)).1.simplified
  · rename_i hnil hone
    refine .inr (.of j ?_ (Filter.sorted_sortedSet fs) (fun f hf => (hset f hf).1)
      fun f hf => (hset f hf).2)
    rcases hlist : Filter.sortedSet fs with _ | ⟨f, _ | ⟨g, gs⟩⟩
    · exact absurd hlist hnil
    · exact absurd hlist (hone f)
    · simp

theorem simplified_reduce (h : ∀ f ∈ fs, Simplified f) : Simplified (j.reduce fs) := by
  by_cases hdecided : j.Decided fs
  · rw [reduce_of_decided hdecided]
    exact Filter.simplified_truth _
  · obtain ⟨ps, hps, hmem⟩ := exists_reduce_eq hdecided
    rw [hps]
    exact simplified_build fun g hg => core_of_hasPart h ((hmem g).mp hg)

end Junction

namespace Filter

theorem opposite_of_core {f : Filter} (h : Core f) : opposite f = not f := by
  cases f <;> first | rfl | exact absurd rfl (h.ne_truth true) | exact absurd rfl (h.ne_truth false)

theorem simplified_opposite {f : Filter} (h : Simplified f) : Simplified (opposite f) := by
  obtain ⟨b, rfl⟩ | h := h
  · cases b with
    | false => exact simplified_truth true
    | true => exact simplified_truth false
  · rw [opposite_of_core h]
    exact .inr (.not h)

/-! ## Simplifying -/

/-- A filter is a truth value, an atom, a junction or a negation. -/
theorem exists_form (f : Filter) :
    (∃ b, f = truth b) ∨ f.isAtom = true ∨ (∃ j fs, f = Junction.of j fs) ∨ ∃ g, f = not g := by
  cases f with
  | always => exact .inl ⟨true, rfl⟩
  | never => exact .inl ⟨false, rfl⟩
  | all fs => exact .inr (.inr (.inl ⟨.conj, fs, rfl⟩))
  | any fs => exact .inr (.inr (.inl ⟨.disj, fs, rfl⟩))
  | not g => exact .inr (.inr (.inr ⟨g, rfl⟩))
  | _ => exact .inr (.inl rfl)

theorem normalize_of_isAtom {f : Filter} (h : f.isAtom = true) : f.normalize = f := by
  cases f with
  | always | never | all | any | not => cases h
  | _ => simp only [normalize]

/-- A filter and its simplified form, case by case. -/
theorem normalize_induction {motive : Filter → Filter → Prop}
    (constant : ∀ b, motive (truth b) (truth b))
    (atom : ∀ f, f.isAtom = true → motive f f)
    (junction : ∀ (j : Junction) fs, (∀ f ∈ fs, motive f f.normalize) →
      motive (j.of fs) (j.reduce (fs.map normalize)))
    (negation : ∀ f, (∀ g, f ≠ not g) → motive f f.normalize →
      motive (not f) (opposite f.normalize))
    (double : ∀ f, motive f f.normalize → motive (not (not f)) f.normalize)
    (f : Filter) : motive f f.normalize := by
  -- Two negations go at once, so the negation of the filter is carried along.
  suffices motive f f.normalize ∧ motive (not f) (not f).normalize from this.1
  induction f using induction_members with
  | step f ih =>
    have hboth (hne : ∀ g, f ≠ not g) (h : motive f f.normalize) :
        motive f f.normalize ∧ motive (not f) (not f).normalize :=
      ⟨h, by rw [normalize_not_of_ne hne]; exact negation f hne h⟩
    obtain ⟨b, rfl⟩ | hatom | ⟨j, fs, rfl⟩ | ⟨g, rfl⟩ := exists_form f
    · refine hboth (fun g => by cases b <;> simp [truth]) ?_
      rw [normalize_truth]
      exact constant b
    · refine hboth (fun g h => by rw [h] at hatom; cases hatom) ?_
      rw [normalize_of_isAtom hatom]
      exact atom f hatom
    · refine hboth Junction.of_ne_not ?_
      rw [Junction.normalize_of]
      exact junction j fs fun f hf => (ih f (by rwa [Junction.members_of])).1
    · obtain ⟨hg, hnot⟩ := ih g (List.mem_singleton_self g)
      refine ⟨hnot, ?_⟩
      rw [normalize]
      exact double g hg

theorem simplified_normalize (f : Filter) : Simplified f.normalize := by
  refine normalize_induction (motive := fun _ g => Simplified g) simplified_truth
    (fun f h => .inr (.atom h)) (fun j fs h => ?_) (fun f _ h => simplified_opposite h)
    (fun f h => h) f
  refine Junction.simplified_reduce fun g hg => ?_
  obtain ⟨f, hf, rfl⟩ := List.mem_map.mp hg
  exact h f hf

theorem holds_opposite (s : Series) (f : Filter) : (opposite f).holds s = !f.holds s := by
  cases f <;> simp [opposite, holds]

/-- Simplifying a filter does not change which series pass. -/
theorem holds_normalize (s : Series) (f : Filter) : f.normalize.holds s = f.holds s := by
  refine normalize_induction (motive := fun f g => g.holds s = f.holds s) (fun b => rfl)
    (fun f _ => rfl) (fun j fs h => ?_) (fun f _ h => ?_) (fun f h => ?_) f
  · have hiff : (j.reduce (fs.map normalize)).holds s = j.verdict ↔ (j.of fs).holds s = j.verdict := by
      rw [Junction.holds_reduce, Junction.holds_of]
      constructor
      · rintro ⟨_, hg, hholds⟩
        obtain ⟨f, hf, rfl⟩ := List.mem_map.mp hg
        exact ⟨f, hf, (h f hf).symm.trans hholds⟩
      · rintro ⟨f, hf, hholds⟩
        exact ⟨f.normalize, List.mem_map_of_mem hf, (h f hf).trans hholds⟩
    exact eq_of_verdict hiff
  · rw [holds_opposite, h, holds]
  · rw [h, holds, holds, Bool.not_not]

end Filter

end SeriesQuery
