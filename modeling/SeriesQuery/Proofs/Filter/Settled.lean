/-
When simplifying again changes nothing. A pass takes away two negations that
stand together in the filter it is given; but a negated junction may come down
to a negation, and then the pass leaves a new pair (`hasPair_normalize`). Such
pairs are all that is left to do: a simplified filter without one is a fixed
point (`normalize_of_core`), and one with a pair gets smaller the next time
(`shrinks_normalize`).
-/
import SeriesQuery.Proofs.Filter.Canonical
import SeriesQuery.Regex.Engine

namespace SeriesQuery

section Settled

variable [PatternEngine]

namespace Filter

variable {f g : Filter} {fs : List Filter} {j : Junction}

/-- Two negations stand together somewhere in the filter. -/
def HasPair (f : Filter) : Prop := ∃ g, Occurs (not (not g)) f

theorem hasPair_iff : f.HasPair ↔ (∃ g, f = not (not g)) ∨ ∃ h ∈ f.members, h.HasPair := by
  simp only [HasPair, occurs_iff (f := f), exists_or, eq_comm (b := f)]
  constructor
  · rintro (h | ⟨g, h, hmem, hoccurs⟩)
    · exact .inl h
    · exact .inr ⟨h, hmem, g, hoccurs⟩
  · rintro (h | ⟨h, hmem, g, hoccurs⟩)
    · exact .inl h
    · exact .inr ⟨g, h, hmem, hoccurs⟩

theorem hasPair_of : (j.of fs).HasPair ↔ ∃ f ∈ fs, f.HasPair := by
  rw [hasPair_iff, Junction.members_of]
  simp [Junction.of_ne_not]

theorem hasPair_not : (not f).HasPair ↔ (∃ g, f = not g) ∨ f.HasPair := by
  rw [hasPair_iff]
  simp [members]

theorem not_hasPair_of_members (h : f.members = []) : ¬ f.HasPair := by
  rw [hasPair_iff, h]
  rintro (⟨g, rfl⟩ | ⟨g, hmem, -⟩)
  · cases h
  · cases hmem

theorem not_hasPair_truth (b : Bool) : ¬ (truth b).HasPair :=
  not_hasPair_of_members (members_truth b)

theorem inherits_hasPair : j.Inherits HasPair where
  neutral := not_hasPair_truth _
  of _ := hasPair_of

/-! ## Fixed points -/

/-- A simplified filter without such a pair simplifies to itself. -/
theorem normalize_of_core (h : Core f) (hpair : ¬ f.HasPair) : f.normalize = f := by
  induction h with
  | atom hatom => exact normalize_of_isAtom hatom
  | @not f hcore ih =>
    rw [hasPair_not] at hpair
    have hne : ∀ g, f ≠ not g := fun g heq => hpair (.inl ⟨g, heq⟩)
    rw [normalize_not_of_ne hne, ih fun h => hpair (.inr h), opposite_of_core hcore]
  | @of j fs hlength hsorted hcores hflat ih =>
    have hfs : fs.map normalize = fs :=
      (List.map_congr_left fun f hf => ih f hf fun h => hpair (hasPair_of.mpr ⟨f, hf, h⟩)).trans
        (List.map_id fs)
    rw [Junction.normalize_of, hfs, Junction.reduce_of_core (.of j hlength hsorted hcores hflat)]

/-! ## Sizes -/

theorem sizeOf_append (fs gs : List Filter) : sizeOf (fs ++ gs) + 1 = sizeOf fs + sizeOf gs := by
  induction fs with
  | nil => simp [Nat.add_comm]
  | cons f fs ih =>
    simp only [List.cons_append, List.cons.sizeOf_spec]
    omega

theorem sizeOf_insertSorted (f : Filter) (fs : List Filter) :
    sizeOf (insertSorted f fs) ≤ sizeOf (f :: fs) := by
  induction fs with
  | nil => exact Nat.le_refl _
  | cons g fs ih =>
    simp only [List.cons.sizeOf_spec] at ih
    rw [insertSorted]
    split <;> simp only [List.cons.sizeOf_spec] <;> omega

theorem sizeOf_sortedSet (fs : List Filter) : sizeOf (sortedSet fs) ≤ sizeOf fs := by
  induction fs with
  | nil => exact Nat.le_refl _
  | cons f fs ih =>
    have hinsert := sizeOf_insertSorted f (sortedSet fs)
    change sizeOf (insertSorted f (sortedSet fs)) ≤ _
    simp only [List.cons.sizeOf_spec] at hinsert ⊢
    omega

theorem sizeOf_truth (b : Bool) : sizeOf (truth b) = 1 := by cases b <;> rfl

theorem sizeOf_opposite (f : Filter) : sizeOf (opposite f) ≤ 1 + sizeOf f := by
  cases f <;> simp [opposite]

end Filter

namespace Junction

open SeriesQuery.Filter (truth)

variable {j : Junction} {f : Filter} {fs ps : List Filter}

theorem sizeOf_of : sizeOf (j.of fs) = 1 + sizeOf fs := by cases j <;> simp [of]

theorem sizeOf_partsOf (h : j.partsOf f = some ps) : sizeOf ps ≤ 2 + sizeOf f := by
  obtain ⟨rfl, rfl⟩ | rfl | rfl := partsOf_eq_some h
  · simp only [List.nil.sizeOf_spec]
    omega
  · rw [sizeOf_of]
    omega
  · simp only [List.cons.sizeOf_spec, List.nil.sizeOf_spec]
    omega

theorem sizeOf_allParts (h : j.allParts fs = some ps) : sizeOf ps ≤ sizeOf fs := by
  induction fs generalizing ps with
  | nil =>
    cases allParts_nil.symm.trans h
    exact Nat.le_refl _
  | cons f fs ih =>
    rw [allParts_cons, Option.bind_eq_some_iff] at h
    obtain ⟨qs, hqs, h⟩ := h
    obtain ⟨rs, hrs, rfl⟩ := Option.map_eq_some_iff.mp h
    have hf := sizeOf_partsOf hqs
    have hfs := ih hrs
    have happend := Filter.sizeOf_append qs rs
    simp only [List.cons.sizeOf_spec]
    omega

theorem sizeOf_build (j : Junction) (fs : List Filter) : sizeOf (j.build fs) ≤ sizeOf (j.of fs) := by
  have hset := Filter.sizeOf_sortedSet fs
  rw [build_eq, sizeOf_of]
  split
  · rw [Filter.sizeOf_truth]
    omega
  · rename_i heq
    rw [heq, List.cons.sizeOf_spec] at hset
    omega
  · rw [sizeOf_of]
    omega

/-- A junction does not grow when it is simplified. -/
theorem sizeOf_reduce (j : Junction) (fs : List Filter) :
    sizeOf (j.reduce fs) ≤ sizeOf (j.of fs) := by
  rw [reduce]
  cases hps : j.allParts fs with
  | none =>
    rw [Option.map_none, Option.getD_none, Filter.sizeOf_truth, sizeOf_of]
    omega
  | some ps =>
    have hbuild := sizeOf_build j ps
    have hparts := sizeOf_allParts hps
    rw [sizeOf_of] at hbuild ⊢
    rw [Option.map_some, Option.getD_some]
    omega

end Junction

namespace Filter

variable {f g : Filter} {fs : List Filter} {j : Junction}

/-- The second filter is no larger than the first, and smaller if that one has two negations
together. -/
def Shrinks (f g : Filter) : Prop := sizeOf g ≤ sizeOf f ∧ (f.HasPair → sizeOf g < sizeOf f)

theorem sizeOf_map_normalize (h : ∀ f ∈ fs, Shrinks f f.normalize) :
    sizeOf (fs.map normalize) ≤ sizeOf fs ∧
      ((∃ f ∈ fs, f.HasPair) → sizeOf (fs.map normalize) < sizeOf fs) := by
  induction fs with
  | nil => simp
  | cons f fs ih =>
    obtain ⟨hle, hlt⟩ := h f List.mem_cons_self
    obtain ⟨hsle, hslt⟩ := ih fun g hg => h g (List.mem_cons_of_mem f hg)
    simp only [List.map_cons, List.cons.sizeOf_spec, List.mem_cons, exists_eq_or_imp]
    refine ⟨by omega, ?_⟩
    rintro (hpair | hpair)
    · have := hlt hpair
      omega
    · have := hslt hpair
      omega

/-- Simplifying makes no filter larger, and makes one with two negations together smaller. -/
theorem shrinks_normalize (f : Filter) : Shrinks f f.normalize := by
  refine normalize_induction (motive := Shrinks)
    (fun b => ⟨Nat.le_refl _, fun h => absurd h (not_hasPair_truth b)⟩)
    (fun f hatom => ⟨Nat.le_refl _,
      fun h => absurd h (not_hasPair_of_members (members_of_isAtom hatom))⟩)
    (fun j fs h => ?_) (fun f hne h => ?_) (fun f h => ?_) f
  · have hreduce := Junction.sizeOf_reduce j (fs.map normalize)
    obtain ⟨hle, hlt⟩ := sizeOf_map_normalize h
    rw [Shrinks, hasPair_of]
    rw [Junction.sizeOf_of] at hreduce ⊢
    exact ⟨by omega, fun hpair => by have := hlt hpair; omega⟩
  · have hopposite := sizeOf_opposite f.normalize
    obtain ⟨hle, hlt⟩ := h
    rw [Shrinks, hasPair_not, not.sizeOf_spec]
    refine ⟨by omega, ?_⟩
    rintro (⟨g, hg⟩ | hpair)
    · exact absurd hg (hne g)
    · have := hlt hpair
      omega
  · obtain ⟨hle, -⟩ := h
    simp only [Shrinks, not.sizeOf_spec]
    exact ⟨by omega, fun _ => by omega⟩

/-! ## Pairs that simplifying leaves -/

/-- A negated junction of the filter comes down to a negation, where simplifying keeps it: no
junction around it is decided, and no second negation takes the first away. -/
inductive LeavesPair : Filter → Prop
  | comesDown {j : Junction} {fs : List Filter} {g : Filter} :
      (j.of fs).normalize = not g → LeavesPair (not (j.of fs))
  | negated {j : Junction} {fs : List Filter} : LeavesPair (j.of fs) → LeavesPair (not (j.of fs))
  | twice {f : Filter} : LeavesPair f → LeavesPair (not (not f))
  | member {j : Junction} {fs : List Filter} {f : Filter} :
      ¬ j.Decided (fs.map normalize) → f ∈ fs → LeavesPair f → LeavesPair (j.of fs)

theorem not_leavesPair_of_members (h : f.members = []) : ¬ LeavesPair f := by
  intro hleaves
  cases hleaves with
  | comesDown | negated | twice => cases h
  | member _ hmem _ =>
    rw [Junction.members_of] at h
    rw [h] at hmem
    cases hmem

theorem leavesPair_of :
    LeavesPair (j.of fs) ↔ ¬ j.Decided (fs.map normalize) ∧ ∃ f ∈ fs, LeavesPair f := by
  constructor
  · intro h
    generalize hf : j.of fs = f at h
    cases h with
    | comesDown | negated | twice => exact absurd hf (Junction.of_ne_not _)
    | member hdecided hmem hleaves =>
      obtain ⟨rfl, rfl⟩ := Junction.of_injective hf
      exact ⟨hdecided, _, hmem, hleaves⟩
  · rintro ⟨hdecided, f, hmem, hleaves⟩
    exact .member hdecided hmem hleaves

theorem leavesPair_not_not : LeavesPair (not (not f)) ↔ LeavesPair f := by
  refine ⟨fun h => ?_, .twice⟩
  generalize hf : not (not f) = g at h
  cases h with
  | comesDown | negated => exact absurd (not.inj hf).symm (Junction.of_ne_not _)
  | twice h => rwa [not.inj (not.inj hf)]
  | member => exact absurd hf.symm (Junction.of_ne_not _)

theorem leavesPair_not (hne : ∀ g, f ≠ not g) :
    LeavesPair (not f) ↔ (∃ g, f.normalize = not g) ∨ LeavesPair f := by
  constructor
  · intro h
    generalize hf : not f = k at h
    cases h with
    | comesDown heq =>
      rw [not.inj hf]
      exact .inl ⟨_, heq⟩
    | negated h =>
      rw [not.inj hf]
      exact .inr h
    | twice => exact absurd (not.inj hf) (hne _)
    | member => exact absurd hf.symm (Junction.of_ne_not _)
  · -- Nothing but a junction simplifies to a negation or leaves a pair.
    obtain ⟨b, rfl⟩ | hatom | ⟨j, fs, rfl⟩ | ⟨g, rfl⟩ := exists_form f
    · rintro (⟨g, hg⟩ | h)
      · rw [normalize_truth] at hg
        exact absurd hg (hne g)
      · exact absurd h (not_leavesPair_of_members (members_truth b))
    · rintro (⟨g, hg⟩ | h)
      · rw [normalize_of_isAtom hatom] at hg
        exact absurd hg (hne g)
      · exact absurd h (not_leavesPair_of_members (members_of_isAtom hatom))
    · rintro (⟨g, hg⟩ | h)
      · exact .comesDown hg
      · exact .negated h
    · exact absurd rfl (hne g)

theorem hasPair_opposite (h : Simplified f) :
    (opposite f).HasPair ↔ (∃ g, f = not g) ∨ f.HasPair := by
  obtain ⟨b, rfl⟩ | hcore := h
  · have hopposite : opposite (truth b) = truth !b := by cases b <;> rfl
    have hne : ¬ ∃ g, truth b = not g := by cases b <;> simp [truth]
    rw [hopposite]
    exact iff_of_false (not_hasPair_truth _) (not_or.mpr ⟨hne, not_hasPair_truth b⟩)
  · rw [opposite_of_core hcore, hasPair_not]

/-- The pairs that simplifying leaves. -/
theorem hasPair_normalize (f : Filter) : f.normalize.HasPair ↔ LeavesPair f := by
  refine normalize_induction (motive := fun f g => g.HasPair ↔ LeavesPair f)
    (fun b => iff_of_false (not_hasPair_truth b) (not_leavesPair_of_members (members_truth b)))
    (fun f h => iff_of_false (not_hasPair_of_members (members_of_isAtom h))
      (not_leavesPair_of_members (members_of_isAtom h)))
    (fun j fs h => ?_) (fun f hne h => ?_) (fun f h => ?_) f
  · rw [leavesPair_of]
    by_cases hdecided : j.Decided (fs.map normalize)
    · rw [Junction.reduce_of_decided hdecided]
      exact iff_of_false (not_hasPair_truth _) fun hleaves => hleaves.1 hdecided
    · rw [inherits_hasPair.reduce hdecided]
      constructor
      · rintro ⟨_, hg, hpair⟩
        obtain ⟨f, hf, rfl⟩ := List.mem_map.mp hg
        exact ⟨hdecided, f, hf, (h f hf).mp hpair⟩
      · rintro ⟨-, f, hf, hleaves⟩
        exact ⟨f.normalize, List.mem_map_of_mem hf, (h f hf).mpr hleaves⟩
  · rw [hasPair_opposite (simplified_normalize f), leavesPair_not hne, h]
  · rw [leavesPair_not_not, h]

/-! ## Simplifying again -/

theorem normalize_of_simplified (h : Simplified f) (hpair : ¬ f.HasPair) : f.normalize = f := by
  obtain ⟨b, rfl⟩ | hcore := h
  · exact normalize_truth b
  · exact normalize_of_core hcore hpair

/-- Simplifying again changes nothing just when no two negations stand together, and they do just
when a negated junction has come down to a negation. -/
theorem normalize_settled_iff (f : Filter) :
    (f.normalize.normalize = f.normalize ↔ ¬ f.normalize.HasPair) ∧
      (f.normalize.HasPair ↔ LeavesPair f) := by
  refine ⟨⟨fun heq hpair => ?_, normalize_of_simplified (simplified_normalize f)⟩,
    hasPair_normalize f⟩
  have hlt := (shrinks_normalize f.normalize).2 hpair
  rw [heq] at hlt
  exact Nat.lt_irrefl _ hlt

end Filter

end Settled

open scoped Regex

/-- The conjunction comes down to its one member, a negation, and meets the negation around it. -/
theorem Filter.normalize_not_settled :
    (not (all [not (hasTag "a")])).normalize.HasPair ∧
      (not (all [not (hasTag "a")])).normalize.normalize ≠
        (not (all [not (hasTag "a")])).normalize := by
  have honce : (not (all [not (hasTag "a")])).normalize = not (not (hasTag "a")) := rfl
  have htwice : (not (not (hasTag "a"))).normalize = hasTag "a" := rfl
  rw [honce, htwice]
  exact ⟨⟨hasTag "a", .here⟩, nofun⟩

end SeriesQuery
