/-
The shape of simplified filters at every depth (`canonical_normalize`): each
junction has two members or more, in order and none twice, no member is a
junction of the same kind, and no truth value stands in another filter. It
follows from the invariant that simplifying keeps (`simplified_normalize`),
which passes from a filter to whatever occurs in it (`Core.of_occurs`).
-/
import SeriesQuery.Proofs.Filter.Normal

namespace SeriesQuery.Filter

variable [PatternEngine]

/-- The first filter is the second one, or stands in it at some depth. -/
inductive Occurs (g : Filter) : Filter → Prop
  | here : Occurs g g
  | inside {f h : Filter} : h ∈ f.members → Occurs g h → Occurs g f

variable {f g : Filter}

/-- What occurs in a filter is that filter or occurs in a member of it. -/
theorem occurs_iff : Occurs g f ↔ g = f ∨ ∃ h ∈ f.members, Occurs g h := by
  constructor
  · rintro (_ | ⟨hmem, hoccurs⟩)
    · exact .inl rfl
    · exact .inr ⟨_, hmem, hoccurs⟩
  · rintro (rfl | ⟨h, hmem, hoccurs⟩)
    · exact .here
    · exact .inside hmem hoccurs

theorem members_truth (b : Bool) : (truth b).members = [] := by cases b <;> rfl

theorem members_of_isAtom (h : f.isAtom = true) : f.members = [] := by
  cases f <;> first | rfl | cases h

theorem occurs_truth {b : Bool} : Occurs g (truth b) ↔ g = truth b := by
  rw [occurs_iff, members_truth]
  simp

theorem Core.of_mem_members (hf : Core f) (hg : g ∈ f.members) : Core g := by
  cases hf with
  | atom h =>
    rw [members_of_isAtom h] at hg
    cases hg
  | @not f h => rwa [List.mem_singleton.mp hg]
  | of j _ _ hcores _ =>
    rw [Junction.members_of] at hg
    exact hcores g hg

theorem Core.of_occurs (hf : Core f) (h : Occurs g f) : Core g := by
  induction h with
  | here => exact hf
  | inside hmem _ ih => exact ih (hf.of_mem_members hmem)

/-- The shape of a filter in which nothing is left to flatten, to sort or to fold away. -/
structure Canonical (f : Filter) : Prop where
  two_le_length {j : Junction} {gs : List Filter} : Occurs (j.of gs) f → 2 ≤ gs.length
  sorted {j : Junction} {gs : List Filter} : Occurs (j.of gs) f → Sorted gs
  flat {j : Junction} {gs hs : List Filter} : Occurs (j.of gs) f → j.of hs ∉ gs
  ne_truth {j : Junction} {gs : List Filter} {b : Bool} : Occurs (j.of gs) f → truth b ∉ gs
  truth_only {b : Bool} : Occurs (truth b) f → f = truth b

theorem Core.canonical (hf : Core f) : Canonical f where
  two_le_length h := (Junction.members_of_core (hf.of_occurs h)).1
  sorted h := (Junction.members_of_core (hf.of_occurs h)).2.1
  flat h hmem := (Junction.members_of_core (hf.of_occurs h)).2.2.2 _ hmem _ rfl
  ne_truth h hmem := ((Junction.members_of_core (hf.of_occurs h)).2.2.1 _ hmem).ne_truth _ rfl
  truth_only h := absurd rfl ((hf.of_occurs h).ne_truth _)

theorem canonical_truth (b : Bool) : Canonical (truth b) := by
  have hof {j : Junction} {gs : List Filter} : ¬ Occurs (j.of gs) (truth b) := fun h => by
    have heq := occurs_truth.mp h
    cases j <;> cases b <;> cases heq
  exact ⟨fun h => absurd h hof, fun h => absurd h hof, fun h => absurd h hof,
    fun h => absurd h hof, fun h => (occurs_truth.mp h).symm⟩

/-- Every simplified filter has this shape. -/
theorem canonical_normalize (f : Filter) : Canonical f.normalize := by
  obtain ⟨b, hb⟩ | h := simplified_normalize f
  · rw [hb]
    exact canonical_truth b
  · exact h.canonical

end SeriesQuery.Filter
