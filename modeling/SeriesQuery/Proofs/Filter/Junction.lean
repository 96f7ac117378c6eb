/-
Conjunctions and disjunctions at once. A junction has a truth value that one
member alone decides it by, and the other one, which changes nothing among
its members. Simplifying collects the parts of the simplified members: it
fails if a member decides, and keeps each part once otherwise. So the result
depends only on whether a member decides and on what the parts are
(`reduce_congr`), and what a junction has from its members it keeps
(`Inherits.reduce`).
-/
import SeriesQuery.Proofs.Filter.Order
import SeriesQuery.Proofs.Filter.Truth

namespace SeriesQuery

inductive Junction
  | conj | disj
  deriving DecidableEq, Repr

namespace Junction

open SeriesQuery.Filter (truth)

variable [PatternEngine]

def of : Junction → List Filter → Filter
  | conj => .all
  | disj => .any

/-- The truth value of a member that decides the junction. -/
def verdict : Junction → Bool
  | conj => false
  | disj => true

/-- The parts of a member; none if it decides. -/
def partsOf : Junction → Filter → Option (List Filter)
  | conj, .always => some []
  | conj, .never => none
  | conj, .all fs => some fs
  | conj, f => some [f]
  | disj, .never => some []
  | disj, .always => none
  | disj, .any fs => some fs
  | disj, f => some [f]

/-- The parts of all members together. -/
def allParts : Junction → List Filter → Option (List Filter)
  | conj => Filter.conjuncts
  | disj => Filter.disjuncts

/-- A junction of parts. -/
def build : Junction → List Filter → Filter
  | conj => Filter.conjunction
  | disj => Filter.disjunction

/-- A junction of simplified members, simplified. -/
def reduce (j : Junction) (fs : List Filter) : Filter :=
  ((j.allParts fs).map j.build).getD (truth j.verdict)

variable {j : Junction} {f g : Filter} {fs gs : List Filter}

theorem members_of (j : Junction) (fs : List Filter) : (j.of fs).members = fs := by
  cases j <;> rfl

theorem of_ne_not (g : Filter) : j.of fs ≠ .not g := by cases j <;> simp [of]

theorem allParts_nil : j.allParts [] = some [] := by cases j <;> rfl

theorem allParts_cons : j.allParts (f :: fs) =
    (j.partsOf f).bind fun ps => (j.allParts fs).map (ps ++ ·) := by
  cases j <;> cases f <;>
    simp [allParts, partsOf, Filter.conjuncts, Filter.disjuncts]

theorem normalizeList_eq_map : Filter.normalizeList fs = fs.map Filter.normalize := by
  induction fs with
  | nil => rw [Filter.normalizeList, List.map_nil]
  | cons f fs ih => rw [Filter.normalizeList, List.map_cons, ih]

theorem normalize_of : (j.of fs).normalize = j.reduce (fs.map Filter.normalize) := by
  rw [← normalizeList_eq_map]
  cases j <;> simp only [of, reduce, allParts, build, verdict] <;> rw [Filter.normalize] <;> rfl

theorem build_eq : j.build fs =
    match Filter.sortedSet fs with
    | [] => truth !j.verdict
    | [f] => f
    | fs => j.of fs := by
  cases j <;> rfl

theorem partsOf_of : j.partsOf (j.of fs) = some fs := by cases j <;> rfl

theorem partsOf_neutral : j.partsOf (truth !j.verdict) = some [] := by cases j <;> rfl

theorem partsOf_eq_none : j.partsOf f = none ↔ f = truth j.verdict := by
  cases j <;> cases f <;> simp [partsOf, verdict, truth]

/-! ## The parts of members -/

/-- One of the members decides. -/
def Decided (j : Junction) (fs : List Filter) : Prop := truth j.verdict ∈ fs

/-- One of the members has this part. -/
def HasPart (j : Junction) (fs : List Filter) (g : Filter) : Prop :=
  ∃ f ∈ fs, ∃ ps, j.partsOf f = some ps ∧ g ∈ ps

theorem allParts_eq_none : j.allParts fs = none ↔ j.Decided fs := by
  induction fs with
  | nil => simp [allParts_nil, Decided]
  | cons f fs ih =>
    rw [allParts_cons, Decided, List.mem_cons, ← Decided, ← ih, eq_comm (a := truth _),
      ← partsOf_eq_none]
    cases j.partsOf f <;> cases j.allParts fs <;> simp

theorem mem_allParts {ps : List Filter} (h : j.allParts fs = some ps) :
    g ∈ ps ↔ j.HasPart fs g := by
  induction fs generalizing ps with
  | nil =>
    cases allParts_nil.symm.trans h
    simp [HasPart]
  | cons f fs ih =>
    rw [allParts_cons] at h
    cases hf : j.partsOf f with
    | none => rw [hf] at h; cases h
    | some qs =>
      cases hfs : j.allParts fs with
      | none => rw [hf, hfs] at h; cases h
      | some rs =>
        rw [hf, hfs] at h
        cases h
        simp only [List.mem_append, ih hfs, HasPart, List.mem_cons, exists_eq_or_imp, hf,
          Option.some.injEq, exists_eq_left']

theorem reduce_of_decided (h : j.Decided fs) : j.reduce fs = truth j.verdict := by
  rw [reduce, allParts_eq_none.mpr h]
  rfl

/-- Without a deciding member, a junction is built of all the parts. -/
theorem exists_reduce_eq (h : ¬ j.Decided fs) :
    ∃ ps, j.reduce fs = j.build ps ∧ ∀ g, g ∈ ps ↔ j.HasPart fs g := by
  cases hps : j.allParts fs with
  | none => exact absurd (allParts_eq_none.mp hps) h
  | some ps => exact ⟨ps, by rw [reduce, hps]; rfl, fun g => mem_allParts hps⟩

theorem reduce_congr (hdecided : j.Decided fs ↔ j.Decided gs)
    (hparts : ¬ j.Decided fs → ∀ g, j.HasPart fs g ↔ j.HasPart gs g) :
    j.reduce fs = j.reduce gs := by
  by_cases h : j.Decided fs
  · rw [reduce_of_decided h, reduce_of_decided (hdecided.mp h)]
  · obtain ⟨ps, hps, hmem⟩ := exists_reduce_eq h
    obtain ⟨qs, hqs, hmem'⟩ := exists_reduce_eq (mt hdecided.mpr h)
    have hset : Filter.sortedSet ps = Filter.sortedSet qs :=
      Filter.sortedSet_congr fun g => by rw [hmem, hmem', hparts h]
    rw [hps, hqs, build_eq, build_eq, hset]

/-! ## What a junction has from its members -/

/-- A junction has the property just when one of its members has it, and without members it has
not. -/
structure Inherits (j : Junction) (P : Filter → Prop) : Prop where
  neutral : ¬ P (truth !j.verdict)
  of : ∀ fs, P (j.of fs) ↔ ∃ f ∈ fs, P f

variable {P : Filter → Prop} {ps : List Filter}

theorem partsOf_eq_some (h : j.partsOf f = some ps) :
    f = truth (!j.verdict) ∧ ps = [] ∨ f = j.of ps ∨ ps = [f] := by
  cases j <;> cases f <;> cases h <;> simp [of, truth, verdict]

/-- A member has the property just when one of its parts has it. -/
theorem Inherits.partsOf (h : j.Inherits P) (hps : j.partsOf f = some ps) :
    P f ↔ ∃ g ∈ ps, P g := by
  obtain ⟨rfl, rfl⟩ | rfl | rfl := partsOf_eq_some hps
  · simp [h.neutral]
  · exact h.of ps
  · simp

theorem Inherits.build (h : j.Inherits P) : P (j.build fs) ↔ ∃ f ∈ fs, P f := by
  have hmem : (∃ f ∈ fs, P f) ↔ ∃ f ∈ Filter.sortedSet fs, P f := by
    simp only [Filter.mem_sortedSet]
  rw [hmem, build_eq]
  split
  · rename_i heq
    simp [heq, h.neutral]
  · rename_i heq
    simp [heq]
  · exact h.of _

/-- Simplifying a junction keeps what it has from its members, unless one of them decides it. -/
theorem Inherits.reduce (h : j.Inherits P) (hdecided : ¬ j.Decided fs) :
    P (j.reduce fs) ↔ ∃ f ∈ fs, P f := by
  obtain ⟨ps, hps, hmem⟩ := exists_reduce_eq hdecided
  rw [hps, h.build]
  constructor
  · rintro ⟨g, hg, hP⟩
    obtain ⟨f, hf, qs, hqs, hgq⟩ := (hmem g).mp hg
    exact ⟨f, hf, (h.partsOf hqs).mpr ⟨g, hgq, hP⟩⟩
  · rintro ⟨f, hf, hP⟩
    cases hqs : j.partsOf f with
    | none =>
      rw [partsOf_eq_none.mp hqs] at hf
      exact absurd hf hdecided
    | some qs =>
      obtain ⟨g, hg, hgP⟩ := (h.partsOf hqs).mp hP
      exact ⟨g, (hmem g).mpr ⟨f, hf, qs, hqs, hg⟩, hgP⟩

/-! ## Meaning -/

variable {s : Series}

theorem holds_truth (b : Bool) : (truth b).holds s = b := by cases b <;> rfl

theorem allHold_eq_false : Filter.allHold s fs = false ↔ ∃ f ∈ fs, f.holds s = false := by
  induction fs with
  | nil => simp [Filter.allHold]
  | cons f fs ih =>
    rw [Filter.allHold, Bool.and_eq_false_iff, ih]
    simp

theorem anyHolds_eq_true : Filter.anyHolds s fs = true ↔ ∃ f ∈ fs, f.holds s = true := by
  induction fs with
  | nil => simp [Filter.anyHolds]
  | cons f fs ih =>
    rw [Filter.anyHolds, Bool.or_eq_true, ih]
    simp

theorem holds_of : (j.of fs).holds s = j.verdict ↔ ∃ f ∈ fs, f.holds s = j.verdict := by
  cases j with
  | conj =>
    rw [of, Filter.holds]
    exact allHold_eq_false
  | disj =>
    rw [of, Filter.holds]
    exact anyHolds_eq_true

theorem inherits_holds : j.Inherits fun f => f.holds s = j.verdict where
  neutral := by simp [holds_truth]
  of _ := holds_of

theorem holds_reduce : (j.reduce fs).holds s = j.verdict ↔ ∃ f ∈ fs, f.holds s = j.verdict := by
  by_cases h : j.Decided fs
  · rw [reduce_of_decided h, holds_truth]
    exact ⟨fun _ => ⟨_, h, holds_truth _⟩, fun _ => rfl⟩
  · exact inherits_holds.reduce h

end Junction

end SeriesQuery
