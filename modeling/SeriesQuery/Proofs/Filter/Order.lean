/-
The order of filters is linear, and two filters are equal in it only if they
are one. A filter is compared by its kind, then by its texts, then by its
members (`compare_eq_then`), so the laws follow by induction on the members.
A sorted list without duplicates is determined by what is in it
(`sortedSet_congr`).
-/
import SeriesQuery.Filter.Order
import SeriesQuery.Regex.Engine

namespace SeriesQuery.Filter

/-! ## Comparing part by part -/

theorem compareText_eq (a b : String) : compareText a b = Ord.compare a b := rfl

/-- The comparisons of three things in a row, and of the first with the last. -/
def Chain (x y z : Ordering) : Prop := x.isLE = true → y.isLE = true → z = x.then y

theorem Chain.then {x y z x' y' z' : Ordering} (h : Chain x y z) (h' : Chain x' y' z') :
    Chain (x.then x') (y.then y') (z.then z') := by
  revert h h'
  cases x <;> cases y <;> cases x' <;> cases y' <;> simp_all [Chain, Ordering.isLE]

theorem chain_of_transCmp {α : Type} {cmp : α → α → Ordering} [Std.TransCmp cmp] (a b c : α) :
    Chain (cmp a b) (cmp b c) (cmp a c) := by
  intro hab hbc
  cases h : cmp a b with
  | lt => exact Std.TransCmp.lt_of_lt_of_isLE h hbc
  | eq => exact Std.TransCmp.congr_left h
  | gt => rw [h] at hab; cases hab

section Comparison

variable [PatternEngine]

/-- The texts of a filter itself. -/
def texts : Filter → List String
  | key k => [k]
  | tag t v => [t, v]
  | hasTag t => [t]
  | startsWith t v => [t, v]
  | matching t p => [t, p.text]
  | _ => []

/-- The filters a filter is made of. -/
def members : Filter → List Filter
  | all fs => fs
  | any fs => fs
  | not f => [f]
  | _ => []

theorem sizeOf_members {f g : Filter} (h : g ∈ f.members) : sizeOf g < sizeOf f := by
  cases f with
  | all fs | any fs =>
    have hmem : sizeOf g < sizeOf fs := List.sizeOf_lt_of_mem h
    simp only [all.sizeOf_spec, any.sizeOf_spec]
    omega
  | not f =>
    obtain rfl := List.mem_singleton.mp h
    simp
  | _ => cases h

/-- What holds of a filter once it holds of its members holds of every filter. -/
theorem induction_members {motive : Filter → Prop}
    (step : ∀ f, (∀ g ∈ f.members, motive g) → motive f) (f : Filter) : motive f :=
  step f fun g hg =>
    have := sizeOf_members hg
    induction_members step g
termination_by sizeOf f

theorem eq_of_parts {f g : Filter} (hrank : f.rank = g.rank) (htexts : f.texts = g.texts)
    (hmembers : f.members = g.members) : f = g := by
  cases f <;> cases g <;> cases hrank
  case matching.matching t p u q =>
    simp only [texts, List.cons.injEq] at htexts
    rw [htexts.1, Pattern.text_injective htexts.2.1]
  all_goals simp_all [texts, members]

theorem compare_eq_then (f g : Filter) :
    compare f g = (Ord.compare f.rank g.rank).then
      ((Ord.compare f.texts g.texts).then (compareList f.members g.members)) := by
  cases f <;> cases g <;>
    simp [compare, compareList, rank, texts, members, compareText_eq, Nat.compare_eq_ite_lt]

theorem compareList_cons (f g : Filter) (fs gs : List Filter) :
    compareList (f :: fs) (g :: gs) = (compare f g).then (compareList fs gs) := by
  rw [compareList]

/-! ## The laws of the order -/

theorem compareList_self {fs : List Filter} (h : ∀ f ∈ fs, compare f f = .eq) :
    compareList fs fs = .eq := by
  induction fs with
  | nil => rw [compareList]
  | cons f fs ih =>
    rw [compareList_cons, h f List.mem_cons_self, ih fun g hg => h g (List.mem_cons_of_mem f hg)]
    rfl

theorem compare_self (f : Filter) : compare f f = .eq := by
  induction f using induction_members with
  | step f ih =>
    rw [compare_eq_then, compareList_self ih, Std.ReflOrd.compare_self, Std.ReflOrd.compare_self]
    rfl

theorem eq_of_compareList {fs : List Filter} (h : ∀ f ∈ fs, ∀ g, compare f g = .eq → f = g) :
    ∀ {gs : List Filter}, compareList fs gs = .eq → fs = gs := by
  induction fs with
  | nil =>
    intro gs heq
    cases gs with
    | nil => rfl
    | cons g gs => rw [compareList] at heq; cases heq
  | cons f fs ih =>
    intro gs heq
    cases gs with
    | nil => rw [compareList] at heq; cases heq
    | cons g gs =>
      rw [compareList_cons, Ordering.then_eq_eq] at heq
      rw [h f List.mem_cons_self g heq.1, ih (fun k hk => h k (List.mem_cons_of_mem f hk)) heq.2]

theorem eq_of_compare (f : Filter) : ∀ g, compare f g = .eq → f = g := by
  induction f using induction_members with
  | step f ih =>
    intro g h
    rw [compare_eq_then, Ordering.then_eq_eq, Ordering.then_eq_eq] at h
    obtain ⟨hrank, htexts, hmembers⟩ := h
    exact eq_of_parts (Std.LawfulEqOrd.eq_of_compare hrank) (Std.LawfulEqOrd.eq_of_compare htexts)
      (eq_of_compareList ih hmembers)

theorem compareList_swap {fs : List Filter}
    (h : ∀ f ∈ fs, ∀ g, compare g f = (compare f g).swap) :
    ∀ gs : List Filter, compareList gs fs = (compareList fs gs).swap := by
  induction fs with
  | nil =>
    intro gs
    cases gs with
    | nil => rw [compareList]; rfl
    | cons g gs => rw [compareList, compareList]; rfl
  | cons f fs ih =>
    intro gs
    cases gs with
    | nil => rw [compareList, compareList]; rfl
    | cons g gs =>
      rw [compareList_cons, compareList_cons, Ordering.swap_then, h f List.mem_cons_self g,
        ih (fun k hk => h k (List.mem_cons_of_mem f hk)) gs]

theorem compare_swap (f : Filter) : ∀ g, compare g f = (compare f g).swap := by
  induction f using induction_members with
  | step f ih =>
    intro g
    rw [compare_eq_then, compare_eq_then f g, Ordering.swap_then, Ordering.swap_then,
      compareList_swap ih, ← Std.OrientedOrd.eq_swap, ← Std.OrientedOrd.eq_swap]

theorem chain_compareList {fs : List Filter}
    (h : ∀ f ∈ fs, ∀ g k, Chain (compare f g) (compare g k) (compare f k)) :
    ∀ gs ks, Chain (compareList fs gs) (compareList gs ks) (compareList fs ks) := by
  induction fs with
  | nil =>
    intro gs ks
    cases gs <;> cases ks <;> simp [Chain, compareList]
  | cons f fs ih =>
    intro gs ks
    cases gs with
    | nil => simp [Chain, compareList]
    | cons g gs =>
      cases ks with
      | nil => simp [Chain, compareList]
      | cons k ks =>
        simp only [compareList_cons]
        exact (h f List.mem_cons_self g k).then
          (ih (fun f' hf' => h f' (List.mem_cons_of_mem f hf')) gs ks)

theorem chain_compare (f : Filter) : ∀ g k, Chain (compare f g) (compare g k) (compare f k) := by
  induction f using induction_members with
  | step f ih =>
    intro g k
    rw [compare_eq_then f g, compare_eq_then g k, compare_eq_then f k]
    exact Chain.then (chain_of_transCmp _ _ _)
      (Chain.then (chain_of_transCmp _ _ _) (chain_compareList ih _ _))

theorem lt_trans {f g k : Filter} (hfg : compare f g = .lt) (hgk : compare g k = .lt) :
    compare f k = .lt := by
  have h := chain_compare f g k (by rw [hfg]; rfl) (by rw [hgk]; rfl)
  rwa [hfg] at h

/-- Filters that compare as equal are one filter, turning a comparison around reverses it, and what
is below a filter is below all that this one is below. -/
theorem compare_linear (f g k : Filter) :
    (compare f g = .eq ↔ f = g) ∧ compare g f = (compare f g).swap ∧
      (compare f g = .lt → compare g k = .lt → compare f k = .lt) := by
  refine ⟨⟨eq_of_compare f g, ?_⟩, compare_swap f g, lt_trans⟩
  rintro rfl
  exact compare_self f

end Comparison

section Example

open scoped Regex

/-- Two members that are alike and a third that is not: the longer list is between the others. -/
theorem compare_linear_nested :
    let f := all [not (key "a")]
    let g := all [not (key "a"), any []]
    let k := all [not (key "b")]
    compare f g = .lt ∧ compare g k = .lt ∧ compare f k = .lt := by
  intro f g k
  have hfg : compare f g = .lt := by decide
  have hgk : compare g k = .lt := by decide
  obtain ⟨-, -, htrans⟩ := compare_linear f g k
  exact ⟨hfg, hgk, htrans hfg hgk⟩

end Example

/-! ## Sorted lists -/

variable [PatternEngine]

/-- In order, none twice. -/
def Sorted (fs : List Filter) : Prop := fs.Pairwise fun f g => compare f g = .lt

theorem mem_insertSorted {f g : Filter} {fs : List Filter} :
    g ∈ insertSorted f fs ↔ g = f ∨ g ∈ fs := by
  induction fs with
  | nil => simp [insertSorted]
  | cons k fs ih =>
    rw [insertSorted]
    split
    · rw [List.mem_cons]
    · rename_i h
      rw [eq_of_compare f k h, List.mem_cons]
      exact ⟨.inr, fun h => h.elim .inl id⟩
    · rw [List.mem_cons, ih, List.mem_cons]
      exact or_left_comm

theorem sorted_insertSorted {f : Filter} {fs : List Filter} (h : Sorted fs) :
    Sorted (insertSorted f fs) := by
  induction fs with
  | nil => exact List.pairwise_singleton _ f
  | cons k fs ih =>
    obtain ⟨hk, hfs⟩ := List.pairwise_cons.mp h
    rw [insertSorted]
    split
    · rename_i hlt
      refine List.pairwise_cons.mpr ⟨fun g hg => ?_, h⟩
      obtain rfl | hg := List.mem_cons.mp hg
      · exact hlt
      · exact lt_trans hlt (hk g hg)
    · exact h
    · rename_i hgt
      refine List.pairwise_cons.mpr ⟨fun g hg => ?_, ih hfs⟩
      obtain rfl | hg := mem_insertSorted.mp hg
      · rw [compare_swap, hgt]
        rfl
      · exact hk g hg

theorem mem_sortedSet {g : Filter} {fs : List Filter} : g ∈ sortedSet fs ↔ g ∈ fs := by
  induction fs with
  | nil => exact Iff.rfl
  | cons f fs ih =>
    change g ∈ insertSorted f (sortedSet fs) ↔ _
    rw [mem_insertSorted, ih, List.mem_cons]

theorem sorted_sortedSet (fs : List Filter) : Sorted (sortedSet fs) := by
  induction fs with
  | nil => exact List.Pairwise.nil
  | cons f fs ih => exact sorted_insertSorted ih

theorem Sorted.nodup {fs : List Filter} (h : Sorted fs) : fs.Nodup :=
  h.imp fun {f g} hlt heq => by rw [heq, compare_self] at hlt; cases hlt

/-- Sorted lists of the same filters are one list. -/
theorem Sorted.eq_of_mem_iff {fs gs : List Filter} (hf : Sorted fs) (hg : Sorted gs)
    (h : ∀ f, f ∈ fs ↔ f ∈ gs) : fs = gs := by
  have hperm : fs.Perm gs := (List.perm_ext_iff_of_nodup hf.nodup hg.nodup).mpr h
  refine hperm.eq_of_pairwise (fun f g _ _ hlt hgt => ?_) hf hg
  rw [compare_swap, hlt] at hgt
  cases hgt

theorem sortedSet_congr {fs gs : List Filter} (h : ∀ f, f ∈ fs ↔ f ∈ gs) :
    sortedSet fs = sortedSet gs :=
  (sorted_sortedSet fs).eq_of_mem_iff (sorted_sortedSet gs) fun f => by
    rw [mem_sortedSet, mem_sortedSet, h]

theorem sortedSet_of_sorted {fs : List Filter} (h : Sorted fs) : sortedSet fs = fs :=
  (sorted_sortedSet fs).eq_of_mem_iff h fun _ => mem_sortedSet

end SeriesQuery.Filter
