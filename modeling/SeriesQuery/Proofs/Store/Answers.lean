/-
What requests answer. The requests that read and the one that deletes work on
one list of series; each of them answers what it collects of these, a list, a
number, identities, tags or keys (`AnswersFor`). In a store whose series stand
under their own identities that list is what the selection means, up to its
limit (`Keyed.answersFor`).
-/
import Mathlib.Data.List.Induction
import SeriesQuery.Proofs.Store.Selection

namespace SeriesQuery

namespace Store

theorem exists_mem_append_singleton {p : Series → Prop} {list : List Series} {t : Series} :
    (∃ u ∈ list ++ [t], p u) ↔ p t ∨ ∃ u ∈ list, p u := by
  constructor
  · rintro ⟨u, hu, hp⟩
    rcases List.mem_append.mp hu with hu | hu
    · exact .inr ⟨u, hu, hp⟩
    · obtain rfl := List.mem_singleton.mp hu
      exact .inl hp
  · rintro (hp | ⟨u, hu, hp⟩)
    · exact ⟨t, List.mem_append_right _ List.mem_cons_self, hp⟩
    · exact ⟨u, List.mem_append_left _ hu, hp⟩

/-! ## Keys -/

theorem keysOf_append_singleton (list : List Series) (t : Series) :
    keysOf (list ++ [t]) =
      ((keysOf list).1.add t.key,
        if (keysOf list).1.contains t.key then (keysOf list).2 + 1 else (keysOf list).2) := by
  rw [keysOf, List.foldl_append]
  rfl

theorem size_add (s : SortedSet) (k : String) :
    (s.add k).size = if s.contains k = true then s.size else s.size + 1 := SortedMap.size_insert

/-- Each series adds a key or counts as a duplicate. -/
theorem size_keysOf_add_duplicates (list : List Series) :
    (keysOf list).1.size + (keysOf list).2 = list.length := by
  induction list using List.reverseRecOn with
  | nil => rfl
  | append_singleton list t ih =>
    rw [keysOf_append_singleton, size_add, List.length_append, List.length_singleton, ← ih]
    dsimp only
    split
    · omega
    · omega

theorem mem_keys_keysOf {list : List Series} {k : String} :
    k ∈ (keysOf list).1.keys ↔ ∃ t ∈ list, t.key = k := by
  induction list using List.reverseRecOn with
  | nil => simp [keysOf, SortedMap.keys, SortedMap.empty]
  | append_singleton list t ih =>
    rw [keysOf_append_singleton, SortedSet.mem_keys_add, ih, exists_mem_append_singleton,
      eq_comm (a := k)]

/-! ## Tags -/

/-- Whether a tag has a value, in a map from tags to their values. -/
def HasValue (m : SortedMap SortedSet) (name value : String) : Prop :=
  ∃ values, m.get? name = some values ∧ value ∈ values.keys

/-- No tag stands without a value. -/
def Inhabited (m : SortedMap SortedSet) : Prop :=
  ∀ name values, m.get? name = some values → ∃ value, value ∈ values.keys

/-- The map with one more value. -/
def addValue (m : SortedMap SortedSet) (e : String × String) : SortedMap SortedSet :=
  m.insert e.1 (((m.get? e.1).getD .empty).add e.2)

theorem addTags_eq (m : SortedMap SortedSet) (t : Series) :
    addTags m t = t.tags.toList.foldl addValue m := rfl

variable {m : SortedMap SortedSet} {name value : String}

theorem hasValue_addValue {e : String × String} :
    HasValue (addValue m e) name value ↔ (name, value) = e ∨ HasValue m name value := by
  obtain ⟨name', value'⟩ := e
  rw [HasValue, addValue, SortedMap.get?_insert, Prod.mk.injEq]
  dsimp only
  by_cases hname : name = name'
  · subst hname
    have hold : value ∈ ((m.get? name).getD .empty).keys ↔ HasValue m name value := by
      rw [HasValue]
      cases m.get? name with
      | none => simp [SortedMap.keys, SortedMap.empty]
      | some values => simp
    rw [if_pos rfl, ← hold]
    simp only [Option.some.injEq, exists_eq_left', SortedSet.mem_keys_add, true_and]
  · rw [if_neg hname]
    simp only [hname, false_and, false_or, HasValue]

theorem hasValue_foldl_addValue {list : List (String × String)} :
    HasValue (list.foldl addValue m) name value ↔ (name, value) ∈ list ∨ HasValue m name value := by
  induction list generalizing m with
  | nil => simp
  | cons e list ih =>
    rw [List.foldl_cons, ih, hasValue_addValue, List.mem_cons, or_left_comm, or_assoc]

/-- The tags of some series are just those that one of them has. -/
theorem hasValue_tagsOf {list : List Series} :
    HasValue (tagsOf list) name value ↔ ∃ t ∈ list, t.tag? name = some value := by
  induction list using List.reverseRecOn with
  | nil => simp [HasValue, tagsOf, SortedMap.get?, SortedMap.empty]
  | append_singleton list t ih =>
    have hlast : (name, value) ∈ t.tags.toList ↔ t.tag? name = some value :=
      SortedMap.get?_eq_some_iff.symm
    rw [tagsOf, List.foldl_append, List.foldl_cons, List.foldl_nil, ← tagsOf, addTags_eq,
      hasValue_foldl_addValue, ih, hlast, exists_mem_append_singleton]

theorem Inhabited.addValue (h : Inhabited m) (e : String × String) : Inhabited (addValue m e) := by
  intro name values hvalues
  rw [Store.addValue, SortedMap.get?_insert] at hvalues
  split at hvalues
  · cases hvalues
    exact ⟨e.2, SortedSet.mem_keys_add.mpr (.inl rfl)⟩
  · exact h name values hvalues

theorem Inhabited.foldl_addValue (h : Inhabited m) (list : List (String × String)) :
    Inhabited (list.foldl Store.addValue m) := by
  induction list generalizing m with
  | nil => exact h
  | cons e list ih => exact ih (h.addValue e)

theorem inhabited_tagsOf (list : List Series) : Inhabited (tagsOf list) := by
  induction list using List.reverseRecOn with
  | nil => nofun
  | append_singleton list t ih =>
    rw [tagsOf, List.foldl_append, List.foldl_cons, List.foldl_nil, ← tagsOf, addTags_eq]
    exact ih.foldl_addValue _

/-! ## Answers -/

variable [PatternEngine] {s : Store} {selection : Selection}

theorem length_select {selection : Selection} :
    (s.select selection).1.length =
      min (selection.limit.getD (s.found selection).length) (s.found selection).length := by
  rw [select_fst, List.length_take]

theorem keys_ofKeys_selectedIds {selection : Selection} :
    (SortedSet.ofKeys (s.selectedIds selection)).keys = s.selectedIds selection :=
  SortedSet.keys_ofKeys (List.pairwise_map.mpr increasing_select)

/-- What the requests with the selection answer when they work on these series, and whether more are
meant. -/
structure AnswersFor [Digest] (s : Store) (selection : Selection) (list : List Series)
    (limited : Bool) : Prop where
  series : (s.perform (.findSeries selection)).2 = .ok (.ofAnswer (.series list limited))
  ids : ∃ ids, (s.perform (.findSeriesIds selection)).2 = .ok (.ofAnswer (.ids ids limited)) ∧
    ids.keys = list.map Series.id
  count : (s.perform (.countSeries selection)).2 = .ok (.ofAnswer (.count list.length limited))
  tags : ∃ tags, (s.perform (.findTags selection)).2 = .ok (.ofAnswer (.tags tags list.length)) ∧
    (∀ name value, HasValue tags name value ↔ ∃ t ∈ list, t.tag? name = some value) ∧
    Inhabited tags
  keys : ∃ keys duplicates,
    (s.perform (.findKeys selection)).2 = .ok (.ofAnswer (.keys keys list.length duplicates)) ∧
    (∀ key, key ∈ keys.keys ↔ ∃ t ∈ list, t.key = key) ∧ keys.size + duplicates = list.length
  deleted : (s.perform (.deleteSeries selection)).2 = .ok (.ofAnswer (.deleted list.length 0))
  /-- A deletion leaves the entries of the other series. -/
  left : (s.perform (.deleteSeries selection)).1.entries.toList =
    s.entries.toList.filter fun e => e.1 ∉ list.map Series.id

theorem Keyed.selectedIds_eq [Digest] (h : s.Keyed) {selection : Selection} :
    s.selectedIds selection = ((s.select selection).1.map (·.2.series)).map Series.id := by
  rw [selectedIds, List.map_map]
  exact List.map_congr_left fun e he => h e (mem_entries_of_mem_select he)

/-- Where series stand under their own identities, requests work on what the selection means. -/
theorem Keyed.answersFor [Digest] (h : s.Keyed) (selection : Selection) :
    s.AnswersFor selection ((s.select selection).1.map (·.2.series)) (s.select selection).2 := by
  obtain ⟨s', hdeleted, hlist⟩ := perform_deleteSeries s selection
  have hids : s.selectedIds selection =
      ((s.select selection).1.map (·.2.series)).map Series.id := h.selectedIds_eq
  have hlength : ((s.select selection).1.map (·.2.series)).length = (s.select selection).1.length :=
    List.length_map _
  refine
    { series := rfl
      ids := ⟨_, rfl, keys_ofKeys_selectedIds.trans hids⟩
      count := by rw [hlength]; rfl
      tags := ⟨_, by rw [hlength]; rfl, fun _ _ => hasValue_tagsOf, inhabited_tagsOf _⟩
      keys := ⟨_, _, by rw [hlength]; rfl, fun _ => mem_keys_keysOf, size_keysOf_add_duplicates _⟩
      deleted := by rw [hlength, hdeleted]
      left := by rw [← hids, hdeleted, hlist] }

end Store

end SeriesQuery
