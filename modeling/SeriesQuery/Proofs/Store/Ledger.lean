/-
A store told by its history. The ledger keeps the writes that still count:
a write that is accepted is added to it, and a deletion strikes out all
writes of the series it works on. The store is the ledger's image
(`Refines`): one entry for each series of the ledger, under the series'
identity, with the range that its writes cover together. Each request keeps
it so (`Refines.perform`), and therefore every sequence of requests does.
What a selection means is told of the ledger too (`chosen`), without a map
of identities.
-/
import Mathlib.Data.List.Dedup
import SeriesQuery.Proofs.Store.Answers
import SeriesQuery.Proofs.TimeRange
import SeriesQuery.Regex.Engine
import SeriesQuery.Sha256

namespace SeriesQuery

/-! ## The ledger -/

/-- The writes that count, in the order in which they were made. -/
abbrev Ledger := List (Series × TimeRange)

namespace Ledger

/-- The range that the writes of a series cover, if there are any. -/
def range? (log : Ledger) (series : Series) : Option TimeRange :=
  TimeRange.cover ((log.filter fun w => w.1 = series).map (·.2))

/-- The series written, each once. -/
def series (log : Ledger) : List Series := (log.map (·.1)).dedup

variable {log : Ledger} {series t : Series}

theorem range?_append_singleton (range : TimeRange) :
    range? (log ++ [(series, range)]) t =
      if t = series then TimeRange.widen (log.range? t) range else log.range? t := by
  rw [range?, List.filter_append]
  split
  · rename_i ht
    subst ht
    rw [List.filter_singleton, decide_eq_true rfl, List.map_append]
    exact TimeRange.cover_append_singleton _ range
  · rename_i ht
    have hfalse : decide (series = t) = false := decide_eq_false fun h => ht h.symm
    rw [List.filter_singleton, hfalse]
    simp [range?]

theorem range?_filter (p : Series → Bool) :
    range? (log.filter fun w => p w.1) series = if p series then log.range? series else none := by
  have hfilter : (log.filter fun w => p w.1).filter (fun w => w.1 = series) =
      if p series then log.filter fun w => w.1 = series else [] := by
    rw [List.filter_filter]
    split
    · rename_i hp
      refine List.filter_congr fun w _ => ?_
      by_cases hw : w.1 = series
      · simp [hw, hp]
      · simp [hw]
    · rename_i hp
      refine List.filter_eq_nil_iff.mpr fun w _ => ?_
      by_cases hw : w.1 = series
      · simp [hw, hp]
      · simp [hw]
  rw [range?, hfilter]
  split
  · rfl
  · rfl

theorem range?_eq_none_iff : log.range? series = none ↔ ∀ w ∈ log, w.1 ≠ series := by
  rw [range?, TimeRange.cover_eq_none_iff, List.map_eq_nil_iff, List.filter_eq_nil_iff]
  exact forall_congr' fun w => forall_congr' fun _ => by rw [decide_eq_true_eq]

theorem mem_series : series ∈ log.series ↔ ∃ w ∈ log, w.1 = series := by
  rw [Ledger.series, List.mem_dedup, List.mem_map]

theorem nodup_series : log.series.Nodup := List.nodup_dedup _

theorem exists_mem_of_range? {range : TimeRange} (h : log.range? series = some range) :
    ∃ w ∈ log, w.1 = series := by
  have hnone : log.range? series ≠ none := by rw [h]; nofun
  rw [ne_eq, range?_eq_none_iff] at hnone
  simpa using hnone

end Ledger

/-- The series that requests write, or try to. -/
def writtenSeries [PatternEngine] (requests : List Request) : List Series :=
  requests.filterMap fun
    | .write series _ => some series
    | _ => none

theorem mem_writtenSeries [PatternEngine] {requests : List Request} {series : Series} :
    series ∈ writtenSeries requests ↔ ∃ range, .write series range ∈ requests := by
  rw [writtenSeries, List.mem_filterMap]
  constructor
  · rintro ⟨request, hrequest, hseries⟩
    cases request with
    | write t range =>
      cases hseries
      exact ⟨range, hrequest⟩
    | _ => cases hseries
  · rintro ⟨range, hrequest⟩
    exact ⟨_, hrequest, rfl⟩

section Requests

variable [Digest]

/-! ## The store and its ledger -/

/-- The store holds just the series of the ledger: each under its identity, with the range that its
writes cover. -/
structure Refines (s : Store) (log : Ledger) : Prop where
  entries : ∀ id entry, (id, entry) ∈ s.entries.toList ↔
    id = entry.series.id ∧ log.range? entry.series = some entry.range
  valid : ∀ w ∈ log, w.1.fault? = none

namespace Refines

variable {s s' : Store} {log log' : Ledger}

theorem empty : Refines .empty [] where
  entries id entry := iff_of_false nofun fun h => by cases h.2
  valid := nofun

theorem mem_of_range? (h : Refines s log) {series : Series} {range : TimeRange}
    (hrange : log.range? series = some range) :
    (series.id, ⟨series, range⟩) ∈ s.entries.toList :=
  (h.entries _ _).mpr ⟨rfl, hrange⟩

/-- Series of the ledger with one identity are one. -/
theorem eq_of_id_eq (h : Refines s log) {series t : Series} {r r' : TimeRange}
    (hseries : log.range? series = some r) (ht : log.range? t = some r')
    (hid : series.id = t.id) : series = t := by
  have hmem := h.mem_of_range? ht
  rw [← hid] at hmem
  have hentry : (⟨series, r⟩ : Entry) = ⟨t, r'⟩ :=
    s.entries.increasing.eq_of_mem (h.mem_of_range? hseries) hmem
  exact congrArg Entry.series hentry

/-- A series is written over its own entry: no other series of the ledger has its identity. -/
theorem write (h : Refines s log) {series : Series} (range : TimeRange)
    (hfault : series.fault? = none) (hid : ∀ w ∈ log, w.1.id = series.id → w.1 = series) :
    Refines (s.write series range) (log ++ [(series, range)]) := by
  have hsame : ∀ entry, (series.id, entry) ∈ s.entries.toList →
      entry.series = series ∧ log.range? series = some entry.range := by
    intro entry hentry
    obtain ⟨hkey, hrange⟩ := (h.entries _ _).mp hentry
    obtain ⟨w, hw, hseries⟩ := Ledger.exists_mem_of_range? hrange
    have heq : entry.series = series := by
      rw [← hseries] at hkey ⊢
      exact hid w hw hkey.symm
    exact ⟨heq, heq ▸ hrange⟩
  obtain ⟨written, hwritten, hput⟩ : ∃ written,
      TimeRange.widen (log.range? series) range = some written ∧
        s.write series range = s.put series.id ⟨series, written⟩ := by
    unfold Store.write
    cases hget : s.entries.get? series.id with
    | some entry =>
      have hrange := (hsame entry (SortedMap.get?_eq_some_iff.mp hget)).2
      exact ⟨_, by rw [hrange]; rfl, rfl⟩
    | none =>
      have hrange : log.range? series = none := by
        refine Option.eq_none_iff_forall_ne_some.mpr fun r hr => ?_
        exact SortedMap.get?_eq_none_iff.mp hget _ (h.mem_of_range? hr)
      exact ⟨_, by rw [hrange]; rfl, rfl⟩
  rw [hput]
  refine ⟨fun id entry => ?_, ?_⟩
  · rw [Ledger.range?_append_singleton, Store.put, SortedMap.mem_insert, Prod.mk.injEq]
    by_cases heq : entry.series = series
    · rw [if_pos heq, heq, hwritten, Option.some.injEq]
      constructor
      · rintro (⟨hkey, rfl⟩ | ⟨hentry, hne⟩)
        · exact ⟨hkey, rfl⟩
        · have hkey : id = entry.series.id := ((h.entries id entry).mp hentry).1
          rw [heq] at hkey
          exact absurd hkey hne
      · rintro ⟨hkey, hrange⟩
        refine .inl ⟨hkey, ?_⟩
        cases entry
        rw [Entry.mk.injEq]
        exact ⟨heq, hrange.symm⟩
    · rw [if_neg heq, ← h.entries]
      constructor
      · rintro (⟨-, rfl⟩ | ⟨hentry, -⟩)
        · exact absurd rfl heq
        · exact hentry
      · intro hentry
        refine .inr ⟨hentry, fun hkey => ?_⟩
        exact heq (hsame entry (hkey ▸ hentry)).1
  · intro w hw
    rcases List.mem_append.mp hw with hw | hw
    · exact h.valid w hw
    · obtain rfl := List.mem_singleton.mp hw
      exact hfault

end Refines

/-- No two of the series have one identity. -/
def DistinctIds (list : List Series) : Prop := ∀ a ∈ list, ∀ b ∈ list, a.id = b.id → a = b

instance (list : List Series) : Decidable (DistinctIds list) :=
  inferInstanceAs (Decidable (∀ a ∈ list, ∀ b ∈ list, a.id = b.id → a = b))

theorem DistinctIds.sublist {l l' : List Series} (h : DistinctIds l') (hsub : l.Sublist l') :
    DistinctIds l :=
  fun a ha b hb => h a (hsub.subset ha) b (hsub.subset hb)

/-! ## Requests -/

variable [PatternEngine]

namespace Ledger

/-- Whether a selection means the series: it is written, its range overlaps, and the filter passes
it. -/
def means (log : Ledger) (selection : Selection) (series : Series) : Bool :=
  (log.range? series).any fun range =>
    range.overlaps selection.range && selection.filter.holds series

/-- The series a request works on: those that are meant, in increasing order of identities, and of
these the first up to the limit. -/
def chosen (log : Ledger) (selection : Selection) : List Series :=
  let meant := (log.series.filter (log.means selection)).mergeSort fun a b => a.id ≤ b.id
  meant.take (selection.limit.getD meant.length)

/-- The ledger after one more request. -/
def step (log : Ledger) : Request → Ledger
  | .write series range => if series.fault? = none then log ++ [(series, range)] else log
  | .deleteSeries selection => log.filter fun w => w.1 ∉ log.chosen selection
  | _ => log

/-- The ledger of some requests, from an empty one. -/
def after (requests : List Request) : Ledger := requests.foldl step []

variable {log : Ledger}

/-- A request adds no series to the ledger but the one that it writes. -/
theorem mem_step {request : Request} {w : Series × TimeRange} (h : w ∈ log.step request) :
    w ∈ log ∨ request = .write w.1 w.2 := by
  cases request with
  | write series range =>
    rw [step] at h
    split at h
    · rcases List.mem_append.mp h with h | h
      · exact .inl h
      · obtain rfl := List.mem_singleton.mp h
        exact .inr rfl
    · exact .inl h
  | deleteSeries selection => exact .inl (List.mem_filter.mp h).1
  | _ => exact .inl h

end Ledger

namespace Refines

variable {s : Store} {log : Ledger}

theorem means_eq_true_iff (h : Refines s log) {selection : Selection} {series : Series} :
    log.means selection series = true ↔ ∃ range, (series.id, ⟨series, range⟩) ∈ s.found selection := by
  rw [Ledger.means, Option.any_eq_true]
  constructor
  · rintro ⟨range, hrange, hmeant⟩
    exact ⟨range, Store.mem_found.mpr ⟨h.mem_of_range? hrange, hmeant⟩⟩
  · rintro ⟨range, hmem⟩
    obtain ⟨hentry, hmeant⟩ := Store.mem_found.mp hmem
    exact ⟨range, ((h.entries _ _).mp hentry).2, hmeant⟩

theorem ascending_found (h : Refines s log) (selection : Selection) :
    ((s.found selection).map (·.2.series)).Pairwise fun a b => a.id < b.id := by
  refine List.pairwise_map.mpr (Store.increasing_found.imp_of_mem ?_)
  intro a b ha hb hlt
  rwa [((h.entries a.1 a.2).mp (Store.mem_found.mp ha).1).1,
    ((h.entries b.1 b.2).mp (Store.mem_found.mp hb).1).1] at hlt

/-- What the ledger has chosen is what the store selects. -/
theorem chosen_eq (h : Refines s log) (selection : Selection) :
    log.chosen selection = (s.select selection).1.map (·.2.series) := by
  have hperm : (log.series.filter (log.means selection)).Perm
      ((s.found selection).map (·.2.series)) := by
    refine (List.perm_ext_iff_of_nodup (Ledger.nodup_series.filter _)
      (nodup_of_ascending (h.ascending_found selection))).mpr fun t => ?_
    rw [List.mem_filter, h.means_eq_true_iff, Ledger.mem_series, List.mem_map]
    constructor
    · rintro ⟨-, range, hmem⟩
      exact ⟨_, hmem, rfl⟩
    · rintro ⟨⟨id, entry⟩, hmem, rfl⟩
      obtain ⟨rfl, hrange⟩ := (h.entries id entry).mp (Store.mem_found.mp hmem).1
      exact ⟨Ledger.exists_mem_of_range? hrange, entry.range, hmem⟩
  rw [Ledger.chosen, mergeSort_eq_of_ascending (h.ascending_found selection) hperm,
    Store.select_fst, List.map_take, List.length_map]

/-- A deletion strikes out what it selects. -/
theorem delete (h : Refines s log) (selection : Selection) :
    Refines (s.perform (.deleteSeries selection)).1 (log.step (.deleteSeries selection)) := by
  obtain ⟨s', hs', hlist⟩ := Store.perform_deleteSeries s selection
  rw [hs', Ledger.step]
  refine ⟨fun id entry => ?_, fun w hw => h.valid w (List.mem_filter.mp hw).1⟩
  rw [Ledger.range?_filter fun t => t ∉ log.chosen selection, hlist, List.mem_filter, h.entries,
    decide_eq_true_eq]
  have hiff : ∀ r, log.range? entry.series = some r →
      (entry.series.id ∈ s.selectedIds selection ↔ entry.series ∈ log.chosen selection) := by
    intro r hr
    rw [h.chosen_eq, Store.selectedIds, List.mem_map, List.mem_map]
    constructor
    · rintro ⟨e, he, hid⟩
      obtain ⟨hkey, hrange⟩ := (h.entries e.1 e.2).mp (Store.mem_entries_of_mem_select he)
      rw [hkey] at hid
      exact ⟨e, he, h.eq_of_id_eq hrange hr hid⟩
    · rintro ⟨e, he, heq⟩
      have hkey := ((h.entries e.1 e.2).mp (Store.mem_entries_of_mem_select he)).1
      rw [heq] at hkey
      exact ⟨e, he, hkey⟩
  constructor
  · rintro ⟨⟨rfl, hrange⟩, hnot⟩
    have hkept : entry.series ∉ log.chosen selection := fun hmem => hnot ((hiff _ hrange).mpr hmem)
    exact ⟨rfl, by rw [if_pos (decide_eq_true hkept)]; exact hrange⟩
  · rintro ⟨rfl, hrange⟩
    by_cases hmem : entry.series ∈ log.chosen selection
    · rw [if_neg (by simpa using hmem)] at hrange
      cases hrange
    · rw [if_pos (decide_eq_true hmem)] at hrange
      exact ⟨⟨rfl, hrange⟩, fun hid => hmem ((hiff _ hrange).mp hid)⟩

/-- One request keeps the store the ledger's image. -/
theorem perform (h : Refines s log) (request : Request)
    (hid : ∀ series range, request = .write series range →
      ∀ w ∈ log, w.1.id = series.id → w.1 = series) :
    Refines (s.perform request).1 (log.step request) := by
  cases request with
  | write series range =>
    simp only [Store.perform, Ledger.step]
    cases hfault : series.fault? with
    | none => exact h.write range hfault (hid series range rfl)
    | some fault => exact h
  | deleteSeries selection => exact h.delete selection
  | _ => exact h

end Refines

/-! ## Runs -/

namespace Refines

variable {s : Store} {log : Ledger}

/-- A run keeps the store the ledger's image, from wherever it starts. -/
theorem run {requests : List Request} (h : Refines s log)
    (hid : DistinctIds (log.map (·.1) ++ writtenSeries requests)) :
    Refines (requests.foldl (fun s request => (s.perform request).1) s)
      (requests.foldl Ledger.step log) := by
  induction requests generalizing s log with
  | nil => exact h
  | cons request requests ih =>
    have hlog : ∀ w ∈ log, w.1 ∈ log.map (·.1) ++ writtenSeries (request :: requests) :=
      fun w hw => List.mem_append_left _ (List.mem_map_of_mem hw)
    have hwritten : ∀ t, t ∈ writtenSeries (request :: requests) →
        t ∈ log.map (·.1) ++ writtenSeries (request :: requests) :=
      fun t ht => List.mem_append_right _ ht
    have hstep : Refines (s.perform request).1 (log.step request) := by
      refine h.perform request fun series range hrequest w hw heq => ?_
      have hseries : series ∈ writtenSeries (request :: requests) :=
        mem_writtenSeries.mpr ⟨range, hrequest ▸ List.mem_cons_self⟩
      exact hid _ (hlog w hw) _ (hwritten _ hseries) heq
    refine ih hstep fun a ha b hb heq => ?_
    have hold : ∀ t, t ∈ (log.step request).map (·.1) ++ writtenSeries requests →
        t ∈ log.map (·.1) ++ writtenSeries (request :: requests) := by
      intro t ht
      rcases List.mem_append.mp ht with ht | ht
      · obtain ⟨w, hw, rfl⟩ := List.mem_map.mp ht
        rcases Ledger.mem_step hw with hw | hrequest
        · exact hlog w hw
        · exact hwritten _ (mem_writtenSeries.mpr ⟨w.2, hrequest ▸ List.mem_cons_self⟩)
      · obtain ⟨range, hmem⟩ := mem_writtenSeries.mp ht
        exact hwritten _ (mem_writtenSeries.mpr ⟨range, List.mem_cons_of_mem _ hmem⟩)
    exact hid _ (hold a ha) _ (hold b hb) heq

theorem after {requests : List Request} (hid : DistinctIds (writtenSeries requests)) :
    Refines (Store.after requests) (Ledger.after requests) :=
  run empty hid

end Refines

end Requests

open scoped Regex Sha256

end SeriesQuery
