/-
The requests that read and the one that deletes agree with one another. All
of them work on the first entries found, up to the limit; what each of them
collects of these is told by the answer to `findSeries` (`answers_agree`).
A deletion leaves what lies beyond its limit (`found_delete`), so deletions
made again and again come to an end (`found_after_deletions`).
-/
import SeriesQuery.Proofs.Store.Answers
import SeriesQuery.Regex.Engine
import SeriesQuery.Sha256

namespace SeriesQuery

namespace Store

/-! ## Deletions, again and again -/

theorem filter_not_mem_take {α : Type} {l : List (String × α)} (h : Increasing l) (k : Nat) :
    (l.filter fun e => e.1 ∉ (l.take k).map (·.1)) = l.drop k := by
  have hsplit : Increasing (l.take k ++ l.drop k) := by rwa [List.take_append_drop]
  obtain ⟨-, -, hlt⟩ := List.pairwise_append.mp hsplit
  have htake : ((l.take k).filter fun e => e.1 ∉ (l.take k).map (·.1)) = [] := by
    refine List.filter_eq_nil_iff.mpr fun e he => ?_
    rw [decide_eq_true_eq]
    exact fun hnot => hnot (List.mem_map_of_mem he)
  have hdrop : ((l.drop k).filter fun e => e.1 ∉ (l.take k).map (·.1)) = l.drop k := by
    refine List.filter_eq_self.mpr fun e he => decide_eq_true fun hmem => ?_
    obtain ⟨e', he', heq⟩ := List.mem_map.mp hmem
    exact String.lt_irrefl e.1 (heq ▸ hlt e' he' e he)
  conv => lhs; arg 2; rw [← List.take_append_drop k l]
  rw [List.filter_append, htake, hdrop, List.nil_append]

theorem le_ceil_mul (n : Nat) {k : Nat} (hk : 0 < k) : n ≤ (n + k - 1) / k * k := by
  have hdiv := Nat.div_add_mod (n + k - 1) k
  have hmod := Nat.mod_lt (n + k - 1) hk
  rw [Nat.mul_comm]
  omega

section Agreement

variable [PatternEngine] {s : Store} {filter : Filter} {range : TimeRange}
  {limit limit' : Option Nat}

/-- The limit makes no difference to what is found. -/
theorem found_limit (l l' : Option Nat) : s.found ⟨filter, range, l⟩ = s.found ⟨filter, range, l'⟩ := rfl

theorem found_delete [Digest] {selection : Selection} :
    (s.perform (.deleteSeries selection)).1.found selection =
      (s.found selection).drop (selection.limit.getD (s.found selection).length) := by
  obtain ⟨s', hs', hlist⟩ := perform_deleteSeries s selection
  rw [hs', found, hlist, List.filter_filter]
  rw [← filter_not_mem_take increasing_found, ← select_fst, ← selectedIds, found, List.filter_filter]
  refine List.filter_congr fun e _ => ?_
  rw [Bool.and_comm]

/-- Each of some deletions takes as many of the entries as its limit allows. -/
theorem found_after_deletions [Digest] (requests : List Request) (k c : Nat) :
    (after (requests ++ List.replicate c (.deleteSeries ⟨filter, range, some k⟩))).found
        ⟨filter, range, limit⟩ =
      ((after requests).found ⟨filter, range, limit⟩).drop (c * k) := by
  induction c with
  | zero => rw [List.replicate_zero, List.append_nil, Nat.zero_mul, List.drop_zero]
  | succ c ih =>
    rw [List.replicate_succ', ← List.append_assoc, after, List.foldl_append, ← after,
      List.foldl_cons, List.foldl_nil, found_limit limit (some k), found_delete,
      found_limit (some k) limit, ih, List.drop_drop, Option.getD_some, Nat.succ_mul]

/-! ## Agreement -/

/-- With a smaller limit the first of the same series are selected. -/
theorem select_prefix_select (hle : ∀ l', limit' = some l' → ∃ l, limit = some l ∧ l ≤ l') :
    (s.select ⟨filter, range, limit⟩).1 <+: (s.select ⟨filter, range, limit'⟩).1 := by
  rw [select_fst, select_fst, found_limit limit' limit]
  cases limit' with
  | none =>
    rw [Option.getD_none, List.take_length]
    exact List.take_prefix _ _
  | some l' =>
    obtain ⟨l, rfl, hl⟩ := hle l' rfl
    exact List.take_prefix_take_left hl

/-- What the requests with one filter, range and limit answer, in a store that requests lead to:
the same number, which is that of the entries found or the limit, and things of the same series. An
entry is found if it is stored, its range overlaps and the filter passes its series. A deletion takes
just the series away; made again with a limit, it leaves none after as many calls as the limit is
contained in the number found, rounded up. A larger limit adds series at the end. -/
theorem answers_agree [Digest] (requests : List Request) (filter : Filter) (range : TimeRange)
    (limit : Option Nat) :
    let s := after requests
    let selection : Selection := ⟨filter, range, limit⟩
    let n := (s.found selection).length
    let m := min (limit.getD n) n
    (∀ e, e ∈ s.found selection ↔ e ∈ s.entries.toList ∧ e.2.range.overlaps range = true ∧
      filter.holds e.2.series = true) ∧
    ∃ (series : List Series) (ids : SortedSet) (tags : SortedMap SortedSet) (keys : SortedSet)
        (duplicates : Nat) (limited : Bool),
      (s.perform (.findSeries selection)).2 = .ok (.ofAnswer (.series series limited)) ∧
      (s.perform (.findSeriesIds selection)).2 = .ok (.ofAnswer (.ids ids limited)) ∧
      (s.perform (.countSeries selection)).2 = .ok (.ofAnswer (.count m limited)) ∧
      (s.perform (.findTags selection)).2 = .ok (.ofAnswer (.tags tags m)) ∧
      (s.perform (.findKeys selection)).2 = .ok (.ofAnswer (.keys keys m duplicates)) ∧
      (s.perform (.deleteSeries selection)).2 = .ok (.ofAnswer (.deleted m 0)) ∧
      series.length = m ∧ ids.size = m ∧ keys.size + duplicates = m ∧
      series <+: (s.found selection).map (·.2.series) ∧
      (limited = true ↔ ∃ l, limit = some l ∧ l < n) ∧
      ids.keys = series.map Series.id ∧
      (∀ key, key ∈ keys.keys ↔ ∃ t ∈ series, t.key = key) ∧
      (∀ name value, HasValue tags name value ↔ ∃ t ∈ series, t.tag? name = some value) ∧
      Inhabited tags ∧
      (s.perform (.deleteSeries selection)).1.entries.toList =
        s.entries.toList.filter (fun e => e.1 ∉ ids.keys) ∧
      (∀ k, 0 < k →
        (after (requests ++
          List.replicate ((n + k - 1) / k) (.deleteSeries ⟨filter, range, some k⟩))).found
            selection = []) ∧
      ∀ limit', (∀ l', limit' = some l' → ∃ l, limit = some l ∧ l ≤ l') →
        ∃ series' limited',
          (s.perform (.findSeries ⟨filter, range, limit'⟩)).2 =
            .ok (.ofAnswer (.series series' limited')) ∧
          series <+: series' := by
  intro s selection n m
  have hlength : ((s.select selection).1.map (·.2.series)).length = m := by
    rw [List.length_map, length_select]
  obtain ⟨hseries, ⟨ids, hids, hidKeys⟩, hcount, ⟨tags, htags, hvalues, hinhabited⟩,
    ⟨keys, duplicates, hkeys, hmem, hduplicates⟩, hdeleted, hleft⟩ :=
    (keyed_after requests).answersFor selection
  rw [hlength] at hcount htags hkeys hduplicates hdeleted
  have hsize : ids.size = m := by
    rw [← hlength, ← List.length_map Series.id, ← hidKeys]
    exact (List.length_map _).symm
  refine ⟨fun e => ?_, _, ids, tags, keys, duplicates, _, hseries, hids, hcount, htags, hkeys,
    hdeleted, hlength, hsize, hduplicates, ?_, cut_snd _ _, hidKeys, hmem, hvalues, hinhabited, ?_,
    fun k hk => ?_, fun limit' hle => ?_⟩
  · rw [mem_found, selects, Bool.and_eq_true]
  · rw [select_fst]
    exact (List.take_prefix _ _).map _
  · rw [hidKeys, hleft]
  · rw [found_after_deletions]
    exact List.drop_eq_nil_of_le (le_ceil_mul n hk)
  · exact ⟨_, _, rfl, (select_prefix_select hle).map _⟩

end Agreement

open scoped Regex Sha256

/-- Three series are found and two of them worked on: a deletion leaves the third, and the same
deletion again leaves none. -/
theorem answers_agree_limited :
    let requests : List Request :=
      [.write ((Series.ofKey "cpu").withTag "dc" "a") ⟨0, 5⟩,
        .write ((Series.ofKey "mem").withTag "dc" "b") ⟨3, 9⟩, .write (.ofKey "cpu") ⟨3, 9⟩,
        .write ((Series.ofKey "cpu").withTag "dc" "b") ⟨4, 4⟩,
        .write ((Series.ofKey "mem").withTag "dc" "c") ⟨7, 9⟩]
    let s := after requests
    let selection : Selection := ⟨.hasTag "dc", ⟨4, 6⟩, some 2⟩
    (s.found selection).length = 3 ∧
    ∃ series limited tags,
      (s.perform (.findSeries selection)).2 = .ok (.ofAnswer (.series series limited)) ∧
      (s.perform (.countSeries selection)).2 = .ok (.ofAnswer (.count 2 limited)) ∧
      (s.perform (.findTags selection)).2 = .ok (.ofAnswer (.tags tags 2)) ∧
      (s.perform (.deleteSeries selection)).2 = .ok (.ofAnswer (.deleted 2 0)) ∧
      series.length = 2 ∧ limited = true ∧
      (∀ t ∈ series, ∃ e ∈ s.entries.toList, e.2.series = t ∧ t.tags.contains "dc" = true) ∧
      (after (requests ++ [.deleteSeries selection, .deleteSeries selection])).found selection =
        [] := by
  intro requests s selection
  have hfound : (s.found selection).length = 3 := by decide +kernel
  have hagree := answers_agree requests (.hasTag "dc") ⟨4, 6⟩ (some 2)
  simp only [show ((after requests).found ⟨.hasTag "dc", ⟨4, 6⟩, some 2⟩).length = 3 from hfound]
    at hagree
  obtain ⟨hmeant, series, _, tags, _, _, limited, hseries, -, hcount, htags, -, hdeleted, hlength, -,
    -, hfirst, hlimited, -, -, -, -, -, hagain, -⟩ := hagree
  refine ⟨hfound, series, limited, tags, hseries, hcount, htags, hdeleted, hlength,
    hlimited.mpr ⟨2, rfl, by decide⟩, fun t ht => ?_, hagain 2 (by decide)⟩
  obtain ⟨e, he, rfl⟩ := List.mem_map.mp (hfirst.subset ht)
  obtain ⟨hstored, -, hholds⟩ := (hmeant e).mp he
  exact ⟨e, hstored, rfl, hholds⟩

end Store

end SeriesQuery
