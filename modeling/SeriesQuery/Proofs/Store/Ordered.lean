/-
The order of the bounds of stored ranges. What is compiled has a range with
its bounds in order (`Request.Compiled.ordered`), and so has a join of two
ranges if one of them has (`TimeRange.ordered_join`). A request that is decoded
may have any bounds. So a store comes to hold a range with its bounds in the
wrong order just when such a range is the first to be written for its series
(`ordered_after_iff`).
-/
import Mathlib.Data.List.Induction
import SeriesQuery.CommandLine.Perform
import SeriesQuery.Proofs.Result
import SeriesQuery.Proofs.SortedMap
import SeriesQuery.Proofs.Store.Selection
import SeriesQuery.Proofs.TimeRange
import SeriesQuery.Proofs.Word
import SeriesQuery.Regex.Engine
import SeriesQuery.Sha256

namespace SeriesQuery

/-! ## Ranges -/

namespace TimeRange

variable {a b r : TimeRange}

theorem ordered_iff : r.ordered = true ↔ r.start.toInt ≤ r.stop.toInt := by
  rw [ordered, decide_eq_true_iff, Int64.le_iff_toInt_le]

/-- The range is made of bounds that are checked, or reaches back from its end. -/
def Checked (r : TimeRange) : Prop :=
  (∃ start stop, ofBounds? start stop = some r) ∨ ∃ stop lookback, r = endingAt stop lookback

theorem ordered_ofBounds? {start stop : Int64} (h : ofBounds? start stop = some r) :
    r.ordered = true := by
  unfold ofBounds? at h
  split at h
  · rename_i hle
    obtain rfl := Option.some.inj h
    exact decide_eq_true hle
  · cases h

theorem toInt_clamp (n : Int) : (clamp n).toInt = max Word.least (min Word.greatest n) := by
  unfold clamp Word.least Word.greatest
  exact Int64.toInt_ofInt_of_le (by omega) (by omega)

theorem ordered_endingAt (stop lookback : Int64) : (endingAt stop lookback).ordered = true := by
  have hleast := (Word.fits_toInt stop).1
  rw [ordered_iff, endingAt, toInt_clamp]
  dsimp only
  omega

theorem Checked.ordered (h : r.Checked) : r.ordered = true := by
  rcases h with ⟨start, stop, h⟩ | ⟨stop, lookback, rfl⟩
  · exact ordered_ofBounds? h
  · exact ordered_endingAt stop lookback

/-- One range with its bounds in order is enough: its bounds are not narrowed. -/
theorem ordered_join (h : a.ordered = true) : (a.join b).ordered = true := by
  rw [ordered_iff] at h ⊢
  rw [join, toInt_min, toInt_max]
  omega

end TimeRange

/-- The range that a command asks for is checked. -/
theorem CommandLine.checked_rangeOf {s : Settings} {now : Int64} {a : RequestArguments}
    {r : TimeRange} (h : rangeOf s now a = .ok r) : r.Checked := by
  unfold rangeOf at h
  split at h
  · cases h
    exact .inr ⟨_, _, rfl⟩
  · rename_i start stop _
    split at h
    · rename_i hbounds
      cases h
      exact .inl ⟨start, stop, hbounds⟩
    · cases h

/-! ## Stores -/

namespace Store

variable {s : Store}

/-- Every stored range has its bounds in order. -/
def Ordered (s : Store) : Prop := ∀ e ∈ s.entries.toList, e.2.range.ordered = true

theorem ordered_empty : empty.Ordered := nofun

/-- A write keeps the ranges in order just when the range it leaves for its series is. -/
theorem Ordered.put_iff (h : s.Ordered) {id : String} {entry : Entry} :
    (s.put id entry).Ordered ↔ entry.range.ordered = true := by
  constructor
  · exact fun hput => hput (id, entry) (SortedMap.mem_insert.mpr (.inl rfl))
  · intro hentry e he
    rcases SortedMap.mem_insert.mp he with rfl | ⟨he, -⟩
    · exact hentry
    · exact h e he

theorem Ordered.write_iff [Digest] (h : s.Ordered) {series : Series} {range : TimeRange} :
    (s.write series range).Ordered ↔
      (s.entries.get? series.id = none → range.ordered = true) := by
  unfold Store.write
  cases hget : s.entries.get? series.id with
  | none => rw [h.put_iff, forall_prop_of_true rfl]
  | some old =>
    have hold : old.range.ordered = true := h _ (SortedMap.get?_eq_some_iff.mp hget)
    rw [h.put_iff]
    exact iff_of_true (TimeRange.ordered_join hold) nofun

end Store

/-! ## Requests -/

section Requests

variable [PatternEngine]

namespace Request

/-- The range that is written, or that a selection asks for. -/
def range : Request → TimeRange
  | write _ range => range
  | findTags s | findSeries s | findSeriesIds s | countSeries s | deleteSeries s | findKeys s =>
    s.range

/-- The request is compiled from an expression, its range being checked. -/
def Compiled (request : Request) : Prop :=
  ∃ (scope : Scope) (kind : RequestKind) (range : TimeRange) (limit : Option Nat) (e : Expr),
    range.Checked ∧ e.request scope kind range limit = .ok request

theorem range_of_compile {scope : Scope} {kind : RequestKind} {range : TimeRange}
    {limit : Option Nat} {e : Expr} {request : Request}
    (h : e.request scope kind range limit = .ok request) : request.range = range := by
  cases kind with
  | _ =>
    obtain ⟨_, -, h⟩ := bind_ok_iff.mp h
    cases h
    rfl

theorem Compiled.ordered {request : Request} (h : request.Compiled) :
    request.range.ordered = true := by
  obtain ⟨scope, kind, range, limit, e, hrange, hrequest⟩ := h
  rw [range_of_compile hrequest]
  exact hrange.ordered

end Request

/-! ## Runs -/

namespace Store

variable {s : Store}

/-- A request puts a range in the wrong order into the store just when it is a write that is
accepted, the first of its series, and of such a range. -/
theorem Ordered.perform_iff [Digest] (h : s.Ordered) (request : Request) :
    (s.perform request).1.Ordered ↔ ∀ series range, request = .write series range →
      series.fault? = none → s.entries.get? series.id = none → range.ordered = true := by
  cases request with
  | write series range =>
    simp only [Store.perform, Request.write.injEq, and_imp]
    cases hfault : series.fault? with
    | none =>
      rw [h.write_iff]
      constructor
      · rintro hwrite _ _ rfl rfl -
        exact hwrite
      · exact fun hwrite => hwrite series range rfl rfl hfault
    | some fault =>
      refine iff_of_true h ?_
      rintro _ _ rfl rfl hnone
      rw [hfault] at hnone
      cases hnone
  | deleteSeries selection =>
    refine iff_of_true (fun e he => ?_) fun _ _ heq => by cases heq
    obtain ⟨s', hs', hlist⟩ := perform_deleteSeries s selection
    rw [hs'] at he
    rw [hlist] at he
    exact h e (List.mem_filter.mp he).1
  | _ => exact iff_of_true h fun _ _ heq => by cases heq

theorem after_append_singleton [Digest] (requests : List Request) (request : Request) :
    after (requests ++ [request]) = ((after requests).perform request).1 := by
  rw [after, List.foldl_append]
  rfl

/-- The range a command asks for is checked, and what is compiled for a checked range has its range
in order. And whatever requests are made, compiled or decoded, every store they lead to has all its
ranges in order, unless one of them, which is not compiled, is an accepted write of a range in the
wrong order for a series that is not stored then. -/
theorem ordered_after_iff [Digest] (requests : List Request) :
    (∀ settings now arguments range,
      CommandLine.rangeOf settings now arguments = .ok range → range.Checked) ∧
    (∀ request : Request, request.Compiled → request.range.ordered = true) ∧
    ((∀ done, done <+: requests → (after done).Ordered) ↔
      ∀ before series range, before ++ [.write series range] <+: requests →
        ¬ (Request.write series range).Compiled → series.fault? = none →
        (after before).entries.get? series.id = none → range.ordered = true) := by
  refine ⟨fun _ _ _ _ => CommandLine.checked_rangeOf, fun _ => Request.Compiled.ordered,
    fun h before series range hprefix _ => ?_, fun h => ?_⟩
  · have hbefore : (after before).Ordered := h before ((List.prefix_append ..).trans hprefix)
    have hwritten := h _ hprefix
    rw [after_append_singleton] at hwritten
    exact (hbefore.perform_iff _).mp hwritten series range rfl
  · intro done
    induction done using List.reverseRecOn with
    | nil => exact fun _ => ordered_empty
    | append_singleton before request ih =>
      intro hprefix
      have hbefore : (after before).Ordered := ih ((List.prefix_append ..).trans hprefix)
      rw [after_append_singleton, hbefore.perform_iff]
      rintro series range rfl hfault hnew
      by_cases hcompiled : (Request.write series range).Compiled
      · exact hcompiled.ordered
      · exact h before series range hprefix hcompiled hfault hnew

end Store

end Requests

open scoped Regex Sha256

/-- A write is decoded whatever the order of its bounds, and stored so. -/
theorem Store.not_ordered_after_decoded :
    Request.ofJson? (.object [("request", .string "write"),
        ("series", .object [("key", .string "cpu")]),
        ("range", .object [("start", .integer 10), ("end", .integer 5)])]) =
      some (.write (.ofKey "cpu") ⟨10, 5⟩) ∧
    ¬ (Store.after [.write (.ofKey "cpu") ⟨10, 5⟩]).Ordered := by
  refine ⟨rfl, fun h => ?_⟩
  have hrange := (Store.ordered_empty.perform_iff _).mp h (.ofKey "cpu") ⟨10, 5⟩ rfl (by decide) rfl
  exact absurd hrange (by decide)

end SeriesQuery
