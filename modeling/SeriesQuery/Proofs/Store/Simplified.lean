/-
Requests with simplified filters. What a selection finds depends on its filter
only through the series the filter holds for (`found_congr`), and these stay
the same when the filter is simplified. So a store makes no difference between
a request and that request simplified (`perform_simplified`).
-/
import SeriesQuery.Proofs.Filter.Normal
import SeriesQuery.Store

namespace SeriesQuery

variable [PatternEngine]

/-- The selection with its filter simplified. -/
def Selection.simplified (s : Selection) : Selection := { s with filter := s.filter.normalize }

/-- The request with the filter of its selection simplified. -/
def Request.simplified : Request → Request
  | write series range => write series range
  | findTags selection => findTags selection.simplified
  | findSeries selection => findSeries selection.simplified
  | findSeriesIds selection => findSeriesIds selection.simplified
  | countSeries selection => countSeries selection.simplified
  | deleteSeries selection => deleteSeries selection.simplified
  | findKeys selection => findKeys selection.simplified

namespace Store

variable (s : Store)

theorem found_congr {a b : Selection} (hrange : a.range = b.range)
    (hholds : ∀ t : Series, a.filter.holds t = b.filter.holds t) : s.found a = s.found b := by
  simp only [found, selects, hrange, hholds]

theorem select_simplified (selection : Selection) :
    s.select selection.simplified = s.select selection := by
  have hfound : s.found selection.simplified = s.found selection :=
    s.found_congr rfl fun t => selection.filter.holds_normalize t
  rw [select, select, hfound]
  rfl

/-- The store and the answer are the same as for the request as it was written. -/
theorem perform_simplified [Digest] (request : Request) :
    s.perform request.simplified = s.perform request := by
  cases request with
  | write series range => rfl
  | _ => simp only [Request.simplified, perform, select_simplified]

end Store

/-- Simplifying changes neither which series pass a filter nor what a store does with a request. -/
theorem normalize_keeps_meaning [Digest] :
    (∀ (f : Filter) (s : Series), f.normalize.holds s = f.holds s) ∧
      ∀ (store : Store) (request : Request),
        store.perform request.simplified = store.perform request :=
  ⟨fun f s => f.holds_normalize s, fun store request => store.perform_simplified request⟩

end SeriesQuery
