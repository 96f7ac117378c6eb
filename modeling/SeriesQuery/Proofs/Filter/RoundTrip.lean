/-
A filter written as a query and compiled again. The query holds of the same
series, and the query of a simplified filter compiles to what that filter
simplifies to. All filters with such query texts are kept to: no parsed query
gives one with a tag that cannot be named.
-/
import SeriesQuery.Proofs.Filter.Query
import SeriesQuery.Regex.Engine

namespace SeriesQuery.Filter

open SeriesQuery.Expr (parse)

section RoundTrip

variable [PatternEngine]

/-- The query of a filter is parsed within some limits. -/
theorem parse_query {f : Filter} (hf : f.Named) : ∃ most, ∀ limits : Limits,
    most ≤ limits.nesting → f.query.utf8ByteSize ≤ limits.length →
      ∃ e, parse limits f.query = .ok e := by
  obtain ⟨most, hmost⟩ := ((printable_expr hf).mono f.floor_pos).parse
  rw [text_expr hf] at hmost
  refine ⟨most, fun limits hnesting hlength => ?_⟩
  obtain ⟨e, he, -⟩ := hmost limits hnesting hlength
  exact ⟨e, he⟩

/-- Whatever is parsed from the query of a filter compiles to its pairs, simplified. -/
theorem filter_query {f : Filter} (hf : f.Named) {limits : Limits} {e : Expr}
    (h : parse limits f.query = .ok e) (scope : Scope) :
    e.filter scope = .ok f.paired.normalize := by
  rw [← text_expr hf] at h
  have hbare : e.bare = f.expr := ((printable_expr hf).mono f.floor_pos).bare_of_parse h
  rw [Expr.filter, compiles_expr f scope.lookup e hbare]
  rfl

/-- A filter whose tags can be named is written as a query that compiles to a filter of the same
series, and to what it simplifies to if it is simplified already; and queries give no filters but
those whose tags can be named, if their free names stand for such values. In a scope that binds
names to such values and queries they do. -/
theorem query_round_trip :
    (∀ f : Filter, f.Named →
      (∃ most, ∀ limits : Limits, most ≤ limits.nesting →
        f.query.utf8ByteSize ≤ limits.length → ∃ e, parse limits f.query = .ok e) ∧
      ∀ (limits : Limits) (e : Expr), parse limits f.query = .ok e →
        ∃ g, e.filter Scope.empty = .ok g ∧ (∀ s, g.holds s = f.holds s) ∧
          ((∃ h, f = normalize h) → g = f.normalize)) ∧
    (∀ (limits : Limits) (source : String) (e : Expr) (scope : Scope),
      parse limits source = .ok e → Env.Named scope.lookup →
        (∀ v, e.eval scope = .ok v → v.Named) ∧ ∀ g, e.filter scope = .ok g → g.Named) ∧
    ∀ scope : Scope, (∀ frame ∈ scope, ∀ b ∈ frame, b.2.Named) → Env.Named scope.lookup := by
  refine ⟨fun f hf => ⟨parse_query hf, fun limits e he => ?_⟩, fun limits source e scope he hscope => ?_,
    Scope.named_lookup⟩
  · refine ⟨f.paired.normalize, filter_query hf he Scope.empty, fun s => ?_, ?_⟩
    · rw [holds_normalize, holds_paired]
    · rintro ⟨h, rfl⟩
      exact normalize_paired_normalize h
  · have hnamed : e.Named := Expr.named_of_parse he
    refine ⟨fun v hv => Expr.named_evalIn hscope e hnamed hv, fun g hg => ?_⟩
    obtain ⟨f, hf, hnormal⟩ := bind_ok_iff.mp hg
    cases hnormal
    exact named_normalize (Expr.named_filterIn hscope e hnamed hf)

end RoundTrip

open scoped Regex

/-- Two negations that simplifying has left are gone after the next time, and a name that is bound to
a filter gives that filter. -/
theorem query_round_trip_double_negation :
    (∃ f : Filter, f = (not (all [not (hasTag "a")])).normalize ∧ f.Named ∧ f.query = "!(!(+a))" ∧
      ∃ e, parse ⟨8, 6⟩ f.query = .ok e ∧ e.filter Scope.empty = .ok (hasTag "a")) ∧
    ∃ (e : Expr) (scope : Scope), parse ⟨4, 6⟩ "x" = .ok e ∧ Env.Named scope.lookup ∧
      e.filter scope = .ok (hasTag "dc") ∧ (hasTag "dc").Named := by
  let f : Filter := not (not (hasTag "a"))
  let e : Expr := .unary ⟨0, 8⟩ .not ⟨0, 1⟩ (.group ⟨1, 8⟩
    (.unary ⟨2, 7⟩ .not ⟨2, 3⟩ (.group ⟨3, 7⟩ (.hasTag ⟨4, 6⟩ "a"))))
  have hnormal : f = (not (all [not (hasTag "a")])).normalize := rfl
  have hnamed : f.Named := by
    simp only [f, Named]
    decide
  have hquery : f.query = "!(!(+a))" := rfl
  have he : parse ⟨8, 6⟩ f.query = .ok e := by
    rw [hquery]
    rfl
  obtain ⟨hwritten, hgiven, hbound⟩ := query_round_trip
  obtain ⟨g, hg, -, hsimple⟩ := (hwritten f hnamed).2 ⟨8, 6⟩ e he
  have hplain : g = hasTag "a" := hsimple ⟨_, hnormal⟩
  let scope : Scope := [[("x", .value (.selector (hasTag "dc")))]]
  have hdc : (hasTag "dc").Named := by
    simp only [Named]
    decide
  have hscope : Env.Named scope.lookup := by
    refine hbound scope ?_
    simpa [scope, Binding.Named, Value.Named] using hdc
  have hx : parse ⟨4, 6⟩ "x" = .ok (.reference ⟨0, 1⟩ "x") := rfl
  exact ⟨⟨f, hnormal, hnamed, hquery, e, he, hplain ▸ hg⟩, _, scope, hx, hscope, rfl,
    (hgiven _ _ _ scope hx hscope).2 _ rfl⟩

end SeriesQuery.Filter
