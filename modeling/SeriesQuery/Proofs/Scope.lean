/-
What the names of a scope stand for. Frames see of the frames outside them
only that (`lookup_append_congr`), so a change in the middle of a scope that
keeps it is seen nowhere. A deferred binding is one case: where its
expression has a value, it is as good as that value, and where the expression
fails, so does every use of the name, in the same way (`deferred_lexical`).
-/
import SeriesQuery.Expr.Filter
import SeriesQuery.Regex.Engine

namespace SeriesQuery

/-- A name that stands for a value can be bound to it again. -/
theorem Env.bind_eq_self [PatternEngine] {env : Env} {name : String} {v : Value}
    (h : ∀ span, env name span = .ok v) : env.bind name v = env := by
  funext n span
  by_cases hn : n = name
  · subst hn
    simp [Env.bind, h]
  · simp [Env.bind, hn]

namespace Scope

section Bindings

variable [PatternEngine]

/-- What a scope's names stand for after a definition: those of before, except for the one. -/
theorem lookup_define_value (scope : Scope) (name : String) (v : Value) :
    (scope.define name (.value v)).lookup = Env.bind scope.lookup name v := by
  funext n span
  by_cases h : n = name
  · subst h
    cases scope with
    | nil => simp [define, lookup, Env.bind]
    | cons frame outer => simp [define, lookup, Env.bind]
  · have hne : (n == name) = false := beq_eq_false_iff_ne.mpr h
    cases scope with
    | nil => simp [define, lookup, Env.bind, List.lookup_cons, hne, h]
    | cons frame outer => simp [define, lookup, Env.bind, List.lookup_cons, hne, h]

/-- Inner frames, their deferred bindings included, use of the outer ones what the names stand
for. -/
theorem lookup_append_congr {s t : Scope} (h : s.lookup = t.lookup) (inner : Scope) :
    (inner ++ s).lookup = (inner ++ t).lookup := by
  induction inner with
  | nil => exact h
  | cons frame inner ih =>
    funext name span
    simp only [List.cons_append, lookup, ih]

/-- Frames that do not bind a name leave it to those outside. -/
theorem lookup_append_of_unbound {inner : Scope} {x : String}
    (h : ∀ frame ∈ inner, List.lookup x frame = none) (s : Scope) (span : Span) :
    (inner ++ s).lookup x span = s.lookup x span := by
  induction inner with
  | nil => rfl
  | cons frame inner ih =>
    obtain ⟨hframe, hinner⟩ := List.forall_mem_cons.mp h
    simp only [List.cons_append, lookup, hframe, ih hinner]

variable {frame : Frame} {x : String} {d : Expr}

theorem lookup_deferred (hx : List.lookup x frame = some (.deferred d)) (outer : Scope)
    (span : Span) : lookup (frame :: outer) x span = d.eval outer := by
  simp only [lookup, hx, Expr.eval]

/-- A deferred binding whose expression has a value can be replaced by the value. -/
theorem lookup_define_deferred (hx : List.lookup x frame = some (.deferred d)) {outer : Scope}
    {v : Value} (hv : d.eval outer = .ok v) :
    (define x (.value v) (frame :: outer)).lookup = lookup (frame :: outer) := by
  rw [lookup_define_value]
  exact Env.bind_eq_self fun span => (lookup_deferred hx outer span).trans hv

/-- Deferred bindings are lexical: what one comes to is settled outside the frame that holds it.
If that is a value, the value in its place changes nothing in any scope around the frame. If it is
a failure, that is the answer wherever a use of the name gets to the frame. -/
theorem deferred_lexical (hx : List.lookup x frame = some (.deferred d)) (outer inner : Scope) :
    (∀ v, d.eval outer = .ok v → ∀ e : Expr,
      e.eval (inner ++ define x (.value v) (frame :: outer)) = e.eval (inner ++ frame :: outer) ∧
      e.filter (inner ++ define x (.value v) (frame :: outer)) =
        e.filter (inner ++ frame :: outer)) ∧
    ∀ failure, d.eval outer = .error failure → (∀ g ∈ inner, List.lookup x g = none) →
      ∀ span, (inner ++ frame :: outer).lookup x span = .error failure := by
  constructor
  · intro v hv e
    have hsame := lookup_append_congr (lookup_define_deferred hx hv) inner
    constructor
    · rw [Expr.eval, Expr.eval, hsame]
    · rw [Expr.filter, Expr.filter, hsame]
  · intro failure hfails hinner span
    calc (inner ++ frame :: outer).lookup x span
        = lookup (frame :: outer) x span := lookup_append_of_unbound hinner _ span
      _ = d.eval outer := lookup_deferred hx outer span
      _ = .error failure := hfails

end Bindings

open scoped Regex

/-- A deferred binding that uses another one, with its names bound anew around it; and, with
nothing outside its frame, the same one. -/
theorem deferred_lexical_shadowed :
    let d : Expr :=
      .binary ⟨0, 11⟩ .mul ⟨5, 6⟩ (.reference ⟨0, 4⟩ "base") (.reference ⟨7, 11⟩ "rate")
    let frame : Frame := [("base", .value (.integer 100)), ("total", .deferred d)]
    let outer : Scope :=
      [[("rate", .deferred (.reference ⟨0, 4⟩ "base"))], [("base", .value (.integer 5))]]
    let inner : Scope :=
      [[("rate", .value (.integer 7))], [("tax", .deferred (.reference ⟨0, 5⟩ "total"))]]
    let e : Expr :=
      .letIn ⟨0, 17⟩ "base" (.literal ⟨11, 12⟩ (.integer 1)) (.reference ⟨14, 17⟩ "tax")
    List.lookup "total" frame = some (.deferred d) ∧ d.eval outer = .ok (.integer 25) ∧
      e.eval (inner ++ define "total" (.value (.integer 25)) (frame :: outer)) =
        e.eval (inner ++ frame :: outer) ∧
      e.eval (inner ++ frame :: outer) = .ok (.integer 25) ∧
      d.eval .empty = .error ⟨⟨0, 4⟩, .unboundReference "base"⟩ ∧
      lookup (inner ++ [frame]) "total" ⟨3, 8⟩ = .error ⟨⟨0, 4⟩, .unboundReference "base"⟩ := by
  intro d frame outer inner e
  have hx : List.lookup "total" frame = some (.deferred d) := rfl
  have hv : d.eval outer = .ok (.integer 25) := rfl
  have hfails : d.eval .empty = .error ⟨⟨0, 4⟩, .unboundReference "base"⟩ := rfl
  have hinner : ∀ g ∈ inner, List.lookup "total" g = none := by
    intro g hg
    simp only [inner, List.mem_cons, List.not_mem_nil, or_false] at hg
    rcases hg with rfl | rfl <;> rfl
  obtain ⟨hvalue, -⟩ := deferred_lexical hx outer inner
  obtain ⟨-, hfailure⟩ := deferred_lexical hx .empty inner
  exact ⟨hx, hv, (hvalue _ hv e).1, rfl, hfails, hfailure _ hfails hinner ⟨3, 8⟩⟩

end Scope

end SeriesQuery
