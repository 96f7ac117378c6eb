/-
Bindings on the command line mean nested `let`s. The names they define pile
up in one frame, where the last definition of a name counts; a chain of
`let`s puts each name on top of those before it. Both tell a later value, and
the query at the end, the same names.
-/
import SeriesQuery.CommandLine.Perform
import SeriesQuery.Proofs.Result
import SeriesQuery.Proofs.Scope
import SeriesQuery.Regex.Engine
import Mathlib.Data.List.Forall2

namespace SeriesQuery

/-- What a `let` says before its body, and where it stands. -/
structure LetHead where
  span : Span
  name : String
  value : Expr

/-- `let n₁ = v₁; …; let nₖ = vₖ; q`. -/
def Expr.lets (heads : List LetHead) (q : Expr) : Expr :=
  heads.foldr (fun head body => .letIn head.span head.name head.value body) q

namespace CommandLine

section Bindings

variable [PatternEngine]

/-- The text of a binding gives the name and the value of a `let`. -/
def Declares (limits : Limits) (text : String) (head : LetHead) : Prop :=
  ∃ source, splitBinding text = .ok (head.name, source) ∧
    Expr.parse limits source = .ok head.value

/-- The binding at which some bindings fail, after those that define a scope, and how its value
fails there. -/
def FailsAt (limits : Limits) (start : Scope) (bindings : List String) (fault : CommandFault)
    (failure : Failure) : Prop :=
  ∃ before text after scope name source value,
    bindings = before ++ text :: after ∧
    before.foldlM (bindNext limits) start = .ok scope ∧
    splitBinding text = .ok (name, source) ∧ Expr.parse limits source = .ok value ∧
    value.eval scope = .error failure ∧ fault = .query source failure

section Step

variable {limits : Limits} {text : String} {head : LetHead} {scope : Scope}

/-- Reading a binding is evaluating its value where the names before it are known. -/
theorem bindNext_eq {source : String} (hsplit : splitBinding text = .ok (head.name, source))
    (hparse : Expr.parse limits source = .ok head.value) :
    bindNext limits scope text =
      ((head.value.eval scope).mapError (.query source)).map
        fun v => scope.define head.name (.value v) := by
  simp only [bindNext, hsplit, inQuery, hparse, ok_bind]
  cases head.value.eval scope <;> rfl

theorem bindNext_eq_ok (h : Declares limits text head) {scope' : Scope}
    (hnext : bindNext limits scope text = .ok scope') :
    ∃ v, head.value.eval scope = .ok v ∧ scope' = scope.define head.name (.value v) := by
  obtain ⟨source, hsplit, hparse⟩ := h
  rw [bindNext_eq hsplit hparse] at hnext
  cases hv : head.value.eval scope with
  | error f =>
    rw [hv] at hnext
    cases hnext
  | ok v =>
    rw [hv] at hnext
    exact ⟨v, rfl, (Except.ok.inj hnext).symm⟩

theorem bindNext_eq_error (h : Declares limits text head) {fault : CommandFault}
    (hnext : bindNext limits scope text = .error fault) :
    ∃ source failure, splitBinding text = .ok (head.name, source) ∧
      Expr.parse limits source = .ok head.value ∧ head.value.eval scope = .error failure ∧
      fault = .query source failure := by
  obtain ⟨source, hsplit, hparse⟩ := h
  rw [bindNext_eq hsplit hparse] at hnext
  cases hv : head.value.eval scope with
  | error f =>
    rw [hv] at hnext
    exact ⟨source, f, hsplit, hparse, rfl, (Except.error.inj hnext).symm⟩
  | ok v =>
    rw [hv] at hnext
    cases hnext

end Step

section Chain

variable {limits : Limits} {bindings : List String} {heads : List LetHead} {start : Scope}

/-- Under the names bindings start from, the chain does what its last expression does under the
names they end with. -/
theorem eval_lets_of_ok (h : List.Forall₂ (Declares limits) bindings heads) (q : Expr)
    {scope : Scope} (hscope : bindings.foldlM (bindNext limits) start = .ok scope) :
    (Expr.lets heads q).eval start = q.eval scope ∧
      (Expr.lets heads q).filterIn start.lookup = q.filterIn scope.lookup := by
  induction h generalizing start with
  | nil =>
    cases hscope
    exact ⟨rfl, rfl⟩
  | @cons text head bindings heads hhead _ ih =>
    rw [List.foldlM_cons] at hscope
    obtain ⟨next, hnext, hrest⟩ := bind_ok_iff.mp hscope
    obtain ⟨v, hv, rfl⟩ := bindNext_eq_ok hhead hnext
    obtain ⟨heval, hfilter⟩ := ih hrest
    have hvalue : head.value.evalIn start.lookup = .ok v := hv
    rw [Expr.eval, Scope.lookup_define_value] at heval
    rw [Scope.lookup_define_value] at hfilter
    constructor
    · calc (Expr.lets (head :: heads) q).eval start
          = (Expr.lets heads q).evalIn (Env.bind start.lookup head.name v) := by
            simp only [Expr.lets, List.foldr_cons, Expr.eval, Expr.evalIn, hvalue, ok_bind]
        _ = q.eval scope := heval
    · calc (Expr.lets (head :: heads) q).filterIn start.lookup
          = (Expr.lets heads q).filterIn (Env.bind start.lookup head.name v) := by
            simp only [Expr.lets, List.foldr_cons, Expr.filterIn, Expr.valueIn, hvalue,
              Except.mapError, ok_bind]
        _ = q.filterIn scope.lookup := hfilter

/-- Bindings fail where the value of one does, and there the chain fails. -/
theorem eval_lets_of_error (h : List.Forall₂ (Declares limits) bindings heads) (q : Expr)
    {fault : CommandFault} (hfault : bindings.foldlM (bindNext limits) start = .error fault) :
    ∃ failure, FailsAt limits start bindings fault failure ∧
      (Expr.lets heads q).eval start = .error failure := by
  induction h generalizing start with
  | nil => cases hfault
  | @cons text head bindings heads hhead _ ih =>
    rw [List.foldlM_cons] at hfault
    cases hnext : bindNext limits start text with
    | error first =>
      rw [hnext, error_bind, Except.error.injEq] at hfault
      subst hfault
      obtain ⟨source, failure, hsplit, hparse, hfailure, hfault⟩ := bindNext_eq_error hhead hnext
      refine ⟨failure, ⟨[], text, bindings, start, head.name, source, head.value, rfl, rfl, hsplit,
        hparse, hfailure, hfault⟩, ?_⟩
      have hvalue : head.value.evalIn start.lookup = .error failure := hfailure
      simp only [Expr.lets, List.foldr_cons, Expr.eval, Expr.evalIn, hvalue, error_bind]
    | ok next =>
      rw [hnext, ok_bind] at hfault
      obtain ⟨failure, ⟨before, text', after, scope, name, source, value, hbindings, hbefore,
        hlast⟩, heval⟩ := ih hfault
      refine ⟨failure, ⟨text :: before, text', after, scope, name, source, value, ?_, ?_, hlast⟩, ?_⟩
      · rw [hbindings, List.cons_append]
      · rw [List.foldlM_cons, hnext, ok_bind, hbefore]
      · obtain ⟨v, hv, rfl⟩ := bindNext_eq_ok hhead hnext
        have hvalue : head.value.evalIn start.lookup = .ok v := hv
        rw [Expr.eval, Scope.lookup_define_value] at heval
        simp only [Expr.lets, List.foldr_cons, Expr.eval, Expr.evalIn, hvalue, ok_bind]
        exact heval

end Chain

/-- A query in the scope of some bindings means the chain of `let`s with the query at its end, as a
value and as a filter. Where the value of a binding fails, the chain fails in the same way. -/
theorem scopeOf_lets {limits : Limits} {bindings : List String} {heads : List LetHead}
    (h : List.Forall₂ (Declares limits) bindings heads) (q : Expr) :
    (∀ scope, scopeOf limits bindings = .ok scope →
      (Expr.lets heads q).eval .empty = q.eval scope ∧
      (Expr.lets heads q).filter .empty = q.filter scope) ∧
    ∀ fault, scopeOf limits bindings = .error fault →
      ∃ failure, FailsAt limits .empty bindings fault failure ∧
        (Expr.lets heads q).eval .empty = .error failure := by
  constructor
  · intro scope hscope
    obtain ⟨heval, hfilter⟩ := eval_lets_of_ok h q hscope
    refine ⟨heval, ?_⟩
    rw [Expr.filter, Expr.filter, hfilter]
  · intro fault hfault
    exact eval_lets_of_error h q hfault

end Bindings

open scoped Regex

/-- A name bound again from its own earlier value, and a name bound from one that nothing binds. -/
theorem scopeOf_lets_rebound :
    (∃ heads q scope, List.Forall₂ (Declares ⟨9, 8⟩) ["x=1", " y = x + 1", "x=x + y"] heads ∧
      Expr.parse ⟨9, 8⟩ "x * y" = .ok q ∧
      scopeOf ⟨9, 8⟩ ["x=1", " y = x + 1", "x=x + y"] = .ok scope ∧
      (Expr.lets heads q).eval .empty = q.eval scope ∧
      (Expr.lets heads q).filter .empty = q.filter scope ∧ q.eval scope = .ok (.integer 6)) ∧
    ∃ heads q fault failure, List.Forall₂ (Declares ⟨9, 8⟩) ["x=1", "y=x + z", "z=2"] heads ∧
      scopeOf ⟨9, 8⟩ ["x=1", "y=x + z", "z=2"] = .error fault ∧
      FailsAt ⟨9, 8⟩ .empty ["x=1", "y=x + z", "z=2"] fault failure ∧
      (Expr.lets heads q).eval .empty = .error failure := by
  constructor
  · have hread : List.Forall₂ (Declares ⟨9, 8⟩) ["x=1", " y = x + 1", "x=x + y"]
        [⟨⟨0, 1⟩, "x", _⟩, ⟨⟨2, 3⟩, "y", _⟩, ⟨⟨4, 5⟩, "x", _⟩] :=
      .cons ⟨"1", rfl, rfl⟩ (.cons ⟨" x + 1", rfl, rfl⟩ (.cons ⟨"x + y", rfl, rfl⟩ .nil))
    obtain ⟨hagrees, -⟩ := scopeOf_lets hread _
    obtain ⟨heval, hfilter⟩ := hagrees _ rfl
    exact ⟨_, _, _, hread, rfl, rfl, heval, hfilter, rfl⟩
  · have hread : List.Forall₂ (Declares ⟨9, 8⟩) ["x=1", "y=x + z", "z=2"]
        [⟨⟨0, 1⟩, "x", _⟩, ⟨⟨2, 3⟩, "y", _⟩, ⟨⟨4, 5⟩, "z", _⟩] :=
      .cons ⟨"1", rfl, rfl⟩ (.cons ⟨"x + z", rfl, rfl⟩ (.cons ⟨"2", rfl, rfl⟩ .nil))
    obtain ⟨-, hfails⟩ := scopeOf_lets hread (.hasTag ⟨6, 7⟩ "dc")
    obtain ⟨failure, hfailure, heval⟩ := hfails _ rfl
    exact ⟨_, _, _, failure, hread, rfl, hfailure, heval⟩

end CommandLine

end SeriesQuery
