/-
Evaluating an expression and compiling it as a filter agree. `Agrees` says
what compiling may come to, given what evaluating comes to; it is kept by
every node (`agrees`). Compiling builds the filters of `and`, `or`, `not`
and selectors itself and asks for the value of the other parts, so each case
follows either from the cases of the parts or from the value alone.
-/
import SeriesQuery.Expr.Filter
import SeriesQuery.Proofs.Filter.Truth
import SeriesQuery.Proofs.Result
import SeriesQuery.Proofs.Value.Operator
import SeriesQuery.Regex.Engine

namespace SeriesQuery.Expr

open SeriesQuery.Filter (truth)

/-- Where evaluating fails for want of a binding, what is compiled is not compilable; it never
fails for want of a binding itself. -/
def Follows {α : Type} (failure : Failure) : Except Failure α → Prop
  | .ok _ => failure.kind ≠ .unboundReference
  | .error failure' => failure'.kind ≠ .unboundReference ∧
      (failure.kind = .unboundReference → failure'.kind = .notCompilable)

theorem ne_unbound {failure : Failure} (h : failure.kind = .notCompilable) :
    failure.kind ≠ .unboundReference := by
  rw [h]
  nofun

/-- A fault that is no missing binding allows anything but a missing binding. -/
theorem follows_of_ne {α : Type} {compiled : Except Failure α} {failure : Failure}
    (hf : failure.kind ≠ .unboundReference)
    (hc : ∀ failure', compiled = .error failure' → failure'.kind ≠ .unboundReference) :
    Follows failure compiled := by
  cases compiled with
  | ok f => exact hf
  | error failure' => exact ⟨hc failure' rfl, fun h => absurd h hf⟩

theorem kind_unboundAsFilter (f : Failure) :
    (unboundAsFilter f).kind ≠ .unboundReference ∧
      (f.kind = .unboundReference → (unboundAsFilter f).kind = .notCompilable) := by
  obtain ⟨span, cause⟩ := f
  cases cause <;> simp [unboundAsFilter, Failure.kind, Cause.kind, Failure.notCompilable]

section Agreement

variable [PatternEngine]

/-- A selector compiles to its filter and a truth value to one that simplifies to it, if at all;
anything else is not compilable. -/
def Agrees : Except Failure Value → Except Failure Filter → Prop
  | .ok (.selector g), compiled => compiled = .ok g
  | .ok (.boolean b), .ok f => f.normalize = truth b
  | .ok _, .ok _ => False
  | .ok _, .error failure => failure.kind = .notCompilable
  | .error failure, compiled => Follows failure compiled

/-- The elements of a selector, evaluated and compiled. -/
def AgreesAll : Except Failure (List Filter) → Except Failure (List Filter) → Prop
  | .ok fs, compiled => compiled = .ok fs
  | .error failure, compiled => Follows failure compiled

variable {value : Except Failure Value} {compiled : Except Failure Filter}

/-- Compiling never fails for want of a binding. -/
theorem Agrees.bound (h : Agrees value compiled) {failure : Failure}
    (hf : compiled = .error failure) : failure.kind ≠ .unboundReference := by
  subst hf
  cases value with
  | error f => exact h.1
  | ok v => cases v <;> first | cases h | exact ne_unbound h

theorem AgreesAll.bound {fs compiled : Except Failure (List Filter)} (h : AgreesAll fs compiled)
    {failure : Failure} (hf : compiled = .error failure) : failure.kind ≠ .unboundReference := by
  subst hf
  cases fs with
  | error f => exact h.1
  | ok fs => cases h

theorem Agrees.unfit {v : Value} (h : Agrees (.ok v) compiled) {failure : Failure}
    (hf : compiled = .error failure) : failure.kind = .notCompilable := by
  subst hf
  cases v <;> first | cases h | exact h

/-- What is never a selector need not compile. -/
theorem agrees_error (hv : ∀ g, value ≠ .ok (.selector g)) {failure : Failure}
    (hf : failure.kind = .notCompilable) : Agrees value (.error failure) := by
  cases value with
  | error f => exact ⟨ne_unbound hf, fun _ => hf⟩
  | ok v =>
    cases v with
    | selector g => exact absurd rfl (hv g)
    | _ => exact hf

/-- What compiles through its value agrees with it. -/
theorem agrees_selectorIn (env : Env) (e : Expr) : Agrees (e.evalIn env) (selectorIn env e) := by
  unfold selectorIn valueIn
  cases e.evalIn env with
  | error f => exact kind_unboundAsFilter f
  | ok v =>
    cases v with
    | selector g => rfl
    | _ => exact rfl

/-! ## Nodes -/

theorem agrees_literal (env : Env) (span : Span) (v : Literal) :
    Agrees ((literal span v).evalIn env) ((literal span v).filterIn env) := by
  cases v with
  | boolean b => cases b <;> rfl
  | _ => exact rfl

/-- The filter of a logical operator. -/
def joined (op : BinaryOp) (f g : Filter) : Filter := if op = .or then .any [f, g] else .all [f, g]

theorem normalize_joined {op : BinaryOp} {f g : Filter} {a b : Bool} (hf : f.normalize = truth a)
    (hg : g.normalize = truth b) :
    (joined op f g).normalize = truth (if op = .or then a || b else a && b) := by
  unfold joined
  split
  · exact Filter.normalize_any_truth hf hg
  · exact Filter.normalize_all_truth hf hg

/-- A logical operator makes a selector of two selectors only. -/
theorem logical_eq_selector {op : BinaryOp} {a b : Value} {span : Span} {h : Filter}
    (heq : Value.logical op a b span = .ok (.selector h)) :
    ∃ f g, a = .selector f ∧ b = .selector g ∧ h = joined op f g := by
  unfold Value.logical at heq
  split at heq <;> cases heq
  exact ⟨_, _, rfl, rfl, rfl⟩

theorem agrees_joined {op : BinaryOp} {a b : Value} {f g : Filter} (ha : Agrees (.ok a) (.ok f))
    (hb : Agrees (.ok b) (.ok g)) (span : Span) :
    Agrees (Value.logical op a b span) (.ok (joined op f g)) := by
  cases a with
  | selector f' =>
    cases ha
    cases b with
    | selector g' => cases hb; rfl
    | boolean y => exact nofun
    | _ => exact hb.elim
  | boolean x =>
    cases b with
    | selector g' => exact nofun
    | boolean y => exact normalize_joined ha hb
    | _ => exact hb.elim
  | _ => exact ha.elim

theorem agrees_logical {op : BinaryOp} {x y : Except Failure Value} {c d : Except Failure Filter}
    (hx : Agrees x c) (hy : Agrees y d) (span : Span) :
    Agrees (do let a ← x; let b ← y; Value.logical op a b span)
      (do let f ← c; let g ← d; .ok (joined op f g)) := by
  cases x with
  | error failure =>
    cases c with
    | error failure' => exact hx
    | ok f =>
      cases d with
      | error failure' => exact ⟨hy.bound rfl, fun h => absurd h hx⟩
      | ok g => exact hx
  | ok a =>
    cases y with
    | error failure =>
      cases c with
      | error failure' =>
        have hkind : failure'.kind = .notCompilable := hx.unfit rfl
        exact ⟨ne_unbound hkind, fun _ => hkind⟩
      | ok f => cases d <;> exact hy
    | ok b =>
      simp only [ok_bind]
      cases c with
      | error failure' =>
        refine agrees_error (fun h heq => ?_) (hx.unfit rfl)
        obtain ⟨f, g, rfl, rfl, rfl⟩ := logical_eq_selector heq
        cases hx
      | ok f =>
        cases d with
        | error failure' =>
          refine agrees_error (fun h heq => ?_) (hy.unfit rfl)
          obtain ⟨f, g, rfl, rfl, rfl⟩ := logical_eq_selector heq
          cases hy
        | ok g => exact agrees_joined hx hy span

/-- An operator that is not logical compiles to nothing. -/
theorem agrees_binary {op : BinaryOp} (hand : op ≠ .and) (hor : op ≠ .or)
    (x y : Except Failure Value) (span : Span) :
    Agrees (do let a ← x; let b ← y; Value.binary op a b span)
      (.error (.notCompilable span (.binary op))) := by
  refine agrees_error (fun g heq => ?_) rfl
  obtain ⟨a, _, heq⟩ := bind_ok_iff.mp heq
  obtain ⟨b, _, heq⟩ := bind_ok_iff.mp heq
  have hplain := Value.computes_binary hand hor a b span
  rw [heq] at hplain
  cases hplain

theorem agrees_not {x : Except Failure Value} {c : Except Failure Filter} (hx : Agrees x c)
    (span : Span) :
    Agrees (do let v ← x; Value.unary .not v span)
      (do let f ← c; .ok (.not f)) := by
  cases x with
  | error failure => cases c <;> exact hx
  | ok v =>
    cases c with
    | error failure' =>
      refine agrees_error (fun g heq => ?_) (hx.unfit rfl)
      rw [ok_bind] at heq
      cases v with
      | selector f => cases hx
      | _ => cases heq
    | ok f =>
      cases v with
      | selector f' => cases hx; rfl
      | boolean b =>
        have h : (Filter.not f).normalize = truth !b := by
          rw [Filter.normalize_not_eq_truth, Bool.not_not]
          exact hx
        exact h
      | _ => exact hx.elim

theorem agrees_negate (x : Except Failure Value) (span : Span) :
    Agrees (do let v ← x; Value.unary .negate v span)
      (.error (.notCompilable span (.unary .negate))) := by
  refine agrees_error (fun g heq => ?_) rfl
  obtain ⟨v, _, heq⟩ := bind_ok_iff.mp heq
  have hplain := Value.computes_negate v span
  rw [heq] at hplain
  cases hplain

theorem agreesAll_cons {x : Except Failure Value} {c : Except Failure Filter}
    {xs cs : Except Failure (List Filter)} (hx : Agrees x c) (hxs : AgreesAll xs cs) (span : Span) :
    AgreesAll (do let v ← x; let f ← selectorElement span v; let fs ← xs; .ok (f :: fs))
      (do let f ← c; let fs ← cs; .ok (f :: fs)) := by
  have hbound : ∀ failure, (do let f ← c; let fs ← cs; .ok (f :: fs)) = .error failure →
      failure.kind ≠ .unboundReference := by
    intro failure heq
    cases c with
    | error failure' => cases heq; exact hx.bound rfl
    | ok f =>
      cases cs with
      | error failure' => cases heq; exact hxs.bound rfl
      | ok fs => cases heq
  cases x with
  | error failure =>
    cases c with
    | error failure' => exact hx
    | ok f => exact follows_of_ne hx hbound
  | ok v =>
    by_cases hv : ∃ g, v = .selector g
    · obtain ⟨g, rfl⟩ := hv
      cases hx
      cases xs with
      | error failure => cases cs <;> exact hxs
      | ok fs => cases hxs; rfl
    · have hfail : selectorElement span v = .error (.type span .selectorElement) := by
        cases v with
        | selector g => exact absurd ⟨g, rfl⟩ hv
        | _ => rfl
      rw [ok_bind, hfail]
      exact follows_of_ne nofun hbound

mutual

theorem agrees (env : Env) : (e : Expr) → Agrees (e.evalIn env) (e.filterIn env)
  | literal span v => agrees_literal env span v
  | reference span name => agrees_selectorIn env (reference span name)
  | list span items => by
    rw [evalIn, filterIn]
    refine agrees_error (fun g heq => ?_) rfl
    obtain ⟨vs, _, heq⟩ := bind_ok_iff.mp heq
    cases heq
  | binary span op opSpan l r => by
    have hl := agrees env l
    have hr := agrees env r
    cases op with
    | and => exact agrees_logical hl hr opSpan
    | or => exact agrees_logical hl hr opSpan
    | _ =>
      rw [evalIn, filterIn]
      · exact agrees_binary (by decide) (by decide) _ _ opSpan
      · decide
      · decide
  | unary span op opSpan e => by
    cases op with
    | not => exact agrees_not (agrees env e) opSpan
    | negate => exact agrees_negate _ opSpan
  | group _ e => agrees env e
  | call span name args => agrees_selectorIn env (call span name args)
  | letIn _ name value body => by
    rw [evalIn, filterIn, valueIn]
    cases value.evalIn env with
    | error failure => exact kind_unboundAsFilter failure
    | ok v => exact agrees (env.bind name v) body
  | tagFilter span tag op value => agrees_selectorIn env (tagFilter span tag op value)
  | hasTag _ tag => rfl
  | selector _ key filters => by
    have h := agreesAll env filters
    rw [evalIn, filterIn]
    cases hx : evalElementsIn env filters with
    | ok fs =>
      rw [hx] at h
      rw [show filtersIn env filters = .ok fs from h]
      rfl
    | error failure =>
      rw [hx] at h
      cases hc : filtersIn env filters <;> (rw [hc] at h; exact h)

theorem agreesAll (env : Env) : (es : List Expr) →
    AgreesAll (evalElementsIn env es) (filtersIn env es)
  | [] => rfl
  | e :: es => by
    rw [evalElementsIn, filtersIn]
    exact agreesAll_cons (agrees env e) (agreesAll env es) e.span

end

/-! ## Expressions in a scope -/

theorem filter_eq_error {scope : Scope} {e : Expr} {failure : Failure} :
    e.filter scope = .error failure ↔ e.filterIn scope.lookup = .error failure := by
  unfold filter
  cases e.filterIn scope.lookup <;> simp

/-- An expression compiles to the simplified filter of its value, or to a truth value if its value
is one; an expression of another value is not compilable, and a missing binding makes it so. -/
theorem filter_agrees_eval (scope : Scope) (e : Expr) :
    (∀ g, e.eval scope = .ok (.selector g) → e.filter scope = .ok g.normalize) ∧
    (∀ b f, e.eval scope = .ok (.boolean b) → e.filter scope = .ok f →
      f = if b then .always else .never) ∧
    (∀ v, e.eval scope = .ok v → v.kind ≠ .selector → v.kind ≠ .boolean →
      ∃ failure, e.filter scope = .error failure ∧ failure.kind = .notCompilable) ∧
    (∀ failure, e.eval scope = .error failure → failure.kind = .unboundReference →
      ∃ failure', e.filter scope = .error failure' ∧ failure'.kind = .notCompilable) ∧
    (∀ failure, e.filter scope = .error failure → failure.kind ≠ .unboundReference) := by
  have h : Agrees (e.eval scope) (e.filterIn scope.lookup) := agrees scope.lookup e
  refine ⟨fun g hg => ?_, fun b f hb hf => ?_, fun v hv hsel hbool => ?_, fun failure hf hkind => ?_,
    fun failure hf => h.bound (filter_eq_error.mp hf)⟩
  · rw [hg] at h
    rw [filter, show e.filterIn scope.lookup = .ok g from h]
    rfl
  · obtain ⟨f', hf', hnormal⟩ := bind_ok_iff.mp hf
    cases hnormal
    rw [hb, hf'] at h
    exact h
  · rw [hv] at h
    cases hc : e.filterIn scope.lookup with
    | error failure =>
      rw [hc] at h
      exact ⟨failure, filter_eq_error.mpr hc, h.unfit rfl⟩
    | ok f =>
      rw [hc] at h
      cases v with
      | selector g => exact absurd rfl hsel
      | boolean b => exact absurd rfl hbool
      | _ => exact h.elim
  · rw [hf] at h
    cases hc : e.filterIn scope.lookup with
    | error failure' =>
      rw [hc] at h
      exact ⟨failure', filter_eq_error.mpr hc, h.2 hkind⟩
    | ok f =>
      rw [hc] at h
      exact absurd hkind h

end Agreement

open scoped Regex

/-- `let x = !+a; x` compiles to the filter that `x` is bound to, and `x` alone does not compile. -/
theorem filter_agrees_eval_bound :
    let x : Expr := .reference ⟨13, 14⟩ "x"
    let e : Expr := .letIn ⟨0, 14⟩ "x" (.unary ⟨8, 11⟩ .not ⟨8, 9⟩ (.hasTag ⟨9, 11⟩ "a")) x
    e.filter Scope.empty = .ok (.not (.hasTag "a")) ∧
      ∃ failure, x.filter Scope.empty = .error failure ∧ failure.kind = .notCompilable := by
  intro x e
  have he : e.eval Scope.empty = .ok (.selector (.not (.hasTag "a"))) := rfl
  obtain ⟨missing, hmissing, hkind⟩ :
      ∃ failure, x.eval Scope.empty = .error failure ∧ failure.kind = .unboundReference :=
    ⟨_, rfl, rfl⟩
  exact ⟨(filter_agrees_eval Scope.empty e).1 _ he,
    (filter_agrees_eval Scope.empty x).2.2.2.1 missing hmissing hkind⟩

end SeriesQuery.Expr
