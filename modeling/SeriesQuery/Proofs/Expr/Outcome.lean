/-
What evaluating a tree does not depend on. Places only say where a failure
is reported, and parentheses change nothing, so a tree and its bare form
without parentheses come to the same outcome: the same value, or a failure
with the same cause (`outcome_evalIn`, `outcome_filterIn`).
-/
import SeriesQuery.Expr.Filter
import SeriesQuery.Proofs.Expr.Bare
import SeriesQuery.Proofs.Result
import SeriesQuery.Proofs.Value.Place

namespace SeriesQuery

variable {α β : Type}

/-- A result without the place of its failure. -/
def outcome (x : Except Failure α) : Except Cause α := x.mapError Failure.cause

/-- Steps with the same outcomes, one after the other, have the same outcome. -/
theorem outcome_bind_congr {x y : Except Failure α} {f g : α → Except Failure β}
    (hx : outcome x = outcome y) (h : ∀ a, outcome (f a) = outcome (g a)) :
    outcome (x >>= f) = outcome (y >>= g) := by
  cases x with
  | error e =>
    cases y with
    | error e' => exact congrArg Except.error (Except.error.inj hx)
    | ok b => cases hx
  | ok a =>
    cases y with
    | error e' => cases hx
    | ok b =>
      cases hx
      exact h a

theorem outcome_mapError_congr {ε : Type} {place place' : ε → Failure} (x : Except ε α)
    (h : ∀ fault, (place fault).cause = (place' fault).cause) :
    outcome (x.mapError place) = outcome (x.mapError place') := by
  cases x with
  | ok a => rfl
  | error fault => exact congrArg Except.error (h fault)

/-- Where a result is had makes no difference to its outcome. -/
theorem Movable.outcome_eq {f : Span → Except Failure α} (h : Movable f) (span span' : Span) :
    outcome (f span) = outcome (f span') := by
  obtain ⟨r, hr⟩ := h
  rw [hr, hr]
  exact outcome_mapError_congr r fun _ => rfl

/-- Equal values, or failures of one kind with one message. -/
def SameResult : Except Failure α → Except Failure α → Prop
  | .ok a, .ok b => a = b
  | .error f, .error g => f.kind = g.kind ∧ f.message = g.message
  | _, _ => False

theorem SameResult.of_outcome {x y : Except Failure α} (h : outcome x = outcome y) :
    SameResult x y := by
  cases x with
  | ok a =>
    cases y with
    | ok b =>
      cases h
      rfl
    | error g => cases h
  | error f =>
    cases y with
    | ok b => cases h
    | error g =>
      have hcause : f.cause = g.cause := Except.error.inj h
      exact ⟨congrArg Cause.kind hcause, congrArg Cause.message hcause⟩

section Env

variable [PatternEngine]

/-- What a name stands for does not depend on where it is used. -/
def Env.Placeless (env : Env) : Prop :=
  ∀ name span span', outcome (env name span) = outcome (env name span')

theorem Env.Placeless.bind {env : Env} (h : env.Placeless) (name : String) (v : Value) :
    (env.bind name v).Placeless := by
  intro n span span'
  unfold Env.bind
  split
  · rfl
  · exact h n span span'

theorem Scope.placeless_lookup : (scope : Scope) → Env.Placeless scope.lookup
  | [] => fun _ _ _ => rfl
  | frame :: outer => by
    intro name span span'
    rw [lookup, lookup]
    split
    · rfl
    · rfl
    · exact placeless_lookup outer name span span'

end Env

namespace Expr

/-! ## Parentheses -/

mutual

/-- The tree with what stands in parentheses in place of the parentheses. -/
def ungrouped : Expr → Expr
  | literal s v => literal s v
  | reference s name => reference s name
  | list s items => list s (ungroupedAll items)
  | binary s op opSpan l r => binary s op opSpan (ungrouped l) (ungrouped r)
  | unary s op opSpan a => unary s op opSpan (ungrouped a)
  | group _ a => ungrouped a
  | call s f args => call s f (ungroupedAll args)
  | letIn s name v b => letIn s name (ungrouped v) (ungrouped b)
  | tagFilter s t op v => tagFilter s t op (ungrouped v)
  | hasTag s t => hasTag s t
  | selector s key filters => selector s key (ungroupedAll filters)

def ungroupedAll : List Expr → List Expr
  | [] => []
  | e :: es => ungrouped e :: ungroupedAll es

end

mutual

theorem ungrouped_bare : (e : Expr) → e.bare.ungrouped = e.ungrouped.bare
  | literal _ _ | reference _ _ | hasTag _ _ => rfl
  | list _ items => by simp only [bare, ungrouped, ungroupedAll_bares items]
  | binary _ _ _ l r => by simp only [bare, ungrouped, ungrouped_bare l, ungrouped_bare r]
  | unary _ _ _ a => by simp only [bare, ungrouped, ungrouped_bare a]
  | group _ a => by simp only [bare, ungrouped, ungrouped_bare a]
  | call _ _ args => by simp only [bare, ungrouped, ungroupedAll_bares args]
  | letIn _ _ v b => by simp only [bare, ungrouped, ungrouped_bare v, ungrouped_bare b]
  | tagFilter _ _ _ v => by simp only [bare, ungrouped, ungrouped_bare v]
  | selector _ _ filters => by simp only [bare, ungrouped, ungroupedAll_bares filters]

theorem ungroupedAll_bares : (es : List Expr) → ungroupedAll (bares es) = bares (ungroupedAll es)
  | [] => rfl
  | e :: es => by simp only [bares, ungroupedAll, ungrouped_bare e, ungroupedAll_bares es]

end

/-- Trees that differ only in their places do so without their parentheses. -/
theorem ungrouped_bare_eq {a b : Expr} (h : a.bare = b.bare) :
    a.ungrouped.bare = b.ungrouped.bare := by
  rw [← ungrouped_bare, h, ungrouped_bare]

theorem length_bares (es : List Expr) : (bares es).length = es.length := by
  induction es with
  | nil => rfl
  | cons e es ih => rw [bares, List.length_cons, ih, List.length_cons]

theorem length_ungroupedAll (es : List Expr) : (ungroupedAll es).length = es.length := by
  induction es with
  | nil => rfl
  | cons e es ih => rw [ungroupedAll, List.length_cons, ih, List.length_cons]

theorem cause_at (call call' argument argument' : Span) (fault : Builtin.Fault) :
    (fault.at call argument).cause = (fault.at call' argument').cause := by
  cases fault <;> rfl

theorem cause_unboundAsFilter {f g : Failure} (h : f.cause = g.cause) :
    (unboundAsFilter f).cause = (unboundAsFilter g).cause := by
  obtain ⟨span, cause⟩ := f
  obtain ⟨span', cause'⟩ := g
  obtain rfl : cause = cause' := h
  cases cause <;> rfl

/-! ## Evaluation -/

variable [PatternEngine]

theorem outcome_tagText (op : TagOp) (span span' : Span) (v : Value) :
    outcome (tagText op span v) = outcome (tagText op span' v) := by
  cases v <;> rfl

theorem outcome_tagSelector (tag : String) (op : TagOp) (text : String) (span span' : Span) :
    outcome (tagSelector tag op text span) = outcome (tagSelector tag op text span') := by
  cases op with
  | matching => exact outcome_mapError_congr _ fun _ => rfl
  | _ => rfl

theorem outcome_selectorElement (span span' : Span) (v : Value) :
    outcome (selectorElement span v) = outcome (selectorElement span' v) := by
  cases v <;> rfl

mutual

/-- Neither places nor parentheses change what a tree evaluates to. -/
theorem outcome_evalIn {env : Env} (h : env.Placeless) : (e : Expr) →
    outcome (e.ungrouped.bare.evalIn env) = outcome (e.evalIn env)
  | literal _ _ => rfl
  | reference span name => h name nowhere span
  | list _ items => by
    simp only [ungrouped, bare, evalIn]
    exact outcome_bind_congr (outcome_evalAllIn h items) fun _ => rfl
  | binary _ op _ l r => by
    simp only [ungrouped, bare, evalIn]
    refine outcome_bind_congr (outcome_evalIn h l) fun a => ?_
    refine outcome_bind_congr (outcome_evalIn h r) fun b => ?_
    exact (Value.movable_binary op a b).outcome_eq _ _
  | unary _ op _ a => by
    simp only [ungrouped, bare, evalIn]
    refine outcome_bind_congr (outcome_evalIn h a) fun v => ?_
    exact (Value.movable_unary op v).outcome_eq _ _
  | group _ a => by
    rw [ungrouped, evalIn]
    exact outcome_evalIn h a
  | call _ name args => by
    simp only [ungrouped, bare, evalIn, length_bares, length_ungroupedAll]
    split
    · rfl
    · split
      · rfl
      · refine outcome_bind_congr (outcome_evalAllIn h args) fun vs => ?_
        exact outcome_mapError_congr _ (cause_at _ _ _ _)
  | letIn _ name value body => by
    simp only [ungrouped, bare, evalIn]
    exact outcome_bind_congr (outcome_evalIn h value) fun v => outcome_evalIn (h.bind name v) body
  | tagFilter _ tag op value => by
    simp only [ungrouped, bare, evalIn]
    refine outcome_bind_congr (outcome_evalIn h value) fun v => ?_
    refine outcome_bind_congr (outcome_tagText op _ _ v) fun text => ?_
    exact outcome_bind_congr (outcome_tagSelector tag op text _ _) fun _ => rfl
  | hasTag _ _ => rfl
  | selector _ key filters => by
    simp only [ungrouped, bare, evalIn]
    exact outcome_bind_congr (outcome_evalElementsIn h filters) fun _ => rfl

theorem outcome_evalAllIn {env : Env} (h : env.Placeless) : (es : List Expr) →
    outcome (evalAllIn env (bares (ungroupedAll es))) = outcome (evalAllIn env es)
  | [] => rfl
  | e :: es => by
    simp only [ungroupedAll, bares, evalAllIn]
    refine outcome_bind_congr (outcome_evalIn h e) fun v => ?_
    exact outcome_bind_congr (outcome_evalAllIn h es) fun _ => rfl

theorem outcome_evalElementsIn {env : Env} (h : env.Placeless) : (es : List Expr) →
    outcome (evalElementsIn env (bares (ungroupedAll es))) = outcome (evalElementsIn env es)
  | [] => rfl
  | e :: es => by
    simp only [ungroupedAll, bares, evalElementsIn]
    refine outcome_bind_congr (outcome_evalIn h e) fun v => ?_
    refine outcome_bind_congr (outcome_selectorElement _ _ v) fun f => ?_
    exact outcome_bind_congr (outcome_evalElementsIn h es) fun _ => rfl

end

/-! ## Filters -/

theorem outcome_valueIn {env : Env} (h : env.Placeless) (e : Expr) :
    outcome (valueIn env e.ungrouped.bare) = outcome (valueIn env e) := by
  have heval := outcome_evalIn h e
  unfold valueIn
  cases hx : e.ungrouped.bare.evalIn env <;> cases hy : e.evalIn env <;> rw [hx, hy] at heval
  · exact congrArg Except.error (cause_unboundAsFilter (Except.error.inj heval))
  · cases heval
  · cases heval
  · exact heval

theorem outcome_selectorIn {env : Env} (h : env.Placeless) (e : Expr) :
    outcome (selectorIn env e.ungrouped.bare) = outcome (selectorIn env e) := by
  unfold selectorIn
  refine outcome_bind_congr (outcome_valueIn h e) fun v => ?_
  cases v <;> rfl

mutual

/-- Neither places nor parentheses change what filter a tree describes. -/
theorem outcome_filterIn {env : Env} (h : env.Placeless) : (e : Expr) →
    outcome (e.ungrouped.bare.filterIn env) = outcome (e.filterIn env)
  | literal _ v => by
    cases v with
    | boolean b => cases b <;> rfl
    | _ => rfl
  | reference span name => outcome_selectorIn h (reference span name)
  | list _ _ => rfl
  | binary _ op _ l r => by
    have hboth (join : Filter → Filter → Filter) :
        outcome (do let f ← filterIn env l.ungrouped.bare; let g ← filterIn env r.ungrouped.bare
                    .ok (join f g)) =
          outcome (do let f ← filterIn env l; let g ← filterIn env r; .ok (join f g)) := by
      refine outcome_bind_congr (outcome_filterIn h l) fun f => ?_
      exact outcome_bind_congr (outcome_filterIn h r) fun _ => rfl
    cases op with
    | and => exact hboth fun f g => .all [f, g]
    | or => exact hboth fun f g => .any [f, g]
    | _ => rfl
  | unary _ op _ a => by
    cases op with
    | not => exact outcome_bind_congr (outcome_filterIn h a) fun _ => rfl
    | negate => rfl
  | group _ a => by
    rw [ungrouped, filterIn]
    exact outcome_filterIn h a
  | call span name args => outcome_selectorIn h (call span name args)
  | letIn _ name value body => by
    simp only [ungrouped, bare, filterIn]
    exact outcome_bind_congr (outcome_valueIn h value) fun v => outcome_filterIn (h.bind name v) body
  | tagFilter span tag op value => outcome_selectorIn h (tagFilter span tag op value)
  | hasTag _ _ => rfl
  | selector _ key filters => by
    simp only [ungrouped, bare, filterIn]
    exact outcome_bind_congr (outcome_filtersIn h filters) fun _ => rfl

theorem outcome_filtersIn {env : Env} (h : env.Placeless) : (es : List Expr) →
    outcome (filtersIn env (bares (ungroupedAll es))) = outcome (filtersIn env es)
  | [] => rfl
  | e :: es => by
    simp only [ungroupedAll, bares, filtersIn]
    refine outcome_bind_congr (outcome_filterIn h e) fun f => ?_
    exact outcome_bind_congr (outcome_filtersIn h es) fun _ => rfl

end

/-! ## Trees that differ in places and parentheses -/

variable {a b : Expr}

theorem sameResult_eval (h : a.ungrouped.bare = b.ungrouped.bare) (scope : Scope) :
    SameResult (a.eval scope) (b.eval scope) := by
  refine .of_outcome ?_
  rw [eval, ← outcome_evalIn scope.placeless_lookup a, h, outcome_evalIn scope.placeless_lookup b,
    eval]

theorem sameResult_filter (h : a.ungrouped.bare = b.ungrouped.bare) (scope : Scope) :
    SameResult (a.filter scope) (b.filter scope) := by
  refine .of_outcome (outcome_bind_congr ?_ fun _ => rfl)
  rw [← outcome_filterIn scope.placeless_lookup a, h, outcome_filterIn scope.placeless_lookup b]

end Expr

end SeriesQuery
