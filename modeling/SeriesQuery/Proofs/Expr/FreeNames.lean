/-
The free names of a tree are the names it uses. What a tree comes to depends
on what its free names stand for and on nothing else of a scope
(`eval_eq_of_lookup_eq`). And it comes to something only where they all are
bound: `Needs` says of a computation that it succeeds only if certain names
are known, and that where the first of them is missed, that one is reported.
It is kept by every step, the names needed in the order of the steps, and
these are the free names from left to right (`freeNames_exact`).
-/
import SeriesQuery.Expr.FreeNames
import SeriesQuery.Proofs.Expr.Diagnosis
import SeriesQuery.Proofs.Value.Fault
import SeriesQuery.Regex.Engine

namespace SeriesQuery

namespace Expr

/-! ## Names under binders -/

/-- The free names of some trees, from left to right. -/
def freeNamesAll (es : List Expr) : List (String × Span) := freeNamesIn [] es

mutual

/-- Below a binder, the free names are those that it does not bind. -/
theorem freeNamesBelow_eq : (e : Expr) → (bound : List String) →
    freeNamesBelow bound e = e.freeNames.filter fun p => !bound.contains p.1
  | literal _ _, _ | hasTag _ _, _ => rfl
  | reference s name, bound => by
    cases h : bound.contains name <;>
      simp only [freeNames, freeNamesBelow, List.contains_nil, List.filter, h, Bool.not_false,
        Bool.not_true, Bool.false_eq_true, if_false, if_true]
  | list _ items, bound => freeNamesIn_eq items bound
  | binary _ _ _ l r, bound => by
    simp only [freeNames, freeNamesBelow, List.filter_append]
    rw [freeNamesBelow_eq l bound, freeNamesBelow_eq r bound, freeNames, freeNames]
  | unary _ _ _ a, bound => freeNamesBelow_eq a bound
  | group _ a, bound => freeNamesBelow_eq a bound
  | call _ _ args, bound => freeNamesIn_eq args bound
  | letIn _ name v b, bound => by
    simp only [freeNames, freeNamesBelow, List.filter_append]
    rw [freeNamesBelow_eq v bound, freeNamesBelow_eq b (name :: bound), freeNamesBelow_eq b [name],
      List.filter_filter, freeNames]
    simp only [List.contains_cons, List.contains_nil, Bool.or_false, Bool.not_or, Bool.and_comm]
  | tagFilter _ _ _ v, bound => freeNamesBelow_eq v bound
  | selector _ _ filters, bound => freeNamesIn_eq filters bound

theorem freeNamesIn_eq : (es : List Expr) → (bound : List String) →
    freeNamesIn bound es = (freeNamesAll es).filter fun p => !bound.contains p.1
  | [], _ => rfl
  | e :: es, bound => by
    simp only [freeNamesAll, freeNamesIn, List.filter_append]
    rw [freeNamesBelow_eq e bound, freeNamesIn_eq es bound, freeNames, freeNamesAll]

end

/-- Names other than the one. -/
def without (name : String) (names : List (String × Span)) : List (String × Span) :=
  names.filter fun p => p.1 != name

theorem freeNames_letIn (s : Span) (name : String) (v b : Expr) :
    (letIn s name v b).freeNames = v.freeNames ++ without name b.freeNames := by
  rw [freeNames, freeNamesBelow, freeNamesBelow_eq b [name]]
  simp only [List.contains_cons, List.contains_nil, Bool.or_false]
  rfl

end Expr

/-! ## Scopes that agree -/

section Agreement

variable [PatternEngine]

/-- Both give the names the same meaning, wherever they are used. -/
def Env.AgreeOn (names : List (String × Span)) (env env' : Env) : Prop :=
  ∀ p ∈ names, ∀ span, env p.1 span = env' p.1 span

namespace Env.AgreeOn

variable {names names' : List (String × Span)} {env env' : Env}

theorem append :
    AgreeOn (names ++ names') env env' ↔ AgreeOn names env env' ∧ AgreeOn names' env env' :=
  List.forall_mem_append

theorem bind {name : String} (h : AgreeOn (Expr.without name names) env env') (v : Value) :
    AgreeOn names (env.bind name v) (env'.bind name v) := by
  intro p hp span
  unfold Env.bind
  split
  · rfl
  · rename_i hne
    exact h p (List.mem_filter.mpr ⟨hp, bne_iff_ne.mpr hne⟩) span

end Env.AgreeOn

namespace Expr

variable {env env' : Env}

mutual

theorem evalIn_congr {env env' : Env} : (e : Expr) → Env.AgreeOn e.freeNames env env' →
    e.evalIn env = e.evalIn env'
  | literal _ _, _ | hasTag _ _, _ => rfl
  | reference span name, h => h (name, span) (List.mem_singleton_self _) span
  | list _ items, h => by
    rw [evalIn, evalIn, evalAllIn_congr items h]
  | binary _ _ _ l r, h => by
    obtain ⟨hl, hr⟩ := Env.AgreeOn.append.mp h
    rw [evalIn, evalIn, evalIn_congr l hl, evalIn_congr r hr]
  | unary _ _ _ e, h => by
    rw [evalIn, evalIn, evalIn_congr e h]
  | group _ e, h => evalIn_congr e h
  | call _ _ args, h => by
    rw [evalIn, evalIn, evalAllIn_congr args h]
  | letIn s name value body, h => by
    rw [freeNames_letIn] at h
    obtain ⟨hvalue, hbody⟩ := Env.AgreeOn.append.mp h
    rw [evalIn, evalIn, evalIn_congr value hvalue]
    exact congrArg _ (funext fun v => evalIn_congr body (hbody.bind v))
  | tagFilter _ _ _ value, h => by
    rw [evalIn, evalIn, evalIn_congr value h]
  | selector _ _ filters, h => by
    rw [evalIn, evalIn, evalElementsIn_congr filters h]

theorem evalAllIn_congr {env env' : Env} : (es : List Expr) →
    Env.AgreeOn (freeNamesAll es) env env' → evalAllIn env es = evalAllIn env' es
  | [], _ => rfl
  | e :: es, h => by
    obtain ⟨he, hes⟩ := Env.AgreeOn.append.mp h
    rw [evalAllIn, evalAllIn, evalIn_congr e he, evalAllIn_congr es hes]

theorem evalElementsIn_congr {env env' : Env} : (es : List Expr) →
    Env.AgreeOn (freeNamesAll es) env env' → evalElementsIn env es = evalElementsIn env' es
  | [], _ => rfl
  | e :: es, h => by
    obtain ⟨he, hes⟩ := Env.AgreeOn.append.mp h
    rw [evalElementsIn, evalElementsIn, evalIn_congr e he, evalElementsIn_congr es hes]

end

theorem valueIn_congr {e : Expr} (h : Env.AgreeOn e.freeNames env env') :
    valueIn env e = valueIn env' e := by
  rw [valueIn, valueIn, evalIn_congr e h]

theorem selectorIn_congr {e : Expr} (h : Env.AgreeOn e.freeNames env env') :
    selectorIn env e = selectorIn env' e := by
  rw [selectorIn, selectorIn, valueIn_congr h]

mutual

theorem filterIn_congr {env env' : Env} : (e : Expr) → Env.AgreeOn e.freeNames env env' →
    e.filterIn env = e.filterIn env'
  | literal _ _, _ | hasTag _ _, _ | list _ _, _ => rfl
  | reference _ _, h => selectorIn_congr h
  | binary _ op _ l r, h => by
    obtain ⟨hl, hr⟩ := Env.AgreeOn.append.mp h
    have hleft := filterIn_congr l hl
    have hright := filterIn_congr r hr
    cases op with
    | and | or => rw [filterIn, filterIn, hleft, hright]
    | _ => rfl
  | unary _ op _ e, h => by
    have hoperand := filterIn_congr e h
    cases op with
    | not => rw [filterIn, filterIn, hoperand]
    | negate => rfl
  | group _ e, h => filterIn_congr e h
  | call _ _ _, h => selectorIn_congr h
  | letIn s name value body, h => by
    rw [freeNames_letIn] at h
    obtain ⟨hvalue, hbody⟩ := Env.AgreeOn.append.mp h
    rw [filterIn, filterIn, valueIn_congr hvalue]
    exact congrArg _ (funext fun v => filterIn_congr body (hbody.bind v))
  | tagFilter _ _ _ _, h => selectorIn_congr h
  | selector _ _ filters, h => by
    rw [filterIn, filterIn, filtersIn_congr filters h]

theorem filtersIn_congr {env env' : Env} : (es : List Expr) →
    Env.AgreeOn (freeNamesAll es) env env' → filtersIn env es = filtersIn env' es
  | [], _ => rfl
  | e :: es, h => by
    obtain ⟨he, hes⟩ := Env.AgreeOn.append.mp h
    rw [filtersIn, filtersIn, filterIn_congr e he, filtersIn_congr es hes]

end

/-- Scopes in which the free names of a tree stand for the same give it the same value, or the same
failure, and make the same filter of it, or the same failure. -/
theorem eval_eq_of_lookup_eq {scope scope' : Scope} {e : Expr}
    (h : ∀ p ∈ e.freeNames, ∀ span, scope.lookup p.1 span = scope'.lookup p.1 span) :
    e.eval scope = e.eval scope' ∧ e.filter scope = e.filter scope' := by
  have hagree : Env.AgreeOn e.freeNames scope.lookup scope'.lookup := h
  constructor
  · exact evalIn_congr e hagree
  · rw [filter, filter, filterIn_congr e hagree]

end Expr

end Agreement

section Example

open scoped Regex

/-- `let x = x; x * y` where `y` is written in terms of `x` in a frame inside that of `x`, and where
both are values of one frame. -/
theorem Expr.eval_eq_of_lookup_eq_reshaped :
    let e : Expr := .letIn ⟨0, 16⟩ "x" (.reference ⟨8, 9⟩ "x")
      (.binary ⟨11, 16⟩ .mul ⟨13, 14⟩ (.reference ⟨11, 12⟩ "x") (.reference ⟨15, 16⟩ "y"))
    let nested : Scope :=
      [[("y", .deferred (.reference ⟨0, 1⟩ "x"))], [("x", .value (.integer 3))]]
    let flat : Scope := [[("x", .value (.integer 3)), ("y", .value (.integer 3))]]
    parse ⟨16, 9⟩ "let x = x; x * y" = .ok e ∧
      (∀ p ∈ e.freeNames, ∀ span, nested.lookup p.1 span = flat.lookup p.1 span) ∧
      e.eval nested = e.eval flat ∧ e.filter nested = e.filter flat ∧
      e.eval flat = .ok (.integer 9) := by
  intro e nested flat
  have hagree : ∀ p ∈ e.freeNames, ∀ span, nested.lookup p.1 span = flat.lookup p.1 span := by
    intro p hp span
    have hfree : e.freeNames = [("x", ⟨8, 9⟩), ("y", ⟨15, 16⟩)] := rfl
    rw [hfree, List.mem_cons, List.mem_singleton] at hp
    obtain rfl | rfl := hp <;> rfl
  obtain ⟨heval, hfilter⟩ := eval_eq_of_lookup_eq hagree
  exact ⟨rfl, hagree, heval, hfilter, rfl⟩

end Example

/-! ## Names without a binding -/

/-- The name that this fails for want of a binding of, and where it is used. -/
def Failure.missing? (f : Failure) : Option (String × Span) :=
  match f.cause with
  | .unboundReference name => some (name, f.span)
  | .notCompilable (.unbound name) => some (name, f.span)
  | _ => none

theorem Failure.missing?_of_ofOperands {f : Failure} (h : f.cause.OfOperands) :
    f.missing? = none := by
  obtain ⟨span, cause⟩ := f
  cases cause with
  | unboundReference name => simp [Cause.OfOperands, Cause.kind] at h
  | notCompilable fault => simp [Cause.OfOperands, Cause.kind] at h
  | _ => rfl

theorem Failure.missing?_unboundAsFilter (f : Failure) :
    (Expr.unboundAsFilter f).missing? = f.missing? := by
  obtain ⟨span, cause⟩ := f
  cases cause <;> rfl

/-- The first of the names that is not known. -/
def firstUnknown (known : String → Bool) (names : List (String × Span)) : Option (String × Span) :=
  names.find? fun p => !known p.1

theorem firstUnknown_singleton (known : String → Bool) (name : String) (span : Span) :
    firstUnknown known [(name, span)] = if known name then none else some (name, span) := by
  cases h : known name <;> simp [firstUnknown, h]

theorem firstUnknown_without (known : String → Bool) (name : String)
    (names : List (String × Span)) :
    firstUnknown known (Expr.without name names) =
      firstUnknown (fun n => n == name || known n) names := by
  simp only [firstUnknown, Expr.without, List.find?_filter, Bool.not_or, bne, Bool.decide_and,
    Bool.decide_eq_true]

/-- This succeeds only where all of the names are known. Where names stand for values directly, and
it fails for want of a binding, it is the first name that is not known which has none. -/
def Needs {α : Type} (direct : Prop) (known : String → Bool) (names : List (String × Span))
    (x : Except Failure α) : Prop :=
  ComesTo x (fun f => direct → ∀ p, f.missing? = some p → firstUnknown known names = some p)
    fun _ => firstUnknown known names = none

section Steps

variable {α β : Type} {direct : Prop} {known : String → Bool} {names names' : List (String × Span)}

theorem Needs.bind {x : Except Failure α} {f : α → Except Failure β}
    (hx : Needs direct known names x) (hf : ∀ a, Needs direct known names' (f a)) :
    Needs direct known (names ++ names') (x >>= f) := by
  cases x with
  | error failure =>
    intro hdirect p hp
    rw [firstUnknown, List.find?_append]
    exact congrArg (Option.or · _) (hx hdirect p hp)
  | ok a =>
    have hknown : firstUnknown known (names ++ names') = firstUnknown known names' := by
      rw [firstUnknown, List.find?_append]
      exact congrArg (Option.or · _) hx
    unfold Needs
    rw [hknown]
    exact hf a

/-- Steps that need no names can follow. -/
theorem Needs.andThen {x : Except Failure α} {f : α → Except Failure β}
    (hx : Needs direct known names x) (hf : ∀ a, Needs direct known [] (f a)) :
    Needs direct known names (x >>= f) := by
  have h := hx.bind hf
  rwa [List.append_nil] at h

theorem needs_ok (a : α) : Needs direct known [] (.ok a) := rfl

theorem needs_error {f : Failure} (h : f.missing? = none) :
    Needs direct known names (.error f : Except Failure α) := by
  intro _ p hp
  rw [h] at hp
  cases hp

theorem needs_of_failsForOperands {x : Except Failure α} (hx : FailsForOperands x) :
    Needs direct known [] x := by
  cases x with
  | error f => exact needs_error (Failure.missing?_of_ofOperands hx)
  | ok a => exact needs_ok a

theorem Needs.unboundAsFilter {x : Except Failure α} (h : Needs direct known names x) :
    Needs direct known names (x.mapError Expr.unboundAsFilter) :=
  ComesTo.mapError h fun f hf => by rwa [Failure.missing?_unboundAsFilter]

/-- The body of a binder needs its free names but for the one that is bound. -/
theorem Needs.body {name : String} {x : Except Failure α}
    (h : Needs direct (fun n => n == name || known n) names x) :
    Needs direct known (Expr.without name names) x := by
  unfold Needs
  rw [firstUnknown_without]
  exact h

end Steps

section Names

variable [PatternEngine] {direct : Prop} {known : String → Bool}

/-- What each name stands for needs that name to be known. -/
def Env.Needs (direct : Prop) (known : String → Bool) (env : Env) : Prop :=
  ∀ name span, SeriesQuery.Needs direct known [(name, span)] (env name span)

theorem Env.Needs.bind {env : Env} (henv : env.Needs direct known) (name : String) (v : Value) :
    (env.bind name v).Needs direct fun n => n == name || known n := by
  intro n span
  by_cases hn : n = name
  · have hknown : firstUnknown (fun n => n == name || known n) [(n, span)] = none := by
      simp [firstUnknown_singleton, hn]
    rw [Env.bind, if_pos hn]
    exact hknown
  · have hknown : firstUnknown (fun n => n == name || known n) [(n, span)] =
        firstUnknown known [(n, span)] := by simp [firstUnknown_singleton, hn]
    rw [Env.bind, if_neg hn]
    unfold SeriesQuery.Needs
    rw [hknown]
    exact henv n span

namespace Expr

variable {env : Env}

theorem needs_tagText (op : TagOp) (span : Span) (v : Value) :
    Needs direct known [] (tagText op span v) := by
  cases v with
  | string s => exact needs_ok s
  | _ => exact needs_error rfl

theorem needs_tagSelector (tag : String) (op : TagOp) (text : String) (span : Span) :
    Needs direct known [] (tagSelector tag op text span) := by
  cases op with
  | equal | startsWith => exact needs_ok _
  | matching =>
    rw [tagSelector]
    cases Filter.matching? tag text with
    | ok f => exact needs_ok f
    | error reason => exact needs_error rfl

theorem needs_selectorElement (span : Span) (v : Value) :
    Needs direct known [] (selectorElement span v) := by
  cases v with
  | selector f => exact needs_ok f
  | _ => exact needs_error rfl

mutual

/-- Evaluating a tree needs its free names. -/
theorem needs_evalIn {known : String → Bool} {env : Env} (henv : env.Needs direct known) :
    (e : Expr) → Needs direct known e.freeNames (e.evalIn env)
  | literal _ v => needs_ok _
  | reference span name => henv name span
  | list _ items => (needs_evalAllIn henv items).andThen fun _ => needs_ok _
  | binary _ op opSpan l r =>
    (needs_evalIn henv l).bind fun a => (needs_evalIn henv r).andThen fun b =>
      needs_of_failsForOperands (Value.binary_failsForOperands op a b opSpan)
  | unary _ op opSpan e =>
    (needs_evalIn henv e).andThen fun v =>
      needs_of_failsForOperands (Value.unary_failsForOperands op v opSpan)
  | group _ e => needs_evalIn henv e
  | call span name args => by
    rw [evalIn]
    split
    · exact needs_error rfl
    · rename_i f _
      split
      · exact needs_error rfl
      · exact (needs_evalAllIn henv args).andThen fun vs =>
          needs_of_failsForOperands <|
            (f.apply_failsForArguments vs).mapError fun _ h => h.cause_at ..
  | letIn _ name value body => by
    rw [freeNames_letIn]
    exact (needs_evalIn henv value).bind fun v => (needs_evalIn (henv.bind name v) body).body
  | tagFilter _ tag op value =>
    (needs_evalIn henv value).andThen fun v => (needs_tagText op _ v).andThen fun text =>
      (needs_tagSelector tag op text _).andThen fun _ => needs_ok _
  | hasTag _ tag => needs_ok _
  | selector _ key filters => (needs_evalElementsIn henv filters).andThen fun _ => needs_ok _

theorem needs_evalAllIn {known : String → Bool} {env : Env} (henv : env.Needs direct known) :
    (es : List Expr) → Needs direct known (freeNamesAll es) (evalAllIn env es)
  | [] => needs_ok _
  | e :: es =>
    (needs_evalIn henv e).bind fun _ => (needs_evalAllIn henv es).andThen fun _ => needs_ok _

theorem needs_evalElementsIn {known : String → Bool} {env : Env} (henv : env.Needs direct known) :
    (es : List Expr) → Needs direct known (freeNamesAll es) (evalElementsIn env es)
  | [] => needs_ok _
  | e :: es =>
    (needs_evalIn henv e).bind fun v => (needs_selectorElement e.span v).bind fun _ =>
      (needs_evalElementsIn henv es).andThen fun _ => needs_ok _

end

theorem needs_selectorIn (henv : env.Needs direct known) (e : Expr) :
    Needs direct known e.freeNames (selectorIn env e) := by
  refine (needs_evalIn henv e).unboundAsFilter.andThen fun v => ?_
  cases v with
  | selector f => exact needs_ok f
  | _ => exact needs_error rfl

mutual

/-- Compiling a tree to a filter needs its free names. -/
theorem needs_filterIn {known : String → Bool} {env : Env} (henv : env.Needs direct known) :
    (e : Expr) → Needs direct known e.freeNames (e.filterIn env)
  | literal span v => by
    unfold filterIn
    split
    · exact needs_ok _
    · exact needs_ok _
    · exact needs_error rfl
  | reference span name => needs_selectorIn henv (reference span name)
  | list _ _ => needs_error rfl
  | binary _ op opSpan l r => by
    have hl := needs_filterIn henv l
    have hr := needs_filterIn henv r
    cases op with
    | and | or => exact hl.bind fun _ => hr.andThen fun _ => needs_ok _
    | _ => exact needs_error rfl
  | unary _ op opSpan e => by
    have he := needs_filterIn henv e
    cases op with
    | not => exact he.andThen fun _ => needs_ok _
    | negate => exact needs_error rfl
  | group _ e => needs_filterIn henv e
  | call span name args => needs_selectorIn henv (call span name args)
  | letIn _ name value body => by
    rw [freeNames_letIn]
    exact (needs_evalIn henv value).unboundAsFilter.bind fun v =>
      (needs_filterIn (henv.bind name v) body).body
  | tagFilter span tag op value => needs_selectorIn henv (tagFilter span tag op value)
  | hasTag _ tag => needs_ok _
  | selector _ key filters => (needs_filtersIn henv filters).andThen fun _ => needs_ok _

theorem needs_filtersIn {known : String → Bool} {env : Env} (henv : env.Needs direct known) :
    (es : List Expr) → Needs direct known (freeNamesAll es) (filtersIn env es)
  | [] => needs_ok _
  | e :: es =>
    (needs_filterIn henv e).bind fun _ => (needs_filtersIn henv es).andThen fun _ => needs_ok _

end

end Expr

namespace Scope

theorem contains_cons_of_lookup {frame : Frame} {name : String} {b : Binding}
    (h : List.lookup name frame = some b) (outer : Scope) :
    contains (frame :: outer) name = true := by
  rw [contains, binding?, h]
  rfl

theorem contains_cons_of_not_lookup {frame : Frame} {name : String}
    (h : List.lookup name frame = none) (outer : Scope) :
    contains (frame :: outer) name = contains outer name := by
  rw [contains, binding?, h, Option.none_or, contains]

/-- A name that stands for something in a scope is bound there; where only values are bound, it is
for want of a binding that a name stands for nothing. -/
theorem needs_lookup : (scope : Scope) → Env.Needs scope.Evaluated scope.contains scope.lookup
  | [] => by
    intro name span _ p hp
    exact hp
  | frame :: outer => by
    intro name span
    have houter := needs_lookup outer name span
    rw [lookup]
    cases hframe : List.lookup name frame with
    | none =>
      unfold Needs at houter ⊢
      rw [firstUnknown_singleton, contains_cons_of_not_lookup hframe, ← firstUnknown_singleton]
      cases hx : lookup outer name span with
      | error f =>
        rw [hx] at houter
        exact fun hscope => houter hscope.outer
      | ok v =>
        rw [hx] at houter
        exact houter
    | some b =>
      have hknown : firstUnknown (contains (frame :: outer)) [(name, span)] = none := by
        rw [firstUnknown_singleton, contains_cons_of_lookup hframe, if_pos rfl]
      cases b with
      | value v => exact hknown
      | deferred e =>
        dsimp only
        cases e.evalIn (lookup outer) with
        | error f => exact fun hscope => absurd hframe (hscope.lookup_ne_deferred name e)
        | ok v => exact hknown

end Scope

namespace Expr

variable {scope : Scope} {e : Expr}

theorem contains_of_firstUnknown (h : firstUnknown scope.contains e.freeNames = none) :
    ∀ p ∈ e.freeNames, scope.contains p.1 = true := by
  intro p hp
  simpa using List.find?_eq_none.mp h p hp

/-- A tree evaluates or compiles only where all its free names are bound. If it does not for want
of a binding, in a scope of values, then the name at fault is the first of them without one. -/
theorem freeNames_exact (scope : Scope) (e : Expr) :
    (((∃ v, e.eval scope = .ok v) ∨ ∃ f, e.filter scope = .ok f) →
      ∀ p ∈ e.freeNames, scope.contains p.1 = true) ∧
    (scope.Evaluated → ∀ span name,
      e.eval scope = .error ⟨span, .unboundReference name⟩ ∨
        e.filter scope = .error (.notCompilable span (.unbound name)) →
      e.freeNames.find? (fun p => !scope.contains p.1) = some (name, span)) := by
  have heval : Needs scope.Evaluated scope.contains e.freeNames (e.eval scope) :=
    needs_evalIn scope.needs_lookup e
  have hfilter : Needs scope.Evaluated scope.contains e.freeNames (e.filter scope) :=
    (needs_filterIn scope.needs_lookup e).andThen fun _ => needs_ok _
  constructor
  · rintro (⟨v, hv⟩ | ⟨f, hf⟩)
    · exact contains_of_firstUnknown (heval.of_ok hv)
    · exact contains_of_firstUnknown (hfilter.of_ok hf)
  · rintro hscope span name (h | h)
    · exact heval.of_error h hscope _ rfl
    · exact hfilter.of_error h hscope _ rfl

end Expr

end Names

namespace Expr

open scoped Regex

/-- `let x = x; x * y` evaluates where `x` and `y` are bound; with `x` alone, `y` is missed. -/
theorem freeNames_exact_shadowed :
    let e : Expr := .letIn ⟨0, 16⟩ "x" (.reference ⟨8, 9⟩ "x")
      (.binary ⟨11, 16⟩ .mul ⟨13, 14⟩ (.reference ⟨11, 12⟩ "x") (.reference ⟨15, 16⟩ "y"))
    let both : Scope :=
      [[("y", .deferred (.reference ⟨0, 1⟩ "x"))], [("x", .value (.integer 3))]]
    let one : Scope := [[("x", .value (.integer 3))]]
    parse ⟨16, 9⟩ "let x = x; x * y" = .ok e ∧
      (∃ v, e.eval both = .ok v) ∧ (∀ p ∈ e.freeNames, both.contains p.1 = true) ∧
      one.Evaluated ∧ e.eval one = .error ⟨⟨15, 16⟩, .unboundReference "y"⟩ ∧
      e.freeNames.find? (fun p => !one.contains p.1) = some ("y", ⟨15, 16⟩) := by
  intro e both one
  have hboth : ∃ v, e.eval both = .ok v := ⟨.integer 9, rfl⟩
  have hone : one.Evaluated := by simp [one, Scope.Evaluated]
  have hmissing : e.eval one = .error ⟨⟨15, 16⟩, .unboundReference "y"⟩ := rfl
  obtain ⟨hbound, -⟩ := freeNames_exact both e
  obtain ⟨-, hfirst⟩ := freeNames_exact one e
  exact ⟨rfl, hboth, hbound (.inl hboth), hone, hmissing, hfirst hone _ _ (.inl hmissing)⟩

end Expr

end SeriesQuery
