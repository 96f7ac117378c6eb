/-
Failures point at source text. Evaluating and compiling a tree fail at the
place of one of its nodes or operators, as long as the names it uses fail
where they are used (`stands_evalIn`, `stands_filterIn`); in a scope of
values they do. The places of a parsed tree are within its text, and so are
those where parsing fails (`stands_parse`), with one exception: a text that is
too long is cut at the limit in bytes, which may be inside a character.
-/
import SeriesQuery.Expr.Request
import SeriesQuery.Proofs.Expr.Placed
import SeriesQuery.Proofs.Value.Place
import SeriesQuery.Regex.Engine

namespace SeriesQuery

namespace Expr

variable {α : Type} {P : Span → Prop}

theorem stands_mapError {ε : Type} (x : Except ε α) {f : ε → Failure} (h : ∀ e, P (f e).span) :
    Stands P (x.mapError f) fun _ => True := by
  cases x with
  | error e => exact h e
  | ok a => trivial

theorem stands_movable {f : Span → Except Failure α} (hf : Movable f) {span : Span} (h : P span) :
    Stands P (f span) fun _ => True := by
  obtain ⟨r, hr⟩ := hf
  rw [hr]
  exact stands_mapError r fun _ => h

theorem firstSpan_placed {span : Span} (h : P span) {es : List Expr} (hes : AllPlaced P es) :
    P (firstSpan span es) := by
  cases es with
  | nil => exact h
  | cons e es => exact (allPlaced_cons.mp hes).1.span

/-- A fault of a function is reported where the call or its first argument stands. -/
theorem fault_placed {call argument : Span} (hcall : P call) (hargument : P argument)
    (fault : Builtin.Fault) : P (fault.at call argument).span := by
  cases fault with
  | call cause => exact hcall
  | argument fault => exact hargument

theorem span_unboundAsFilter (f : Failure) : (unboundAsFilter f).span = f.span := by
  obtain ⟨span, cause⟩ := f
  cases cause <;> rfl

/-- The range from an offset to the end of a text covers text of it wherever the offset falls
between characters. -/
theorem within_toEnd {n : Nat} {source : String} (h : n ≤ source.utf8ByteSize) :
    Span.Within ⟨n, source.utf8ByteSize⟩ source.toList ↔ Boundary n source.toList := by
  constructor
  · exact fun hwithin => hwithin.start
  · intro hboundary
    refine ⟨h, hboundary, ?_⟩
    rw [← byteLength_toList]
    exact .length source.toList

end Expr

section Places

variable [PatternEngine]

/-- A name that fails does so where it is used. -/
def Env.FailsInPlace (env : Env) : Prop :=
  ∀ name span failure, env name span = .error failure → failure.span = span

theorem Env.FailsInPlace.bind {env : Env} (h : env.FailsInPlace) (name : String) (v : Value) :
    (env.bind name v).FailsInPlace := by
  intro n span failure hfailure
  unfold Env.bind at hfailure
  split at hfailure
  · cases hfailure
  · exact h n span failure hfailure

/-- A scope that binds names to values only. -/
def Scope.Evaluated (scope : Scope) : Prop := ∀ frame ∈ scope, ∀ b ∈ frame, ∃ v, b.2 = .value v

theorem Scope.Evaluated.outer {frame : Frame} {outer : Scope}
    (h : Scope.Evaluated (frame :: outer)) : Scope.Evaluated outer :=
  fun frame' hframe => h frame' (List.mem_cons_of_mem frame hframe)

theorem Scope.Evaluated.lookup_ne_deferred {frame : Frame} {outer : Scope}
    (h : Scope.Evaluated (frame :: outer)) (name : String) (e : Expr) :
    List.lookup name frame ≠ some (.deferred e) := by
  intro heq
  obtain ⟨before, after, rfl, -⟩ := List.lookup_eq_some_iff.mp heq
  obtain ⟨v, hv⟩ := h _ List.mem_cons_self (name, .deferred e) (by simp)
  cases hv

theorem Scope.Evaluated.failsInPlace : {scope : Scope} → scope.Evaluated →
    Env.FailsInPlace scope.lookup
  | [], _ => by
    intro name span failure hfailure
    cases hfailure
    rfl
  | frame :: outer, h => by
    intro name span failure hfailure
    have houter : Env.FailsInPlace (lookup outer) := failsInPlace h.outer
    rw [lookup] at hfailure
    split at hfailure
    · cases hfailure
    · rename_i e heq
      exact absurd heq (h.lookup_ne_deferred name e)
    · exact houter name span failure hfailure

namespace Expr

variable {P : Span → Prop} {env : Env}

/-! ## Values -/

theorem stands_env (henv : env.FailsInPlace) (name : String) {span : Span} (h : P span) :
    Stands P (env name span) fun _ => True := by
  cases hname : env name span with
  | error failure =>
    have hplace : P failure.span := by rwa [henv name span failure hname]
    exact hplace
  | ok v => trivial

theorem stands_tagText (op : TagOp) {span : Span} (h : P span) (v : Value) :
    Stands P (tagText op span v) fun _ => True := by
  cases v with
  | string s => exact True.intro
  | _ => exact h

theorem stands_tagSelector (tag : String) (op : TagOp) (text : String) {span : Span} (h : P span) :
    Stands P (tagSelector tag op text span) fun _ => True := by
  cases op with
  | equal | startsWith => exact True.intro
  | matching => exact stands_mapError _ fun _ => h

theorem stands_selectorElement {span : Span} (h : P span) (v : Value) :
    Stands P (selectorElement span v) fun _ => True := by
  cases v with
  | selector f => exact True.intro
  | _ => exact h

mutual

theorem stands_evalIn {env : Env} (henv : env.FailsInPlace) : (e : Expr) → e.Placed P →
    Stands P (e.evalIn env) fun _ => True
  | literal _ _, _ => trivial
  | reference _ name, h => stands_env henv name h.span
  | list _ items, h => by
    obtain ⟨_, hitems⟩ := placed_list.mp h
    exact (stands_evalAllIn henv items hitems).bind fun _ _ => trivial
  | binary _ op opSpan l r, h => by
    obtain ⟨_, hop, hl, hr⟩ := placed_binary.mp h
    exact (stands_evalIn henv l hl).bind fun _ _ => (stands_evalIn henv r hr).bind fun _ _ =>
      stands_movable (Value.movable_binary op _ _) hop
  | unary _ op opSpan e, h => by
    obtain ⟨_, hop, he⟩ := placed_unary.mp h
    exact (stands_evalIn henv e he).bind fun _ _ =>
      stands_movable (Value.movable_unary op _) hop
  | group _ e, h => stands_evalIn henv e (placed_group.mp h).2
  | call span name args, h => by
    obtain ⟨hspan, hargs⟩ := placed_call.mp h
    rw [evalIn]
    split
    · exact hspan
    · split
      · exact hspan
      · exact (stands_evalAllIn henv args hargs).bind fun _ _ => stands_mapError _
          (fault_placed hspan (firstSpan_placed hspan hargs))
  | letIn _ name value body, h => by
    obtain ⟨_, hvalue, hbody⟩ := placed_letIn.mp h
    exact (stands_evalIn henv value hvalue).bind fun v _ =>
      stands_evalIn (henv.bind name v) body hbody
  | tagFilter _ tag op value, h => by
    obtain ⟨_, hvalue⟩ := placed_tagFilter.mp h
    exact (stands_evalIn henv value hvalue).bind fun v _ =>
      (stands_tagText op hvalue.span v).bind fun text _ =>
      (stands_tagSelector tag op text hvalue.span).bind fun _ _ => trivial
  | hasTag _ _, _ => trivial
  | selector _ key filters, h => by
    obtain ⟨_, hfilters⟩ := placed_selector.mp h
    exact (stands_evalElementsIn henv filters hfilters).bind fun _ _ => trivial

theorem stands_evalAllIn {env : Env} (henv : env.FailsInPlace) : (es : List Expr) →
    AllPlaced P es → Stands P (evalAllIn env es) fun _ => True
  | [], _ => trivial
  | e :: es, h => by
    obtain ⟨he, hes⟩ := allPlaced_cons.mp h
    exact (stands_evalIn henv e he).bind fun _ _ => (stands_evalAllIn henv es hes).bind
      fun _ _ => trivial

theorem stands_evalElementsIn {env : Env} (henv : env.FailsInPlace) : (es : List Expr) →
    AllPlaced P es → Stands P (evalElementsIn env es) fun _ => True
  | [], _ => trivial
  | e :: es, h => by
    obtain ⟨he, hes⟩ := allPlaced_cons.mp h
    exact (stands_evalIn henv e he).bind fun v _ => (stands_selectorElement he.span v).bind
      fun _ _ => (stands_evalElementsIn henv es hes).bind fun _ _ => trivial

end

/-! ## Filters and requests -/

theorem stands_valueIn (henv : env.FailsInPlace) {e : Expr} (h : e.Placed P) :
    Stands P (valueIn env e) fun _ => True :=
  (stands_evalIn henv e h).mapError fun f hf => by rwa [span_unboundAsFilter]

theorem stands_selectorIn (henv : env.FailsInPlace) {e : Expr} (h : e.Placed P) :
    Stands P (selectorIn env e) fun _ => True := by
  refine (stands_valueIn henv h).bind fun v _ => ?_
  cases v with
  | selector f => exact True.intro
  | _ => exact h.span

mutual

theorem stands_filterIn {env : Env} (henv : env.FailsInPlace) : (e : Expr) → e.Placed P →
    Stands P (e.filterIn env) fun _ => True
  | literal span v, h => by
    unfold filterIn
    split
    · trivial
    · trivial
    · exact h.span
  | reference _ _, h => stands_selectorIn henv h
  | list _ _, h => h.span
  | binary _ op opSpan l r, h => by
    obtain ⟨_, hop, hl, hr⟩ := placed_binary.mp h
    cases op with
    | and | or =>
      exact (stands_filterIn henv l hl).bind fun _ _ => (stands_filterIn henv r hr).bind
        fun _ _ => trivial
    | _ => exact hop
  | unary _ op opSpan e, h => by
    obtain ⟨_, hop, he⟩ := placed_unary.mp h
    cases op with
    | not => exact (stands_filterIn henv e he).bind fun _ _ => trivial
    | negate => exact hop
  | group _ e, h => stands_filterIn henv e (placed_group.mp h).2
  | call _ _ _, h => stands_selectorIn henv h
  | letIn _ name value body, h => by
    obtain ⟨_, hvalue, hbody⟩ := placed_letIn.mp h
    exact (stands_valueIn henv hvalue).bind fun v _ => stands_filterIn (henv.bind name v) body hbody
  | tagFilter _ _ _ _, h => stands_selectorIn henv h
  | hasTag _ _, _ => trivial
  | selector _ key filters, h => by
    obtain ⟨_, hfilters⟩ := placed_selector.mp h
    exact (stands_filtersIn henv filters hfilters).bind fun _ _ => trivial

theorem stands_filtersIn {env : Env} (henv : env.FailsInPlace) : (es : List Expr) →
    AllPlaced P es → Stands P (filtersIn env es) fun _ => True
  | [], _ => trivial
  | e :: es, h => by
    obtain ⟨he, hes⟩ := allPlaced_cons.mp h
    exact (stands_filterIn henv e he).bind fun _ _ => (stands_filtersIn henv es hes).bind
      fun _ _ => trivial

end

theorem stands_filter {scope : Scope} (hscope : scope.Evaluated) {e : Expr} (h : e.Placed P) :
    Stands P (e.filter scope) fun _ => True :=
  (stands_filterIn hscope.failsInPlace e h).bind fun _ _ => trivial

theorem stands_request {scope : Scope} (hscope : scope.Evaluated) {e : Expr} (h : e.Placed P)
    (kind : RequestKind) (range : TimeRange) (limit : Option Nat) :
    Stands P (e.request scope kind range limit) fun _ => True := by
  cases kind with
  | write =>
    have hseries : Stands P (e.series scope) fun _ => True :=
      (stands_filter hscope h).bind fun _ _ => stands_mapError _ fun _ => h.span
    exact hseries.bind fun _ _ => trivial
  | _ => exact (stands_filter hscope h).bind fun _ _ => trivial

/-! ## Source text -/

/-- A text that is not too long is parsed within it, and fails within it. -/
theorem stands_parse {limits : Limits} {source : String}
    (h : source.utf8ByteSize ≤ limits.length) :
    Stands (Span.Within · source.toList) (parse limits source)
      (Placed (Span.Within · source.toList)) := by
  rw [parse_of_le h]
  exact stands_ofTokens (Span.closed_within source.toList) limits.nesting
    fun _ hitem => place_within hitem

/-- Every failure points into the source, whether to parse it or to evaluate it, or to compile it
as a request of any kind, in a scope of values. Only for a text longer than the limit this takes a
limit that falls between two of its characters. -/
theorem failure_points (limits : Limits) (source : String) :
    (∀ f, parse limits source = .error f → (f.span.PointsInto source ↔
      source.utf8ByteSize ≤ limits.length ∨ Boundary limits.length source.toList)) ∧
    ∀ e, parse limits source = .ok e → ∀ scope : Scope, scope.Evaluated →
      (∀ f, e.eval scope = .error f → f.span.PointsInto source) ∧
      ∀ kind range limit f, e.request scope kind range limit = .error f →
        f.span.PointsInto source := by
  constructor
  · intro f hf
    rw [Span.pointsInto_iff]
    rcases Nat.lt_or_ge limits.length source.utf8ByteSize with hlong | hshort
    · have hnot : ¬ source.utf8ByteSize ≤ limits.length := Nat.not_le_of_lt hlong
      rw [parse_of_lt hlong] at hf
      obtain rfl := Except.error.inj hf
      simp only [unexpected, within_toEnd (Nat.le_of_lt hlong), hnot, false_or]
    · exact iff_of_true ((stands_parse hshort).of_error hf) (.inl hshort)
  · intro e he scope hscope
    have hshort : source.utf8ByteSize ≤ limits.length := by
      refine Nat.le_of_not_lt fun hlong => ?_
      rw [parse_of_lt hlong] at he
      cases he
    have hplaced : e.Placed (Span.Within · source.toList) := (stands_parse hshort).of_ok he
    constructor
    · intro f hf
      exact Span.pointsInto_iff.mpr ((stands_evalIn hscope.failsInPlace e hplaced).of_error hf)
    · intro kind range limit f hf
      exact Span.pointsInto_iff.mpr ((stands_request hscope hplaced kind range limit).of_error hf)

end Expr

end Places

namespace Expr

open scoped Regex

/-- An open string where a tag name is wanted, and a product of a text. -/
theorem failure_points_text :
    (∃ f, parse ⟨16, 8⟩ "+\"é" = .error f ∧ f.span.PointsInto "+\"é") ∧
    ∃ e f g, parse ⟨16, 8⟩ "x * y" = .ok e ∧
      e.eval [[("x", .value (.integer 2))], [("y", .value (.string "é"))]] = .error f ∧
      f.span.PointsInto "x * y" ∧
      e.request [[("x", .value (.integer 2))], [("y", .value (.string "é"))]] .findKeys ⟨0, 9⟩
        none = .error g ∧ g.span.PointsInto "x * y" := by
  have hscope : Scope.Evaluated
      [[("x", .value (.integer 2))], [("y", .value (.string "é"))]] := by
    simp [Scope.Evaluated]
  have hopen : parse ⟨16, 8⟩ "+\"é" = .error ⟨⟨1, 4⟩, .lex .unterminatedString⟩ := rfl
  let e : Expr := .binary ⟨0, 5⟩ .mul ⟨2, 3⟩ (.reference ⟨0, 1⟩ "x") (.reference ⟨4, 5⟩ "y")
  have he : parse ⟨16, 8⟩ "x * y" = .ok e := rfl
  obtain ⟨hparse, -⟩ := failure_points ⟨16, 8⟩ "+\"é"
  obtain ⟨-, hlater⟩ := failure_points ⟨16, 8⟩ "x * y"
  obtain ⟨heval, hrequest⟩ := hlater e he _ hscope
  constructor
  · exact ⟨_, hopen, (hparse _ hopen).mpr (.inl (by decide))⟩
  · exact ⟨e, _, _, he, rfl, heval _ rfl, rfl, hrequest .findKeys ⟨0, 9⟩ none _ rfl⟩

/-- A limit inside a character: the failure starts there and has no text of the source. -/
theorem overlong_points_nowhere :
    ∃ f, parse ⟨2, 128⟩ "aé" = .error f ∧ f.span = ⟨2, 3⟩ ∧ f.span.slice "aé" = none ∧
      ¬ Boundary f.span.start "aé".toList ∧ ¬ f.span.PointsInto "aé" := by
  have hslice : Span.slice ⟨2, 3⟩ "aé" = none := by rfl
  have hnot : ¬ Span.PointsInto ⟨2, 3⟩ "aé" := by
    intro h
    have := h.slice
    rw [hslice] at this
    cases this
  refine ⟨_, rfl, rfl, hslice, ?_, hnot⟩
  intro hboundary
  exact hnot (Span.pointsInto_iff.mpr ((within_toEnd (by decide)).mpr hboundary))

end Expr

end SeriesQuery
