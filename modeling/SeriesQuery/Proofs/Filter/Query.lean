/-
The query text of a filter, read again. The text is that of a tree
(`text_expr`), which stands as it is printed if the tags are names
(`printable_expr`). The tree compiles to the filter with its junctions as
pairs (`compiles_expr`), in every scope, as no name in it is free.
-/
import Mathlib.Data.List.Forall2
import SeriesQuery.Proofs.Expr.Printable
import SeriesQuery.Proofs.Filter.Paired

namespace SeriesQuery

open SeriesQuery.Expr (nowhere joinWith Printable)

namespace Expr

theorem text_tagFilter (t : String) (op : TagOp) (v : String) :
    (tagFilter nowhere t op (literal nowhere (.string v))).text =
      t ++ (" " ++ op.symbol ++ " ") ++ quote v := by
  have hlevel : Level.comparison + 1 ≤ (literal nowhere (.string v)).level :=
    show Level.comparison + 1 ≤ Level.primary by decide
  rw [text, atLevel_of_le hlevel, text, Literal.text]
  simp only [String.append_assoc]

theorem bares_eq_singleton {e : Expr} {es : List Expr} (h : bares es = [e]) :
    ∃ e', es = [e'] ∧ e'.bare = e := by
  rcases es with _ | ⟨e', _ | _⟩
  · cases h
  · simp only [bares, List.cons.injEq, and_true] at h
    exact ⟨e', rfl, h⟩
  · simp only [bares, List.cons.injEq, reduceCtorEq, and_false] at h

end Expr

variable [PatternEngine]

namespace Junction

/-- The operator between the members. -/
def op : Junction → BinaryOp
  | conj => .and
  | disj => .or

/-- Whether a member stands in parentheses. -/
def encloses : Junction → Filter → Bool
  | conj => Filter.isAllOrAny
  | disj => Filter.isAny

/-- A member in parentheses if it needs them. -/
def enclosed (j : Junction) (f : Filter) (e : Expr) : Expr :=
  if j.encloses f then .group nowhere e else e

end Junction

namespace Filter

mutual

/-- The tree of the query text of a filter. -/
def expr : Filter → Expr
  | always => .literal nowhere (.boolean true)
  | never => .literal nowhere (.boolean false)
  | all [] => .literal nowhere (.boolean true)
  | any [] => .literal nowhere (.boolean false)
  | all (f :: fs) => joinWith .and (Junction.conj.enclosed f (expr f)) (exprs .conj fs)
  | any (f :: fs) => joinWith .or (Junction.disj.enclosed f (expr f)) (exprs .disj fs)
  | not f => .unary nowhere .not nowhere (.group nowhere (expr f))
  | key k => .call nowhere "key" [.literal nowhere (.string k)]
  | tag t v => .tagFilter nowhere t .equal (.literal nowhere (.string v))
  | hasTag t => .hasTag nowhere t
  | startsWith t v => .tagFilter nowhere t .startsWith (.literal nowhere (.string v))
  | matching t p => .tagFilter nowhere t .matching (.literal nowhere (.string p.text))

/-- The members of a junction. -/
def exprs (j : Junction) : List Filter → List Expr
  | [] => []
  | f :: fs => j.enclosed f (expr f) :: exprs j fs

end

/-- A filter as a member of a junction. -/
def memberExpr (j : Junction) (f : Filter) : Expr := j.enclosed f f.expr

def memberQuery (j : Junction) (f : Filter) : String := enclose (j.encloses f) f.query

theorem exprs_eq_map (j : Junction) (fs : List Filter) : exprs j fs = fs.map (memberExpr j) := by
  induction fs with
  | nil => rw [exprs, List.map_nil]
  | cons f fs ih => rw [exprs, List.map_cons, ih, memberExpr]

theorem queryAll_eq_map (fs : List Filter) : queryAll fs = fs.map (memberQuery .conj) := by
  induction fs with
  | nil => rw [queryAll, List.map_nil]
  | cons f fs ih => rw [queryAll, List.map_cons, ih]; rfl

theorem queryAny_eq_map (fs : List Filter) : queryAny fs = fs.map (memberQuery .disj) := by
  induction fs with
  | nil => rw [queryAny, List.map_nil]
  | cons f fs ih => rw [queryAny, List.map_cons, ih]; rfl

theorem expr_of_nil (j : Junction) : (j.of []).expr = .literal nowhere (.boolean !j.verdict) := by
  cases j <;> simp only [Junction.of, expr] <;> rfl

theorem expr_of_cons (j : Junction) (f : Filter) (fs : List Filter) :
    (j.of (f :: fs)).expr = joinWith j.op (memberExpr j f) (fs.map (memberExpr j)) := by
  cases j <;> simp only [Junction.of, expr, exprs_eq_map] <;> rfl

theorem query_of_nil (j : Junction) : (j.of []).query = if j.verdict then "false" else "true" := by
  cases j <;> simp only [Junction.of, query] <;> rfl

theorem query_of_cons (j : Junction) (f : Filter) (fs : List Filter) :
    (j.of (f :: fs)).query =
      String.intercalate (" " ++ j.op.symbol ++ " ") ((f :: fs).map (memberQuery j)) := by
  cases j <;> simp only [Junction.of, query, queryAll_eq_map, queryAny_eq_map] <;> rfl

/-! ## The tree is printable -/

/-- How tightly the tree of a filter holds together. -/
def floor (f : Filter) : Nat :=
  if f.isAny then Level.disjunction else if f.isAllOrAny then Level.conjunction else Level.comparison

theorem floor_pos (f : Filter) : Level.letBody ≤ f.floor := Nat.zero_le _

theorem floor_le {level : Nat} (h : Level.comparison ≤ level) (f : Filter) : f.floor ≤ level := by
  refine Nat.le_trans ?_ h
  unfold floor
  split
  · decide
  · split <;> decide

theorem floor_of (j : Junction) (fs : List Filter) : (j.of fs).floor = j.op.level := by
  cases j <;> rfl

/-- A member holds together more tightly than the junction. -/
theorem printable_member {j : Junction} {f : Filter} (h : Printable f.floor f.expr) :
    Printable (j.op.level + 1) (memberExpr j f) := by
  unfold memberExpr Junction.enclosed
  split
  · exact (h.mono f.floor_pos).group.mono (by cases j <;> decide)
  · rename_i hopen
    refine h.mono ?_
    unfold floor
    cases j with
    | conj =>
      change ¬ f.isAllOrAny = true at hopen
      have hany : ¬ f.isAny = true := fun hany => hopen (by cases f <;> first | rfl | cases hany)
      rw [if_neg hany, if_neg hopen]
      exact Nat.le_refl _
    | disj =>
      change ¬ f.isAny = true at hopen
      rw [if_neg hopen]
      split <;> decide

theorem printable_expr {f : Filter} (h : f.Named) : Printable f.floor f.expr := by
  induction f using induction_members with
  | step f ih =>
    obtain ⟨b, rfl⟩ | hatom | ⟨j, fs, rfl⟩ | ⟨g, rfl⟩ := exists_form f
    · cases b with
      | false =>
        rw [truth, if_neg Bool.false_ne_true, expr]
        exact (Expr.printable_boolean false).mono (floor_le (by decide) _)
      | true =>
        rw [truth, if_pos rfl, expr]
        exact (Expr.printable_boolean true).mono (floor_le (by decide) _)
    · cases f with
      | always | never | all | any | not => cases hatom
      | key k =>
        rw [expr]
        have harg : ∀ e ∈ [Expr.literal nowhere (.string k)], Printable Level.letBody e := by
          intro e he
          obtain rfl := List.mem_singleton.mp he
          exact (Expr.printable_string k).mono (Nat.zero_le _)
        exact ((Expr.printableAll harg).call (by decide)).mono (floor_le (by decide) _)
      | tag t v =>
        rw [Named] at h
        rw [expr]
        exact ((Expr.printable_string v).mono (by decide)).tagFilter h
      | hasTag t =>
        rw [Named] at h
        rw [expr]
        exact (Expr.printable_hasTag h).mono (floor_le (by decide) _)
      | startsWith t v =>
        rw [Named] at h
        rw [expr]
        exact ((Expr.printable_string v).mono (by decide)).tagFilter h
      | matching t p =>
        rw [Named] at h
        rw [expr]
        exact ((Expr.printable_string p.text).mono (by decide)).tagFilter h
    · rw [Junction.members_of] at ih
      rw [floor_of]
      cases fs with
      | nil =>
        rw [expr_of_nil]
        exact (Expr.printable_boolean _).mono (by cases j <;> decide)
      | cons f fs =>
        have hmember : ∀ g ∈ f :: fs, Printable (j.op.level + 1) (memberExpr j g) :=
          fun g hg => printable_member (ih g hg (named_of.mp h g hg))
        rw [expr_of_cons]
        refine Expr.Printable.joinWith ((hmember f List.mem_cons_self).mono (Nat.le_succ _)) ?_
        intro x hx
        obtain ⟨g, hg, rfl⟩ := List.mem_map.mp hx
        exact hmember g (List.mem_cons_of_mem f hg)
    · have hg : Printable g.floor g.expr := ih g (List.mem_singleton_self g) (named_not.mp h)
      rw [expr]
      exact ((hg.mono g.floor_pos).group.mono (by decide)).not.mono (floor_le (by decide) _)

/-! ## Its text is the query text -/

theorem text_member {j : Junction} {f : Filter} (h : f.expr.text = f.query) :
    (memberExpr j f).text = memberQuery j f := by
  unfold memberExpr memberQuery Junction.enclosed enclose
  split
  · rw [Expr.text, h]
  · exact h

theorem text_expr {f : Filter} (h : f.Named) : f.expr.text = f.query := by
  induction f using induction_members with
  | step f ih =>
    obtain ⟨b, rfl⟩ | hatom | ⟨j, fs, rfl⟩ | ⟨g, rfl⟩ := exists_form f
    · cases b with
      | false => rw [truth, if_neg Bool.false_ne_true, expr, query]; rfl
      | true => rw [truth, if_pos rfl, expr, query]; rfl
    · cases f with
      | always | never | all | any | not => cases hatom
      | key k =>
        rw [expr, query, Expr.text, Expr.texts, Expr.texts, Expr.text]
        rfl
      | tag t v => rw [expr, query, Expr.text_tagFilter]; rfl
      | hasTag t => rw [expr, query, Expr.text]
      | startsWith t v => rw [expr, query, Expr.text_tagFilter]; rfl
      | matching t p => rw [expr, query, Expr.text_tagFilter]; rfl
    · rw [Junction.members_of] at ih
      cases fs with
      | nil =>
        rw [expr_of_nil, query_of_nil]
        cases j <;> rfl
      | cons f fs =>
        have hnamed := named_of.mp h
        have hmember : ∀ g ∈ f :: fs, Printable (j.op.level + 1) (memberExpr j g) :=
          fun g hg => printable_member (printable_expr (hnamed g hg))
        have htexts : (f :: fs).map (Expr.text ∘ memberExpr j) = (f :: fs).map (memberQuery j) :=
          List.map_congr_left fun g hg => text_member (ih g hg (hnamed g hg))
        rw [expr_of_cons, query_of_cons, ← htexts, Expr.text_joinWith, List.map_map]
        · rfl
        · exact Nat.le_of_succ_le (hmember f List.mem_cons_self).le_level
        · intro x hx
          obtain ⟨g, hg, rfl⟩ := List.mem_map.mp hx
          exact (hmember g (List.mem_cons_of_mem f hg)).le_level
    · have hlevel : Level.unary ≤ (Expr.group nowhere g.expr).level :=
        show Level.unary ≤ Level.primary by decide
      rw [expr, query, Expr.text, Expr.atLevel_of_le hlevel, Expr.text,
        ih g (List.mem_singleton_self g) (named_not.mp h)]
      simp only [UnaryOp.symbol, ← String.append_assoc]
      rfl

end Filter

/-! ## It compiles to the pairs -/

namespace Expr

/-- Wherever the tree stands, it compiles to the filter in every scope. -/
def Compiles (e : Expr) (f : Filter) : Prop :=
  ∀ (env : Env) (e' : Expr), e'.bare = e → e'.filterIn env = .ok f

variable {e l r : Expr} {f g : Filter}

theorem compiles_boolean (b : Bool) :
    Compiles (literal nowhere (.boolean b)) (Filter.truth b) := by
  intro env e' h
  cases e' <;> cases h
  cases b <;> rfl

theorem Compiles.group (h : Compiles e f) : Compiles (group nowhere e) f := by
  intro env e' he
  cases e' with
  | group span inner =>
    simp only [bare, group.injEq] at he
    rw [filterIn]
    exact h env inner he.2
  | _ => cases he

theorem Compiles.not (h : Compiles e f) : Compiles (unary nowhere .not nowhere e) (.not f) := by
  intro env e' he
  cases e' with
  | unary span op opSpan inner =>
    simp only [bare, unary.injEq] at he
    obtain ⟨-, rfl, -, hinner⟩ := he
    rw [filterIn, h env inner hinner]
    rfl
  | _ => cases he

theorem Compiles.pair {j : Junction} (hl : Compiles l f) (hr : Compiles r g) :
    Compiles (binary nowhere j.op nowhere l r) (j.of [f, g]) := by
  intro env e' he
  cases e' with
  | binary span op opSpan l' r' =>
    simp only [bare, binary.injEq] at he
    obtain ⟨-, rfl, -, hl', hr'⟩ := he
    cases j <;> simp only [Junction.op, filterIn, hl env l' hl', hr env r' hr', ok_bind] <;> rfl
  | _ => cases he

theorem compiles_joinWith {j : Junction} {es : List Expr} {fs : List Filter} (h : Compiles e f)
    (hs : List.Forall₂ Compiles es fs) : Compiles (joinWith j.op e es) (j.pairs f fs) := by
  induction hs generalizing e f with
  | nil => exact h
  | cons hx _ ih => exact ih (h.pair hx)

theorem compiles_hasTag (t : String) : Compiles (hasTag nowhere t) (.hasTag t) := by
  intro env e' he
  cases e' <;> cases he
  rfl

/-- A tag filter compiles to what its operator makes of its text. -/
theorem compiles_tagFilter {t v : String} {op : TagOp}
    (h : ∀ span, tagSelector t op v span = .ok f) :
    Compiles (tagFilter nowhere t op (literal nowhere (.string v))) f := by
  intro env e' he
  cases e' with
  | tagFilter span tag op' value =>
    simp only [bare, tagFilter.injEq] at he
    obtain ⟨-, rfl, rfl, hvalue⟩ := he
    cases value <;> cases hvalue
    have hvalue (span' : Span) : evalIn env (tagFilter span tag op' (literal span' (.string v))) =
        .ok (.selector f) := by
      simp only [evalIn, literalValue, ok_bind, tagText, h]
    rw [filterIn, selectorIn, valueIn, hvalue]
    rfl
  | _ => cases he

theorem filtersIn_of_compiles (env : Env) {es : List Expr} {fs : List Filter}
    (h : List.Forall₂ Compiles es fs) {es' : List Expr} (hes : bares es' = es) :
    filtersIn env es' = .ok fs := by
  induction h generalizing es' with
  | nil =>
    cases es' with
    | nil => rfl
    | cons e' es' => cases hes
  | cons hx _ ih =>
    cases es' with
    | nil => cases hes
    | cons e' es' =>
      simp only [bares, List.cons.injEq] at hes
      simp only [filtersIn, hx env e' hes.1, ih hes.2, ok_bind]

/-- A selector compiles to the filter of its key and what its elements compile to. -/
theorem compiles_selector (key : Option String) {es : List Expr} {fs : List Filter}
    (h : List.Forall₂ Compiles es fs) : Compiles (selector nowhere key es) (selectorOf key fs) := by
  intro env e' he
  cases e' with
  | selector span key' filters =>
    simp only [bare, selector.injEq] at he
    obtain ⟨-, rfl, hfilters⟩ := he
    rw [filterIn, filtersIn_of_compiles env h hfilters]
    rfl
  | _ => cases he

theorem compiles_key (k : String) :
    Compiles (call nowhere "key" [literal nowhere (.string k)]) (.key k) := by
  intro env e' he
  cases e' with
  | call span name args =>
    simp only [bare, call.injEq] at he
    obtain ⟨-, rfl, hargs⟩ := he
    obtain ⟨arg, rfl, harg⟩ := bares_eq_singleton hargs
    cases arg <;> cases harg
    rfl
  | _ => cases he

end Expr

namespace Filter

open SeriesQuery.Expr (Compiles)

theorem compiles_member {j : Junction} {f : Filter} (h : Compiles f.expr f.paired) :
    Compiles (memberExpr j f) f.paired := by
  unfold memberExpr Junction.enclosed
  split
  · exact h.group
  · exact h

theorem compiles_expr (f : Filter) : Compiles f.expr f.paired := by
  induction f using induction_members with
  | step f ih =>
    obtain ⟨b, rfl⟩ | hatom | ⟨j, fs, rfl⟩ | ⟨g, rfl⟩ := exists_form f
    · rw [paired_truth]
      cases b with
      | false =>
        rw [truth, if_neg Bool.false_ne_true, expr]
        exact Expr.compiles_boolean false
      | true =>
        rw [truth, if_pos rfl, expr]
        exact Expr.compiles_boolean true
    · rw [paired_of_isAtom hatom]
      cases f with
      | always | never | all | any | not => cases hatom
      | key k =>
        rw [expr]
        exact Expr.compiles_key k
      | tag t v =>
        rw [expr]
        exact Expr.compiles_tagFilter fun _ => rfl
      | hasTag t =>
        rw [expr]
        exact Expr.compiles_hasTag t
      | startsWith t v =>
        rw [expr]
        exact Expr.compiles_tagFilter fun _ => rfl
      | matching t p =>
        rw [expr]
        refine Expr.compiles_tagFilter fun span => ?_
        rw [Expr.tagSelector, matching?_text]
        rfl
    · rw [Junction.members_of] at ih
      cases fs with
      | nil =>
        rw [expr_of_nil, paired_of_nil]
        exact Expr.compiles_boolean _
      | cons f fs =>
        have hmembers : List.Forall₂ Compiles (fs.map (memberExpr j)) (fs.map paired) := by
          rw [List.forall₂_map_left_iff, List.forall₂_map_right_iff, List.forall₂_same]
          exact fun g hg => compiles_member (ih g (List.mem_cons_of_mem f hg))
        rw [expr_of_cons, paired_of_cons]
        exact Expr.compiles_joinWith (compiles_member (ih f List.mem_cons_self)) hmembers
    · rw [expr, paired]
      exact (ih g (List.mem_singleton_self g)).group.not

end Filter

end SeriesQuery
