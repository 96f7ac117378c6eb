/-
Trees without their places. `bare` puts every node and every operator at the
start of the text, so two trees have equal bare forms when they differ only
in where they stand. The text of a tree does not depend on its places
(`text_bare`), and trees with one bare form have the same shape as soon as
their doubles are numbers (`sameShape_of_bare_eq`).
-/
import SeriesQuery.Expr.Text

namespace SeriesQuery

namespace Expr

/-- The place that bare trees have everywhere. -/
def nowhere : Span := .point 0

mutual

def bare : Expr → Expr
  | literal _ v => literal nowhere v
  | reference _ name => reference nowhere name
  | list _ items => list nowhere (bares items)
  | binary _ op _ l r => binary nowhere op nowhere (bare l) (bare r)
  | unary _ op _ a => unary nowhere op nowhere (bare a)
  | group _ a => group nowhere (bare a)
  | call _ f args => call nowhere f (bares args)
  | letIn _ name v b => letIn nowhere name (bare v) (bare b)
  | tagFilter _ t op v => tagFilter nowhere t op (bare v)
  | hasTag _ t => hasTag nowhere t
  | selector _ key filters => selector nowhere key (bares filters)

def bares : List Expr → List Expr
  | [] => []
  | e :: es => bare e :: bares es

end

theorem level_bare (e : Expr) : e.bare.level = e.level := by
  cases e <;> rfl

mutual

theorem text_bare : (e : Expr) → e.bare.text = e.text
  | literal _ _ => rfl
  | reference _ _ => rfl
  | list _ items => by simp only [bare, text, texts_bares items]
  | binary _ _ _ l r => by
    simp only [bare, text, level_bare, text_bare l, text_bare r]
  | unary _ _ _ a => by simp only [bare, text, level_bare, text_bare a]
  | group _ a => by simp only [bare, text, text_bare a]
  | call _ _ args => by simp only [bare, text, texts_bares args]
  | letIn _ _ v b => by simp only [bare, text, text_bare v, text_bare b]
  | tagFilter _ _ _ v => by simp only [bare, text, level_bare, text_bare v]
  | hasTag _ _ => rfl
  | selector _ _ filters => by simp only [bare, text, texts_bares filters]

theorem texts_bares : (es : List Expr) → texts (bares es) = texts es
  | [] => rfl
  | e :: es => by simp only [bares, texts, text_bare e, texts_bares es]

end

/-- Trees that differ only in their places are written alike. -/
theorem text_eq_of_bare_eq {a b : Expr} (h : a.bare = b.bare) : a.text = b.text := by
  rw [← text_bare a, h, text_bare b]

/-! ## Shapes -/

end Expr

/-- The double that a literal is, if it is one. -/
def Literal.doubles : Literal → List Float
  | double x => [x]
  | _ => []

theorem Literal.same_self : (v : Literal) → (∀ x ∈ v.doubles, (x == x) = true) →
    v.same v = true
  | integer n, _ => by simp [same]
  | double x, h => h x (by simp [doubles])
  | duration d, _ => by simp [same, Duration.same]
  | string s, _ => by simp [same]
  | regex p, _ => by simp [same]
  | boolean b, _ => by simp [same]

namespace Expr

mutual

/-- The doubles of a tree, from left to right. -/
def doubles : Expr → List Float
  | literal _ v => v.doubles
  | reference _ _ => []
  | list _ items => doublesOf items
  | binary _ _ _ l r => doubles l ++ doubles r
  | unary _ _ _ a => doubles a
  | group _ a => doubles a
  | call _ _ args => doublesOf args
  | letIn _ _ v b => doubles v ++ doubles b
  | tagFilter _ _ _ v => doubles v
  | hasTag _ _ => []
  | selector _ _ filters => doublesOf filters

def doublesOf : List Expr → List Float
  | [] => []
  | e :: es => doubles e ++ doublesOf es

end

mutual

theorem doubles_bare : (e : Expr) → e.bare.doubles = e.doubles
  | literal _ _ | reference _ _ | hasTag _ _ => rfl
  | list _ items => doubles_bares items
  | binary _ _ _ l r => by simp only [bare, doubles, doubles_bare l, doubles_bare r]
  | unary _ _ _ a => doubles_bare a
  | group _ a => doubles_bare a
  | call _ _ args => doubles_bares args
  | letIn _ _ v b => by simp only [bare, doubles, doubles_bare v, doubles_bare b]
  | tagFilter _ _ _ v => doubles_bare v
  | selector _ _ filters => doubles_bares filters

theorem doubles_bares : (es : List Expr) → doublesOf (bares es) = doublesOf es
  | [] => rfl
  | e :: es => by simp only [bares, doublesOf, doubles_bare e, doubles_bares es]

end

mutual

/-- Trees that differ only in their places have the same shape, unless a double of theirs differs
from itself. -/
theorem sameShape_of_bare_eq : (a b : Expr) → a.bare = b.bare →
    (∀ x ∈ a.doubles, (x == x) = true) → a.sameShape b = true
  | literal _ v, b, h, hx => by
    cases b <;> simp only [bare, reduceCtorEq, literal.injEq, true_and] at h
    subst h
    exact v.same_self hx
  | reference _ _, b, h, _ => by
    cases b <;> simp only [bare, reduceCtorEq, reference.injEq, true_and] at h
    subst h
    simp [sameShape]
  | list _ items, b, h, hx => by
    cases b <;> simp only [bare, reduceCtorEq, list.injEq, true_and] at h
    simp only [sameShape]
    exact sameShapes_of_bares_eq items _ h hx
  | binary _ _ _ l r, b, h, hx => by
    cases b <;> simp only [bare, reduceCtorEq, binary.injEq, true_and] at h
    obtain ⟨rfl, hl, hr⟩ := h
    simp only [doubles, List.mem_append] at hx
    simp [sameShape, sameShape_of_bare_eq l _ hl fun x h => hx x (.inl h),
      sameShape_of_bare_eq r _ hr fun x h => hx x (.inr h)]
  | unary _ _ _ a, b, h, hx => by
    cases b <;> simp only [bare, reduceCtorEq, unary.injEq, true_and] at h
    obtain ⟨rfl, ha⟩ := h
    simp [sameShape, sameShape_of_bare_eq a _ ha hx]
  | group _ a, b, h, hx => by
    cases b <;> simp only [bare, reduceCtorEq, group.injEq, true_and] at h
    simp only [sameShape]
    exact sameShape_of_bare_eq a _ h hx
  | call _ _ args, b, h, hx => by
    cases b <;> simp only [bare, reduceCtorEq, call.injEq, true_and] at h
    obtain ⟨rfl, ha⟩ := h
    simp [sameShape, sameShapes_of_bares_eq args _ ha hx]
  | letIn _ _ v e, b, h, hx => by
    cases b <;> simp only [bare, reduceCtorEq, letIn.injEq, true_and] at h
    obtain ⟨rfl, hv, he⟩ := h
    simp only [doubles, List.mem_append] at hx
    simp [sameShape, sameShape_of_bare_eq v _ hv fun x h => hx x (.inl h),
      sameShape_of_bare_eq e _ he fun x h => hx x (.inr h)]
  | tagFilter _ _ _ v, b, h, hx => by
    cases b <;> simp only [bare, reduceCtorEq, tagFilter.injEq, true_and] at h
    obtain ⟨rfl, rfl, hv⟩ := h
    simp [sameShape, sameShape_of_bare_eq v _ hv hx]
  | hasTag _ _, b, h, _ => by
    cases b <;> simp only [bare, reduceCtorEq, hasTag.injEq, true_and] at h
    subst h
    simp [sameShape]
  | selector _ _ filters, b, h, hx => by
    cases b <;> simp only [bare, reduceCtorEq, selector.injEq, true_and] at h
    obtain ⟨rfl, hf⟩ := h
    simp [sameShape, sameShapes_of_bares_eq filters _ hf hx]

theorem sameShapes_of_bares_eq : (as bs : List Expr) → bares as = bares bs →
    (∀ x ∈ doublesOf as, (x == x) = true) → sameShapes as bs = true
  | [], bs, h, _ => by
    cases bs <;> simp only [bares, reduceCtorEq] at h
    rfl
  | a :: as, bs, h, hx => by
    cases bs <;> simp only [bares, reduceCtorEq, List.cons.injEq] at h
    simp only [doublesOf, List.mem_append] at hx
    simp [sameShapes, sameShape_of_bare_eq a _ h.1 fun x h => hx x (.inl h),
      sameShapes_of_bares_eq as _ h.2 fun x h => hx x (.inr h)]

end

end Expr

end SeriesQuery
