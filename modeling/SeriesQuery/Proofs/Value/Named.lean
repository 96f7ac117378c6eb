/-
Values with selectors whose tags queries can name. Operators and functions
make such values of such values: `has` asks for a name, and the others make
no tag names.
-/
import SeriesQuery.Builtin
import SeriesQuery.Proofs.Filter.Named
import SeriesQuery.Proofs.Value.Operator

namespace SeriesQuery

variable [PatternEngine]

namespace Value

mutual

/-- Every selector of the value has tags that can be named. -/
def Named : Value → Prop
  | list vs => AllNamed vs
  | selector f => f.Named
  | _ => True

def AllNamed : List Value → Prop
  | [] => True
  | v :: vs => Named v ∧ AllNamed vs

end

theorem named_of_isPlain {v : Value} (h : v.isPlain = true) : v.Named := by
  cases v <;> first | (cases h; done) | simp only [Named]

theorem named_of_computes {x : Except Failure Value} {v : Value} (h : Computes x) (hx : x = .ok v) :
    v.Named := by
  rw [hx] at h
  exact named_of_isPlain h

theorem named_logical {op : BinaryOp} {a b v : Value} {span : Span} (ha : a.Named) (hb : b.Named)
    (h : logical op a b span = .ok v) : v.Named := by
  unfold logical at h
  split at h
  · cases h
    simp only [Named]
  · cases h
    simp only [Named] at ha hb ⊢
    split <;> simp only [Filter.Named, Filter.AllNamed, ha, hb, and_self]
  · cases h

theorem named_binary {op : BinaryOp} {a b v : Value} {span : Span} (ha : a.Named) (hb : b.Named)
    (h : binary op a b span = .ok v) : v.Named := by
  cases op with
  | and => exact named_logical ha hb h
  | or => exact named_logical ha hb h
  | _ => exact named_of_computes (computes_binary (by decide) (by decide) a b span) h

theorem named_unary {op : UnaryOp} {a v : Value} {span : Span} (ha : a.Named)
    (h : unary op a span = .ok v) : v.Named := by
  cases op with
  | negate => exact named_of_computes (computes_negate a span) h
  | not =>
    cases a with
    | boolean b =>
      cases h
      simp only [Named]
    | selector f =>
      cases h
      simpa only [Named, Filter.Named] using ha
    | _ => cases h

end Value

namespace Builtin

open Value (Named AllNamed)

theorem named_pick {f : Builtin} {first : Ordering → Bool} {a b v : Value} (ha : a.Named)
    (hb : b.Named) (h : pick f first a b = .ok v) : v.Named := by
  unfold pick at h
  split at h
  · cases h
    split
    · exact ha
    · exact hb
  · cases h

theorem named_hasTag {a v : Value} (h : hasTag a = .ok v) : v.Named := by
  unfold hasTag at h
  split at h
  · split at h
    · rename_i hname
      cases h
      simpa only [Named, Filter.Named] using hname
    · cases h
  · cases h

theorem named_ofKey {a v : Value} (h : ofKey a = .ok v) : v.Named := by
  unfold ofKey at h
  split at h
  · cases h
    simp only [Named, Filter.Named]
  · cases h

theorem isPlain_absolute {a v : Value} (h : absolute a = .ok v) : v.isPlain = true := by
  unfold absolute at h
  split at h
  · split at h <;> cases h
    rfl
  · cases h
    rfl
  · split at h
    · split at h <;> cases h
      rfl
    · cases h
      rfl
  · cases h

theorem isPlain_length {a v : Value} (h : length a = .ok v) : v.isPlain = true := by
  unfold length at h
  split at h <;> cases h <;> rfl

theorem isPlain_toText (a : Value) : (toText a).isPlain = true := by
  unfold toText
  split <;> rfl

theorem isPlain_toInteger {a v : Value} (h : toInteger a = .ok v) : v.isPlain = true := by
  unfold toInteger at h
  split at h
  · cases h
    rfl
  · dsimp only at h
    split at h <;> cases h
    rfl
  · split at h <;> cases h
    rfl
  · cases h

theorem isPlain_toDouble {a v : Value} (h : toDouble a = .ok v) : v.isPlain = true := by
  unfold toDouble at h
  split at h
  · cases h
    rfl
  · cases h
    rfl
  · split at h <;> cases h
    rfl
  · cases h

theorem isPlain_total {f : Builtin} {divisor : Int64} {a v : Value}
    (h : total f divisor a = .ok v) : v.isPlain = true := by
  unfold total at h
  split at h
  · split at h <;> cases h
    rfl
  · cases h

/-- What a function gives has tags that can be named if its arguments do. -/
theorem named_apply {f : Builtin} {vs : List Value} {v : Value} (hvs : AllNamed vs)
    (h : f.apply vs = .ok v) : v.Named := by
  unfold apply at h
  split at h
  · exact Value.named_of_isPlain (isPlain_absolute h)
  · simp only [AllNamed] at hvs
    exact named_pick hvs.1 hvs.2.1 h
  · simp only [AllNamed] at hvs
    exact named_pick hvs.1 hvs.2.1 h
  · exact Value.named_of_isPlain (isPlain_length h)
  · cases h
    exact Value.named_of_isPlain (isPlain_toText _)
  · exact Value.named_of_isPlain (isPlain_toInteger h)
  · exact Value.named_of_isPlain (isPlain_toDouble h)
  · exact Value.named_of_isPlain (isPlain_total h)
  · exact Value.named_of_isPlain (isPlain_total h)
  · exact named_ofKey h
  · exact named_hasTag h
  · cases h

end Builtin

end SeriesQuery
