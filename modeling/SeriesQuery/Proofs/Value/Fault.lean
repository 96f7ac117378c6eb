/-
What operators and functions fail with. A fault of theirs is about the kinds,
the sizes or the number of their operands; what is behind a name plays no
part in it.
-/
import SeriesQuery.Builtin
import SeriesQuery.Proofs.Result
import SeriesQuery.Proofs.Value.Typing

namespace SeriesQuery

/-- The cause is the kinds, the sizes or the number of operands. -/
def Cause.OfOperands (c : Cause) : Prop :=
  c.kind = .type ∨ c.kind = .arithmetic ∨ c.kind = .arity

/-- If this fails, then for its operands. -/
abbrev FailsForOperands {α : Type} (x : Except Failure α) : Prop :=
  ComesTo x (fun f => f.cause.OfOperands) fun _ => True

namespace Value

variable [PatternEngine]

theorem Outcome.failsForOperands {span : Span} {zero : Prop} {kind : Option ValueKind}
    {x : Except Failure Value} (h : Outcome span zero kind x) : FailsForOperands x := by
  cases h with
  | value => trivial
  | overflow => exact .inr (.inl rfl)
  | division => exact .inr (.inl rfl)
  | mismatch => exact .inl rfl

theorem binary_failsForOperands (op : BinaryOp) (a b : Value) (span : Span) :
    FailsForOperands (binary op a b span) :=
  (outcome_binary op a b span).failsForOperands

theorem unary_failsForOperands (op : UnaryOp) (v : Value) (span : Span) :
    FailsForOperands (unary op v span) :=
  (outcome_unary op v span).failsForOperands

end Value

namespace Builtin

/-- The fault is about the arguments. -/
def Fault.OfArguments : Fault → Prop
  | .call cause => cause.OfOperands
  | .argument _ => True

theorem Fault.OfArguments.cause_at {fault : Fault} (h : fault.OfArguments) (call argument : Span) :
    (fault.at call argument).cause.OfOperands := by
  cases fault with
  | call cause => exact h
  | argument fault => exact .inl rfl

variable [PatternEngine]

/-- If this fails, then for its arguments. -/
abbrev FailsForArguments (x : Except Fault Value) : Prop :=
  ComesTo x Fault.OfArguments fun _ => True

theorem overflow_ofArguments : FailsForArguments overflow := .inr (.inl rfl)

theorem absolute_failsForArguments (v : Value) : FailsForArguments (absolute v) := by
  unfold absolute
  split
  · split
    · exact .inr (.inl rfl)
    · trivial
  · trivial
  · split
    · split
      · trivial
      · exact overflow_ofArguments
    · trivial
  · trivial

theorem length_failsForArguments (v : Value) : FailsForArguments (length v) := by
  unfold length
  split <;> trivial

theorem toInteger_failsForArguments (v : Value) : FailsForArguments (toInteger v) := by
  unfold toInteger
  split
  · trivial
  · dsimp only
    split
    · exact .inr (.inl rfl)
    · trivial
  · split <;> trivial
  · trivial

theorem toDouble_failsForArguments (v : Value) : FailsForArguments (toDouble v) := by
  unfold toDouble
  split
  · trivial
  · trivial
  · split <;> trivial
  · trivial

theorem total_failsForArguments (f : Builtin) (divisor : Int64) (v : Value) :
    FailsForArguments (total f divisor v) := by
  unfold total
  split
  · split
    · trivial
    · exact overflow_ofArguments
  · trivial

theorem ofKey_failsForArguments (v : Value) : FailsForArguments (ofKey v) := by
  unfold ofKey
  split <;> trivial

theorem hasTag_failsForArguments (v : Value) : FailsForArguments (hasTag v) := by
  unfold hasTag
  split
  · split <;> trivial
  · trivial

theorem pick_failsForArguments (f : Builtin) (first : Ordering → Bool) (a b : Value) :
    FailsForArguments (pick f first a b) := by
  unfold pick
  split
  · trivial
  · exact .inl rfl

theorem apply_failsForArguments (f : Builtin) (vs : List Value) :
    FailsForArguments (f.apply vs) := by
  unfold apply
  split
  · exact absolute_failsForArguments _
  · exact pick_failsForArguments ..
  · exact pick_failsForArguments ..
  · exact length_failsForArguments _
  · trivial
  · exact toInteger_failsForArguments _
  · exact toDouble_failsForArguments _
  · exact total_failsForArguments ..
  · exact total_failsForArguments ..
  · exact ofKey_failsForArguments _
  · exact hasTag_failsForArguments _
  · exact .inr (.inr rfl)

end Builtin

end SeriesQuery
