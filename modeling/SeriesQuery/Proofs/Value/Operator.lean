/-
What operators give. Arithmetic and comparisons give plain values, neither
lists nor selectors, or fail for the kinds or the sizes of their operands;
only the logical operators make selectors of selectors.
-/
import SeriesQuery.Proofs.Value.Typing

namespace SeriesQuery

/-- Only `and` and `or` give selectors, and no operator gives lists. -/
theorem BinaryOp.result?_plain {op : BinaryOp} (hand : op ≠ .and) (hor : op ≠ .or)
    (a b : ValueKind) : op.result? a b ≠ some .list ∧ op.result? a b ≠ some .selector := by
  cases op with
  | and => exact absurd rfl hand
  | or => exact absurd rfl hor
  | _ => cases a <;> cases b <;> decide

namespace Value

variable [PatternEngine]

/-- Neither a list nor a selector. -/
def isPlain : Value → Bool
  | list _ => false
  | selector _ => false
  | _ => true

/-- A plain value, or a fault of the operands. -/
def Computes : Except Failure Value → Prop
  | .ok v => v.isPlain = true
  | .error f => f.kind = .type ∨ f.kind = .arithmetic

theorem isPlain_iff {v : Value} : v.isPlain = true ↔ v.kind ≠ .list ∧ v.kind ≠ .selector := by
  cases v <;> simp [isPlain, kind]

/-- An operator computes if the kinds of its operands make its result neither a list nor a
selector. -/
theorem Outcome.computes {span : Span} {zero : Prop} {kind : Option ValueKind}
    {x : Except Failure Value} (h : Outcome span zero kind x)
    (hkind : kind ≠ some .list ∧ kind ≠ some .selector) : Computes x := by
  cases h with
  | value _ hv =>
    refine isPlain_iff.mpr ⟨fun hlist => hkind.1 ?_, fun hselector => hkind.2 ?_⟩
    · rw [← hv, hlist]
    · rw [← hv, hselector]
  | overflow => exact .inr rfl
  | division => exact .inr rfl
  | mismatch => exact .inl rfl

/-- Operators other than `and` and `or` give plain values. -/
theorem computes_binary {op : BinaryOp} (hand : op ≠ .and) (hor : op ≠ .or) (a b : Value)
    (span : Span) : Computes (binary op a b span) :=
  (outcome_binary op a b span).computes (BinaryOp.result?_plain hand hor ..)

theorem computes_negate (v : Value) (span : Span) : Computes (unary .negate v span) := by
  refine (outcome_unary .negate v span).computes ?_
  cases v.kind <;> decide

end Value

end SeriesQuery
