/-
The nesting limit. A result that is not the limit's own failure stays the
same under every greater limit (`Extends`), and a limit above the number of
tokens is never reached (`Avoids`). Both are kept by each step of the
parser, so that only the two places where the budget is used up matter.
-/
import SeriesQuery.Proofs.Expr.Sound

namespace SeriesQuery

namespace Expr

variable {α β : Type} {most most' : Nat}

/-- The result is that the limit was reached. -/
def TooDeep (most : Nat) (x : Except Failure α) : Prop := ∃ span, x = .error (tooDeep most span)

theorem TooDeep.bind {x : Except Failure α} (h : TooDeep most x) (f : α → Except Failure β) :
    TooDeep most (x >>= f) := by
  obtain ⟨span, rfl⟩ := h
  exact ⟨span, rfl⟩

/-! ## Greater limits -/

/-- The second result is the first unless the first is that the limit was reached. -/
def Extends (most : Nat) (x y : Except Failure α) : Prop := TooDeep most x ∨ x = y

theorem Extends.refl (x : Except Failure α) : Extends most x x := .inr rfl

theorem Extends.bind {x y : Except Failure α} {f g : α → Except Failure β} (h : Extends most x y)
    (hfg : ∀ a, Extends most (f a) (g a)) : Extends most (x >>= f) (y >>= g) := by
  obtain h | rfl := h
  · exact .inl (h.bind f)
  · cases x with
    | error e => exact .refl _
    | ok a => exact hfg a

def Operand.Extends (most : Nat) (operand operand' : Operand) : Prop :=
  ∀ least c, Expr.Extends most (operand least c) (operand' least c)

variable {operand operand' : Operand}

theorem items_extends (h : operand.Extends most operand') (close : Symbol) (fuel : Nat)
    (c : Cursor) : Extends most (items operand close fuel c) (items operand' close fuel c) := by
  induction fuel generalizing c with
  | zero => exact .refl _
  | succ fuel ih =>
    refine (h 0 c).bind fun (e, c) => (Extends.refl c.next).bind fun (t, c) => ?_
    dsimp only
    split
    · exact (ih c).bind fun _ => .refl _
    · exact .refl _

theorem sequence_extends (h : operand.Extends most operand') (close : Symbol) (c : Cursor) :
    Extends most (sequence operand close c) (sequence operand' close c) := by
  refine (Extends.refl c.peek).bind fun t => ?_
  dsimp only
  split
  · exact .refl _
  · exact items_extends h close _ c

theorem unaryOperand_extends (h : operand.Extends most operand') (op : UnaryOp) (span : Span)
    (c : Cursor) :
    Extends most (unaryOperand operand op span c) (unaryOperand operand' op span c) :=
  (h unaryPower c).bind fun _ => .refl _

theorem letBinding_extends (h : operand.Extends most operand') (span : Span) (c : Cursor) :
    Extends most (letBinding operand span c) (letBinding operand' span c) :=
  (Extends.refl _).bind fun _ => (Extends.refl _).bind fun (_, c) => (h 0 c).bind fun _ =>
    (Extends.refl _).bind fun (_, c) => (h 0 c).bind fun _ => .refl _

theorem named_extends (h : operand.Extends most operand') (name : String) (span : Span)
    (c : Cursor) : Extends most (named operand name span c) (named operand' name span c) := by
  refine (Extends.refl c.peek).bind fun t => ?_
  dsimp only
  split
  · exact (Extends.refl _).bind fun (_, c) => (sequence_extends h _ c).bind fun _ => .refl _
  · split
    · exact (Extends.refl _).bind fun (_, c) => (sequence_extends h _ c).bind fun _ => .refl _
    · exact .refl _

theorem ofWord_extends (h : operand.Extends most operand') (least : Nat) (word : String)
    (span : Span) (c : Cursor) :
    Extends most (ofWord operand least word span c) (ofWord operand' least word span c) := by
  unfold ofWord
  split
  · exact .refl _
  · exact .refl _
  · exact unaryOperand_extends h .not span c
  · split
    · exact letBinding_extends h span c
    · exact .refl _
  · exact .refl _
  · exact .refl _
  · exact named_extends h _ span c

theorem primary_extends (h : operand.Extends most operand') (least : Nat) (c : Cursor) :
    Extends most (primary operand least c) (primary operand' least c) := by
  refine (Extends.refl c.next).bind fun (t, c) => ?_
  dsimp only
  split
  case h_6 word _ => exact ofWord_extends h least word _ c
  case h_7 => exact unaryOperand_extends h .negate _ c
  case h_8 => exact unaryOperand_extends h .not _ c
  case h_10 => exact (h 0 c).bind fun _ => .refl _
  case h_11 => exact (sequence_extends h _ c).bind fun _ => .refl _
  case h_12 => exact (sequence_extends h _ c).bind fun _ => .refl _
  all_goals exact .refl _

theorem expression_of_peek_error {b least : Nat} {c : Cursor} {f : Failure}
    (h : c.peek = .error f) : expression most b least c = .error f := by
  obtain ⟨rest, stop⟩ := c
  cases rest with
  | nil => cases h
  | cons item rest =>
    obtain rfl : item = .error f := h
    cases b <;> rfl

mutual

theorem expression_extends : (b : Nat) → {b' : Nat} → b ≤ b' →
    Operand.Extends most (expression most b) (expression most' b')
  | 0, b', _ => by
    intro least c
    cases hpeek : c.peek with
    | ok t =>
      rw [expression, hpeek]
      exact .inl ⟨_, rfl⟩
    | error f =>
      -- A text that cannot be read on is met under every limit.
      rw [expression_of_peek_error hpeek, expression_of_peek_error hpeek]
      exact .refl _
  | b + 1, b', hb => by
    obtain ⟨b', rfl⟩ : ∃ k, b' = k + 1 := ⟨b' - 1, by omega⟩
    have hb := Nat.le_of_succ_le_succ hb
    intro least c
    rw [expression, expression]
    exact (primary_extends (expression_extends b hb) least c).bind fun (left, c) =>
      chain_extends b hb least left c

theorem chain_extends : (b : Nat) → {b' : Nat} → b ≤ b' → (least : Nat) → (left : Expr) →
    (c : Cursor) → Extends most (chain most b least left c) (chain most' b' least left c)
  | 0, b', _, least, left, c => by
    cases b' with
    | zero | succ b' =>
      rw [chain, chain]
      refine (Extends.refl _).bind fun i? => ?_
      cases i? with
      | none => exact .refl _
      | some i => exact (Extends.refl _).bind fun _ => .inl ⟨_, rfl⟩
  | b + 1, b', hb, least, left, c => by
    obtain ⟨b', rfl⟩ : ∃ k, b' = k + 1 := ⟨b' - 1, by omega⟩
    have hb := Nat.le_of_succ_le_succ hb
    rw [chain, chain]
    refine (Extends.refl _).bind fun i? => ?_
    cases i? with
    | none => exact .refl _
    | some i =>
      refine (Extends.refl _).bind fun (t, c) => ?_
      cases i with
      | binary op =>
        exact (expression_extends b hb _ c).bind fun (right, c) => chain_extends b hb least _ c
      | tag op =>
        exact (Extends.refl _).bind fun tag => (expression_extends b hb _ c).bind fun (right, c) =>
          chain_extends b hb least _ c

end

/-- A result other than that the limit was reached stays under greater limits. -/
theorem ofTokens_mono {tokens : List (Except Failure Token)} (h : most ≤ most')
    (hfree : ¬ TooDeep most (ofTokens most tokens)) :
    ofTokens most' tokens = ofTokens most tokens := by
  have hext : Extends most (ofTokens most tokens) (ofTokens most' tokens) :=
    (expression_extends most h 0 _).bind fun _ => .refl _
  exact (hext.resolve_left hfree).symm

/-! ## Limits that are never reached -/

/-- Every fault of the stream is one of reading its tokens. -/
def LexFaults (items : List (Except Failure Token)) : Prop :=
  ∀ f, .error f ∈ items → f.kind = .lex

/-- Fewer items are left than the budget, and no fault among them is the limit's own. -/
structure Below (budget : Nat) (c : Cursor) : Prop where
  faults : LexFaults c.rest
  length_lt : c.rest.length < budget

/-- The limit is not reached, and what is computed is as required. -/
def Avoids (most : Nat) (x : Except Failure α) (post : α → Prop) : Prop :=
  ComesTo x (fun f => ∀ span, f ≠ tooDeep most span) post

theorem Avoids.not_tooDeep {x : Except Failure α} {post : α → Prop} (h : Avoids most x post) :
    ¬ TooDeep most x := by
  rintro ⟨span, rfl⟩
  exact h span rfl

/-- No failure but the limit's own speaks of deeper nesting. -/
theorem avoids_unexpected {span : Span} {expected : Expected} {found : Found} {post : α → Prop}
    (h : found ≠ .deeperNesting) :
    Avoids most (.error (unexpected span expected found)) post := by
  intro span' heq
  simp only [unexpected, tooDeep, Failure.mk.injEq, Cause.parse.injEq] at heq
  exact h heq.2.2

theorem avoids_of_lex {f : Failure} {post : α → Prop} (h : f.kind = .lex) :
    Avoids most (.error f) post := by
  rintro span rfl
  cases h

theorem avoids_peek {b : Nat} {c : Cursor} (h : Below b c) : Avoids most c.peek fun _ => True := by
  obtain ⟨rest, stop⟩ := c
  match rest, h with
  | [], _ | .ok _ :: _, _ => exact trivial
  | .error f :: _, h => exact avoids_of_lex (h.faults f (List.mem_cons_self ..))

/-- Taking a token leaves fewer items, unless there was none. -/
theorem avoids_next {b : Nat} {c : Cursor} (h : Below (b + 1) c) :
    Avoids most c.next fun r => Below (b + 1) r.2 ∧ (r.1.kind ≠ .stop → Below b r.2) := by
  obtain ⟨rest, stop⟩ := c
  match rest, h with
  | [], h => exact ⟨h, fun hstop => absurd rfl hstop⟩
  | .error f :: _, h => exact avoids_of_lex (h.faults f (List.mem_cons_self ..))
  | .ok t :: rest, ⟨hfaults, hlen⟩ =>
    replace hfaults : LexFaults rest := fun f hf => hfaults f (List.mem_cons_of_mem _ hf)
    replace hlen : rest.length < b := Nat.lt_of_succ_lt_succ hlen
    exact ⟨⟨hfaults, Nat.lt_succ_of_lt hlen⟩, fun _ => ⟨hfaults, hlen⟩⟩

theorem Below.pos {b : Nat} {c : Cursor} (h : Below b c) : ∃ b', b = b' + 1 :=
  Nat.exists_eq_add_one_of_ne_zero (Nat.ne_of_gt (Nat.zero_lt_of_lt h.length_lt))

theorem Below.succ {b : Nat} {c : Cursor} (h : Below b c) : Below (b + 1) c :=
  ⟨h.faults, Nat.lt_succ_of_lt h.length_lt⟩

theorem avoids_next' {b : Nat} {c : Cursor} (h : Below b c) :
    Avoids most c.next fun r => Below b r.2 := by
  obtain ⟨b, rfl⟩ := h.pos
  exact (avoids_next h).mono fun _ h => h.1

theorem avoids_expectSymbol {b : Nat} {s : Symbol} {c : Cursor} (h : Below b c) :
    Avoids most (expectSymbol s c) fun r => Below b r.2 := by
  refine (avoids_next' h).bind fun (t, c) hc => ?_
  dsimp only
  split
  · exact hc
  · exact avoids_unexpected nofun

theorem avoids_expectName {b : Nat} {expected : Expected} {c : Cursor} (h : Below b c) :
    Avoids most (expectName expected c) fun r => Below b r.2 := by
  refine (avoids_next' h).bind fun (t, c) hc => ?_
  dsimp only
  split
  · split
    · exact avoids_unexpected nofun
    · exact hc
  · exact avoids_unexpected nofun

/-- An operand reader that does not reach the limit while fewer tokens are left than the budget. -/
def Operand.Avoids (most b : Nat) (operand : Operand) : Prop :=
  ∀ least c, Below b c → Expr.Avoids most (operand least c) fun r => Below b r.2

variable {b : Nat} {c : Cursor}

theorem avoids_items (h : operand.Avoids most b) (close : Symbol) (fuel : Nat) (hc : Below b c) :
    Avoids most (items operand close fuel c) fun r => Below b r.2 := by
  induction fuel generalizing c with
  | zero => exact avoids_unexpected nofun
  | succ fuel ih =>
    refine (h 0 c hc).bind fun (e, c) hc => (avoids_next' hc).bind fun (t, c) hc => ?_
    dsimp only
    split
    · exact (ih hc).bind fun _ hc => hc
    · split
      · exact hc
      · exact avoids_unexpected nofun

theorem avoids_sequence (h : operand.Avoids most b) (close : Symbol) (hc : Below b c) :
    Avoids most (sequence operand close c) fun r => Below b r.2 := by
  refine (avoids_peek hc).bind fun t _ => ?_
  split
  · exact (avoids_next' hc).bind fun _ hc => hc
  · exact avoids_items h close _ hc

theorem avoids_unaryOperand (h : operand.Avoids most b) (op : UnaryOp) (span : Span)
    (hc : Below b c) : Avoids most (unaryOperand operand op span c) fun r => Below b r.2 :=
  (h unaryPower c hc).bind fun _ hc => hc

theorem avoids_letBinding (h : operand.Avoids most b) (span : Span) (hc : Below b c) :
    Avoids most (letBinding operand span c) fun r => Below b r.2 :=
  (avoids_expectName hc).bind fun _ hc => (avoids_expectSymbol hc).bind fun _ hc =>
    (h 0 _ hc).bind fun _ hc => (avoids_expectSymbol hc).bind fun _ hc =>
    (h 0 _ hc).bind fun _ hc => hc

theorem avoids_named (h : operand.Avoids most b) (name : String) (span : Span) (hc : Below b c) :
    Avoids most (named operand name span c) fun r => Below b r.2 := by
  refine (avoids_peek hc).bind fun t _ => ?_
  split
  · exact (avoids_next' hc).bind fun _ hc => (avoids_sequence h _ hc).bind fun _ hc => hc
  · split
    · exact (avoids_next' hc).bind fun _ hc => (avoids_sequence h _ hc).bind fun _ hc => hc
    · exact hc

theorem avoids_ofWord (h : operand.Avoids most b) (least : Nat) (word : String) (span : Span)
    (hc : Below b c) : Avoids most (ofWord operand least word span c) fun r => Below b r.2 := by
  unfold ofWord
  split
  · exact hc
  · exact hc
  · exact avoids_unaryOperand h .not span hc
  · split
    · exact avoids_letBinding h span hc
    · exact avoids_unexpected nofun
  · exact avoids_unexpected nofun
  · exact avoids_unexpected nofun
  · exact avoids_named h _ span hc

/-- A primary takes a token before it reads any operand. -/
theorem avoids_primary (h : operand.Avoids most b) (least : Nat) (hc : Below (b + 1) c) :
    Avoids most (primary operand least c) fun r => Below b r.2 := by
  refine (avoids_next hc).bind fun (t, c) ⟨_, hc⟩ => ?_
  dsimp only at hc ⊢
  split
  case h_13 => exact avoids_unexpected nofun
  all_goals
    rename_i hk
    replace hc := hc (by rw [hk]; nofun)
  case h_6 word => exact avoids_ofWord h least word _ hc
  case h_7 => exact avoids_unaryOperand h .negate _ hc
  case h_8 => exact avoids_unaryOperand h .not _ hc
  case h_9 => exact (avoids_expectName hc).bind fun _ hc => hc
  case h_10 =>
    exact (h 0 _ hc).bind fun _ hc => (avoids_expectSymbol hc).bind fun _ hc => hc
  case h_11 => exact (avoids_sequence h _ hc).bind fun _ hc => hc
  case h_12 => exact (avoids_sequence h _ hc).bind fun _ hc => hc
  all_goals exact hc

theorem avoids_operator? (least : Nat) (hc : Below b c) :
    Avoids most (operator? least c) fun _ => True :=
  (avoids_peek hc).bind fun _ _ => trivial

theorem avoids_tagName (left : Expr) : Avoids most (tagName left) fun _ => True := by
  unfold tagName
  split
  · exact trivial
  · exact avoids_unexpected nofun

mutual

theorem avoids_expression : (b : Nat) → (expression most b).Avoids most b
  | 0 => by
    intro least c hc
    exact absurd hc.length_lt (Nat.not_lt_zero _)
  | b + 1 => by
    intro least c hc
    rw [expression]
    exact (avoids_primary (avoids_expression b) least hc).bind fun (left, c) hc =>
      (avoids_chain b least left hc).mono fun _ hc => hc.succ

theorem avoids_chain : (b : Nat) → (least : Nat) → (left : Expr) → {c : Cursor} → Below b c →
    Avoids most (chain most b least left c) fun r => Below b r.2
  | 0, least, left, c, hc => absurd hc.length_lt (Nat.not_lt_zero _)
  | b + 1, least, left, c, hc => by
    rw [chain]
    refine (avoids_operator? least hc).bind_of_eq fun i? hop _ => ?_
    cases i? with
    | none => exact hc
    | some i =>
      refine (avoids_next hc).bind_of_eq fun (t, c) hn ⟨_, hc⟩ => ?_
      replace hc : Below b c := hc (kind_eq_of_operator? hop hn ▸ i.kind_ne_stop)
      cases i with
      | binary op =>
        exact (avoids_expression b _ _ hc).bind fun (right, c) hc =>
          (avoids_chain b least _ hc).mono fun _ hc => hc.succ
      | tag op =>
        exact (avoids_tagName left).bind fun tag _ => (avoids_expression b _ _ hc).bind
          fun (value, c) hc => (avoids_chain b least _ hc).mono fun _ hc => hc.succ

end

/-- A limit above the number of items is not reached. -/
theorem ofTokens_not_tooDeep_of_lexFaults {items : List (Except Failure Token)}
    (h : LexFaults items) (hlen : items.length < most) : ¬ TooDeep most (ofTokens most items) := by
  have h : Avoids most (ofTokens most items) fun _ => True := by
    refine (avoids_expression most 0 ⟨items, 0⟩ ⟨h, hlen⟩).bind fun (e, c) hc => ?_
    refine (avoids_next' hc).bind fun (t, c) _ => ?_
    dsimp only
    split
    · exact trivial
    · exact avoids_unexpected nofun
  exact h.not_tooDeep

theorem ofTokens_not_tooDeep {ts : List Token} (h : ts.length < most) :
    ¬ TooDeep most (ofTokens most (ts.map .ok)) :=
  ofTokens_not_tooDeep_of_lexFaults (fun f hf => by simp at hf) (by simpa using h)

end Expr

end SeriesQuery
