/-
Where the parts of a parsed tree stand, and where parsing fails. Each place
is that of a token, the end of one, or the least range around two of them
(`stands_ofTokens`). So places of a kind that is closed under these stay of
that kind, and what is parsed from a text stands within the text.
-/
import SeriesQuery.Expr.Parse
import SeriesQuery.Proofs.Result
import SeriesQuery.Proofs.Token.Placed

namespace SeriesQuery

/-- Places with the start of the text, the end of each of them and the range around any two. -/
structure Span.Closed (P : Span → Prop) : Prop where
  origin : P (.point 0)
  stop {s : Span} : P s → P (.point s.stop)
  join {s t : Span} : P s → P t → P (s.join t)

theorem Span.closed_within (cs : List Char) : Span.Closed (Span.Within · cs) where
  origin := .point (.zero cs)
  stop h := .point h.stop
  join h h' := h.join h'

/-- The tokens left, and the end of the last one taken, are at such places. -/
structure Cursor.Placed (P : Span → Prop) (c : Cursor) : Prop where
  rest : ∀ item ∈ c.rest, P (place item)
  stop : P (.point c.stop)

namespace Expr

theorem span_mem_spans (e : Expr) : e.span ∈ e.spans := by
  cases e <;> simp [span, spans]

/-- The nodes and operators of the tree are at such places. -/
def Placed (P : Span → Prop) (e : Expr) : Prop := ∀ s ∈ e.spans, P s

def AllPlaced (P : Span → Prop) (es : List Expr) : Prop := ∀ s ∈ spansOf es, P s

section Parts

variable {P : Span → Prop} {e l r : Expr} {es : List Expr} {s t : Span} {name : String}

theorem Placed.span (h : e.Placed P) : P e.span := h _ e.span_mem_spans

theorem allPlaced_cons : AllPlaced P (e :: es) ↔ e.Placed P ∧ AllPlaced P es :=
  List.forall_mem_append

theorem placed_list : (list s es).Placed P ↔ P s ∧ AllPlaced P es := List.forall_mem_cons

theorem placed_call : (call s name es).Placed P ↔ P s ∧ AllPlaced P es := List.forall_mem_cons

theorem placed_selector {key : Option String} :
    (selector s key es).Placed P ↔ P s ∧ AllPlaced P es := List.forall_mem_cons

theorem placed_group : (group s e).Placed P ↔ P s ∧ e.Placed P := List.forall_mem_cons

theorem placed_tagFilter {op : TagOp} :
    (tagFilter s name op e).Placed P ↔ P s ∧ e.Placed P := List.forall_mem_cons

theorem placed_unary {op : UnaryOp} : (unary s op t e).Placed P ↔ P s ∧ P t ∧ e.Placed P := by
  simp only [Placed, spans, List.forall_mem_cons]

theorem placed_binary {op : BinaryOp} :
    (binary s op t l r).Placed P ↔ P s ∧ P t ∧ l.Placed P ∧ r.Placed P := by
  simp only [Placed, spans, List.cons_append, List.forall_mem_cons, List.forall_mem_append]

theorem placed_letIn : (letIn s name l r).Placed P ↔ P s ∧ l.Placed P ∧ r.Placed P := by
  simp only [Placed, spans, List.cons_append, List.forall_mem_cons, List.forall_mem_append]

theorem placed_leaf (hs : P s) : ∀ t ∈ [s], P t := List.forall_mem_singleton.mpr hs

end Parts

/-- A failure is at such a place, and what is computed is as required. -/
def Stands {α : Type} (P : Span → Prop) (x : Except Failure α) (post : α → Prop) : Prop :=
  ComesTo x (fun f => P f.span) post

section Parser

variable {P : Span → Prop} (hP : Span.Closed P) {c : Cursor}

theorem stands_peek (h : c.Placed P) : Stands P c.peek fun t => P t.span := by
  obtain ⟨rest, stop⟩ := c
  cases rest with
  | nil => exact h.stop
  | cons item rest =>
    have hitem : P (place item) := h.rest item (List.mem_cons_self ..)
    cases item with
    | ok t => exact hitem
    | error f => exact hitem

theorem stands_operator? (least : Nat) (hc : c.Placed P) :
    Stands P (operator? least c) fun _ => True :=
  (stands_peek hc).bind fun _ _ => trivial

theorem stands_tagName {left : Expr} (h : left.Placed P) :
    Stands P (tagName left) fun _ => True := by
  unfold tagName
  split
  · exact trivial
  · exact h.span

include hP

theorem stands_next (h : c.Placed P) : Stands P c.next fun r => P r.1.span ∧ r.2.Placed P := by
  obtain ⟨rest, stop⟩ := c
  cases rest with
  | nil => exact ⟨h.stop, h⟩
  | cons item rest =>
    have hitem : P (place item) := h.rest item (List.mem_cons_self ..)
    cases item with
    | ok t =>
      have hrest : ∀ item ∈ rest, P (place item) := fun item hmem =>
        h.rest item (List.mem_cons_of_mem _ hmem)
      exact ⟨hitem, hrest, hP.stop hitem⟩
    | error f => exact hitem

theorem stands_expectSymbol (s : Symbol) (h : c.Placed P) :
    Stands P (expectSymbol s c) fun r => P r.1.span ∧ r.2.Placed P := by
  refine (stands_next hP h).bind fun (t, c) ⟨ht, hc⟩ => ?_
  dsimp only
  split
  · exact ⟨ht, hc⟩
  · exact ht

theorem stands_expectName (expected : Expected) (h : c.Placed P) :
    Stands P (expectName expected c) fun r => P r.1.2 ∧ r.2.Placed P := by
  refine (stands_next hP h).bind fun (t, c) ⟨ht, hc⟩ => ?_
  dsimp only
  split
  · split
    · exact ht
    · exact ⟨ht, hc⟩
  · exact ht

end Parser

/-- A tree and the tokens left after it, all at such places. -/
def ReadAt (P : Span → Prop) (r : Expr × Cursor) : Prop := r.1.Placed P ∧ r.2.Placed P

/-- Items, their closing symbol and the tokens left after it, all at such places. -/
def ReadAllAt (P : Span → Prop) (r : (List Expr × Span) × Cursor) : Prop :=
  AllPlaced P r.1.1 ∧ P r.1.2 ∧ r.2.Placed P

/-- An operand reader that keeps to such places. -/
def Operand.Stands (P : Span → Prop) (operand : Operand) : Prop :=
  ∀ least c, c.Placed P → Expr.Stands P (operand least c) (ReadAt P)

section Operands

variable {P : Span → Prop} (hP : Span.Closed P) {operand : Operand} {c : Cursor}

include hP

theorem stands_items (h : operand.Stands P) (close : Symbol) (fuel : Nat) (hc : c.Placed P) :
    Stands P (items operand close fuel c) (ReadAllAt P) := by
  induction fuel generalizing c with
  | zero => exact hc.stop
  | succ fuel ih =>
    refine (h 0 c hc).bind fun (e, c) ⟨he, hc⟩ => (stands_next hP hc).bind fun (t, c) ⟨ht, hc⟩ => ?_
    dsimp only
    split
    · exact (ih hc).bind fun _ ⟨hes, hclose, hc⟩ => ⟨allPlaced_cons.mpr ⟨he, hes⟩, hclose, hc⟩
    · split
      · exact ⟨allPlaced_cons.mpr ⟨he, List.forall_mem_nil _⟩, ht, hc⟩
      · exact ht

theorem stands_sequence (h : operand.Stands P) (close : Symbol) (hc : c.Placed P) :
    Stands P (sequence operand close c) (ReadAllAt P) := by
  refine (stands_peek hc).bind fun t _ => ?_
  split
  · exact (stands_next hP hc).bind fun _ ⟨ht, hc⟩ => ⟨List.forall_mem_nil _, ht, hc⟩
  · exact stands_items hP h close _ hc

theorem stands_unaryOperand (h : operand.Stands P) (op : UnaryOp) {span : Span} (hspan : P span)
    (hc : c.Placed P) : Stands P (unaryOperand operand op span c) (ReadAt P) :=
  (h unaryPower c hc).bind fun _ ⟨he, hc⟩ =>
    ⟨placed_unary.mpr ⟨hP.join hspan he.span, hspan, he⟩, hc⟩

theorem stands_letBinding (h : operand.Stands P) {span : Span} (hspan : P span)
    (hc : c.Placed P) : Stands P (letBinding operand span c) (ReadAt P) :=
  (stands_expectName hP _ hc).bind fun _ ⟨_, hc⟩ =>
    (stands_expectSymbol hP _ hc).bind fun _ ⟨_, hc⟩ => (h 0 _ hc).bind fun _ ⟨hvalue, hc⟩ =>
    (stands_expectSymbol hP _ hc).bind fun _ ⟨_, hc⟩ => (h 0 _ hc).bind fun _ ⟨hbody, hc⟩ =>
    ⟨placed_letIn.mpr ⟨hP.join hspan hbody.span, hvalue, hbody⟩, hc⟩

theorem stands_named (h : operand.Stands P) (name : String) {span : Span} (hspan : P span)
    (hc : c.Placed P) : Stands P (named operand name span c) (ReadAt P) := by
  refine (stands_peek hc).bind fun t _ => ?_
  split
  · exact (stands_next hP hc).bind fun _ ⟨_, hc⟩ => (stands_sequence hP h _ hc).bind
      fun _ ⟨hargs, hclose, hc⟩ => ⟨placed_call.mpr ⟨hP.join hspan hclose, hargs⟩, hc⟩
  · split
    · exact (stands_next hP hc).bind fun _ ⟨_, hc⟩ => (stands_sequence hP h _ hc).bind
        fun _ ⟨hfilters, hclose, hc⟩ =>
          ⟨placed_selector.mpr ⟨hP.join hspan hclose, hfilters⟩, hc⟩
    · exact ⟨placed_leaf hspan, hc⟩

theorem stands_ofWord (h : operand.Stands P) (least : Nat) (word : String) {span : Span}
    (hspan : P span) (hc : c.Placed P) :
    Stands P (ofWord operand least word span c) (ReadAt P) := by
  unfold ofWord
  split
  · exact ⟨placed_leaf hspan, hc⟩
  · exact ⟨placed_leaf hspan, hc⟩
  · exact stands_unaryOperand hP h .not hspan hc
  · split
    · exact stands_letBinding hP h hspan hc
    · exact hspan
  · exact hspan
  · exact hspan
  · exact stands_named hP h _ hspan hc

theorem stands_primary (h : operand.Stands P) (least : Nat) (hc : c.Placed P) :
    Stands P (primary operand least c) (ReadAt P) := by
  refine (stands_next hP hc).bind fun (t, c) ⟨ht, hc⟩ => ?_
  dsimp only at ht hc ⊢
  split
  case h_6 word _ => exact stands_ofWord hP h least word ht hc
  case h_7 => exact stands_unaryOperand hP h .negate ht hc
  case h_8 => exact stands_unaryOperand hP h .not ht hc
  case h_9 =>
    exact (stands_expectName hP _ hc).bind fun _ ⟨htag, hc⟩ =>
      ⟨placed_leaf (hP.join ht htag), hc⟩
  case h_10 =>
    exact (h 0 _ hc).bind fun _ ⟨hinner, hc⟩ => (stands_expectSymbol hP _ hc).bind
      fun _ ⟨hclose, hc⟩ => ⟨placed_group.mpr ⟨hP.join ht hclose, hinner⟩, hc⟩
  case h_11 =>
    exact (stands_sequence hP h _ hc).bind fun _ ⟨hes, hclose, hc⟩ =>
      ⟨placed_list.mpr ⟨hP.join ht hclose, hes⟩, hc⟩
  case h_12 =>
    exact (stands_sequence hP h _ hc).bind fun _ ⟨hfilters, hclose, hc⟩ =>
      ⟨placed_selector.mpr ⟨hP.join ht hclose, hfilters⟩, hc⟩
  case h_13 => exact ht
  all_goals exact ⟨placed_leaf ht, hc⟩

variable (most : Nat)

mutual

theorem stands_expression : (budget : Nat) → (expression most budget).Stands P
  | 0 => by
    intro least c hc
    rw [expression]
    exact (stands_peek hc).bind fun _ ht => ht
  | budget + 1 => by
    intro least c hc
    rw [expression]
    exact (stands_primary hP (stands_expression budget) least hc).bind fun (left, c) ⟨hleft, hc⟩ =>
      stands_chain budget least hleft hc

theorem stands_chain : (budget least : Nat) → {left : Expr} → {c : Cursor} → left.Placed P →
    c.Placed P → Stands P (chain most budget least left c) (ReadAt P)
  | 0, least, left, c, hleft, hc => by
    rw [chain]
    refine (stands_operator? least hc).bind fun i? _ => ?_
    cases i? with
    | none => exact ⟨hleft, hc⟩
    | some i => exact (stands_next hP hc).bind fun _ ⟨ht, _⟩ => ht
  | budget + 1, least, left, c, hleft, hc => by
    rw [chain]
    refine (stands_operator? least hc).bind fun i? _ => ?_
    cases i? with
    | none => exact ⟨hleft, hc⟩
    | some i =>
      refine (stands_next hP hc).bind fun (t, c) ⟨ht, hc⟩ => ?_
      cases i with
      | binary op =>
        exact (stands_expression budget _ _ hc).bind fun (right, c) ⟨hright, hc⟩ =>
          stands_chain budget least (placed_binary.mpr
            ⟨hP.join hleft.span hright.span, ht, hleft, hright⟩) hc
      | tag op =>
        exact (stands_tagName hleft).bind fun tag _ => (stands_expression budget _ _ hc).bind
          fun (value, c) ⟨hvalue, hc⟩ => stands_chain budget least (placed_tagFilter.mpr
            ⟨hP.join hleft.span hvalue.span, hvalue⟩) hc

end

theorem stands_ofTokens {tokens : List (Except Failure Token)}
    (h : ∀ item ∈ tokens, P (place item)) : Stands P (ofTokens most tokens) (Placed P) := by
  refine (stands_expression hP most most 0 ⟨tokens, 0⟩ ⟨h, hP.origin⟩).bind fun (e, c) ⟨he, hc⟩ => ?_
  refine (stands_next hP hc).bind fun (t, c) ⟨ht, _⟩ => ?_
  dsimp only
  split
  · exact he
  · exact ht

end Operands

end Expr

end SeriesQuery
