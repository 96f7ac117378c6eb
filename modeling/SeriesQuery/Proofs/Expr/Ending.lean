/-
The end of a token stream. A list that runs out shows and gives what it would
with an end token after its last token, and a reader that gets its tokens one
by one, and holds one that it has shown, answers as the list does
(`Lookahead.answer_eq`). The parser only asks, so it makes no difference to a
parse whether the end token is there (`ofTokens_append_endAfter`).
-/
import SeriesQuery.Proofs.Expr.Asker

namespace SeriesQuery

/-! ## A stream that runs out -/

/-- Where the last of the tokens ends, or the place before them if there is none. -/
def stopAfter (stop : Nat) (ts : List Token) : Nat :=
  (ts.getLast?.map fun t => t.span.stop).getD stop

theorem stopAfter_cons (stop : Nat) (t : Token) (ts : List Token) :
    stopAfter stop (t :: ts) = stopAfter t.span.stop ts := by
  rw [stopAfter, stopAfter, List.getLast?_cons]
  cases ts.getLast? <;> rfl

/-- The end token after the tokens: empty, where the last of them ends. -/
def endAfter (stop : Nat) (ts : List Token) : Token := ⟨.stop, .point (stopAfter stop ts)⟩

/-- The cursors are one, or the second has the end token that the first lacks. -/
inductive Ended : Cursor → Cursor → Prop
  | same (c : Cursor) : Ended c c
  | missing (stop : Nat) (ts : List Token) :
      Ended ⟨ts.map .ok, stop⟩ ⟨(ts ++ [endAfter stop ts]).map .ok, stop⟩

theorem Ended.eq_of_nil {c : Cursor} {stop : Nat} (h : Ended c ⟨[], stop⟩) : c = ⟨[], stop⟩ := by
  generalize hd : (⟨[], stop⟩ : Cursor) = d at h
  cases h with
  | same => rfl
  | missing => simp at hd

theorem Ended.peek_eq {c d : Cursor} (h : Ended c d) : c.peek = d.peek := by
  cases h with
  | same => rfl
  | missing stop ts => cases ts <;> rfl

/-- The end that a cursor shows when it has run out is the end token that the other one has. Once
that is taken, both have run out, at the same place. -/
theorem Ended.next {c d : Cursor} (h : Ended c d) : InStep Ended c.next d.next := by
  cases h with
  | same =>
    cases c.next with
    | error f => exact .failure f
    | ok r => exact .value r.1 (.same r.2)
  | missing stop ts =>
    cases ts with
    | nil => exact .value _ (.same _)
    | cons t ts =>
      refine .value t ?_
      rw [endAfter, stopAfter_cons]
      exact .missing t.span.stop ts

/-! ## One token of lookahead -/

/-- A reader that gets its items one by one. It may hold a token that was shown and is not taken
yet; `stop` is where the last token taken ends. -/
structure Lookahead where
  items : List (Except Failure Token)
  held : Option Token
  stop : Nat

namespace Lookahead

/-- The token held, or else a new one with the items left; an end, where the last token taken ends,
once there are none. -/
def fetch (r : Lookahead) : Except Failure (Token × List (Except Failure Token)) :=
  match r.held, r.items with
  | some t, items => .ok (t, items)
  | none, [] => .ok (⟨.stop, .point r.stop⟩, [])
  | none, .ok t :: items => .ok (t, items)
  | none, .error f :: _ => .error f

def ask (r : Lookahead) : Ask → Except Failure (Token × Lookahead)
  | .peek => do
    let (t, items) ← r.fetch
    .ok (t, ⟨items, some t, r.stop⟩)
  | .next => do
    let (t, items) ← r.fetch
    .ok (t, ⟨items, none, t.span.stop⟩)

/-- All that the reader is still to give. -/
def cursor (r : Lookahead) : Cursor := ⟨r.held.toList.map .ok ++ r.items, r.stop⟩

/-- The reader before anything is asked. -/
def start (items : List (Except Failure Token)) : Lookahead := ⟨items, none, 0⟩

theorem ask_next (r : Lookahead) :
    InStep (fun r c => r.cursor = c) (r.ask .next) r.cursor.next := by
  obtain ⟨items, held, stop⟩ := r
  match held, items with
  | some t, _ | none, .ok t :: _ => exact .value t rfl
  | none, [] => exact .value _ rfl
  | none, .error f :: _ => exact .failure f

theorem ask_peek {r : Lookahead} {c : Cursor} (h : Ended c r.cursor) :
    InStep (fun r c => Ended c r.cursor) (r.ask .peek) (c.ask .peek) := by
  have hpeek := h.peek_eq
  rw [Cursor.ask, hpeek]
  obtain ⟨items, held, stop⟩ := r
  match held, items, h with
  | some t, _, h | none, .ok t :: _, h => exact .value t h
  | none, [], h =>
    -- The end that is shown is held from now on, and is the token that the cursor lacks.
    obtain rfl := h.eq_of_nil
    exact .value _ (.missing stop [])
  | none, .error f :: _, _ => exact .failure f

theorem inStep_ask {r : Lookahead} {c : Cursor} (h : Ended c r.cursor) :
    ∀ q, InStep (fun r c => Ended c r.cursor) (r.ask q) (c.ask q)
  | .peek => ask_peek h
  | .next => (ask_next r).of_common h.next fun _ _ _ hr hc => hr ▸ hc

/-- Whatever is asked, and however that depends on the answers, a reader with a token of lookahead
answers as a list does that is the same, or that has the end token too. -/
theorem answer_eq {α : Type} (a : Asker α) {items items' : List (Except Failure Token)}
    (h : Ended ⟨items', 0⟩ ⟨items, 0⟩) :
    a.answer ask (start items) = a.answer Cursor.ask ⟨items', 0⟩ :=
  a.answer_eq inStep_ask (R := fun r c => Ended c r.cursor) h

end Lookahead

namespace Expr

/-- An end token after the tokens, empty and where the last of them ends, makes no difference: with
it and without it they are parsed to the same tree or fail in the same way. Nor does it to the asker
that parses lists, when it gets the tokens one by one. -/
theorem ofTokens_append_endAfter (nesting : Nat) (ts : List Token) :
    ofTokens nesting ((ts ++ [endAfter 0 ts]).map .ok) = ofTokens nesting (ts.map .ok) ∧
    ∃ a : Asker Expr, Parses a nesting (ts.length + 1) ∧
      a.answer Lookahead.ask (.start ((ts ++ [endAfter 0 ts]).map .ok)) =
        ofTokens nesting (ts.map .ok) ∧
      a.answer Lookahead.ask (.start (ts.map .ok)) = ofTokens nesting (ts.map .ok) := by
  obtain ⟨a, ha⟩ := exists_parses nesting (ts.length + 1)
  have hwith := ha ((ts ++ [endAfter 0 ts]).map .ok) (by simp)
  have hwithout := ha (ts.map .ok) (by simp)
  have hended := (Lookahead.answer_eq a (.missing 0 ts)).trans hwithout
  refine ⟨?_, a, ha, hended, (Lookahead.answer_eq a (.same _)).trans hwithout⟩
  calc ofTokens nesting ((ts ++ [endAfter 0 ts]).map .ok)
      = a.answer Cursor.ask ⟨(ts ++ [endAfter 0 ts]).map .ok, 0⟩ := hwith.symm
    _ = a.answer Lookahead.ask (.start ((ts ++ [endAfter 0 ts]).map .ok)) :=
      (Lookahead.answer_eq a (.same _)).symm
    _ = ofTokens nesting (ts.map .ok) := hended

/-- The operand that `x +` lacks is missed where the operator ends. -/
example : ofTokens 3 [.ok ⟨.word "x", ⟨0, 1⟩⟩, .ok ⟨.symbol .plus, ⟨2, 3⟩⟩] =
    .error (unexpected (.point 3) .expression (.token .stop)) := rfl

end Expr

end SeriesQuery
