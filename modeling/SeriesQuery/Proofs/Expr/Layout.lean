/-
What the parser sees of tokens. Their places are only copied, into trees and
failures, so tokens of the same kinds give the same tree, or the same
failure, up to places (`ofTokens_alike`): `Alike` relates what is computed
from two streams and is kept by every step. A query whose tokens are moved
apart by any layout is therefore read as before (`layout_irrelevant`).
-/
import SeriesQuery.Proofs.Expr.Shape
import SeriesQuery.Proofs.Token.Layout
import SeriesQuery.Regex.Engine
import Mathlib.Data.List.Forall2

namespace SeriesQuery

/-- Results that are related, or failures that differ in their places only. -/
def Alike {α : Type} (same : α → α → Prop) : Except Failure α → Except Failure α → Prop
  | .ok a, .ok b => same a b
  | .error f, .error g => f.cause = g.cause
  | _, _ => False

theorem Alike.bind {α β : Type} {same : α → α → Prop} {same' : β → β → Prop}
    {x y : Except Failure α} {f g : α → Except Failure β} (h : Alike same x y)
    (hfg : ∀ a b, same a b → Alike same' (f a) (g b)) : Alike same' (x >>= f) (y >>= g) := by
  cases x with
  | error e =>
    cases y with
    | error e' => exact h
    | ok b => exact h.elim
  | ok a =>
    cases y with
    | error e' => exact h.elim
    | ok b => exact hfg a b h

/-- Item by item, tokens of one kind or faults of one cause, wherever they stand. -/
def SameKinds : List (Except Failure Token) → List (Except Failure Token) → Prop :=
  List.Forall₂ (Alike fun t u => t.kind = u.kind)

theorem sameKinds_of_kinds_eq {ts ts' : List Token}
    (h : ts.map Token.kind = ts'.map Token.kind) : SameKinds (ts.map .ok) (ts'.map .ok) := by
  rw [← List.forall₂_eq_eq_eq, List.forall₂_map_left_iff, List.forall₂_map_right_iff] at h
  exact List.forall₂_map_left_iff.mpr (List.forall₂_map_right_iff.mpr h)

namespace Expr

/-- The results agree as far as `see` shows them, and tokens of the same kinds are left. -/
def Same {α β : Type} (see : α → β) (r r' : α × Cursor) : Prop :=
  see r.1 = see r'.1 ∧ SameKinds r.2.rest r'.2.rest

variable {c d : Cursor}

theorem alike_peek (h : SameKinds c.rest d.rest) :
    Alike (fun t u => t.kind = u.kind) c.peek d.peek := by
  obtain ⟨rest, stop⟩ := c
  obtain ⟨rest', stop'⟩ := d
  cases h with
  | nil => exact rfl
  | cons hitem => exact hitem

theorem alike_next (h : SameKinds c.rest d.rest) : Alike (Same Token.kind) c.next d.next := by
  obtain ⟨rest, stop⟩ := c
  obtain ⟨rest', stop'⟩ := d
  cases h with
  | nil => exact ⟨rfl, .nil⟩
  | @cons item item' rest rest' hitem hrest =>
    cases item with
    | error f =>
      cases item' with
      | error f' => exact hitem
      | ok t' => exact hitem.elim
    | ok t =>
      cases item' with
      | error f' => exact hitem.elim
      | ok t' => exact ⟨hitem, hrest⟩

theorem alike_expectSymbol (s : Symbol) (h : SameKinds c.rest d.rest) :
    Alike (Same Token.kind) (expectSymbol s c) (expectSymbol s d) := by
  refine (alike_next h).bind fun (t, c) (u, d) ⟨hkind, h⟩ => ?_
  dsimp only at hkind ⊢
  rw [hkind]
  split
  · exact ⟨hkind, h⟩
  · exact rfl

theorem alike_expectName (expected : Expected) (h : SameKinds c.rest d.rest) :
    Alike (Same Prod.fst) (expectName expected c) (expectName expected d) := by
  refine (alike_next h).bind fun (t, c) (u, d) ⟨hkind, h⟩ => ?_
  dsimp only at hkind ⊢
  rw [hkind]
  split
  · split
    · exact rfl
    · exact ⟨rfl, h⟩
  · exact rfl

/-- The operand reader sees no places. -/
def Operand.Placeless (operand : Operand) : Prop :=
  ∀ least {c d : Cursor}, SameKinds c.rest d.rest →
    Alike (Same bare) (operand least c) (operand least d)

variable {operand : Operand}

theorem alike_items (ho : operand.Placeless) (close : Symbol) (fuel : Nat)
    (h : SameKinds c.rest d.rest) :
    Alike (Same fun r => bares r.1) (items operand close fuel c) (items operand close fuel d) := by
  induction fuel generalizing c d with
  | zero => exact rfl
  | succ fuel ih =>
    refine (ho 0 h).bind fun (e, c) (e', d) ⟨hbare, h⟩ => ?_
    refine (alike_next h).bind fun (t, c) (u, d) ⟨hkind, h⟩ => ?_
    dsimp only at hbare hkind ⊢
    rw [hkind]
    split
    · refine (ih h).bind fun ((es, s), c) ((es', s'), d) ⟨hbares, h⟩ => ⟨?_, h⟩
      exact congrArg₂ List.cons hbare hbares
    · split
      · exact ⟨congrArg (fun e => [e]) hbare, h⟩
      · exact rfl

theorem alike_sequence (ho : operand.Placeless) (close : Symbol) (h : SameKinds c.rest d.rest) :
    Alike (Same fun r => bares r.1) (sequence operand close c) (sequence operand close d) := by
  refine (alike_peek h).bind fun t u hkind => ?_
  dsimp only
  rw [hkind]
  split
  · exact (alike_next h).bind fun (_, c) (_, d) ⟨_, h⟩ => ⟨rfl, h⟩
  · rw [h.length_eq]
    exact alike_items ho close _ h

theorem alike_unaryOperand (ho : operand.Placeless) (op : UnaryOp) (s s' : Span)
    (h : SameKinds c.rest d.rest) :
    Alike (Same bare) (unaryOperand operand op s c) (unaryOperand operand op s' d) :=
  (ho unaryPower h).bind fun _ _ ⟨hbare, h⟩ => ⟨congrArg (unary nowhere op nowhere) hbare, h⟩

theorem alike_letBinding (ho : operand.Placeless) (s s' : Span) (h : SameKinds c.rest d.rest) :
    Alike (Same bare) (letBinding operand s c) (letBinding operand s' d) := by
  refine (alike_expectName _ h).bind fun ((name, _), c) ((_, _), d) ⟨hname, h⟩ => ?_
  refine (alike_expectSymbol _ h).bind fun (_, c) (_, d) ⟨_, h⟩ => ?_
  refine (ho 0 h).bind fun (v, c) (v', d) ⟨hvalue, h⟩ => ?_
  refine (alike_expectSymbol _ h).bind fun (_, c) (_, d) ⟨_, h⟩ => ?_
  refine (ho 0 h).bind fun (b, c) (b', d) ⟨hbody, h⟩ => ⟨?_, h⟩
  dsimp only at hname hvalue hbody
  simp only [bare, hname, hvalue, hbody]

theorem alike_named (ho : operand.Placeless) (name : String) (s s' : Span)
    (h : SameKinds c.rest d.rest) :
    Alike (Same bare) (named operand name s c) (named operand name s' d) := by
  refine (alike_peek h).bind fun t u hkind => ?_
  dsimp only
  rw [hkind]
  split
  · refine (alike_next h).bind fun (_, c) (_, d) ⟨_, h⟩ => ?_
    exact (alike_sequence ho _ h).bind fun _ _ ⟨hargs, h⟩ => ⟨congrArg (call nowhere name) hargs, h⟩
  · split
    · refine (alike_next h).bind fun (_, c) (_, d) ⟨_, h⟩ => ?_
      exact (alike_sequence ho _ h).bind fun _ _ ⟨hfilters, h⟩ =>
        ⟨congrArg (selector nowhere (some name)) hfilters, h⟩
    · exact ⟨rfl, h⟩

theorem alike_ofWord (ho : operand.Placeless) (least : Nat) (word : String) (s s' : Span)
    (h : SameKinds c.rest d.rest) :
    Alike (Same bare) (ofWord operand least word s c) (ofWord operand least word s' d) := by
  unfold ofWord
  split
  · exact ⟨rfl, h⟩
  · exact ⟨rfl, h⟩
  · exact alike_unaryOperand ho .not s s' h
  · split
    · exact alike_letBinding ho s s' h
    · exact rfl
  · exact rfl
  · exact rfl
  · exact alike_named ho _ s s' h

theorem alike_primary (ho : operand.Placeless) (least : Nat) (h : SameKinds c.rest d.rest) :
    Alike (Same bare) (primary operand least c) (primary operand least d) := by
  refine (alike_next h).bind fun (t, c) (u, d) ⟨hkind, h⟩ => ?_
  dsimp only at hkind ⊢
  rw [hkind]
  split
  case h_6 word _ => exact alike_ofWord ho least word _ _ h
  case h_7 => exact alike_unaryOperand ho .negate _ _ h
  case h_8 => exact alike_unaryOperand ho .not _ _ h
  case h_9 =>
    exact (alike_expectName _ h).bind fun _ _ ⟨htag, h⟩ => ⟨congrArg (hasTag nowhere) htag, h⟩
  case h_10 =>
    refine (ho 0 h).bind fun (e, c) (e', d) ⟨hinner, h⟩ => ?_
    exact (alike_expectSymbol _ h).bind fun _ _ ⟨_, h⟩ => ⟨congrArg (group nowhere) hinner, h⟩
  case h_11 =>
    exact (alike_sequence ho _ h).bind fun _ _ ⟨hitems, h⟩ => ⟨congrArg (list nowhere) hitems, h⟩
  case h_12 =>
    exact (alike_sequence ho _ h).bind fun _ _ ⟨hfilters, h⟩ =>
      ⟨congrArg (selector nowhere none) hfilters, h⟩
  case h_13 => exact rfl
  all_goals exact ⟨rfl, h⟩

theorem alike_operator? (least : Nat) (h : SameKinds c.rest d.rest) :
    Alike Eq (operator? least c) (operator? least d) := by
  refine (alike_peek h).bind fun t u hkind => ?_
  rw [hkind]
  exact rfl

/-- The message on what is no tag name quotes it, which is the same wherever it stands. -/
theorem alike_tagName {left left' : Expr} (h : left.bare = left'.bare) :
    Alike Eq (tagName left) (tagName left') := by
  have htext := text_eq_of_bare_eq h
  cases left <;> cases left' <;>
    simp only [bare, reduceCtorEq, reference.injEq, true_and] at h
  case reference => exact h
  all_goals exact congrArg (fun text => Cause.parse .tagName (.operand text)) htext

variable {most : Nat}

mutual

theorem placeless_expression : (b : Nat) → (expression most b).Placeless
  | 0 => by
    intro least c d h
    exact (alike_peek h).bind fun _ _ _ => rfl
  | b + 1 => by
    intro least c d h
    rw [expression]
    exact (alike_primary (placeless_expression b) least h).bind fun (_, c) (_, d) ⟨hleft, h⟩ =>
      alike_chain b least hleft h

theorem alike_chain : (b : Nat) → (least : Nat) → {left left' : Expr} → left.bare = left'.bare →
    {c d : Cursor} → SameKinds c.rest d.rest →
    Alike (Same bare) (chain most b least left c) (chain most b least left' d)
  | 0, least, left, left', hleft, c, d, h => by
    rw [chain, chain]
    refine (alike_operator? least h).bind fun i? _ heq => ?_
    subst heq
    cases i? with
    | none => exact ⟨hleft, h⟩
    | some i => exact (alike_next h).bind fun _ _ _ => rfl
  | b + 1, least, left, left', hleft, c, d, h => by
    rw [chain, chain]
    refine (alike_operator? least h).bind fun i? _ heq => ?_
    subst heq
    cases i? with
    | none => exact ⟨hleft, h⟩
    | some i =>
      refine (alike_next h).bind fun (t, c) (u, d) ⟨_, h⟩ => ?_
      cases i with
      | binary op =>
        refine (placeless_expression b _ h).bind fun (r, c) (r', d) ⟨hright, h⟩ => ?_
        refine alike_chain b least ?_ h
        exact congrArg₂ (binary nowhere op nowhere) hleft hright
      | tag op =>
        refine (alike_tagName hleft).bind fun tag _ heq => ?_
        subst heq
        refine (placeless_expression b _ h).bind fun (v, c) (v', d) ⟨hvalue, h⟩ => ?_
        refine alike_chain b least ?_ h
        exact congrArg (tagFilter nowhere tag op) hvalue

end

/-- Streams of the same kinds are read as trees that differ in their places only, or fail alike. -/
theorem ofTokens_alike (nesting : Nat) {tokens tokens' : List (Except Failure Token)}
    (h : SameKinds tokens tokens') :
    Alike (fun a b : Expr => a.bare = b.bare) (ofTokens nesting tokens)
      (ofTokens nesting tokens') := by
  refine (placeless_expression nesting 0 (c := ⟨tokens, 0⟩) (d := ⟨tokens', 0⟩) h).bind
    fun (e, c) (e', d) ⟨hbare, h⟩ => ?_
  refine (alike_next h).bind fun (t, c) (u, d) ⟨hkind, h⟩ => ?_
  dsimp only at hbare hkind ⊢
  rw [hkind]
  split
  · exact hbare
  · exact rfl

/-! ## Trees and messages -/

/-- Trees that are related, or failures with the same message. -/
def SameReading (same : Expr → Expr → Prop) : Except Failure Expr → Except Failure Expr → Prop
  | .ok a, .ok b => same a b
  | .error f, .error g => f.message = g.message
  | _, _ => False

theorem SameReading.of_alike {same same' : Expr → Expr → Prop} {x y : Except Failure Expr}
    (h : Alike same x y) (hsame : ∀ a b, x = .ok a → same a b → same' a b) :
    SameReading same' x y := by
  cases x with
  | error f =>
    cases y with
    | error g => exact congrArg Cause.message h
    | ok b => exact h.elim
  | ok a =>
    cases y with
    | error g => exact h.elim
    | ok b => exact hsame a b rfl h

section Texts

variable [PatternEngine]

/-- Texts that are read as tokens of the same kinds have trees of the same shape, as no double that
is read differs from itself. -/
theorem parse_of_kinds_eq {limits : Limits} {source source' : String} {ts ts' : List Token}
    (h : tokenize source = ts.map .ok) (h' : tokenize source' = ts'.map .ok)
    (hkinds : ts.map Token.kind = ts'.map Token.kind)
    (hlength : source.utf8ByteSize ≤ limits.length)
    (hlength' : source'.utf8ByteSize ≤ limits.length) :
    SameReading (fun a b => a.sameShape b = true) (parse limits source) (parse limits source') := by
  have hparse : parse limits source = ofTokens limits.nesting (tokenize source) :=
    if_neg (Nat.not_lt.mpr hlength)
  have hparse' : parse limits source' = ofTokens limits.nesting (tokenize source') :=
    if_neg (Nat.not_lt.mpr hlength')
  have halike := ofTokens_alike limits.nesting (sameKinds_of_kinds_eq hkinds)
  rw [← h, ← h', ← hparse, ← hparse'] at halike
  refine .of_alike halike fun a b ha hbare => sameShape_of_bare_eq a b hbare fun x hx => ?_
  obtain ⟨cs, text, rest, hnumber⟩ := number_of_mem_doubles ha hx
  exact beq_self_of_isFinite (Scan.isFinite_of_number hnumber)

/-- Layout makes no difference. Streams of the same kinds, at whatever places, are read as trees that
differ in their places only, so of the same shape unless a double differs from itself, or fail with
the same message. And the tokens of a text without faults cover pieces of it that, with any layout
between them, are read as tokens of the same kinds, so as a tree of the same shape or with the same
message. -/
theorem layout_irrelevant :
    (∀ nesting tokens tokens', SameKinds tokens tokens' →
      SameReading
        (fun a b => a.bare = b.bare ∧
          ((∀ x ∈ a.doubles, (x == x) = true) → a.sameShape b = true))
        (ofTokens nesting tokens) (ofTokens nesting tokens')) ∧
    ∀ source (ts : List Token), tokenize source = ts.map .ok →
      ∃ pieces, ts.map (fun t => t.span.slice source) = pieces.map some ∧
        ∀ source', Spaced pieces source' →
          (∃ ts' : List Token, tokenize source' = ts'.map .ok ∧
            ts'.map Token.kind = ts.map Token.kind) ∧
          ∀ limits : Limits, source.utf8ByteSize ≤ limits.length →
            source'.utf8ByteSize ≤ limits.length →
            SameReading (fun a b => a.sameShape b = true) (parse limits source)
              (parse limits source') := by
  constructor
  · intro nesting tokens tokens' h
    exact .of_alike (ofTokens_alike nesting h) fun a b _ hbare =>
      ⟨hbare, sameShape_of_bare_eq a b hbare⟩
  · intro source ts h
    obtain ⟨pieces, hslices, hspaced⟩ := tokenize_spaced h
    refine ⟨pieces, hslices, fun source' hsource' => ?_⟩
    obtain ⟨ts', h', hkinds⟩ := hspaced source' hsource'
    exact ⟨⟨ts', h', hkinds⟩, fun limits hlength hlength' =>
      parse_of_kinds_eq h h' hkinds.symm hlength hlength'⟩

end Texts

open scoped Regex

/-- A text without layout and the same with much, and tokens out of place, which are one expression
or none. -/
theorem layout_irrelevant_apart :
    let pieces := ["!", "x", "<=", "05.50", ""]
    (∃ ts : List Token, tokenize "!x<=05.50" = ts.map .ok ∧
      ts.map (fun t => t.span.slice "!x<=05.50") = pieces.map some) ∧
    Spaced pieces "! x\t<=\n 05.50 " ∧
    (∃ a b, parse ⟨14, 3⟩ "!x<=05.50" = .ok a ∧ parse ⟨14, 3⟩ "! x\t<=\n 05.50 " = .ok b ∧
      a.sameShape b = true) ∧
    (∃ a b, ofTokens 9 [.ok ⟨.symbol .bang, ⟨7, 4⟩⟩, .ok ⟨.word "x", ⟨2, 3⟩⟩] = .ok a ∧
      ofTokens 9 [.ok ⟨.symbol .bang, ⟨0, 1⟩⟩, .ok ⟨.word "x", ⟨0, 0⟩⟩] = .ok b ∧
      a.bare = b.bare ∧ ((∀ x ∈ a.doubles, (x == x) = true) → a.sameShape b = true)) ∧
    SameReading
      (fun a b => a.bare = b.bare ∧
        ((∀ x ∈ a.doubles, (x == x) = true) → a.sameShape b = true))
      (ofTokens 9 [.ok ⟨.word "x", ⟨0, 1⟩⟩, .ok ⟨.integer 5, ⟨2, 3⟩⟩])
      (ofTokens 9 [.ok ⟨.word "x", ⟨7, 4⟩⟩, .ok ⟨.integer 5, ⟨0, 0⟩⟩]) := by
  intro pieces
  let ts : List Token := [⟨.symbol .bang, ⟨0, 1⟩⟩, ⟨.word "x", ⟨1, 2⟩⟩,
    ⟨.symbol .lessEqual, ⟨2, 4⟩⟩, ⟨.double (Decimal.nearest 550 (-2)), ⟨4, 9⟩⟩, ⟨.stop, ⟨9, 9⟩⟩]
  have htokens : tokenize "!x<=05.50" = ts.map .ok := rfl
  have hslices : ts.map (fun t => t.span.slice "!x<=05.50") = pieces.map some := rfl
  have hspaced : Spaced pieces "! x\t<=\n 05.50 " :=
    show Spaced pieces ("!" ++ " " ++ ("x" ++ "\t" ++ ("<=" ++ "\n " ++ ("05.50" ++ " " ++
      ("" ++ "" ++ ""))))) from
    .cons rfl nofun (.cons rfl nofun (.cons rfl nofun (.cons rfl nofun
      (.cons rfl (fun _ => rfl) .nil))))
  have hnegation : SameKinds [.ok ⟨.symbol .bang, ⟨7, 4⟩⟩, .ok ⟨.word "x", ⟨2, 3⟩⟩]
      [.ok ⟨.symbol .bang, ⟨0, 1⟩⟩, .ok ⟨.word "x", ⟨0, 0⟩⟩] := .cons rfl (.cons rfl .nil)
  have hkinds : SameKinds [.ok ⟨.word "x", ⟨0, 1⟩⟩, .ok ⟨.integer 5, ⟨2, 3⟩⟩]
      [.ok ⟨.word "x", ⟨7, 4⟩⟩, .ok ⟨.integer 5, ⟨0, 0⟩⟩] := .cons rfl (.cons rfl .nil)
  obtain ⟨hstreams, htexts⟩ := layout_irrelevant
  obtain ⟨pieces', hslices', hread⟩ := htexts "!x<=05.50" ts htokens
  obtain rfl : pieces' = pieces :=
    (List.map_inj_right fun _ _ => Option.some.inj).mp (hslices'.symm.trans hslices)
  obtain ⟨-, hparse⟩ := hread _ hspaced
  exact ⟨⟨ts, htokens, hslices⟩, hspaced,
    ⟨_, _, rfl, rfl, hparse ⟨14, 3⟩ (by decide) (by decide)⟩,
    ⟨_, _, rfl, rfl, hstreams 9 _ _ hnegation⟩, hstreams 9 _ _ hkinds⟩

end Expr

end SeriesQuery
