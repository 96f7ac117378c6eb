/-
Trees at their places. `Located` relates a phrase and tokens with places to
the tree that stands there: every node reaches over the tokens it is made of.
There is one such tree (`Located.unique`).
-/
import SeriesQuery.Proofs.Expr.Phrase

namespace SeriesQuery

namespace Phrase

open Category

/-! ## Trees on tokens -/

/-- The tree, or the trees, that the phrase stands for on these tokens. -/
inductive Located : {c : Category} → Phrase c → List Token → c.Tree → Prop
  | letIn {n : Nat} (top : n = Level.letBody) {name : Name} {v b : Phrase (atLeast n)}
      {t u a s : Token} {ts us : List Token} {value body : Expr} : t.kind = .word "let" →
      u.kind = name.kind → a.kind = .symbol .assign → Located v ts value →
      s.kind = .symbol .semicolon → Located b us body →
      Located (.letIn top name v b) (t :: u :: a :: (ts ++ s :: us))
        (.letIn (t.span.join body.span) name.1 value body)
  | lift {n : Nat} {p : Phrase (atLeast (n + 1))} {ts : List Token} {e : Expr} : Located p ts e →
      Located (.lift p : Phrase (atLeast n)) ts e
  | binary {n : Nat} {op : BinaryOp} (at_ : op.level = n) {l : Phrase (atLeast n)}
      {r : Phrase (atLeast (n + 1))} {t : Token} {ts us : List Token} {left right : Expr} :
      Located l ts left → t.kind = op.kind → Located r us right →
      Located (.binary op at_ l r) (ts ++ t :: us)
        (.binary (left.span.join right.span) op t.span left right)
  | tagged {n : Nat} (comparison : n = Level.comparison) {name : Name} {op : TagOp}
      {v : Phrase (atLeast (n + 1))} {t u : Token} {ts : List Token} {value : Expr} :
      t.kind = name.kind → u.kind = op.kind → Located v ts value →
      Located (.tagged comparison name op v) (t :: u :: ts)
        (.tagFilter (t.span.join value.span) name.1 op value)
  | signed {n : Nat} (unary : n = Level.unary) {sign : Sign} {p : Phrase (atLeast n)} {t : Token}
      {ts : List Token} {e : Expr} : t.kind = sign.kind → Located p ts e →
      Located (.signed unary sign p) (t :: ts) (.unary (t.span.join e.span) sign.op t.span e)
  | literal {n : Nat} (primary : n = Level.primary) {v : Literal} {t : Token} : t.kind = v.kind →
      Located (.literal primary v) [t] (.literal t.span v)
  | reference {n : Nat} (primary : n = Level.primary) {name : Name} {t : Token} :
      t.kind = name.kind → Located (.reference primary name) [t] (.reference t.span name.1)
  | hasTag {n : Nat} (primary : n = Level.primary) {tag : Name} {t u : Token} :
      t.kind = .symbol .plus → u.kind = tag.kind →
      Located (.hasTag primary tag) [t, u] (.hasTag (t.span.join u.span) tag.1)
  | group {n : Nat} (primary : n = Level.primary) {p : Phrase (atLeast Level.letBody)} {t u : Token}
      {ts : List Token} {e : Expr} : t.kind = .symbol .leftParen → Located p ts e →
      u.kind = .symbol .rightParen →
      Located (.group primary p) (t :: (ts ++ [u])) (.group (t.span.join u.span) e)
  | call {n : Nat} (primary : n = Level.primary) {name : Name} {p : Phrase anyNumber}
      {t o u : Token} {ts : List Token} {es : List Expr} : t.kind = name.kind →
      o.kind = .symbol .leftParen → Located p ts es → u.kind = .symbol .rightParen →
      Located (.call primary name p) (t :: o :: (ts ++ [u])) (.call (t.span.join u.span) name.1 es)
  | selector {n : Nat} (primary : n = Level.primary) {p : Phrase anyNumber} {o u : Token}
      {ts : List Token} {es : List Expr} : o.kind = .symbol .leftBrace → Located p ts es →
      u.kind = .symbol .rightBrace →
      Located (.selector primary .none p) (o :: (ts ++ [u])) (.selector (o.span.join u.span) .none es)
  | keyed {n : Nat} (primary : n = Level.primary) {key : Name} {p : Phrase anyNumber}
      {t o u : Token} {ts : List Token} {es : List Expr} : t.kind = key.kind →
      o.kind = .symbol .leftBrace → Located p ts es → u.kind = .symbol .rightBrace →
      Located (.selector primary (.some key) p) (t :: o :: (ts ++ [u]))
        (.selector (t.span.join u.span) (.some key.1) es)
  | list {n : Nat} (primary : n = Level.primary) {p : Phrase anyNumber} {o u : Token}
      {ts : List Token} {es : List Expr} : o.kind = .symbol .leftBracket → Located p ts es →
      u.kind = .symbol .rightBracket →
      Located (.list primary p) (o :: (ts ++ [u])) (.list (o.span.join u.span) es)
  | one {p : Phrase (atLeast Level.letBody)} {ts : List Token} {e : Expr} : Located p ts e →
      Located (.one p) ts [e]
  | more {p : Phrase (atLeast Level.letBody)} {q : Phrase oneOrMore} {t : Token}
      {ts us : List Token} {e : Expr} {es : List Expr} : Located p ts e →
      t.kind = .symbol .comma → Located q us es → Located (.more p q) (ts ++ t :: us) (e :: es)
  | none : Located .none [] []
  | some {p : Phrase oneOrMore} {ts : List Token} {es : List Expr} : Located p ts es →
      Located (.some p) ts es

namespace Located

variable {c : Category} {p : Phrase c} {ts : List Token} {e e' : c.Tree}

theorem kinds (h : Located p ts e) : ts.map Token.kind = p.kinds := by
  induction h <;> simp [Phrase.kinds, *]

/-- The tree of the phrase, without places, for each category. -/
def bareIn : (c : Category) → c.Tree → c.Tree
  | atLeast _, e => Expr.bare e
  | oneOrMore, es => Expr.bares es
  | anyNumber, es => Expr.bares es

theorem bare (h : Located p ts e) : bareIn c e = p.tree := by
  induction h <;> simp_all [bareIn, Phrase.tree, Expr.bare, Expr.bares]

theorem length_eq {us : List Token} {e' : c.Tree} (h : Located p ts e) (h' : Located p us e') :
    ts.length = us.length := by
  rw [← List.length_map Token.kind, h.kinds, ← h'.kinds, List.length_map]

/-- Tokens before and after one are known when the first of them are those of a phrase. -/
theorem append_inj {us vs ws : List Token} {t u : Token} {e' : c.Tree} (h : Located p ts e)
    (h' : Located p us e') (heq : ts ++ t :: vs = us ++ u :: ws) : ts = us ∧ t = u ∧ vs = ws := by
  obtain ⟨hts, htail⟩ := List.append_inj heq (h.length_eq h')
  exact ⟨hts, List.cons.inj htail⟩

/-- A phrase stands for one tree on its tokens. -/
theorem unique (h : Located p ts e) (h' : Located p ts e') : e = e' := by
  induction h with
  | letIn _ _ _ _ hv _ _ ihv ihb =>
    generalize hts : _ :: _ = us at h'
    cases h' with
    | letIn _ _ _ _ hv' _ hb' =>
      simp only [List.cons.injEq] at hts
      obtain ⟨rfl, rfl, rfl, hts⟩ := hts
      obtain ⟨rfl, rfl, rfl⟩ := hv.append_inj hv' hts
      rw [ihv hv', ihb hb']
  | lift _ ih =>
    cases h' with
    | lift h' => exact ih h'
  | binary _ hl _ _ ihl ihr =>
    generalize hts : (_ ++ _ :: _ : List Token) = us at h'
    cases h' with
    | binary _ hl' _ hr' =>
      obtain ⟨rfl, rfl, rfl⟩ := hl.append_inj hl' hts
      rw [ihl hl', ihr hr']
  | tagged _ _ _ _ ih =>
    cases h' with
    | tagged _ _ _ h' => rw [ih h']
  | signed _ _ _ ih =>
    cases h' with
    | signed _ _ h' => rw [ih h']
  | literal => cases h'; rfl
  | reference => cases h'; rfl
  | hasTag => cases h'; rfl
  | group _ _ h _ ih =>
    generalize hts : _ :: _ = us at h'
    cases h' with
    | group _ _ h' _ =>
      obtain ⟨rfl, htail⟩ := List.cons.inj hts
      obtain ⟨rfl, rfl, -⟩ := h.append_inj h' htail
      rw [ih h']
  | call _ _ _ h _ ih =>
    generalize hts : _ :: _ = us at h'
    cases h' with
    | call _ _ _ h' _ =>
      simp only [List.cons.injEq] at hts
      obtain ⟨rfl, rfl, htail⟩ := hts
      obtain ⟨rfl, rfl, -⟩ := h.append_inj h' htail
      rw [ih h']
  | selector _ _ h _ ih =>
    generalize hts : _ :: _ = us at h'
    cases h' with
    | selector _ _ h' _ =>
      obtain ⟨rfl, htail⟩ := List.cons.inj hts
      obtain ⟨rfl, rfl, -⟩ := h.append_inj h' htail
      rw [ih h']
  | keyed _ _ _ h _ ih =>
    generalize hts : _ :: _ = us at h'
    cases h' with
    | keyed _ _ _ h' _ =>
      simp only [List.cons.injEq] at hts
      obtain ⟨rfl, rfl, htail⟩ := hts
      obtain ⟨rfl, rfl, -⟩ := h.append_inj h' htail
      rw [ih h']
  | list _ _ h _ ih =>
    generalize hts : _ :: _ = us at h'
    cases h' with
    | list _ _ h' _ =>
      obtain ⟨rfl, htail⟩ := List.cons.inj hts
      obtain ⟨rfl, rfl, -⟩ := h.append_inj h' htail
      rw [ih h']
  | one _ ih =>
    cases h' with
    | one h' => rw [ih h']
  | more hp _ _ ihp ihq =>
    generalize hts : (_ ++ _ :: _ : List Token) = us at h'
    cases h' with
    | more hp' _ hq' =>
      obtain ⟨rfl, rfl, rfl⟩ := hp.append_inj hp' hts
      rw [ihp hp', ihq hq']
  | none => cases h'; rfl
  | some _ ih =>
    cases h' with
    | some h' => exact ih h'

end Located

end Phrase

end SeriesQuery
