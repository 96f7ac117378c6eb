/-
A tree and its parts in the tokens it was read from. `Reading` says that a
tree stands on tokens as the parser reads them. Then its place reaches from
the first to the last of them (`Reading.span_eq`), its children stand on
runs of them, one after the other (`Reading.spread`), and so every part of
the tree stands on a run of its own (`Reading.of_part`).
-/
import SeriesQuery.Proofs.Expr.Located
import SeriesQuery.Proofs.Token.Slice

namespace SeriesQuery

open Category

namespace Expr

/-- The trees right below the top of the tree, from left to right. -/
def children : Expr → List Expr
  | literal _ _ | reference _ _ | hasTag _ _ => []
  | list _ items => items
  | binary _ _ _ l r => [l, r]
  | unary _ _ _ a => [a]
  | group _ a => [a]
  | call _ _ args => args
  | letIn _ _ v b => [v, b]
  | tagFilter _ _ _ v => [v]
  | selector _ _ filters => filters

/-- A part of a tree is the tree itself or a part of one of its children. -/
inductive Part : Expr → Expr → Prop
  | self (e : Expr) : Part e e
  | inside {n c e : Expr} : c ∈ e.children → Part n c → Part n e

/-- The tree is read from the tokens, nested no deeper than `most`. -/
def Reading (most : Nat) (e : Expr) (ts : List Token) : Prop :=
  ∃ p : Phrase (atLeast Level.letBody), p.nesting ≤ most ∧ p.Located ts e

/-- The trees are read from runs of the tokens, one after the other. -/
inductive Spread (most : Nat) : List Expr → List Token → Prop
  | nil (ts : List Token) : Spread most [] ts
  | skip (t : Token) {es : List Expr} {ts : List Token} : Spread most es ts →
      Spread most es (t :: ts)
  | cons {e : Expr} {es : List Expr} {ts us : List Token} : Reading most e ts →
      Spread most es us → Spread most (e :: es) (ts ++ us)

end Expr

namespace Phrase

open SeriesQuery.Expr

/-- What holds together at a level stands at its places at every lower one. -/
theorem Located.lower {m n : Nat} (hmn : m ≤ n) {p : Phrase (atLeast n)} {ts : List Token} {e : Expr}
    (h : p.Located ts e) : ∃ q : Phrase (atLeast m), q.nesting = p.nesting ∧ q.Located ts e := by
  induction hmn with
  | refl => exact ⟨p, rfl, h⟩
  | step _ ih => exact ih (.lift h)

theorem Located.reading {n : Nat} {p : Phrase (atLeast n)} {ts : List Token} {e : Expr}
    (h : p.Located ts e) {most : Nat} (hp : p.nesting ≤ most) : Reading most e ts := by
  obtain ⟨q, hq, h⟩ := h.lower (Nat.zero_le n)
  exact ⟨q, hq ▸ hp, h⟩

theorem Located.ne_nil {n : Nat} {p : Phrase (atLeast n)} {ts : List Token} {e : Expr}
    (h : p.Located ts e) : ts ≠ [] := by
  rintro rfl
  obtain ⟨k, ks, hk, _⟩ := p.kinds_eq_cons (by simp)
  have := h.kinds
  rw [hk] at this
  cases this

end Phrase

/-! ## Places -/

/-- The range of a row reaches from the range of its first tokens to that of its last ones. -/
theorem Row.ends {ts vs : List Token} {s : Span} (us : List Token) (h : Row (ts ++ (us ++ vs)) s) (hts : ts ≠ [])
    (hvs : vs ≠ []) : ∃ a b, Row ts a ∧ Row vs b ∧ a.stop ≤ b.start ∧ a.join b = s := by
  obtain ⟨a, b, ha, hb, hab, rfl⟩ := h.split hts (by simp [hvs])
  have halt := ha.lt
  have hblt := hb.lt
  cases us with
  | nil =>
    refine ⟨a, b, ha, hb, hab, ?_⟩
    simp only [Span.join, Span.mk.injEq]
    omega
  | cons u us =>
    obtain ⟨b₁, b₂, hb₁, hb₂, hb₁₂, rfl⟩ := hb.split (List.cons_ne_nil u us) hvs
    have hb₁lt := hb₁.lt
    have hb₂lt := hb₂.lt
    simp only at hab
    refine ⟨a, b₂, ha, hb₂, by omega, ?_⟩
    simp only [Span.join, Span.mk.injEq]
    omega

theorem Row.ends_of_single {t : Token} {vs : List Token} {s : Span} (us : List Token)
    (h : Row (t :: (us ++ vs)) s) (hvs : vs ≠ []) : ∃ b, Row vs b ∧ t.span.join b = s := by
  obtain ⟨a, b, ha, hb, _, hjoin⟩ := Row.ends us (show Row ([t] ++ (us ++ vs)) s from h) (by simp) hvs
  rw [ha.span_eq_of_singleton] at hjoin
  exact ⟨b, hb, hjoin⟩

theorem Row.ends_of_singles {t u : Token} {s : Span} (us : List Token)
    (h : Row (t :: (us ++ [u])) s) : t.span.join u.span = s := by
  obtain ⟨b, hb, hjoin⟩ := h.ends_of_single us (by simp)
  rwa [hb.span_eq_of_singleton] at hjoin

/-- A tree reaches from the first of its tokens to the last. -/
theorem Phrase.Located.span_eq : {n : Nat} → {p : Phrase (atLeast n)} → {ts : List Token} →
    {e : Expr} → {s : Span} → p.Located ts e → Row ts s → e.span = s
  | _, _, _, _, _, @Located.letIn _ _ _ _ _ _ u a w ts us _ _ _ _ _ _ _ hb, hrow => by
    have hsplit : u :: a :: (ts ++ w :: us) = (u :: a :: (ts ++ [w])) ++ us := by simp
    rw [hsplit] at hrow
    obtain ⟨b, hrow, hjoin⟩ := hrow.ends_of_single _ hb.ne_nil
    rw [Expr.span, hb.span_eq hrow, hjoin]
  | _, _, _, _, _, .lift h, hrow => h.span_eq hrow
  | _, _, _, _, _, .binary _ hl _ hr, hrow => by
    obtain ⟨a, b, ha, hb, _, hjoin⟩ := hrow.ends [_] hl.ne_nil hr.ne_nil
    rw [Expr.span, hl.span_eq ha, hr.span_eq hb, hjoin]
  | _, _, _, _, _, .tagged _ _ _ hv, hrow => by
    obtain ⟨b, hb, hjoin⟩ := hrow.ends_of_single [_] hv.ne_nil
    rw [Expr.span, hv.span_eq hb, hjoin]
  | _, _, _, _, _, .signed _ _ h, hrow => by
    obtain ⟨b, hb, hjoin⟩ := hrow.ends_of_single [] h.ne_nil
    rw [Expr.span, h.span_eq hb, hjoin]
  | _, _, _, _, _, .literal _ _, hrow => hrow.span_eq_of_singleton.symm
  | _, _, _, _, _, .reference _ _, hrow => hrow.span_eq_of_singleton.symm
  | _, _, _, _, _, .hasTag _ _ _, hrow => hrow.ends_of_singles []
  | _, _, _, _, _, .group _ _ _ _, hrow => hrow.ends_of_singles _
  | _, _, _, _, _, .call _ _ _ _ _, hrow => hrow.ends_of_singles (_ :: _)
  | _, _, _, _, _, .selector _ _ _ _, hrow => hrow.ends_of_singles _
  | _, _, _, _, _, .keyed _ _ _ _ _, hrow => hrow.ends_of_singles (_ :: _)
  | _, _, _, _, _, .list _ _ _ _, hrow => hrow.ends_of_singles _

namespace Expr

variable {most most' : Nat} {n e : Expr} {es : List Expr} {ts us : List Token} {s : Span}

theorem Reading.mono (h : Reading most e ts) (hm : most ≤ most') : Reading most' e ts := by
  obtain ⟨p, hp, h⟩ := h
  exact ⟨p, Nat.le_trans hp hm, h⟩

theorem Reading.ne_nil (h : Reading most e ts) : ts ≠ [] := by
  obtain ⟨p, _, h⟩ := h
  exact h.ne_nil

theorem Reading.span_eq (h : Reading most e ts) (hrow : Row ts s) : e.span = s := by
  obtain ⟨p, _, h⟩ := h
  exact h.span_eq hrow

/-! ## Children -/

namespace Spread

theorem mono (h : Spread most es ts) (hm : most ≤ most') : Spread most' es ts := by
  induction h with
  | nil ts => exact .nil ts
  | skip t _ ih => exact .skip t ih
  | cons he _ ih => exact .cons (he.mono hm) ih

theorem single (h : Reading most e ts) : Spread most [e] ts := by
  have hcons : Spread most [e] (ts ++ []) := .cons h (.nil [])
  rwa [List.append_nil] at hcons

theorem append (h : Spread most es ts) (us : List Token) : Spread most es (ts ++ us) := by
  induction h with
  | nil ts => exact .nil _
  | skip t _ ih => exact .skip t ih
  | cons he _ ih => exact List.append_assoc .. ▸ .cons he ih

/-- Every one of the trees is read from a run of the tokens. -/
theorem exists_run (h : Spread most es ts) (he : e ∈ es) :
    ∃ before run after, ts = before ++ (run ++ after) ∧ Reading most e run := by
  induction h with
  | nil => cases he
  | skip t _ ih =>
    obtain ⟨before, run, after, rfl, hrun⟩ := ih he
    exact ⟨t :: before, run, after, rfl, hrun⟩
  | @cons _ _ ts us hfirst _ ih =>
    obtain rfl | he := List.mem_cons.mp he
    · exact ⟨[], ts, us, rfl, hfirst⟩
    · obtain ⟨before, run, after, rfl, hrun⟩ := ih he
      exact ⟨ts ++ before, run, after, (List.append_assoc ..).symm, hrun⟩

theorem eq_nil (h : Spread most es []) : es = [] := by
  generalize hts : [] = ts at h
  cases h with
  | nil => rfl
  | skip => cases hts
  | cons he => exact absurd (List.append_eq_nil_iff.mp hts.symm).1 he.ne_nil

/-- The trees lie in the range of the tokens, one after the other. -/
theorem ordered (h : Spread most es ts) (hrow : Row ts s) :
    (∀ e ∈ es, s.start ≤ e.span.start ∧ e.span.stop ≤ s.stop) ∧
      es.Pairwise fun a b => a.span.stop ≤ b.span.start := by
  induction h generalizing s with
  | nil => exact ⟨nofun, .nil⟩
  | skip t h ih =>
    cases hrow with
    | one =>
      rw [h.eq_nil]
      exact ⟨nofun, .nil⟩
    | cons hlt hle hrow =>
      obtain ⟨hwithin, horder⟩ := ih hrow
      refine ⟨fun e he => ?_, horder⟩
      obtain ⟨hstart, hstop⟩ := hwithin e he
      exact ⟨by simp only; omega, hstop⟩
  | @cons e es ts us he h ih =>
    by_cases hus : us = []
    · subst hus
      rw [List.append_nil] at hrow
      rw [h.eq_nil]
      refine ⟨fun e' he' => ?_, List.pairwise_singleton ..⟩
      rw [List.mem_singleton.mp he', he.span_eq hrow]
      exact ⟨Nat.le_refl _, Nat.le_refl _⟩
    · obtain ⟨a, b, ha, hb, hab, rfl⟩ := hrow.split he.ne_nil hus
      have hspan := he.span_eq ha
      have halt := ha.lt
      have hblt := hb.lt
      obtain ⟨hwithin, horder⟩ := ih hb
      refine ⟨fun e' he' => ?_, List.pairwise_cons.mpr ⟨fun e' he' => ?_, horder⟩⟩
      · obtain rfl | he' := List.mem_cons.mp he'
        · rw [hspan]
          exact ⟨Nat.le_refl _, by simp only; omega⟩
        · obtain ⟨hstart, hstop⟩ := hwithin e' he'
          exact ⟨by simp only; omega, hstop⟩
      · obtain ⟨hstart, _⟩ := hwithin e' he'
        rw [hspan]
        omega

end Spread

end Expr

namespace Phrase.Located

open SeriesQuery.Expr

/-- The trees that make up what a phrase of the category stands for. -/
def parts : (c : Category) → c.Tree → List Expr
  | atLeast _, e => Expr.children e
  | oneOrMore, es => es
  | anyNumber, es => es

/-- What makes up a phrase's trees is read from runs of its tokens, one after the other. -/
theorem spread {c : Category} {p : Phrase c} {ts : List Token} {e : c.Tree} (h : p.Located ts e) :
    Spread p.nesting (parts c e) ts := by
  induction h with
  | @letIn _ _ _ v b _ _ _ _ _ _ _ _ _ _ _ hv _ hb =>
    have hvalue : v.nesting ≤ max v.nesting b.nesting + 1 := by omega
    have hbody : b.nesting ≤ max v.nesting b.nesting + 1 := by omega
    exact .skip _ (.skip _ (.skip _ (.cons (hv.reading hvalue)
      (.skip _ (.single (hb.reading hbody))))))
  | lift _ ih => exact ih
  | @binary _ _ _ l r _ _ _ _ _ hl _ hr =>
    have hright : r.nesting ≤ max l.nesting (l.spine + r.nesting + 2) := by omega
    exact .cons (hl.reading (Nat.le_max_left ..)) (.skip _ (.single (hr.reading hright)))
  | tagged _ _ _ hv => exact .skip _ (.skip _ (.single (hv.reading (Nat.le_add_right ..))))
  | signed _ _ h => exact .skip _ (.single (h.reading (Nat.le_succ _)))
  | literal | reference | hasTag => exact .nil _
  | group _ _ h => exact .skip _ (.append (.single (h.reading (Nat.le_succ _))) _)
  | call _ _ _ _ _ ih => exact .skip _ (.skip _ ((ih.mono (Nat.le_succ _)).append _))
  | selector _ _ _ _ ih => exact .skip _ ((ih.mono (Nat.le_succ _)).append _)
  | keyed _ _ _ _ _ ih => exact .skip _ (.skip _ ((ih.mono (Nat.le_succ _)).append _))
  | list _ _ _ _ ih => exact .skip _ ((ih.mono (Nat.le_succ _)).append _)
  | one h => exact .single (h.reading (Nat.le_refl _))
  | more h _ _ _ ih =>
    exact .cons (h.reading (Nat.le_max_left ..)) (.skip _ (ih.mono (Nat.le_max_right ..)))
  | none => exact .nil []
  | some _ ih => exact ih

end Phrase.Located

namespace Expr

variable {most : Nat} {n e l r a : Expr} {ts : List Token} {s opSpan : Span}

theorem Reading.spread (h : Reading most e ts) : Spread most e.children ts := by
  obtain ⟨p, hp, h⟩ := h
  exact h.spread.mono hp

/-- Every part of a tree is read from a run of its tokens. -/
theorem Reading.of_part (hn : Part n e) (h : Reading most e ts) :
    ∃ before run after, ts = before ++ (run ++ after) ∧ Reading most n run := by
  induction hn generalizing ts with
  | self => exact ⟨[], ts, [], by simp, h⟩
  | inside hc _ ih =>
    obtain ⟨before, run, after, rfl, hrun⟩ := h.spread.exists_run hc
    obtain ⟨before', run', after', rfl, hrun'⟩ := ih hrun
    exact ⟨before ++ before', run', after' ++ after, by simp, hrun'⟩

end Expr

/-! ## Operators -/

namespace Phrase.Located

open SeriesQuery.Expr

/-- The token of a binary operator stands between its operands. -/
theorem of_binary : {n : Nat} → {p : Phrase (atLeast n)} → {ts : List Token} → {op : BinaryOp} →
    {s opSpan : Span} → {l r : Expr} → p.Located ts (.binary s op opSpan l r) →
    ∃ (t : Token) (us vs : List Token), ts = us ++ t :: vs ∧ t.kind = op.kind ∧
      t.span = opSpan ∧ Reading p.nesting l us ∧ Reading p.nesting r vs
  | _, _, _, _, _, _, _, _, .lift h => h.of_binary
  | _, _, _, _, _, _, _, _, @binary _ _ _ l r _ _ _ _ _ hl ht hr =>
    have hright : r.nesting ≤ max l.nesting (l.spine + r.nesting + 2) := by omega
    ⟨_, _, _, rfl, ht, rfl, hl.reading (Nat.le_max_left ..), hr.reading hright⟩

/-- The token of a unary operator stands before its operand. -/
theorem of_unary : {n : Nat} → {p : Phrase (atLeast n)} → {ts : List Token} → {op : UnaryOp} →
    {s opSpan : Span} → {a : Expr} → p.Located ts (.unary s op opSpan a) →
    ∃ (t : Token) (us : List Token) (sign : Sign), ts = t :: us ∧ sign.op = op ∧
      t.kind = sign.kind ∧ t.span = opSpan ∧ Reading p.nesting a us
  | _, _, _, _, _, _, _, .lift h => h.of_unary
  | _, _, _, _, _, _, _, .signed _ ht h =>
    ⟨_, _, _, rfl, rfl, ht, rfl, h.reading (Nat.le_succ _)⟩

end Phrase.Located

end SeriesQuery
