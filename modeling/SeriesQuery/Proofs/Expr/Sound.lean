/-
Whatever is read is derived by the grammar. An expression read at some
power spans the tokens of a phrase of the level that power asks for, and
stops where no operator of that power stands (`expression_sound`). A chain
keeps its left side as a phrase that every operator it may still take can
have on the left.
-/
import SeriesQuery.Proofs.Expr.Complete

namespace SeriesQuery

open Category

namespace Cursor

/-- Between the two places stand tokens of these kinds. -/
def Takes (c : Cursor) (kinds : List Token.Kind) (c' : Cursor) : Prop :=
  ∃ ts : List Token, ts.map Token.kind = kinds ∧ c.rest = ts.map .ok ++ c'.rest

theorem Takes.refl (c : Cursor) : c.Takes [] c := ⟨[], rfl, rfl⟩

theorem Takes.trans {c c' c'' : Cursor} {ks ks' : List Token.Kind} (h : c.Takes ks c')
    (h' : c'.Takes ks' c'') : c.Takes (ks ++ ks') c'' := by
  obtain ⟨ts, rfl, hc⟩ := h
  obtain ⟨ts', rfl, hc'⟩ := h'
  exact ⟨ts ++ ts', List.map_append, by rw [hc, hc', List.map_append, List.append_assoc]⟩

theorem Takes.cons {c c' c'' : Cursor} {k : Token.Kind} {ks : List Token.Kind}
    (h : c.Takes [k] c') (h' : c'.Takes ks c'') : c.Takes (k :: ks) c'' := h.trans h'

/-- A token other than the end is really there when it is taken. -/
theorem takes_of_next {c c' : Cursor} {t : Token} (h : c.next = .ok (t, c')) (ht : t.kind ≠ .stop) :
    c.Takes [t.kind] c' := by
  obtain ⟨rest, stop⟩ := c
  cases rest with
  | nil => cases h; exact absurd rfl ht
  | cons item rest =>
    cases item with
    | error f => cases h
    | ok t => cases h; exact ⟨[t], rfl, rfl⟩

theorem peek_eq_of_next {c c' : Cursor} {t : Token} (h : c.next = .ok (t, c')) :
    c.peek = .ok t := by
  obtain ⟨rest, stop⟩ := c
  cases rest with
  | nil => cases h; rfl
  | cons item rest =>
    cases item with
    | error f => cases h
    | ok t' => cases h; rfl

end Cursor

theorem Token.Kind.eq_of_isSymbol {k : Token.Kind} {s : Symbol} (h : k.isSymbol s = true) :
    k = .symbol s := by
  cases k with
  | symbol s' => simp only [isSymbol, beq_iff_eq] at h; rw [h]
  | _ => cases h

/-- The token a connective is written with. -/
def Connective.kind : Connective → Token.Kind
  | binary op => op.kind
  | tag op => op.kind

theorem Connective.kind_of_ofKind? {k : Token.Kind} {i : Connective} (h : ofKind? k = some i) :
    k = i.kind := by
  unfold ofKind? at h
  split at h <;> cases h <;> rfl

theorem Connective.kind_ne_stop (i : Connective) : i.kind ≠ .stop := by
  cases i with
  | binary op => cases op <;> nofun
  | tag op => cases op <;> nofun

/-- What holds together at a level does so at every lower one. -/
theorem Phrase.exists_lower {m n : Nat} (hmn : m ≤ n) (p : Phrase (atLeast n)) :
    ∃ q : Phrase (atLeast m), q.kinds = p.kinds ∧ q.tree = p.tree ∧ q.spine = p.spine ∧
      q.nesting = p.nesting := by
  induction hmn with
  | refl => exact ⟨p, rfl, rfl, rfl, rfl⟩
  | step _ ih => exact ih (.lift p)

/-- Only a name stands for a reference. -/
theorem Phrase.of_tree_reference {w : String} : {n : Nat} → (p : Phrase (atLeast n)) →
    p.tree = .reference Expr.nowhere w →
    ∃ name : Name, name.1 = w ∧ p.kinds = [name.kind] ∧ p.spine = 0
  | _, .lift p, h => p.of_tree_reference h
  | _, .reference _ name, h => by
    simp only [tree, Expr.reference.injEq, true_and] at h
    exact ⟨name, h, rfl, rfl⟩
  | _, .letIn .., h | _, .binary .., h | _, .tagged .., h | _, .signed .., h | _, .literal .., h
  | _, .hasTag .., h | _, .group .., h | _, .call .., h | _, .selector .., h | _, .list .., h => by
    simp only [tree, reduceCtorEq] at h

namespace Expr

/-! ## Single steps -/

theorem expectSymbol_takes {s : Symbol} {c c' : Cursor} {t : Token}
    (h : expectSymbol s c = .ok (t, c')) : c.Takes [.symbol s] c' := by
  obtain ⟨⟨t, c₁⟩, hn, h⟩ := bind_ok_iff.mp h
  dsimp only at h
  split at h
  · rename_i hs
    cases h
    rw [← Token.Kind.eq_of_isSymbol hs]
    exact Cursor.takes_of_next hn (by rw [Token.Kind.eq_of_isSymbol hs]; nofun)
  · cases h

theorem expectName_takes {expected : Expected} {c c' : Cursor} {w : String} {span : Span}
    (h : expectName expected c = .ok ((w, span), c')) :
    ∃ name : Name, name.1 = w ∧ c.Takes [name.kind] c' := by
  obtain ⟨⟨t, c₁⟩, hn, h⟩ := bind_ok_iff.mp h
  dsimp only at h
  split at h
  · rename_i w hw
    split at h
    · cases h
    · rename_i hr
      cases h
      exact ⟨⟨w, by simpa using hr⟩, rfl, hw ▸ Cursor.takes_of_next hn (by rw [hw]; nofun)⟩
  · cases h

/-- The operator met, if tight enough, is the next token. -/
theorem operator?_eq_some {least : Nat} {c : Cursor} {i : Connective}
    (h : operator? least c = .ok (some i)) :
    ∃ t, c.peek = .ok t ∧ Connective.ofKind? t.kind = some i ∧ least ≤ i.leftPower := by
  obtain ⟨t, ht, h⟩ := bind_ok_iff.mp h
  cases hi : Connective.ofKind? t.kind with
  | none => simp [hi] at h
  | some j =>
    simp only [hi, Option.filter, Except.ok.injEq, Option.ite_none_right_eq_some, decide_eq_true_eq,
      Option.some.injEq] at h
    obtain ⟨hl, rfl⟩ := h
    exact ⟨t, ht, hi, hl⟩

/-- Where no operator is tight enough, none is for a higher power. -/
theorem operator?_le_of_none {least least' : Nat} {c : Cursor} {i : Connective}
    (h : operator? least c = .ok none) (h' : operator? least' c = .ok (some i)) :
    i.leftPower < least := by
  obtain ⟨t, ht, hi, _⟩ := operator?_eq_some h'
  simp only [operator?, ht, ok_bind, hi, Option.filter, Except.ok.injEq, ite_eq_right_iff,
    decide_eq_true_eq, reduceCtorEq, imp_false] at h
  omega

/-! ## Readings -/

/-- The least level of what is read at a power. -/
def levelOf (least : Nat) : Nat := if least = 0 then Level.letBody else least / 2 + 1

/-- Between the two places a phrase of the category can be read, not nested deeper than `most`. -/
def Derives (category : Category) (most : Nat) (c : Cursor) (tree : category.Tree) (c' : Cursor) :
    Prop :=
  ∃ p : Phrase category, p.nesting ≤ most ∧ p.tree = tree ∧ c.Takes p.kinds c'

/-- What an operand reader reads is derived, and no operator it should have taken follows. -/
def Operand.Sound (operand : Operand) (most : Nat) : Prop :=
  ∀ {least c e c'}, least ≤ unaryPower → operand least c = .ok (e, c') →
    Derives (atLeast (levelOf least)) most c e.bare c' ∧ operator? least c' = .ok none

/-- A left side that every operator which may still be taken can have on its left. Of the budget
for the whole, `most`, what is left over is `budget`. -/
structure LeftSide (least most budget : Nat) (c : Cursor) (e : Expr) (c' : Cursor) (n : Nat)
    (p : Phrase (atLeast n)) : Prop where
  level : levelOf least ≤ n
  nesting : p.nesting ≤ most
  spine : budget + p.spine < most
  tree : p.tree = e.bare
  takes : c.Takes p.kinds c'
  loose : ∀ i, operator? least c' = .ok (some i) → i.level ≤ n

variable {operand : Operand} {most : Nat}

theorem Operand.Sound.whole (hs : operand.Sound most) {c c' : Cursor} {e : Expr}
    (h : operand 0 c = .ok (e, c')) :
    Derives (atLeast Level.letBody) most c e.bare c' ∧ operator? 0 c' = .ok none :=
  hs (Nat.zero_le _) h

theorem Operand.Sound.signed (hs : operand.Sound most) {c c' : Cursor} {e : Expr}
    (h : operand unaryPower c = .ok (e, c')) :
    Derives (atLeast Level.unary) most c e.bare c' ∧ operator? unaryPower c' = .ok none :=
  hs (Nat.le_refl _) h

theorem items_derives (hs : operand.Sound most) {close : Symbol} {fuel : Nat} {c c' : Cursor}
    {es : List Expr} {span : Span} (h : items operand close fuel c = .ok ((es, span), c')) :
    ∃ m, Derives oneOrMore most c (bares es) m ∧ m.Takes [.symbol close] c' := by
  induction fuel generalizing c es with
  | zero => cases h
  | succ fuel ih =>
    obtain ⟨⟨e, c₁⟩, he, h⟩ := bind_ok_iff.mp h
    obtain ⟨⟨t, c₂⟩, ht, h⟩ := bind_ok_iff.mp h
    obtain ⟨⟨p, hnest, htree, htake⟩, _⟩ := hs.whole he
    dsimp only at h
    split at h
    · rename_i hcomma
      obtain ⟨⟨⟨es, span⟩, c₃⟩, hes, h⟩ := bind_ok_iff.mp h
      cases h
      obtain ⟨m, ⟨q, hqnest, hqtree, hqtake⟩, hm⟩ := ih hes
      have htake' : c₁.Takes [.symbol .comma] c₂ := by
        rw [← Token.Kind.eq_of_isSymbol hcomma]
        exact Cursor.takes_of_next ht (by rw [Token.Kind.eq_of_isSymbol hcomma]; simp)
      exact ⟨m, ⟨.more p q, Nat.max_le.mpr ⟨hnest, hqnest⟩,
        by simp only [Phrase.tree, htree, hqtree, bares], htake.trans (htake'.cons hqtake)⟩, hm⟩
    · split at h
      · rename_i hclose
        cases h
        refine ⟨c₁, ⟨.one p, hnest, by simp only [Phrase.tree, htree, bares], htake⟩, ?_⟩
        rw [← Token.Kind.eq_of_isSymbol hclose]
        exact Cursor.takes_of_next ht (by rw [Token.Kind.eq_of_isSymbol hclose]; simp)
      · cases h

theorem sequence_derives (hs : operand.Sound most) {close : Symbol} {c c' : Cursor}
    {es : List Expr} {span : Span} (h : sequence operand close c = .ok ((es, span), c')) :
    ∃ m, Derives anyNumber most c (bares es) m ∧ m.Takes [.symbol close] c' := by
  obtain ⟨t, ht, h⟩ := bind_ok_iff.mp h
  split at h
  · rename_i hclose
    obtain ⟨⟨t', c₁⟩, hn, h⟩ := bind_ok_iff.mp h
    cases h
    obtain rfl : t = t' := by
      have := Cursor.peek_eq_of_next hn
      rw [ht] at this
      exact Except.ok.inj this
    refine ⟨c, ⟨.none, Nat.zero_le _, rfl, .refl c⟩, ?_⟩
    rw [← Token.Kind.eq_of_isSymbol hclose]
    exact Cursor.takes_of_next hn (by rw [Token.Kind.eq_of_isSymbol hclose]; nofun)
  · obtain ⟨m, ⟨p, hnest, htree, htake⟩, hm⟩ := items_derives hs h
    exact ⟨m, ⟨.some p, hnest, htree, htake⟩, hm⟩

/-- No operator binds as tightly as a primary or a sign. -/
theorem leftSide_of_tight {least n : Nat} {c c' : Cursor} {e : Expr} {p : Phrase (atLeast n)}
    (hl : least ≤ unaryPower) (hn : Level.unary ≤ n) (hnest : p.nesting ≤ most + 1)
    (hspine : p.spine = 0) (htree : p.tree = e.bare) (htake : c.Takes p.kinds c') :
    LeftSide least (most + 1) most c e c' n p where
  level := by
    refine Nat.le_trans ?_ hn
    simp only [levelOf, unaryPower, Level.unary, Level.letBody] at hl ⊢
    split <;> omega
  nesting := hnest
  spine := by omega
  tree := htree
  takes := htake
  loose i _ := Nat.le_trans (Nat.le_of_lt i.level_lt_unary) hn

theorem unaryOperand_leftSide (hs : operand.Sound most) {s : Sign} {least : Nat} {span : Span}
    {c₀ c c' : Cursor} {e : Expr} (hl : least ≤ unaryPower) (ht : c₀.Takes [s.kind] c)
    (h : unaryOperand operand s.op span c = .ok (e, c')) :
    ∃ n p, LeftSide least (most + 1) most c₀ e c' n p := by
  obtain ⟨⟨inner, c₁⟩, hi, h⟩ := bind_ok_iff.mp h
  cases h
  obtain ⟨⟨p, hnest, htree, htake⟩, _⟩ := hs.signed hi
  exact ⟨Level.unary, .signed rfl s p, leftSide_of_tight hl (Nat.le_refl _)
    (Nat.succ_le_succ hnest) rfl (by simp only [Phrase.tree, bare, htree]) (ht.cons htake)⟩

theorem letBinding_leftSide (hs : operand.Sound most) {span : Span} {c₀ c c' : Cursor} {e : Expr}
    (ht : c₀.Takes [.word "let"] c) (h : letBinding operand span c = .ok (e, c')) :
    ∃ n p, LeftSide 0 (most + 1) most c₀ e c' n p := by
  obtain ⟨⟨⟨w, wspan⟩, c₁⟩, hname, h⟩ := bind_ok_iff.mp h
  obtain ⟨⟨t₂, c₂⟩, hassign, h⟩ := bind_ok_iff.mp h
  obtain ⟨⟨value, c₃⟩, hvalue, h⟩ := bind_ok_iff.mp h
  obtain ⟨⟨t₄, c₄⟩, hsemi, h⟩ := bind_ok_iff.mp h
  obtain ⟨⟨body, c₅⟩, hbody, h⟩ := bind_ok_iff.mp h
  cases h
  obtain ⟨name, rfl, hnametake⟩ := expectName_takes hname
  obtain ⟨⟨v, hvnest, hvtree, hvtake⟩, _⟩ := hs.whole hvalue
  obtain ⟨⟨b, hbnest, hbtree, hbtake⟩, hend⟩ := hs.whole hbody
  refine ⟨Level.letBody, .letIn rfl name v b, Nat.le_refl _, ?_, Nat.lt_succ_self _, ?_, ?_, ?_⟩
  · exact Nat.succ_le_succ (Nat.max_le.mpr ⟨hvnest, hbnest⟩)
  · simp only [Phrase.tree, hvtree, hbtree, bare]
  · exact ht.cons (hnametake.cons ((expectSymbol_takes hassign).cons
      (hvtake.trans ((expectSymbol_takes hsemi).cons hbtake))))
  · intro i hi
    rw [hend] at hi
    cases hi

theorem named_leftSide (hs : operand.Sound most) {name : Name} {least : Nat} {span : Span}
    {c₀ c c' : Cursor} {e : Expr} (hl : least ≤ unaryPower) (ht : c₀.Takes [name.kind] c)
    (h : named operand name.1 span c = .ok (e, c')) : ∃ n p, LeftSide least (most + 1) most c₀ e c' n p := by
  obtain ⟨t, hpeek, h⟩ := bind_ok_iff.mp h
  have htaken {s : Symbol} {t' : Token} {c₁ : Cursor} (hsym : t.kind.isSymbol s = true)
      (hn : c.next = .ok (t', c₁)) : c.Takes [.symbol s] c₁ := by
    have hp := Cursor.peek_eq_of_next hn
    rw [hpeek, Except.ok.injEq] at hp
    have hk := Token.Kind.eq_of_isSymbol hsym
    rw [← hk, hp]
    exact Cursor.takes_of_next hn (by rw [← hp, hk]; nofun)
  split at h
  · rename_i hparen
    obtain ⟨⟨t₁, c₁⟩, hn, h⟩ := bind_ok_iff.mp h
    obtain ⟨⟨⟨args, close⟩, c₂⟩, hargs, h⟩ := bind_ok_iff.mp h
    cases h
    obtain ⟨m, ⟨p, hnest, htree, htake⟩, hm⟩ := sequence_derives hs hargs
    exact ⟨Level.primary, .call rfl name p, leftSide_of_tight hl (by decide)
      (Nat.succ_le_succ hnest) rfl (by simp only [Phrase.tree, bare, htree])
      (ht.cons ((htaken hparen hn).cons (htake.trans hm)))⟩
  · split at h
    · rename_i hbrace
      obtain ⟨⟨t₁, c₁⟩, hn, h⟩ := bind_ok_iff.mp h
      obtain ⟨⟨⟨filters, close⟩, c₂⟩, hfilters, h⟩ := bind_ok_iff.mp h
      cases h
      obtain ⟨m, ⟨p, hnest, htree, htake⟩, hm⟩ := sequence_derives hs hfilters
      exact ⟨Level.primary, .selector rfl (some name) p, leftSide_of_tight hl (by decide)
        (Nat.succ_le_succ hnest) rfl (by simp only [Phrase.tree, bare, htree]; rfl)
        (ht.cons ((htaken hbrace hn).cons (htake.trans hm)))⟩
    · cases h
      exact ⟨Level.primary, .reference rfl name, leftSide_of_tight hl (by decide)
        (Nat.succ_le_succ (Nat.zero_le _)) rfl rfl ht⟩

theorem ofWord_leftSide (hs : operand.Sound most) {w : String} {least : Nat} {span : Span}
    {c₀ c c' : Cursor} {e : Expr} (hl : least ≤ unaryPower) (ht : c₀.Takes [.word w] c)
    (h : ofWord operand least w span c = .ok (e, c')) : ∃ n p, LeftSide least (most + 1) most c₀ e c' n p := by
  have hboolean (b : Bool) (hw : w = if b then "true" else "false")
      (h : (.ok (.literal span (.boolean b), c) : Except Failure _) = .ok (e, c')) :
      ∃ n p, LeftSide least (most + 1) most c₀ e c' n p := by
    cases h
    subst hw
    exact ⟨Level.primary, .literal rfl (.boolean b), leftSide_of_tight hl (by decide)
      (Nat.succ_le_succ (Nat.zero_le _)) rfl rfl ht⟩
  unfold ofWord at h
  split at h
  · exact hboolean true rfl h
  · exact hboolean false rfl h
  · exact unaryOperand_leftSide hs (s := .not) hl ht h
  · split at h
    · rename_i hzero
      exact hzero ▸ letBinding_leftSide hs ht h
    · cases h
  · cases h
  · cases h
  · rename_i h₁ h₂ h₃ h₄ h₅ h₆
    have hname : isReserved w = false := by
      simp only [isReserved, reservedWords, List.contains_eq_mem, List.mem_cons, List.not_mem_nil,
        or_false, decide_eq_false_iff_not, not_or]
      exact ⟨h₄, h₅, h₆, h₃, h₁, h₂⟩
    have ht : c₀.Takes [Name.kind ⟨w, hname⟩] c := ht
    exact named_leftSide hs hl ht h

theorem primary_leftSide (hs : operand.Sound most) {least : Nat} {c c' : Cursor} {e : Expr}
    (hl : least ≤ unaryPower) (h : primary operand least c = .ok (e, c')) :
    ∃ n p, LeftSide least (most + 1) most c e c' n p := by
  obtain ⟨⟨t, c₁⟩, hn, h⟩ := bind_ok_iff.mp h
  have ht (k : Token.Kind) (hk : t.kind = k) (hstop : k ≠ .stop) : c.Takes [k] c₁ :=
    hk ▸ Cursor.takes_of_next hn (hk ▸ hstop)
  have hliteral (v : Literal) (hv : t.kind = v.kind)
      (h : (.ok (.literal t.span v, c₁) : Except Failure _) = .ok (e, c')) :
      ∃ n p, LeftSide least (most + 1) most c e c' n p := by
    cases h
    exact ⟨Level.primary, .literal rfl v, leftSide_of_tight hl (by decide)
      (Nat.succ_le_succ (Nat.zero_le _)) rfl rfl (ht _ hv (by cases v <;> simp [Literal.kind]))⟩
  dsimp only at h
  split at h
  · rename_i n hk
    exact hliteral (.integer n) hk h
  · rename_i x hk
    exact hliteral (.double x) hk h
  · rename_i d hk
    exact hliteral (.duration d) hk h
  · rename_i s hk
    exact hliteral (.string s) hk h
  · rename_i p hk
    exact hliteral (.regex p) hk h
  · rename_i w hk
    exact ofWord_leftSide hs hl (ht _ hk (by simp)) h
  · rename_i hk
    exact unaryOperand_leftSide hs (s := .minus) hl (ht _ hk (by simp [Sign.kind])) h
  · rename_i hk
    exact unaryOperand_leftSide hs (s := .bang) hl (ht _ hk (by simp [Sign.kind])) h
  · rename_i hk
    obtain ⟨⟨⟨w, span⟩, c₂⟩, htag, h⟩ := bind_ok_iff.mp h
    cases h
    obtain ⟨tag, rfl, htake⟩ := expectName_takes htag
    exact ⟨Level.primary, .hasTag rfl tag, leftSide_of_tight hl (by decide)
      (Nat.succ_le_succ (Nat.zero_le _)) rfl rfl ((ht _ hk (by simp)).cons htake)⟩
  · rename_i hk
    obtain ⟨⟨inner, c₂⟩, hinner, h⟩ := bind_ok_iff.mp h
    obtain ⟨⟨close, c₃⟩, hclose, h⟩ := bind_ok_iff.mp h
    cases h
    obtain ⟨⟨p, hnest, htree, htake⟩, _⟩ := hs.whole hinner
    exact ⟨Level.primary, .group rfl p, leftSide_of_tight hl (by decide)
      (Nat.succ_le_succ hnest) rfl (by simp only [Phrase.tree, bare, htree])
      ((ht _ hk (by simp)).cons (htake.trans (expectSymbol_takes hclose)))⟩
  · rename_i hk
    obtain ⟨⟨⟨es, close⟩, c₂⟩, hes, h⟩ := bind_ok_iff.mp h
    cases h
    obtain ⟨m, ⟨p, hnest, htree, htake⟩, hm⟩ := sequence_derives hs hes
    exact ⟨Level.primary, .list rfl p, leftSide_of_tight hl (by decide)
      (Nat.succ_le_succ hnest) rfl (by simp only [Phrase.tree, bare, htree])
      ((ht _ hk (by simp)).cons (htake.trans hm))⟩
  · rename_i hk
    obtain ⟨⟨⟨filters, close⟩, c₂⟩, hes, h⟩ := bind_ok_iff.mp h
    cases h
    obtain ⟨m, ⟨p, hnest, htree, htake⟩, hm⟩ := sequence_derives hs hes
    exact ⟨Level.primary, .selector rfl none p, leftSide_of_tight hl (by decide)
      (Nat.succ_le_succ hnest) rfl (by simp only [Phrase.tree, bare, htree]; rfl)
      ((ht _ hk (by simp)).cons (htake.trans hm))⟩
  · cases h

theorem levelOf_le_level {least : Nat} {i : Connective} (h : least ≤ i.leftPower) :
    levelOf least ≤ i.level := by
  have := i.one_le_level
  simp only [levelOf, Level.letBody, Connective.leftPower] at h ⊢
  split <;> omega

theorem levelOf_rightPower (i : Connective) : levelOf i.rightPower = i.level + 1 := by
  have := i.one_le_level
  rw [levelOf, Connective.rightPower, if_neg (by omega)]
  omega

theorem rightPower_le_unaryPower (i : Connective) : i.rightPower ≤ unaryPower := by
  have := i.level_lt_unary
  simp only [Connective.rightPower, unaryPower, Level.unary] at this ⊢
  omega

/-- The operator after a right operand is no tighter than the one before it. -/
theorem level_le_of_after {i j : Connective} {least : Nat} {c : Cursor}
    (hi : operator? i.rightPower c = .ok none) (hj : operator? least c = .ok (some j)) :
    j.level ≤ i.level := by
  have := operator?_le_of_none hi hj
  simp only [Connective.leftPower, Connective.rightPower] at this
  omega

theorem LeftSide.derives {least b : Nat} {c c' : Cursor} {e : Expr} {n : Nat}
    {p : Phrase (atLeast n)} (hp : LeftSide least most b c e c' n p) :
    Derives (atLeast (levelOf least)) most c e.bare c' := by
  obtain ⟨q, hkinds, htree, _, hnesting⟩ := p.exists_lower hp.level
  exact ⟨q, hnesting ▸ hp.nesting, htree.trans hp.tree, hkinds ▸ hp.takes⟩

theorem kind_eq_of_operator? {least : Nat} {c c' : Cursor} {i : Connective} {t : Token}
    (hop : operator? least c = .ok (some i)) (hn : c.next = .ok (t, c')) : t.kind = i.kind := by
  obtain ⟨t', ht, hi, _⟩ := operator?_eq_some hop
  rw [Cursor.peek_eq_of_next hn, Except.ok.injEq] at ht
  subst ht
  exact Connective.kind_of_ofKind? hi

/-- The token of an operator that is met is taken. -/
theorem operator?_takes {least : Nat} {c c' : Cursor} {i : Connective} {t : Token}
    (hop : operator? least c = .ok (some i)) (hn : c.next = .ok (t, c')) : c.Takes [i.kind] c' := by
  have hk := kind_eq_of_operator? hop hn
  rw [← hk]
  exact Cursor.takes_of_next hn (hk ▸ i.kind_ne_stop)

/-- A left side and the operand after an operator make the next left side. -/
theorem LeftSide.binary {least b : Nat} {c c₁ c₂ c₃ : Cursor} {left right : Expr} {n : Nat}
    {p : Phrase (atLeast n)} (hp : LeftSide least most (b + 1) c left c₁ n p) {op : BinaryOp}
    (hop : operator? least c₁ = .ok (some (.binary op))) (ht : c₁.Takes [op.kind] c₂)
    (hright : Derives (atLeast (op.level + 1)) b c₂ right.bare c₃)
    (hend : operator? (2 * op.level) c₃ = .ok none) (span opSpan : Span) :
    ∃ q : Phrase (atLeast op.level),
      LeftSide least most b c (.binary span op opSpan left right) c₃ op.level q := by
  have hloose : op.level ≤ n := hp.loose _ hop
  obtain ⟨p', hkinds, htree, hspine, hnesting⟩ := p.exists_lower hloose
  obtain ⟨q, hqnest, hqtree, hqtake⟩ := hright
  refine ⟨.binary op rfl p' q, ?_, ?_, ?_, ?_, ?_, fun j hj =>
    level_le_of_after (i := .binary op) hend hj⟩
  · obtain ⟨_, _, _, hl⟩ := operator?_eq_some hop
    exact levelOf_le_level hl
  · have := hp.nesting
    have := hp.spine
    simp only [Phrase.nesting, hnesting, hspine]
    omega
  · have := hp.spine
    simp only [Phrase.spine, hspine]
    omega
  · simp only [Phrase.tree, htree, hp.tree, hqtree, bare]
  · simp only [Phrase.kinds, hkinds]
    exact hp.takes.trans (ht.cons hqtake)

/-- A name on its own, a tag operator and an operand make the next left side. -/
theorem LeftSide.tagged {least b : Nat} {c c₁ c₂ c₃ : Cursor} {left value : Expr} {tag : String}
    {n : Nat} {p : Phrase (atLeast n)} (hp : LeftSide least most (b + 1) c left c₁ n p) {op : TagOp}
    (hleft : tagName left = .ok tag)
    (hop : operator? least c₁ = .ok (some (.tag op))) (ht : c₁.Takes [op.kind] c₂)
    (hvalue : Derives (atLeast (Level.comparison + 1)) b c₂ value.bare c₃)
    (hend : operator? (2 * Level.comparison) c₃ = .ok none) (span : Span) :
    ∃ q : Phrase (atLeast Level.comparison),
      LeftSide least most b c (.tagFilter span tag op value) c₃ Level.comparison q := by
  obtain ⟨s, rfl⟩ : ∃ s, left = .reference s tag := by
    unfold tagName at hleft
    split at hleft <;> cases hleft
    exact ⟨_, rfl⟩
  obtain ⟨name, rfl, hkinds, hspine⟩ := p.of_tree_reference (hp.tree.trans (by rw [bare]))
  obtain ⟨q, hqnest, hqtree, hqtake⟩ := hvalue
  refine ⟨.tagged rfl name op q, ?_, ?_, ?_, ?_, ?_, fun j hj =>
    level_le_of_after (i := .tag op) hend hj⟩
  · obtain ⟨_, _, _, hl⟩ := operator?_eq_some hop
    exact levelOf_le_level hl
  · have := hp.spine
    simp only [Phrase.nesting]
    omega
  · have := hp.spine
    simp only [Phrase.spine]
    omega
  · simp only [Phrase.tree, hqtree, bare]
  · have := hp.takes
    rw [hkinds] at this
    exact this.cons (ht.cons hqtake)

mutual

/-- What is read within a budget of nesting is derived with that nesting. -/
theorem expression_sound (most : Nat) : (b : Nat) → (expression most b).Sound b
  | 0 => by
    intro _ h
    obtain ⟨t, _, h⟩ := bind_ok_iff.mp h
    cases h
  | b + 1 => by
    intro hl h
    obtain ⟨⟨left, c₁⟩, hleft, h⟩ := bind_ok_iff.mp h
    obtain ⟨n, p, hp⟩ := primary_leftSide (expression_sound most b) hl hleft
    exact chain_sound most b hl hp h

theorem chain_sound (most : Nat) : (b : Nat) → {least all : Nat} → {c c₁ c' : Cursor} →
    {left e : Expr} → {n : Nat} → {p : Phrase (atLeast n)} → least ≤ unaryPower →
    LeftSide least all b c left c₁ n p → chain most b least left c₁ = .ok (e, c') →
    Derives (atLeast (levelOf least)) all c e.bare c' ∧ operator? least c' = .ok none
  | 0, least, all, c, c₁, c', left, e, n, p, hl, hp, h => by
    rw [chain] at h
    obtain ⟨i?, hop, h⟩ := bind_ok_iff.mp h
    cases i? with
    | none => cases h; exact ⟨hp.derives, hop⟩
    | some i =>
      obtain ⟨⟨t, c₂⟩, _, h⟩ := bind_ok_iff.mp h
      cases h
  | b + 1, least, all, c, c₁, c', left, e, n, p, hl, hp, h => by
    rw [chain] at h
    obtain ⟨i?, hop, h⟩ := bind_ok_iff.mp h
    cases i? with
    | none => cases h; exact ⟨hp.derives, hop⟩
    | some i =>
      obtain ⟨⟨t, c₂⟩, hn, h⟩ := bind_ok_iff.mp h
      have ht := operator?_takes hop hn
      cases i with
      | binary op =>
        obtain ⟨⟨right, c₃⟩, hright, h⟩ := bind_ok_iff.mp h
        obtain ⟨hderives, hend⟩ := expression_sound most b (rightPower_le_unaryPower _) hright
        rw [levelOf_rightPower] at hderives
        obtain ⟨q, hq⟩ := hp.binary hop ht hderives hend (left.span.join right.span) t.span
        exact chain_sound most b hl hq h
      | tag op =>
        obtain ⟨tag, htag, h⟩ := bind_ok_iff.mp h
        obtain ⟨⟨value, c₃⟩, hvalue, h⟩ := bind_ok_iff.mp h
        obtain ⟨hderives, hend⟩ := expression_sound most b (rightPower_le_unaryPower _) hvalue
        rw [levelOf_rightPower] at hderives
        obtain ⟨q, hq⟩ := hp.tagged htag hop ht hderives hend (left.span.join value.span)
        exact chain_sound most b hl hq h

end

/-- The tree of a token stream is that of a phrase over all its tokens. -/
theorem phrase_of_ofTokens {most : Nat} {tokens : List (Except Failure Token)} {e : Expr}
    (h : ofTokens most tokens = .ok e) :
    ∃ (p : Phrase (atLeast Level.letBody)) (ts : List Token) (rest : List (Except Failure Token)),
      p.nesting ≤ most ∧ p.tree = e.bare ∧ ts.map Token.kind = p.kinds ∧
      tokens = ts.map .ok ++ rest ∧ (rest = [] ∨ ∃ t rest', t.kind = .stop ∧ rest = .ok t :: rest') := by
  obtain ⟨⟨e, c⟩, he, h⟩ := bind_ok_iff.mp h
  obtain ⟨⟨t, c'⟩, ht, h⟩ := bind_ok_iff.mp h
  dsimp only at h
  split at h
  · rename_i hstop
    cases h
    obtain ⟨⟨p, hnest, htree, ts, hts, hrest⟩, _⟩ :=
      Operand.Sound.whole (expression_sound most most) he
    refine ⟨p, ts, c.rest, hnest, htree, hts, hrest, ?_⟩
    obtain ⟨rest, stop⟩ := c
    cases rest with
    | nil => exact .inl rfl
    | cons item rest =>
      cases item with
      | error f => cases ht
      | ok t => cases ht; exact .inr ⟨t, rest, hstop, rfl⟩
  · cases h

end Expr

end SeriesQuery
