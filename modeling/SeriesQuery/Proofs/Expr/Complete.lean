/-
Reading what the grammar derives. Tokens of a phrase of level `n` are read
as its tree, at their places, by every call for an expression of at most that power
(`expression_of_phrase`), if the limit allows the phrase's nesting and what
follows does not belong to the phrase. The statement is made for a chain
that is still going on: it says where the phrase's last operator leaves it,
so that phrases on the left of an operator are read by the same call.
-/
import SeriesQuery.Proofs.Expr.Located
import SeriesQuery.Proofs.Result

namespace SeriesQuery

open Category

theorem BinaryOp.one_le_level (op : BinaryOp) : 1 ≤ op.level := by cases op <;> decide

theorem BinaryOp.level_lt_unary (op : BinaryOp) : op.level < Level.unary := by cases op <;> decide

theorem Connective.one_le_level : (i : Connective) → 1 ≤ i.level
  | binary op => op.one_le_level
  | tag _ => by simp [level, Level.comparison]

theorem Connective.level_lt_unary : (i : Connective) → i.level < Level.unary
  | binary op => op.level_lt_unary
  | tag _ => by simp [level, Level.comparison, Level.unary]

theorem Connective.ofKind?_binary (op : BinaryOp) : ofKind? op.kind = some (.binary op) := by
  cases op <;> rfl

theorem Connective.ofKind?_tag (op : TagOp) : ofKind? op.kind = some (.tag op) := by
  cases op <;> rfl

/-- The token cannot continue a phrase of the level, apart from operators of that level or less. -/
structure Token.Kind.EndsLevel (n : Nat) (k : Token.Kind) : Prop where
  noCall : k.isSymbol .leftParen = false
  noSelector : k.isSymbol .leftBrace = false
  loose : ∀ i, Connective.ofKind? k = some i → i.level ≤ n

/-- What comes next, if anything, ends a phrase of the level. -/
def EndsLevel (n : Nat) : List (Except Failure Token) → Prop
  | [] => True
  | .ok t :: _ => t.kind.EndsLevel n
  | .error _ :: _ => False

theorem EndsLevel.cases {n : Nat} {rest} (h : EndsLevel n rest) :
    rest = [] ∨ ∃ t ts, rest = .ok t :: ts ∧ t.kind.EndsLevel n := by
  cases rest with
  | nil => exact .inl rfl
  | cons item rest =>
    cases item with
    | error f => exact h.elim
    | ok t => exact .inr ⟨t, rest, rfl, h⟩

theorem EndsLevel.mono {m n : Nat} (hmn : m ≤ n) {rest} (h : EndsLevel m rest) :
    EndsLevel n rest := by
  obtain rfl | ⟨t, ts, rfl, ht⟩ := h.cases
  · exact h
  · exact ⟨ht.noCall, ht.noSelector, fun i hi => Nat.le_trans (ht.loose i hi) hmn⟩

theorem endsLevel_binary (op : BinaryOp) : op.kind.EndsLevel op.level := by
  refine ⟨by cases op <;> rfl, by cases op <;> rfl, fun i hi => ?_⟩
  rw [Connective.ofKind?_binary] at hi
  cases hi
  exact Nat.le_refl _

theorem endsLevel_tag (op : TagOp) : op.kind.EndsLevel Level.comparison := by
  refine ⟨by cases op <;> rfl, by cases op <;> rfl, fun i hi => ?_⟩
  rw [Connective.ofKind?_tag] at hi
  cases hi
  exact Nat.le_refl _

theorem endsLevel_closing {s : Symbol} (h : s.closes = true) (n : Nat) :
    (Token.Kind.symbol s).EndsLevel n := by
  cases s <;> simp only [Symbol.closes, Bool.false_eq_true] at h <;>
    exact ⟨rfl, rfl, fun i hi => by simp [Connective.ofKind?] at hi⟩

theorem endsLevel_comma (n : Nat) : (Token.Kind.symbol .comma).EndsLevel n :=
  ⟨rfl, rfl, fun i hi => by simp [Connective.ofKind?] at hi⟩

theorem endsLevel_semicolon (n : Nat) : (Token.Kind.symbol .semicolon).EndsLevel n :=
  ⟨rfl, rfl, fun i hi => by simp [Connective.ofKind?] at hi⟩

theorem endsLevel_stop (n : Nat) : Token.Kind.stop.EndsLevel n :=
  ⟨rfl, rfl, fun i hi => by simp [Connective.ofKind?] at hi⟩

theorem endsLevel_cons {n : Nat} {t : Token} {k : Token.Kind} (ht : t.kind = k) (hk : k.EndsLevel n)
    (rest : List (Except Failure Token)) : EndsLevel n (.ok t :: rest) := by
  subst ht
  exact hk

namespace Expr

/-! ## Single steps -/

theorem operator?_ok {least : Nat} {t : Token} {rest stop} :
    operator? least ⟨.ok t :: rest, stop⟩ =
      .ok ((Connective.ofKind? t.kind).filter fun i => least ≤ i.leftPower) := rfl

/-- A chain ends where no operator is tight enough. -/
theorem chain_ends {most b least n : Nat} {e : Expr} {rest stop} (hr : EndsLevel n rest)
    (hn : n = 0 ∨ 2 * n ≤ least) :
    chain most b least e ⟨rest, stop⟩ = .ok (e, ⟨rest, stop⟩) := by
  have hop : operator? least ⟨rest, stop⟩ = .ok none := by
    obtain rfl | ⟨t, ts, rfl, ht⟩ := hr.cases
    · rfl
    · rw [operator?_ok]
      cases hi : Connective.ofKind? t.kind with
      | none => rfl
      | some i =>
        have h1 := i.one_le_level
        have h2 := ht.loose i hi
        have : ¬ least ≤ i.leftPower := by simp only [Connective.leftPower]; omega
        simp [Option.filter, this]
  cases b <;> simp only [chain, hop, ok_bind]

theorem chain_binary {most b least : Nat} {left : Expr} {t : Token} {rest stop} {op : BinaryOp}
    (ht : t.kind = op.kind) (hl : least ≤ 2 * op.level - 1) :
    chain most (b + 1) least left ⟨.ok t :: rest, stop⟩ =
      (expression most b (2 * op.level) ⟨rest, t.span.stop⟩ >>= fun r =>
        chain most b least (.binary (left.span.join r.1.span) op t.span left r.1) r.2) := by
  have hop : operator? least ⟨.ok t :: rest, stop⟩ = .ok (some (.binary op)) := by
    simp [operator?_ok, ht, Connective.ofKind?_binary, Connective.leftPower, Connective.level, hl,
      Option.filter]
  rw [chain]
  simp only [hop, ok_bind, Cursor.next]
  rfl

theorem chain_tagged {most b least : Nat} {span : Span} {tag : String} {t : Token} {rest stop}
    {op : TagOp} (ht : t.kind = op.kind) (hl : least ≤ 2 * Level.comparison - 1) :
    chain most (b + 1) least (.reference span tag) ⟨.ok t :: rest, stop⟩ =
      (expression most b (2 * Level.comparison) ⟨rest, t.span.stop⟩ >>= fun r =>
        chain most b least (.tagFilter (span.join r.1.span) tag op r.1) r.2) := by
  have hop : operator? least ⟨.ok t :: rest, stop⟩ = .ok (some (.tag op)) := by
    simp [operator?_ok, ht, Connective.ofKind?_tag, Connective.leftPower, Connective.level, hl,
      Option.filter]
  rw [chain]
  simp only [hop, ok_bind, Cursor.next]
  rfl

theorem ofWord_name {operand : Operand} {least : Nat} (name : Name) (span : Span) (c : Cursor) :
    ofWord operand least name.1 span c = named operand name.1 span c := by
  obtain ⟨w, hw⟩ := name
  simp only [ofWord]
  split <;> first | rfl | simp [isReserved, reservedWords] at hw

theorem expectSymbol_ok {s : Symbol} {t : Token} {rest stop} (ht : t.kind = .symbol s) :
    expectSymbol s ⟨.ok t :: rest, stop⟩ = .ok (t, ⟨rest, t.span.stop⟩) := by
  simp [expectSymbol, Cursor.next, ht, Token.Kind.isSymbol]

theorem expectName_ok {expected : Expected} {name : Name} {t : Token} {rest stop}
    (ht : t.kind = name.kind) :
    expectName expected ⟨.ok t :: rest, stop⟩ = .ok ((name.1, t.span), ⟨rest, t.span.stop⟩) := by
  simp [expectName, Cursor.next, ht, Name.kind, name.2]

/-! ## First tokens -/

variable {operand : Operand} {least : Nat} {t : Token} {rest : List (Except Failure Token)}
  {stop : Nat}

theorem primary_literal {v : Literal} (ht : t.kind = v.kind) :
    primary operand least ⟨.ok t :: rest, stop⟩ = .ok (.literal t.span v, ⟨rest, t.span.stop⟩) := by
  simp only [primary, Cursor.next, ok_bind, ht]
  cases v with
  | boolean b => cases b <;> simp [Literal.kind, ofWord]
  | _ => rfl

theorem primary_signed {s : Sign} (ht : t.kind = s.kind) :
    primary operand least ⟨.ok t :: rest, stop⟩ =
      unaryOperand operand s.op t.span ⟨rest, t.span.stop⟩ := by
  simp only [primary, Cursor.next, ok_bind, ht]
  cases s <;> simp [Sign.kind, Sign.op, ofWord]

theorem primary_name {name : Name} (ht : t.kind = name.kind) :
    primary operand least ⟨.ok t :: rest, stop⟩ =
      named operand name.1 t.span ⟨rest, t.span.stop⟩ := by
  simp only [primary, Cursor.next, ok_bind, ht, Name.kind]
  exact ofWord_name name _ _

theorem primary_let (ht : t.kind = .word "let") :
    primary operand 0 ⟨.ok t :: rest, stop⟩ = letBinding operand t.span ⟨rest, t.span.stop⟩ := by
  simp [primary, Cursor.next, ht, ofWord]

theorem named_reference {name : String} {span : Span} (hr : EndsLevel Level.primary rest) :
    named operand name span ⟨rest, stop⟩ = .ok (.reference span name, ⟨rest, stop⟩) := by
  obtain rfl | ⟨t, ts, rfl, ht⟩ := hr.cases
  · rfl
  · simp [named, Cursor.peek, ht.noCall, ht.noSelector]

/-- A primary is followed by a chain. -/
theorem expression_of_primary {most b : Nat} {e : Expr} {c c' : Cursor}
    (h : primary (expression most b) least c = .ok (e, c')) :
    expression most (b + 1) least c = chain most b least e c' := by
  simp only [expression, h, ok_bind]

/-! ## Phrases -/

/-- A phrase is read, as far as its nesting is allowed, wherever what follows ends it. -/
def Completes : {c : Category} → Phrase c → Prop
  | atLeast n, p => ∀ (most b least stop : Nat) (rest : List (Except Failure Token))
      {ts : List Token}, ts.map Token.kind = p.kinds → p.nesting ≤ b → least ≤ 2 * n - 1 →
      EndsLevel n rest → ∃ e stop', p.Located ts e ∧
        expression most b least ⟨ts.map .ok ++ rest, stop⟩ =
          chain most (b - 1 - p.spine) least e ⟨rest, stop'⟩
  | oneOrMore, p => ∀ (most b fuel stop : Nat) (rest : List (Except Failure Token))
      {close : Symbol} {ts : List Token} {t : Token}, ts.map Token.kind = p.kinds →
      p.nesting ≤ b → ts.length < fuel → t.kind = .symbol close → close.closes = true →
      ∃ es, p.Located ts es ∧
        Expr.items (expression most b) close fuel ⟨ts.map .ok ++ .ok t :: rest, stop⟩ =
          .ok ((es, t.span), ⟨rest, t.span.stop⟩)
  | anyNumber, p => ∀ (most b stop : Nat) (rest : List (Except Failure Token)) {close : Symbol}
      {ts : List Token} {t : Token}, ts.map Token.kind = p.kinds → p.nesting ≤ b →
      t.kind = .symbol close → close.closes = true →
      ∃ es, p.Located ts es ∧
        sequence (expression most b) close ⟨ts.map .ok ++ .ok t :: rest, stop⟩ =
          .ok ((es, t.span), ⟨rest, t.span.stop⟩)

/-- A phrase that no operator after it belongs to is read on its own. -/
theorem Completes.whole {n : Nat} {p : Phrase (atLeast n)} (hp : Completes p)
    (most b least stop : Nat) (rest : List (Except Failure Token)) {m : Nat} {ts : List Token}
    (hts : ts.map Token.kind = p.kinds) (hb : p.nesting ≤ b) (hl : least ≤ 2 * n - 1)
    (hr : EndsLevel m rest) (hm : m = 0 ∨ 2 * m ≤ least) (hmn : m ≤ n) :
    ∃ e stop', p.Located ts e ∧
      expression most b least ⟨ts.map .ok ++ rest, stop⟩ = .ok (e, ⟨rest, stop'⟩) := by
  obtain ⟨e, stop', he, h⟩ := hp most b least stop rest hts hb hl (hr.mono hmn)
  exact ⟨e, stop', he, h.trans (chain_ends hr hm)⟩

/-- A phrase between tokens that are no operators. -/
theorem Completes.closed {n : Nat} {p : Phrase (atLeast n)} (hp : Completes p) (most b stop : Nat)
    {ts : List Token} {rest : List (Except Failure Token)} (hr : EndsLevel 0 rest)
    (hts : ts.map Token.kind = p.kinds) (hb : p.nesting ≤ b) :
    ∃ e stop', p.Located ts e ∧
      expression most b 0 ⟨ts.map .ok ++ rest, stop⟩ = .ok (e, ⟨rest, stop'⟩) :=
  hp.whole most b 0 stop rest hts hb (Nat.zero_le _) hr (.inl rfl) (Nat.zero_le _)

theorem map_kind_eq_append {ts : List Token} {ks ks' : List Token.Kind} {k : Token.Kind}
    (h : ts.map Token.kind = ks ++ k :: ks') :
    ∃ ts₁ t ts₂, ts = ts₁ ++ t :: ts₂ ∧ ts₁.map Token.kind = ks ∧ t.kind = k ∧
      ts₂.map Token.kind = ks' := by
  obtain ⟨ts₁, ts', rfl, h₁, h'⟩ := List.map_eq_append_iff.mp h
  obtain ⟨t, ts₂, rfl, ht, h₂⟩ := List.map_eq_cons_iff.mp h'
  exact ⟨ts₁, t, ts₂, rfl, h₁, ht, h₂⟩

/-- What a primary reads, the expression reads before any operator. -/
theorem completes_of_primary {n : Nat} {p : Phrase (atLeast n)} (hs : p.spine = 0)
    (h : ∀ {most b least : Nat} {ts : List Token} {rest : List (Except Failure Token)} {stop : Nat},
      ts.map Token.kind = p.kinds → p.nesting ≤ b + 1 → least ≤ 2 * n - 1 → EndsLevel n rest →
      ∃ e stop', p.Located ts e ∧
        primary (expression most b) least ⟨ts.map .ok ++ rest, stop⟩ = .ok (e, ⟨rest, stop'⟩)) :
    Completes p := by
  intro most b least stop rest ts hts hb hl hr
  obtain ⟨b, rfl⟩ : ∃ b', b = b' + 1 := ⟨b - 1, by have := p.nesting_pos; omega⟩
  obtain ⟨e, stop', he, hp⟩ := h hts hb hl hr
  exact ⟨e, stop', he, by rw [expression_of_primary hp, hs]; rfl⟩

theorem completes_lift {n : Nat} {p : Phrase (atLeast (n + 1))} (hp : Completes p) :
    Completes (.lift p : Phrase (atLeast n)) := by
  intro most b least stop rest ts hts hb hl hr
  obtain ⟨e, stop', he, hrun⟩ := hp most b least stop rest hts hb (by omega) (hr.mono (by omega))
  exact ⟨e, stop', .lift he, hrun⟩

theorem completes_binary {n : Nat} {op : BinaryOp} (hn : op.level = n) {l : Phrase (atLeast n)}
    {r : Phrase (atLeast (n + 1))} (hpl : Completes l) (hpr : Completes r) :
    Completes (.binary op hn l r) := by
  subst hn
  intro most b least stop rest ts hts hb hl hr
  obtain ⟨ts₁, t, ts₂, rfl, h₁, ht, h₂⟩ := map_kind_eq_append hts
  simp only [Phrase.nesting] at hb
  obtain ⟨left, s₁, hleft, hrun⟩ := hpl most b least stop (.ok t :: (ts₂.map .ok ++ rest)) h₁
    (by omega) hl (endsLevel_cons ht (endsLevel_binary op) _)
  obtain ⟨right, s₂, hright, hrun'⟩ := hpr.whole most (b - 2 - l.spine) (2 * op.level) t.span.stop
    rest h₂ (by omega) (by omega) hr (.inr (Nat.le_refl _)) (by omega)
  obtain ⟨k, hk⟩ : ∃ k, b - 1 - l.spine = k + 1 := ⟨b - 2 - l.spine, by omega⟩
  have hk' : b - 2 - l.spine = k := by omega
  rw [hk'] at hrun'
  refine ⟨_, s₂, .binary rfl hleft ht hright, ?_⟩
  rw [List.map_append, List.map_cons, List.append_assoc, List.cons_append, hrun, hk,
    chain_binary ht hl, hrun', ok_bind]
  congr 1
  simp only [Phrase.spine]
  omega

theorem completes_tagged {n : Nat} (hn : n = Level.comparison) {name : Name} {op : TagOp}
    {v : Phrase (atLeast (n + 1))} (hv : Completes v) : Completes (.tagged hn name op v) := by
  subst hn
  intro most b least stop rest ts hts hb hl hr
  obtain ⟨t, ts', rfl, ht, h'⟩ := List.map_eq_cons_iff.mp hts
  obtain ⟨u, ts₂, rfl, hu, h₂⟩ := List.map_eq_cons_iff.mp h'
  simp only [Phrase.nesting] at hb
  have := v.nesting_pos
  obtain ⟨b, rfl⟩ : ∃ k, b = k + 2 := ⟨b - 2, by omega⟩
  obtain ⟨value, s₂, hvalue, hrun⟩ := hv.whole most b (2 * Level.comparison) u.span.stop rest h₂
    (by omega) (by omega) hr (.inr (Nat.le_refl _)) (by omega)
  refine ⟨_, s₂, .tagged rfl ht hu hvalue, ?_⟩
  have hop : EndsLevel Level.primary (.ok u :: (ts₂.map .ok ++ rest)) := by
    simp only [EndsLevel, hu]
    have := endsLevel_tag op
    exact ⟨this.noCall, this.noSelector, fun i hi => Nat.le_trans (this.loose i hi) (by decide)⟩
  simp only [List.map_cons, List.cons_append]
  rw [expression_of_primary ((primary_name ht).trans (named_reference hop)),
    chain_tagged hu hl, hrun, ok_bind]
  rfl

theorem completes_signed {n : Nat} (hn : n = Level.unary) {s : Sign} {p : Phrase (atLeast n)}
    (hp : Completes p) : Completes (.signed hn s p) := by
  subst hn
  refine completes_of_primary rfl fun {most b least ts rest stop} hts hb hl hr => ?_
  obtain ⟨t, ts', rfl, ht, h'⟩ := List.map_eq_cons_iff.mp hts
  simp only [Phrase.nesting, Nat.add_le_add_iff_right] at hb
  -- No operator is tight enough to follow an operand of a sign.
  have hend : ∃ m, EndsLevel m rest ∧ 2 * m ≤ unaryPower ∧ m ≤ Level.unary := by
    refine ⟨Level.multiplicative, ?_, by decide, by decide⟩
    obtain rfl | ⟨t, ts, rfl, ht⟩ := hr.cases
    · exact trivial
    · exact ⟨ht.noCall, ht.noSelector, fun i _ => Nat.le_of_lt_succ i.level_lt_unary⟩
  obtain ⟨m, hm, hm', hmn⟩ := hend
  obtain ⟨e, s₁, he, hrun⟩ := hp.whole most b unaryPower t.span.stop rest h' hb (Nat.le_refl _) hm
    (.inr hm') hmn
  refine ⟨_, s₁, .signed rfl ht he, ?_⟩
  simp only [List.map_cons, List.cons_append]
  rw [primary_signed ht, unaryOperand, hrun]
  rfl

theorem completes_literal {n : Nat} (hn : n = Level.primary) (v : Literal) :
    Completes (.literal hn v : Phrase (atLeast n)) := by
  refine completes_of_primary rfl fun {most b least ts rest stop} hts _ _ _ => ?_
  obtain ⟨t, rfl, ht⟩ := List.map_eq_singleton_iff.mp hts
  exact ⟨_, t.span.stop, .literal hn ht, primary_literal ht⟩

theorem completes_reference {n : Nat} (hn : n = Level.primary) (name : Name) :
    Completes (.reference hn name : Phrase (atLeast n)) := by
  refine completes_of_primary rfl fun {most b least ts rest stop} hts _ _ hr => ?_
  obtain ⟨t, rfl, ht⟩ := List.map_eq_singleton_iff.mp hts
  exact ⟨_, t.span.stop, .reference hn ht,
    (primary_name ht).trans (named_reference (hn ▸ hr))⟩

theorem completes_hasTag {n : Nat} (hn : n = Level.primary) (tag : Name) :
    Completes (.hasTag hn tag : Phrase (atLeast n)) := by
  refine completes_of_primary rfl fun {most b least ts rest stop} hts _ _ _ => ?_
  obtain ⟨t, ts', rfl, ht, h'⟩ := List.map_eq_cons_iff.mp hts
  obtain ⟨u, rfl, hu⟩ := List.map_eq_singleton_iff.mp h'
  refine ⟨_, u.span.stop, .hasTag hn ht hu, ?_⟩
  simp only [List.map_cons, List.map_nil, List.cons_append, List.nil_append, primary, Cursor.next,
    ok_bind, ht, expectName_ok hu]

theorem completes_group {n : Nat} (hn : n = Level.primary) {p : Phrase (atLeast Level.letBody)}
    (hp : Completes p) : Completes (.group hn p : Phrase (atLeast n)) := by
  refine completes_of_primary rfl fun {most b least ts rest stop} hts hb _ _ => ?_
  obtain ⟨t, ts', rfl, ht, h'⟩ := List.map_eq_cons_iff.mp hts
  obtain ⟨ts₁, u, ts₂, rfl, h₁, hu, h₂⟩ := map_kind_eq_append h'
  obtain rfl := List.map_eq_nil_iff.mp h₂
  simp only [Phrase.nesting, Nat.add_le_add_iff_right] at hb
  obtain ⟨e, s₁, he, hrun⟩ := hp.closed most b t.span.stop
    (endsLevel_cons hu (endsLevel_closing rfl 0) rest) h₁ hb
  refine ⟨_, u.span.stop, .group hn ht he hu, ?_⟩
  simp only [List.map_cons, List.map_append, List.map_nil, List.cons_append, List.append_assoc,
    List.nil_append, primary, Cursor.next, ok_bind, ht, hrun, expectSymbol_ok hu]

/-- The tokens of items between two symbols, taken apart. -/
theorem map_kind_eq_enclosed {ts : List Token} {ks : List Token.Kind} {k : Token.Kind}
    (h : ts.map Token.kind = ks ++ [k]) :
    ∃ ts₁ t, ts = ts₁ ++ [t] ∧ ts₁.map Token.kind = ks ∧ t.kind = k := by
  obtain ⟨ts₁, t, ts₂, rfl, h₁, ht, h₂⟩ := map_kind_eq_append h
  obtain rfl := List.map_eq_nil_iff.mp h₂
  exact ⟨ts₁, t, rfl, h₁, ht⟩

theorem completes_list {n : Nat} (hn : n = Level.primary) {p : Phrase anyNumber}
    (hp : Completes p) : Completes (.list hn p : Phrase (atLeast n)) := by
  refine completes_of_primary rfl fun {most b least ts rest stop} hts hb _ _ => ?_
  obtain ⟨t, ts', rfl, ht, h'⟩ := List.map_eq_cons_iff.mp hts
  obtain ⟨ts₁, u, rfl, h₁, hu⟩ := map_kind_eq_enclosed h'
  simp only [Phrase.nesting, Nat.add_le_add_iff_right] at hb
  obtain ⟨es, hes, hrun⟩ := hp most b t.span.stop rest h₁ hb hu rfl
  refine ⟨_, u.span.stop, .list hn ht hes hu, ?_⟩
  simp only [List.map_cons, List.map_append, List.map_nil, List.cons_append, List.append_assoc,
    List.nil_append, primary, Cursor.next, ok_bind, ht, hrun]

theorem completes_call {n : Nat} (hn : n = Level.primary) (name : Name) {p : Phrase anyNumber}
    (hp : Completes p) : Completes (.call hn name p : Phrase (atLeast n)) := by
  refine completes_of_primary rfl fun {most b least ts rest stop} hts hb _ _ => ?_
  obtain ⟨t, ts', rfl, ht, h'⟩ := List.map_eq_cons_iff.mp hts
  obtain ⟨o, ts'', rfl, ho, h''⟩ := List.map_eq_cons_iff.mp h'
  obtain ⟨ts₁, u, rfl, h₁, hu⟩ := map_kind_eq_enclosed h''
  simp only [Phrase.nesting, Nat.add_le_add_iff_right] at hb
  obtain ⟨es, hes, hrun⟩ := hp most b o.span.stop rest h₁ hb hu rfl
  refine ⟨_, u.span.stop, .call hn ht ho hes hu, ?_⟩
  simp only [List.map_cons, List.cons_append]
  rw [primary_name ht]
  simp only [named, Cursor.peek, Cursor.next, ok_bind, ho, Token.Kind.isSymbol, beq_self_eq_true,
    if_true, List.map_append, List.map_cons, List.map_nil, List.append_assoc, List.cons_append,
    List.nil_append, hrun]

theorem completes_selector {n : Nat} (hn : n = Level.primary) (key : Option Name)
    {p : Phrase anyNumber} (hp : Completes p) :
    Completes (.selector hn key p : Phrase (atLeast n)) := by
  refine completes_of_primary rfl fun {most b least ts rest stop} hts hb _ _ => ?_
  simp only [Phrase.nesting, Nat.add_le_add_iff_right] at hb
  obtain ⟨ts₀, o, ts', rfl, h₀, ho, h'⟩ := map_kind_eq_append hts
  obtain ⟨ts₁, u, rfl, h₁, hu⟩ := map_kind_eq_enclosed h'
  obtain ⟨es, hes, hrun⟩ := hp most b o.span.stop rest h₁ hb hu rfl
  cases key with
  | none =>
    obtain rfl := List.map_eq_nil_iff.mp h₀
    refine ⟨_, u.span.stop, .selector hn ho hes hu, ?_⟩
    simp only [List.nil_append, List.map_cons, List.map_append, List.map_nil, List.cons_append,
      List.append_assoc, primary, Cursor.next, ok_bind, ho, hrun]
  | some name =>
    obtain ⟨t, rfl, ht⟩ := List.map_eq_singleton_iff.mp h₀
    refine ⟨_, u.span.stop, .keyed hn ht ho hes hu, ?_⟩
    simp only [List.cons_append, List.nil_append, List.map_cons]
    rw [primary_name ht]
    have hno : (Symbol.leftParen == Symbol.leftBrace) = false := rfl
    simp only [named, Cursor.peek, Cursor.next, ok_bind, ho, Token.Kind.isSymbol, hno,
      Bool.false_eq_true, if_false, beq_self_eq_true, if_true, List.map_append, List.map_cons,
      List.map_nil, List.append_assoc, List.cons_append, List.nil_append, hrun]

theorem completes_letIn {n : Nat} (hn : n = Level.letBody) (name : Name)
    {v b : Phrase (atLeast n)} (hv : Completes v) (hb : Completes b) :
    Completes (.letIn hn name v b) := by
  subst hn
  refine completes_of_primary rfl fun {most k least ts rest stop} hts hk hl hr => ?_
  obtain rfl : least = 0 := Nat.le_zero.mp hl
  simp only [Phrase.nesting, Nat.add_le_add_iff_right, Nat.max_le] at hk
  obtain ⟨t, ts', rfl, ht, hts⟩ := List.map_eq_cons_iff.mp hts
  obtain ⟨u, ts', rfl, hu, hts⟩ := List.map_eq_cons_iff.mp hts
  obtain ⟨a, ts', rfl, ha, hts⟩ := List.map_eq_cons_iff.mp hts
  obtain ⟨ts₁, s, ts₂, rfl, h₁, hs, h₂⟩ := map_kind_eq_append hts
  obtain ⟨value, s₁, hvalue, hrun₁⟩ := hv.closed most k a.span.stop
    (endsLevel_cons hs (endsLevel_semicolon 0) (ts₂.map .ok ++ rest)) h₁ hk.1
  obtain ⟨body, s₂, hbody, hrun₂⟩ := hb.closed most k s.span.stop hr h₂ hk.2
  refine ⟨_, s₂, .letIn rfl ht hu ha hvalue hs hbody, ?_⟩
  simp only [List.map_cons, List.map_append, List.cons_append, List.append_assoc]
  rw [primary_let ht]
  simp only [letBinding, expectName_ok hu, expectSymbol_ok ha, expectSymbol_ok hs, ok_bind, hrun₁,
    hrun₂]

theorem completes_one {p : Phrase (atLeast Level.letBody)} (hp : Completes p) :
    Completes (.one p) := by
  intro most b fuel stop rest close ts t hts hb hfuel ht hclose
  obtain ⟨fuel, rfl⟩ : ∃ k, fuel = k + 1 := ⟨fuel - 1, by omega⟩
  obtain ⟨e, s₁, he, hrun⟩ := hp.closed most b stop
    (endsLevel_cons ht (endsLevel_closing hclose 0) rest) hts hb
  refine ⟨[e], .one he, ?_⟩
  have hcomma : (Symbol.comma == close) = false := by
    cases close <;> simp only [Symbol.closes, Bool.false_eq_true] at hclose <;> rfl
  simp only [Expr.items, hrun, ok_bind, Cursor.next, ht, Token.Kind.isSymbol, hcomma,
    Bool.false_eq_true, if_false, beq_self_eq_true, if_true]

theorem completes_more {p : Phrase (atLeast Level.letBody)} {q : Phrase oneOrMore}
    (hp : Completes p) (hq : Completes q) : Completes (.more p q) := by
  intro most b fuel stop rest close ts t hts hb hfuel ht hclose
  obtain ⟨ts₁, u, ts₂, rfl, h₁, hu, h₂⟩ := map_kind_eq_append hts
  simp only [Phrase.nesting, Nat.max_le] at hb
  simp only [List.length_append, List.length_cons] at hfuel
  obtain ⟨fuel, rfl⟩ : ∃ k, fuel = k + 1 := ⟨fuel - 1, by omega⟩
  obtain ⟨e, s₁, he, hrun⟩ := hp.closed most b stop
    (endsLevel_cons hu (endsLevel_comma 0) (ts₂.map .ok ++ .ok t :: rest)) h₁ hb.1
  obtain ⟨es, hes, hrun'⟩ := hq most b fuel u.span.stop rest h₂ hb.2 (by omega) ht hclose
  refine ⟨e :: es, .more he hu hes, ?_⟩
  simp only [List.map_append, List.map_cons, List.append_assoc, List.cons_append, Expr.items, hrun,
    ok_bind, Cursor.next, hu, Token.Kind.isSymbol, beq_self_eq_true, if_true, hrun']

theorem completes_none : Completes .none := by
  intro most b stop rest close ts t hts _ ht _
  obtain rfl := List.map_eq_nil_iff.mp hts
  refine ⟨[], .none, ?_⟩
  simp only [sequence, List.map_nil, List.nil_append, Cursor.peek, ok_bind, ht,
    Token.Kind.isSymbol, beq_self_eq_true, if_true, Cursor.next]

theorem completes_some {p : Phrase oneOrMore} (hp : Completes p) : Completes (.some p) := by
  intro most b stop rest close ts t hts hb ht hclose
  obtain ⟨k, ks, hk, hopen⟩ := p.kinds_eq_cons (by simp)
  obtain ⟨u, ts', rfl, hu, _⟩ := List.map_eq_cons_iff.mp ((show _ = p.kinds from hts).trans hk)
  have hne : u.kind.isSymbol close = false := by
    rw [hu]
    cases k with
    | symbol s =>
      simp only [Token.Kind.isSymbol, beq_eq_false_iff_ne]
      rintro rfl
      rw [Token.Kind.closes, hclose] at hopen
      cases hopen
    | _ => rfl
  obtain ⟨es, hes, hrun⟩ := hp most b ((u :: ts').length + rest.length + 2) stop rest hts hb
    (by omega) ht hclose
  refine ⟨es, .some hes, ?_⟩
  rw [sequence, ← hrun]
  simp only [List.map_cons, List.cons_append, Cursor.peek, ok_bind, hne, Bool.false_eq_true,
    if_false]
  congr 1
  simp only [List.length_cons, List.length_append, List.length_map]
  omega

theorem completes {c : Category} (p : Phrase c) : Completes p := by
  induction p with
  | letIn hn name v b hv hb => exact completes_letIn hn name hv hb
  | lift p hp => exact completes_lift hp
  | binary op hn l r hl hr => exact completes_binary hn hl hr
  | tagged hn name op v hv => exact completes_tagged hn hv
  | signed hn s p hp => exact completes_signed hn hp
  | literal hn v => exact completes_literal hn v
  | reference hn name => exact completes_reference hn name
  | hasTag hn tag => exact completes_hasTag hn tag
  | group hn p hp => exact completes_group hn hp
  | call hn name p hp => exact completes_call hn name hp
  | selector hn key p hp => exact completes_selector hn key hp
  | list hn p hp => exact completes_list hn hp
  | one p hp => exact completes_one hp
  | more p q hp hq => exact completes_more hp hq
  | none => exact completes_none
  | some p hp => exact completes_some hp

/-- The tokens of a phrase, with an end after them or not, are read as its tree at their places
within any limit that allows its nesting. -/
theorem ofTokens_located (p : Phrase (atLeast Level.letBody)) {most : Nat} {ts : List Token}
    (hts : ts.map Token.kind = p.kinds) (hb : p.nesting ≤ most)
    {rest : List (Except Failure Token)} (hrest : rest = [] ∨ ∃ t, t.kind = .stop ∧ rest = [.ok t]) :
    ∃ e, ofTokens most (ts.map .ok ++ rest) = .ok e ∧ p.Located ts e := by
  have hend : EndsLevel 0 rest := by
    rcases hrest with rfl | ⟨t, ht, rfl⟩
    · exact trivial
    · exact endsLevel_cons ht (endsLevel_stop 0) []
  obtain ⟨e, s, he, hrun⟩ := Completes.closed (completes p) most most 0 hend hts hb
  refine ⟨e, ?_, he⟩
  simp only [ofTokens, hrun, ok_bind]
  rcases hrest with rfl | ⟨t, ht, rfl⟩
  · rfl
  · simp only [Cursor.next, ok_bind, ht]

/-- The tree that is read is that of the phrase. -/
theorem ofTokens_of_phrase (p : Phrase (atLeast Level.letBody)) {most : Nat} {ts : List Token}
    (hts : ts.map Token.kind = p.kinds) (hb : p.nesting ≤ most)
    {rest : List (Except Failure Token)} (hrest : rest = [] ∨ ∃ t, t.kind = .stop ∧ rest = [.ok t]) :
    ∃ e, ofTokens most (ts.map .ok ++ rest) = .ok e ∧ e.bare = p.tree := by
  obtain ⟨e, he, hlocated⟩ := ofTokens_located p hts hb hrest
  exact ⟨e, he, hlocated.bare⟩

end Expr

end SeriesQuery
