/-
The parser knows its tokens only by asking for them: to be shown the next
one, or to be given it. So it is the run of an asker (`exists_parses`), on
whatever answers like a list of tokens: what the asker comes to depends on
the answers alone (`Asker.inStep_run`).
-/
import Mathlib.Tactic.Choose
import SeriesQuery.Proofs.Expr.Sound

namespace SeriesQuery

/-- What can be asked of a stream of tokens: to show the next one, or to give it. -/
inductive Ask
  | peek
  | next

def Cursor.ask (c : Cursor) : Ask → Except Failure (Token × Cursor)
  | .peek => do
    let t ← c.peek
    .ok (t, c)
  | .next => c.next

/-- A way of asking: it ends, or asks a question and goes on by the token it is answered. -/
inductive Asker (α : Type)
  | done (result : Except Failure α)
  | ask (question : Ask) (goOn : Token → Asker α)

/-- The same value, with states left that are related, or the same failure. -/
inductive InStep {α σ τ : Type} (R : σ → τ → Prop) :
    Except Failure (α × σ) → Except Failure (α × τ) → Prop
  | value (a : α) {s : σ} {t : τ} : R s t → InStep R (.ok (a, s)) (.ok (a, t))
  | failure (f : Failure) : InStep R (.error f) (.error f)

namespace InStep

variable {α β σ τ : Type} {R : σ → τ → Prop} {x : Except Failure (α × σ)}
  {y : Except Failure (α × τ)}

theorem bind {f : α × σ → Except Failure (β × σ)} {g : α × τ → Except Failure (β × τ)}
    (h : InStep R x y) (hfg : ∀ a s t, R s t → InStep R (f (a, s)) (g (a, t))) :
    InStep R (x >>= f) (y >>= g) := by
  cases h with
  | value a h => exact hfg a _ _ h
  | failure e => exact .failure e

/-- Runs in step come to the same. -/
theorem map_fst_eq (h : InStep R x y) : x.map (·.1) = y.map (·.1) := by
  cases h with
  | value a h => rfl
  | failure e => rfl

/-- Two runs that are in step with a third one are in step. -/
theorem of_common {υ : Type} {S : υ → τ → Prop} {T : σ → υ → Prop} {z : Except Failure (α × υ)}
    (h : InStep R x y) (h' : InStep S z y) (hT : ∀ s t u, R s t → S u t → T s u) :
    InStep T x z := by
  cases h with
  | value a h =>
    cases h' with
    | value _ h' => exact .value a (hT _ _ _ h h')
  | failure f =>
    cases h'
    exact .failure f

end InStep

namespace Asker

variable {α β σ τ : Type}

/-- What the asker comes to on a stream, and what is left of the stream. -/
def run (ask : σ → Ask → Except Failure (Token × σ)) : Asker α → σ → Except Failure (α × σ)
  | done result, s => result.map (·, s)
  | .ask question goOn, s => do
    let (t, s) ← ask s question
    (goOn t).run ask s

/-- What the asker comes to on a stream. -/
def answer (ask : σ → Ask → Except Failure (Token × σ)) (a : Asker α) (s : σ) : Except Failure α :=
  (a.run ask s).map (·.1)

/-- One asker and then another. -/
def bind : Asker α → (α → Asker β) → Asker β
  | done (.ok a), f => f a
  | done (.error e), _ => done (.error e)
  | .ask question goOn, f => .ask question fun t => (goOn t).bind f

theorem run_bind {ask : σ → Ask → Except Failure (Token × σ)} (a : Asker α) (f : α → Asker β)
    (s : σ) : (a.bind f).run ask s = a.run ask s >>= fun p => (f p.1).run ask p.2 := by
  induction a generalizing s with
  | done result =>
    cases result with
    | error e => rfl
    | ok a => rfl
  | ask question goOn ih =>
    simp only [bind, run]
    cases ask s question with
    | error e => rfl
    | ok p => exact ih p.1 p.2

/-- On streams that answer alike an asker comes to the same. -/
theorem inStep_run {R : σ → τ → Prop} {ask : σ → Ask → Except Failure (Token × σ)}
    {ask' : τ → Ask → Except Failure (Token × τ)}
    (hask : ∀ {s t}, R s t → ∀ q, InStep R (ask s q) (ask' t q)) (a : Asker α) :
    ∀ {s t}, R s t → InStep R (a.run ask s) (a.run ask' t) := by
  induction a with
  | done result =>
    intro s t h
    cases result with
    | error e => exact .failure e
    | ok a => exact .value a h
  | ask question goOn ih => exact fun h => (hask h question).bind fun token _ _ h => ih token h

theorem answer_eq {R : σ → τ → Prop} {ask : σ → Ask → Except Failure (Token × σ)}
    {ask' : τ → Ask → Except Failure (Token × τ)}
    (hask : ∀ {s t}, R s t → ∀ q, InStep R (ask s q) (ask' t q)) (a : Asker α) {s : σ} {t : τ}
    (h : R s t) : a.answer ask s = a.answer ask' t :=
  (a.inStep_run hask h).map_fst_eq

end Asker

namespace Cursor

theorem length_next_le {c c' : Cursor} {t : Token} (h : c.next = .ok (t, c')) :
    c'.rest.length ≤ c.rest.length := by
  obtain ⟨rest, stop⟩ := c
  cases rest with
  | nil => cases h; exact Nat.le_refl _
  | cons item rest =>
    cases item with
    | error f => cases h
    | ok t => cases h; exact Nat.le_succ _

theorem length_ask_le {c c' : Cursor} {q : Ask} {t : Token} (h : c.ask q = .ok (t, c')) :
    c'.rest.length ≤ c.rest.length := by
  cases q with
  | peek =>
    obtain ⟨_, -, heq⟩ := bind_ok_iff.mp h
    cases heq
    exact Nat.le_refl _
  | next => exact length_next_le h

theorem length_run_le {α : Type} {a : Asker α} {x : α} {c c' : Cursor}
    (h : a.run ask c = .ok (x, c')) : c'.rest.length ≤ c.rest.length := by
  induction a generalizing c with
  | done result =>
    obtain ⟨_, -, heq⟩ := map_eq_ok.mp h
    cases heq
    exact Nat.le_refl _
  | ask question goOn ih =>
    obtain ⟨⟨t, c₁⟩, hask, hrest⟩ := bind_ok_iff.mp h
    exact Nat.le_trans (ih t hrest) (length_ask_le hask)

end Cursor

/-! ## What only asks -/

/-- What is computed from a cursor with fewer tokens than the number is the run of an asker. -/
def Asks {α : Type} (n : Nat) (f : Cursor → Except Failure (α × Cursor)) : Prop :=
  ∃ a : Asker α, ∀ c, c.rest.length < n → f c = a.run Cursor.ask c

namespace Asks

variable {α β : Type} {n : Nat} {f g : Cursor → Except Failure (α × Cursor)}

theorem value (x : α) : Asks n fun c => .ok (x, c) := ⟨.done (.ok x), fun _ _ => rfl⟩

theorem failure (e : Failure) : Asks n fun _ => (.error e : Except Failure (α × Cursor)) :=
  ⟨.done (.error e), fun _ _ => rfl⟩

theorem next : Asks n Cursor.next := by
  refine ⟨.ask .next fun t => .done (.ok t), fun c _ => ?_⟩
  show c.next = c.next >>= fun p => .ok p
  cases c.next <;> rfl

theorem peek {f : Token → Cursor → Except Failure (α × Cursor)} (h : ∀ t, Asks n (f t)) :
    Asks n fun c => c.peek >>= fun t => f t c := by
  choose a ha using h
  refine ⟨.ask .peek a, fun c hc => ?_⟩
  show (c.peek >>= fun t => f t c) =
    (c.peek >>= fun t => .ok (t, c)) >>= fun p => (a p.1).run Cursor.ask p.2
  cases c.peek with
  | error e => rfl
  | ok t => exact ha t c hc

/-- What goes on with fewer tokens left needs to be an asker's run only on those. -/
theorem bind_of_lt {m : Nat} {k : α × Cursor → Except Failure (β × Cursor)} (h : Asks n f)
    (hlt : ∀ c x c', c.rest.length < n → f c = .ok (x, c') → c'.rest.length < m)
    (hk : ∀ x, Asks m fun c => k (x, c)) : Asks n fun c => f c >>= k := by
  obtain ⟨a, ha⟩ := h
  choose b hb using hk
  refine ⟨a.bind b, fun c hc => ?_⟩
  show (f c >>= k) = _
  rw [Asker.run_bind, ← ha c hc]
  cases hf : f c with
  | error e => rfl
  | ok p => exact hb p.1 p.2 (hlt c p.1 p.2 hc hf)

theorem bind {k : α × Cursor → Except Failure (β × Cursor)} (h : Asks n f)
    (hk : ∀ x, Asks n fun c => k (x, c)) : Asks n fun c => f c >>= k := by
  obtain ⟨a, ha⟩ := h
  refine bind_of_lt ⟨a, ha⟩ (fun c x c' hc hf => ?_) hk
  rw [ha c hc] at hf
  exact Nat.lt_of_le_of_lt (Cursor.length_run_le hf) hc

theorem of_same {x : Except Failure α} {k : α → Cursor → Except Failure (β × Cursor)}
    (hk : ∀ a, Asks n (k a)) : Asks n fun c => x >>= fun a => k a c := by
  cases x with
  | error e => exact failure e
  | ok a => exact hk a

theorem ite {p : Prop} [Decidable p] (hf : Asks n f) (hg : Asks n g) :
    Asks n fun c => if p then f c else g c := by
  by_cases hp : p
  · simpa only [if_pos hp] using hf
  · simpa only [if_neg hp] using hg

theorem congr (hf : Asks n f) (h : ∀ c, c.rest.length < n → g c = f c) : Asks n g := by
  obtain ⟨a, ha⟩ := hf
  exact ⟨a, fun c hc => (h c hc).trans (ha c hc)⟩

end Asks

namespace Expr

variable {n : Nat} {operand : Operand}

/-- However few tokens are left, the operand reader only asks. -/
def Operand.Asks (operand : Operand) : Prop := ∀ least n, SeriesQuery.Asks n (operand least)

/-- An expression takes at least one token. -/
theorem Operand.Sound.length_lt {most : Nat} (hs : operand.Sound most) {c c' : Cursor} {e : Expr}
    (h : operand 0 c = .ok (e, c')) : c'.rest.length < c.rest.length := by
  obtain ⟨⟨p, -, -, ts, hts, hrest⟩, -⟩ := hs.whole h
  obtain ⟨k, ks, hkinds, -⟩ := p.kinds_eq_cons nofun
  have hpos : 0 < ts.length := by
    rw [← List.length_map Token.kind, hts, hkinds]
    exact Nat.zero_lt_succ _
  rw [hrest, List.length_append, List.length_map]
  omega

/-- The asker parses lists of at most so many tokens. -/
def Parses (a : Asker Expr) (nesting size : Nat) : Prop :=
  ∀ tokens, tokens.length ≤ size → a.answer Cursor.ask ⟨tokens, 0⟩ = ofTokens nesting tokens

/-! ## The readers -/

theorem asks_expectSymbol (s : Symbol) : Asks n (expectSymbol s) :=
  Asks.next.bind fun t => .ite (.value t) (.failure _)

theorem asks_expectName (expected : Expected) : Asks n (expectName expected) := by
  refine Asks.next.bind fun t => ?_
  obtain ⟨kind, span⟩ := t
  cases kind with
  | word name => exact .ite (.failure _) (.value _)
  | _ => exact .failure _

theorem asks_items {most : Nat} (hs : operand.Sound most) (ho : operand.Asks) (close : Symbol)
    (fuel : Nat) : Asks fuel (items operand close fuel) := by
  induction fuel with
  | zero => exact ⟨.done (.ok ([], .point 0)), fun c hc => absurd hc (Nat.not_lt_zero _)⟩
  | succ fuel ih =>
    refine (ho 0 _).bind_of_lt (m := fuel) (fun c e c' hc he => ?_) fun e => ?_
    · have hlt := hs.length_lt he
      omega
    · refine Asks.next.bind fun t => .ite ?_ (.ite (.value _) (.failure _))
      exact ih.bind fun (es, span) => .value _

/-- The fuel makes no difference while it is more than the tokens left: every item takes one. -/
theorem items_eq_of_lt {most : Nat} (hs : operand.Sound most) (close : Symbol) (fuel : Nat) :
    ∀ {fuel' : Nat} {c : Cursor}, c.rest.length < fuel → c.rest.length < fuel' →
      items operand close fuel c = items operand close fuel' c := by
  induction fuel with
  | zero => exact fun hc => absurd hc (Nat.not_lt_zero _)
  | succ fuel ih =>
    intro fuel' c hc hc'
    obtain ⟨fuel', rfl⟩ : ∃ n, fuel' = n + 1 := ⟨fuel' - 1, by omega⟩
    rw [items, items]
    cases he : operand 0 c with
    | error f => rfl
    | ok p =>
      obtain ⟨e, c₁⟩ := p
      simp only [ok_bind]
      cases ht : c₁.next with
      | error f => rfl
      | ok q =>
        obtain ⟨t, c₂⟩ := q
        have hlt := hs.length_lt he
        have hle := Cursor.length_next_le ht
        have hrest : items operand close fuel c₂ = items operand close fuel' c₂ :=
          ih (by omega) (by omega)
        simp only [ok_bind, hrest]

theorem asks_sequence {most : Nat} (hs : operand.Sound most) (ho : operand.Asks) (close : Symbol) :
    Asks n (sequence operand close) := by
  have hasks : Asks n fun c => c.peek >>= fun t =>
      if t.kind.isSymbol close then c.next >>= fun p => .ok (([], p.1.span), p.2)
      else items operand close n c :=
    .peek fun _ => .ite (Asks.next.bind fun t => .value ([], t.span)) (asks_items hs ho close n)
  refine hasks.congr fun c hc => ?_
  have hitems := items_eq_of_lt hs close (c.rest.length + 1) (Nat.lt_succ_self _) hc
  simp only [sequence, hitems]

theorem asks_unaryOperand (ho : operand.Asks) (op : UnaryOp) (span : Span) :
    Asks n (unaryOperand operand op span) :=
  (ho unaryPower n).bind fun _ => .value _

theorem asks_letBinding (ho : operand.Asks) (span : Span) : Asks n (letBinding operand span) := by
  refine (asks_expectName .bindingName).bind fun (name, _) => ?_
  refine (asks_expectSymbol .assign).bind fun _ => ?_
  refine (ho 0 n).bind fun value => ?_
  refine (asks_expectSymbol .semicolon).bind fun _ => ?_
  exact (ho 0 n).bind fun body => .value _

theorem asks_named {most : Nat} (hs : operand.Sound most) (ho : operand.Asks) (name : String)
    (span : Span) : Asks n (named operand name span) := by
  refine .peek fun t => .ite ?_ (.ite ?_ (.value _))
  · exact Asks.next.bind fun _ => (asks_sequence hs ho .rightParen).bind fun _ => .value _
  · exact Asks.next.bind fun _ => (asks_sequence hs ho .rightBrace).bind fun _ => .value _

theorem asks_ofWord {most : Nat} (hs : operand.Sound most) (ho : operand.Asks) (least : Nat)
    (word : String) (span : Span) : Asks n (ofWord operand least word span) := by
  by_cases hword : isReserved word = true
  · have hmem : word ∈ reservedWords := List.contains_iff_mem.mp hword
    simp only [reservedWords, List.mem_cons, List.not_mem_nil, or_false] at hmem
    rcases hmem with rfl | rfl | rfl | rfl | rfl | rfl
    · exact .ite (asks_letBinding ho span) (.failure _)
    · exact .failure _
    · exact .failure _
    · exact asks_unaryOperand ho .not span
    · exact .value _
    · exact .value _
  · have hnamed : ofWord operand least word span = named operand word span :=
      funext fun c => ofWord_name ⟨word, Bool.eq_false_iff.mpr hword⟩ span c
    rw [hnamed]
    exact asks_named hs ho word span

theorem asks_primary {most : Nat} (hs : operand.Sound most) (ho : operand.Asks) (least : Nat) :
    Asks n (primary operand least) := by
  refine Asks.next.bind fun t => ?_
  obtain ⟨kind, span⟩ := t
  cases kind with
  | word word => exact asks_ofWord hs ho least word span
  | symbol s =>
    cases s with
    | minus => exact asks_unaryOperand ho .negate span
    | bang => exact asks_unaryOperand ho .not span
    | plus => exact (asks_expectName .tagName).bind fun _ => .value _
    | leftParen =>
      exact (ho 0 n).bind fun inner => (asks_expectSymbol .rightParen).bind fun _ => .value _
    | leftBracket => exact (asks_sequence hs ho .rightBracket).bind fun _ => .value _
    | leftBrace => exact (asks_sequence hs ho .rightBrace).bind fun _ => .value _
    | _ => exact .failure _
  | stop => exact .failure _
  | _ => exact .value _

theorem asks_operator {α : Type} (least : Nat)
    {k : Option Connective → Cursor → Except Failure (α × Cursor)} (h : ∀ i?, Asks n (k i?)) :
    Asks n fun c => operator? least c >>= fun i? => k i? c := by
  have hasks : Asks n fun c => c.peek >>= fun t =>
      k ((Connective.ofKind? t.kind).filter fun i => least ≤ i.leftPower) c := .peek fun t => h _
  refine hasks.congr fun c _ => ?_
  rw [operator?]
  cases c.peek with
  | error e => rfl
  | ok t => rfl

variable {most : Nat}

mutual

theorem asks_expression : (b : Nat) → (expression most b).Asks
  | 0 => by
    intro least n
    have hasks : Asks n fun c => c.peek >>= fun t =>
      (.error (tooDeep most t.span) : Except Failure (Expr × Cursor)) := .peek fun t => .failure _
    exact hasks.congr fun c _ => by rw [expression]
  | b + 1 => by
    intro least n
    have hasks : Asks n fun c => primary (expression most b) least c >>= fun (left, c) =>
        chain most b least left c :=
      (asks_primary (expression_sound most b) (asks_expression b) least).bind
        fun left => asks_chain b least left n
    exact hasks.congr fun c _ => by rw [expression]

theorem asks_chain : (b : Nat) → (least : Nat) → (left : Expr) → (n : Nat) →
    Asks n (chain most b least left)
  | 0, least, left, n => by
    have hasks : Asks n fun c => operator? least c >>= fun i? =>
        match i? with
        | none => .ok (left, c)
        | some _ => c.next >>= fun (t, _) => .error (tooDeep most t.span) := by
      refine asks_operator least fun i? => ?_
      cases i? with
      | none => exact .value _
      | some i => exact Asks.next.bind fun t => .failure _
    exact hasks.congr fun c _ => chain.eq_1 most least left c
  | b + 1, least, left, n => by
    have hasks : Asks n fun c => operator? least c >>= fun i? =>
        match i? with
        | none => .ok (left, c)
        | some i => c.next >>= fun (t, c) =>
          match i with
          | .binary op => expression most b i.rightPower c >>= fun (right, c) =>
            chain most b least (.binary (left.span.join right.span) op t.span left right) c
          | .tag op => tagName left >>= fun tag => expression most b i.rightPower c >>=
            fun (value, c) =>
              chain most b least (.tagFilter (left.span.join value.span) tag op value) c := by
      refine asks_operator least fun i? => ?_
      match i? with
      | none => exact .value _
      | some (.binary op) =>
        exact Asks.next.bind fun t => (asks_expression b _ n).bind fun _ => asks_chain b least _ n
      | some (.tag op) =>
        exact Asks.next.bind fun t => .of_same fun tag =>
          (asks_expression b _ n).bind fun _ => asks_chain b least _ n
    exact hasks.congr fun c _ => chain.eq_2 most least left c b

end

/-- The parser is the run of an asker. -/
theorem exists_parses (nesting size : Nat) : ∃ a : Asker Expr, Parses a nesting size := by
  classical
  have hasks : Asks (size + 1) fun c => expression nesting nesting 0 c >>= fun p =>
      p.2.next >>= fun q =>
        if q.1.kind = .stop then .ok (p.1, q.2)
        else .error (unexpected q.1.span .endOfInput (.token q.1.kind)) := by
    refine (asks_expression nesting 0 _).bind fun e => ?_
    dsimp only
    exact Asks.next.bind fun t => .ite (p := t.kind = .stop) (.value e)
      (.failure (unexpected t.span .endOfInput (.token t.kind)))
  obtain ⟨a, ha⟩ := hasks
  refine ⟨a, fun tokens hsize => ?_⟩
  rw [Asker.answer, ← ha ⟨tokens, 0⟩ (Nat.lt_succ_of_le hsize), ofTokens]
  dsimp only
  generalize expression nesting nesting 0 ⟨tokens, 0⟩ = x
  rcases x with f | ⟨e, c⟩
  · rfl
  · simp only [ok_bind]
    rcases c.next with f | ⟨⟨kind, span⟩, c⟩
    · rfl
    · cases kind with
      | stop => simp only [ok_bind, if_pos, Except.map]
      | _ => simp only [ok_bind, reduceCtorEq, if_false, Except.map]

end Expr

end SeriesQuery
