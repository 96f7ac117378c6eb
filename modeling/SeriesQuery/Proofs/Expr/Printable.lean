/-
Trees that are printed as they are. A tree is printable at a level if a
phrase of that level stands for it and its tokens can be written; then no
parentheses are added to its text, and the text is parsed back to it
(`Printable.parse`).
-/
import SeriesQuery.Proofs.Expr.Named

namespace SeriesQuery.Expr

open Category

variable {level : Nat} {e l r : Expr}

/-! ## Operands in a row -/

/-- A tree joined with others by one operator, one after the other. -/
def joinWith (op : BinaryOp) (e : Expr) (es : List Expr) : Expr :=
  es.foldl (binary nowhere op nowhere) e

theorem text_binary {op : BinaryOp} (hl : op.level ≤ l.level) (hr : op.level + 1 ≤ r.level) :
    (binary nowhere op nowhere l r).text = l.text ++ (" " ++ op.symbol ++ " ") ++ r.text := by
  rw [text, atLevel_of_le hl, atLevel_of_le hr]
  simp only [String.append_assoc]

theorem intercalate_append (s a b : String) (l : List String) :
    String.intercalate s ((a ++ s ++ b) :: l) = String.intercalate s (a :: b :: l) := by
  cases l with
  | nil => simp [String.append_assoc]
  | cons c l => simp only [String.intercalate_cons_cons, String.append_assoc]

theorem text_joinWith {op : BinaryOp} {es : List Expr} (he : op.level ≤ e.level)
    (hes : ∀ x ∈ es, op.level + 1 ≤ x.level) :
    (joinWith op e es).text = String.intercalate (" " ++ op.symbol ++ " ") (e.text :: es.map text) := by
  induction es generalizing e with
  | nil => simp [joinWith]
  | cons x es ih =>
    have hlevel : op.level ≤ (binary nowhere op nowhere e x).level := Nat.le_refl _
    rw [joinWith, List.foldl_cons, ← joinWith,
      ih hlevel fun y hy => hes y (List.mem_cons_of_mem x hy),
      text_binary he (hes x List.mem_cons_self), intercalate_append, List.map_cons]

/-! ## Printable trees -/

variable [PatternEngine]

/-- The tree stands for a phrase of the level, whose tokens can be written. -/
def Printable (level : Nat) (e : Expr) : Prop :=
  ∃ p : Phrase (atLeast level), p.tree = e ∧ ∀ k ∈ p.kinds, k.Writable

theorem Printable.le_level (h : Printable level e) : level ≤ e.level := by
  obtain ⟨p, rfl, -⟩ := h
  exact p.le_level

theorem Printable.mono {lower : Nat} (h : Printable level e) (hle : lower ≤ level) :
    Printable lower e := by
  induction hle with
  | refl => exact h
  | step _ ih =>
    obtain ⟨p, hp, hkinds⟩ := h
    exact ih ⟨.lift p, hp, hkinds⟩

/-- A printable tree is parsed from its text, within some limits. -/
theorem Printable.parse (h : Printable Level.letBody e) : ∃ most, ∀ limits : Limits,
    most ≤ limits.nesting → e.text.utf8ByteSize ≤ limits.length →
      ∃ e', parse limits e.text = .ok e' ∧ e'.bare = e := by
  obtain ⟨p, rfl, hkinds⟩ := h
  exact ⟨p.nesting, fun limits hnesting hlength =>
    parse_text_of_phrase limits p hkinds hnesting hlength⟩

/-- Whatever the limits are, its text is parsed as no other tree. -/
theorem Printable.bare_of_parse (h : Printable Level.letBody e) {limits : Limits} {e' : Expr}
    (hparse : Expr.parse limits e.text = .ok e') : e'.bare = e := by
  obtain ⟨most, hmost⟩ := h.parse
  obtain ⟨-, hparse⟩ := Expr.parse_eq_ok.mp hparse
  obtain ⟨e'', he'', hbare⟩ := hmost ⟨e.text.utf8ByteSize, max most limits.nesting⟩
    (Nat.le_max_left ..) (Nat.le_refl _)
  replace he'' := (Expr.parse_eq_ok.mp he'').2
  have hfree : ¬ TooDeep limits.nesting (ofTokens limits.nesting (tokenize e.text)) := by
    rintro ⟨span, hdeep⟩
    rw [hparse] at hdeep
    cases hdeep
  have hmono := ofTokens_mono (Nat.le_max_right most limits.nesting) hfree
  rw [he'', hparse] at hmono
  cases hmono
  exact hbare

/-! ## The forms of trees -/

theorem printable_literal {v : Literal} (h : v.kind.Writable) :
    Printable Level.primary (literal nowhere v) := by
  refine ⟨.literal rfl v, rfl, fun k hk => ?_⟩
  obtain rfl := List.mem_singleton.mp hk
  exact h

theorem writable_boolean (b : Bool) : (Literal.boolean b).kind.Writable := by
  cases b with
  | false => exact ⟨'f', ['a', 'l', 's', 'e'], rfl, rfl, rfl⟩
  | true => exact ⟨'t', ['r', 'u', 'e'], rfl, rfl, rfl⟩

theorem printable_boolean (b : Bool) : Printable Level.primary (literal nowhere (.boolean b)) :=
  printable_literal (writable_boolean b)

theorem printable_string (s : String) : Printable Level.primary (literal nowhere (.string s)) :=
  printable_literal trivial

theorem Printable.group (h : Printable Level.letBody e) :
    Printable Level.primary (group nowhere e) := by
  obtain ⟨p, rfl, hkinds⟩ := h
  refine ⟨.group rfl p, rfl, fun k hk => ?_⟩
  simp only [Phrase.kinds, List.mem_cons, List.mem_append, List.not_mem_nil, or_false] at hk
  obtain rfl | hk | rfl := hk
  · trivial
  · exact hkinds k hk
  · trivial

theorem Printable.unary (op : UnaryOp) (h : Printable Level.unary e) :
    Printable Level.unary (unary nowhere op nowhere e) := by
  obtain ⟨p, rfl, hkinds⟩ := h
  have hsigned (s : Sign) (hs : s.kind.Writable) :
      Printable Level.unary (Expr.unary nowhere s.op nowhere p.tree) := by
    refine ⟨.signed rfl s p, rfl, fun k hk => ?_⟩
    obtain rfl | hk := List.mem_cons.mp hk
    · exact hs
    · exact hkinds k hk
  cases op with
  | negate => exact hsigned .minus trivial
  | not => exact hsigned .bang trivial

theorem Printable.not (h : Printable Level.unary e) :
    Printable Level.unary (Expr.unary nowhere .not nowhere e) := h.unary .not

theorem Printable.binary {op : BinaryOp} (hl : Printable op.level l)
    (hr : Printable (op.level + 1) r) : Printable op.level (binary nowhere op nowhere l r) := by
  obtain ⟨p, rfl, hp⟩ := hl
  obtain ⟨q, rfl, hq⟩ := hr
  refine ⟨.binary op rfl p q, rfl, fun k hk => ?_⟩
  simp only [Phrase.kinds, List.mem_append, List.mem_cons] at hk
  obtain hk | rfl | hk := hk
  · exact hp k hk
  · exact op.writable
  · exact hq k hk

/-- A name, as the grammar has it. -/
theorem exists_name {s : String} (h : isName s = true) :
    ∃ name : Name, name.1 = s ∧ name.kind.Writable := by
  obtain ⟨hword, hfree⟩ := isName_iff.mp h
  exact ⟨⟨s, hfree⟩, rfl, hword⟩

theorem Printable.tagFilter {tag : String} {op : TagOp} (ht : isName tag = true)
    (h : Printable (Level.comparison + 1) e) :
    Printable Level.comparison (tagFilter nowhere tag op e) := by
  obtain ⟨p, rfl, hkinds⟩ := h
  obtain ⟨name, rfl, hname⟩ := exists_name ht
  refine ⟨.tagged rfl name op p, rfl, fun k hk => ?_⟩
  simp only [Phrase.kinds, List.mem_cons] at hk
  obtain rfl | rfl | hk := hk
  · exact hname
  · exact op.writable
  · exact hkinds k hk

theorem printable_hasTag {tag : String} (ht : isName tag = true) :
    Printable Level.primary (hasTag nowhere tag) := by
  obtain ⟨name, rfl, hname⟩ := exists_name ht
  refine ⟨.hasTag rfl name, rfl, fun k hk => ?_⟩
  simp only [Phrase.kinds, List.mem_cons, List.not_mem_nil, or_false] at hk
  obtain rfl | rfl := hk
  · trivial
  · exact hname

theorem printable_reference {name : String} (h : isName name = true) :
    Printable Level.primary (reference nowhere name) := by
  obtain ⟨name, rfl, hname⟩ := exists_name h
  refine ⟨.reference rfl name, rfl, fun k hk => ?_⟩
  obtain rfl := List.mem_singleton.mp hk
  exact hname

theorem Printable.letIn {s : String} (hs : isName s = true) (hl : Printable Level.letBody l)
    (hr : Printable Level.letBody r) : Printable Level.letBody (letIn nowhere s l r) := by
  obtain ⟨name, rfl, hname⟩ := exists_name hs
  obtain ⟨p, rfl, hp⟩ := hl
  obtain ⟨q, rfl, hq⟩ := hr
  refine ⟨.letIn rfl name p q, rfl, fun k hk => ?_⟩
  simp only [Phrase.kinds, List.mem_cons, List.mem_append] at hk
  obtain rfl | rfl | rfl | hk | rfl | hk := hk
  · exact letWord_writable
  · exact hname
  · trivial
  · exact hp k hk
  · trivial
  · exact hq k hk

/-! ## Items in brackets -/

/-- The trees stand for items that are written one after the other. -/
def PrintableAll (es : List Expr) : Prop :=
  ∃ p : Phrase anyNumber, p.tree = es ∧ ∀ k ∈ p.kinds, k.Writable

theorem printableAll {es : List Expr} (h : ∀ e ∈ es, Printable Level.letBody e) :
    PrintableAll es := by
  induction es with
  | nil => exact ⟨.none, rfl, nofun⟩
  | cons e es ih =>
    obtain ⟨p, rfl, hp⟩ := h e List.mem_cons_self
    obtain ⟨q, rfl, hq⟩ := ih fun e' he' => h e' (List.mem_cons_of_mem _ he')
    cases q with
    | none => exact ⟨.some (.one p), rfl, hp⟩
    | some q =>
      refine ⟨.some (.more p q), rfl, fun k hk => ?_⟩
      simp only [Phrase.kinds, List.mem_append, List.mem_cons] at hk
      obtain hk | rfl | hk := hk
      · exact hp k hk
      · trivial
      · exact hq k hk

variable {es : List Expr}

theorem PrintableAll.list (h : PrintableAll es) : Printable Level.primary (list nowhere es) := by
  obtain ⟨p, rfl, hp⟩ := h
  refine ⟨.list rfl p, rfl, fun k hk => ?_⟩
  simp only [Phrase.kinds, List.mem_cons, List.mem_append, List.not_mem_nil, or_false] at hk
  obtain rfl | hk | rfl := hk
  · trivial
  · exact hp k hk
  · trivial

theorem PrintableAll.call {f : String} (hf : isName f = true) (h : PrintableAll es) :
    Printable Level.primary (call nowhere f es) := by
  obtain ⟨p, rfl, hp⟩ := h
  obtain ⟨name, rfl, hname⟩ := exists_name hf
  refine ⟨.call rfl name p, rfl, fun k hk => ?_⟩
  simp only [Phrase.kinds, List.mem_cons, List.mem_append, List.not_mem_nil, or_false] at hk
  obtain rfl | rfl | hk | rfl := hk
  · exact hname
  · trivial
  · exact hp k hk
  · trivial

theorem PrintableAll.selector {key : Option String} (hkey : ∀ k ∈ key, isName k = true)
    (h : PrintableAll es) : Printable Level.primary (selector nowhere key es) := by
  obtain ⟨p, rfl, hp⟩ := h
  obtain ⟨key', rfl, hkey'⟩ : ∃ key' : Option Name, key'.map (·.1) = key ∧
      ∀ name ∈ key', name.kind.Writable := by
    cases key with
    | none => exact ⟨none, rfl, nofun⟩
    | some k =>
      obtain ⟨name, rfl, hname⟩ := exists_name (hkey k rfl)
      exact ⟨some name, rfl, fun _ h => Option.some.inj h ▸ hname⟩
  refine ⟨.selector rfl key' p, rfl, fun k hk => ?_⟩
  simp only [Phrase.kinds, List.mem_append, List.mem_map, Option.mem_toList, List.mem_cons,
    List.not_mem_nil, or_false] at hk
  obtain ⟨name, hname, rfl⟩ | rfl | hk | rfl := hk
  · exact hkey' name hname
  · trivial
  · exact hp k hk
  · trivial

theorem Printable.joinWith {op : BinaryOp} {es : List Expr} (he : Printable op.level e)
    (hes : ∀ x ∈ es, Printable (op.level + 1) x) : Printable op.level (joinWith op e es) := by
  induction es generalizing e with
  | nil => exact he
  | cons x es ih =>
    exact ih (he.binary (hes x List.mem_cons_self)) fun y hy => hes y (List.mem_cons_of_mem x hy)

end SeriesQuery.Expr
