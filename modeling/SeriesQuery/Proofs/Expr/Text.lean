/-
The text of a parsed tree. A tree that a phrase stands for needs no added
parentheses, and its text is read as the tokens of the phrase itself, only
with every `not` written as `!` (`reads_text`).
-/
import SeriesQuery.Proofs.Expr.Grammar
import SeriesQuery.Proofs.Token.Reads

namespace SeriesQuery

open Category Scan
open Token.Kind (spelling)

namespace Phrase

/-- The phrase with every `not` written as `!`. -/
def plain : {c : Category} → Phrase c → Phrase c
  | _, letIn h name v b => letIn h name v.plain b.plain
  | _, lift p => lift p.plain
  | _, binary op h l r => binary op h l.plain r.plain
  | _, tagged h name op v => tagged h name op v.plain
  | _, signed h s p => signed h (match s with | .minus => .minus | _ => .bang) p.plain
  | _, literal h v => literal h v
  | _, reference h name => reference h name
  | _, hasTag h tag => hasTag h tag
  | _, group h p => group h p.plain
  | _, call h name args => call h name args.plain
  | _, selector h key filters => selector h key filters.plain
  | _, list h p => list h p.plain
  | _, one p => one p.plain
  | _, more p rest => more p.plain rest.plain
  | _, none => none
  | _, some p => some p.plain

theorem plain_tree {c : Category} (p : Phrase c) : p.plain.tree = p.tree := by
  induction p with
  | signed _ s p ih => cases s <;> simp only [plain, tree, ih, Sign.op]
  | _ => simp only [plain, tree, *]

theorem plain_spine {c : Category} (p : Phrase c) : p.plain.spine = p.spine := by
  induction p with
  | lift p ih => exact ih
  | binary op h l r ih => simp only [plain, spine, ih]
  | _ => rfl

theorem plain_nesting {c : Category} (p : Phrase c) : p.plain.nesting = p.nesting := by
  induction p with
  | _ => simp only [plain, nesting, plain_spine, *]

end Phrase

/-- The text does not start with a character that would join the symbol before it. -/
def Unjoined (cs : List Char) : Prop := ∀ c ∈ cs.head?, c ≠ '=' ∧ c ≠ '~'

theorem unjoined_nil : Unjoined [] := nofun

theorem unjoined_cons {c : Char} (h : c ≠ '=' ∧ c ≠ '~') (cs : List Char) : Unjoined (c :: cs) := by
  rintro _ ⟨⟩
  exact h

theorem Unjoined.append {cs cs' : List Char} (h : Unjoined cs) (h' : Unjoined cs') :
    Unjoined (cs ++ cs') := by
  cases cs with
  | nil => exact h'
  | cons c cs => exact h

/-- No break joins a symbol before it. -/
theorem unjoined_of_atBreak {cs : List Char} (h : AtBreak cs) : Unjoined cs := by
  intro c hc
  have := h c hc
  constructor <;> rintro rfl <;> exact absurd this (by decide)

/-- Brackets, commas and semicolons. -/
def Symbol.separates : Symbol → Bool
  | leftParen | rightParen | leftBracket | rightBracket | leftBrace | rightBrace => true
  | comma | semicolon => true
  | _ => false

/-- The text of one tree, or of trees with commas between them. -/
def Category.textOf : (c : Category) → c.Tree → List Char
  | atLeast _, e => e.text.toList
  | oneOrMore, es => (String.intercalate ", " (Expr.texts es)).toList
  | anyNumber, es => (String.intercalate ", " (Expr.texts es)).toList

theorem Literal.toList_text (v : Literal) : v.text.toList = v.kind.spelling := by
  cases v with
  | boolean b => cases b <;> rfl
  | string s => exact String.toList_ofList
  | regex p =>
    simp [text, kind, Token.Kind.spelling, escapeQuotes, patternChars]
  | _ => rfl

theorem BinaryOp.toList_symbol (op : BinaryOp) : op.symbol.toList = op.kind.spelling := by
  cases op <;> rfl

theorem TagOp.toList_symbol (op : TagOp) : op.symbol.toList = op.kind.spelling := by
  cases op <;> rfl

theorem Expr.atLevel_of_le {least level : Nat} (h : least ≤ level) (text : String) :
    atLevel least level text = text := by
  rw [atLevel, if_neg (Nat.not_lt.mpr h)]

namespace Phrase

/-- The text of a phrase, token by token. -/
def written : {c : Category} → Phrase c → List Char
  | _, letIn _ name v b =>
    spelling (.word "let") ++ ' ' :: (name.kind.spelling ++ ' ' ::
      (spelling (.symbol .assign) ++ ' ' :: (v.written ++ (spelling (.symbol .semicolon) ++ ' ' :: b.written))))
  | _, lift p => p.written
  | _, binary op _ l r => l.written ++ ' ' :: (op.kind.spelling ++ ' ' :: r.written)
  | _, tagged _ name op v => name.kind.spelling ++ ' ' :: (op.kind.spelling ++ ' ' :: v.written)
  | _, signed _ .minus p => spelling (.symbol .minus) ++ p.written
  | _, signed _ _ p => spelling (.symbol .bang) ++ p.written
  | _, literal _ v => v.kind.spelling
  | _, reference _ name => name.kind.spelling
  | _, hasTag _ tag => spelling (.symbol .plus) ++ tag.kind.spelling
  | _, group _ p => spelling (.symbol .leftParen) ++ (p.written ++ spelling (.symbol .rightParen))
  | _, call _ name args =>
    name.kind.spelling ++ (spelling (.symbol .leftParen) ++ (args.written ++ spelling (.symbol .rightParen)))
  | _, selector _ key filters =>
    (key.toList.flatMap fun name => name.kind.spelling) ++
      (spelling (.symbol .leftBrace) ++ (filters.written ++ spelling (.symbol .rightBrace)))
  | _, list _ p => spelling (.symbol .leftBracket) ++ (p.written ++ spelling (.symbol .rightBracket))
  | _, one p => p.written
  | _, more p rest => p.written ++ (spelling (.symbol .comma) ++ ' ' :: rest.written)
  | _, none => []
  | _, some p => p.written

/-- The text of a phrase's tree is the text of the phrase: no parentheses are added. -/
theorem textOf_tree {c : Category} (p : Phrase c) : c.textOf p.tree = p.written := by
  induction p with
  | binary op h l r ihl ihr =>
    subst h
    simp only [textOf] at ihl ihr
    simp [textOf, tree, Expr.text, written, Expr.atLevel_of_le l.le_level,
      Expr.atLevel_of_le r.le_level, BinaryOp.toList_symbol, ihl, ihr]
  | tagged h name op v ih =>
    subst h
    simp only [textOf] at ih
    simp [textOf, tree, Expr.text, written, Expr.atLevel_of_le v.le_level, TagOp.toList_symbol, ih,
      Name.kind, Token.Kind.spelling]
  | signed h s p ih =>
    subst h
    simp only [textOf] at ih
    cases s <;>
      simp [textOf, tree, Expr.text, written, Expr.atLevel_of_le p.le_level, ih, Sign.op,
        UnaryOp.symbol, Token.Kind.spelling, Symbol.text]
  | selector h key filters ih =>
    simp only [textOf] at ih
    cases key <;> simp [textOf, tree, Expr.text, written, ih, Token.Kind.spelling, Symbol.text,
      Name.kind]
  | more p q ihp ihq =>
    simp only [textOf] at ihp ihq
    cases hq : q.tree with
    | nil => exact absurd hq q.tree_ne_nil
    | cons e es =>
      rw [hq] at ihq
      simp [textOf, tree, hq, Expr.texts, written, String.intercalate_cons_cons, ihp, ← ihq,
        Token.Kind.spelling, Symbol.text]
  | literal h v => exact v.toList_text
  | none => rfl
  | one p ih =>
    simp only [textOf] at ih
    simp [textOf, tree, Expr.texts, written, ih]
  | lift p ih => exact ih
  | some p ih => exact ih
  | _ =>
    simp_all [textOf, tree, Expr.text, written, Token.Kind.spelling, Symbol.text,
      Name.kind]

theorem atBreak_space (cs : List Char) : AtBreak (' ' :: cs) := atBreak_cons (by decide) cs

/-- Brackets, commas and semicolons end the word or number before them. -/
theorem atBreak_symbol {s : Symbol} (hs : s.separates = true) (cs : List Char) :
    AtBreak (spelling (.symbol s) ++ cs) := by
  cases s <;> simp only [Symbol.separates, Bool.false_eq_true] at hs <;>
    exact atBreak_cons (by decide) cs

end Phrase

variable [PatternEngine]

theorem unjoined_spelling {k : Token.Kind} (hk : k.Writable) (hs : ∀ s, k ≠ .symbol s) :
    Unjoined k.spelling := by
  obtain ⟨c, cs, htext, hscan⟩ := scan_spelling hk atBreak_nil
  rw [htext]
  refine unjoined_cons ⟨?_, ?_⟩ cs
  · rintro rfl
    change Scan.symbol '=' _ = _ at hscan
    unfold Scan.symbol at hscan
    split at hscan
    · cases hscan
      exact hs _ rfl
    · cases hscan
  · rintro rfl
    cases hscan

theorem BinaryOp.writable (op : BinaryOp) : op.kind.Writable := by
  cases op
  case and => exact ⟨'a', ['n', 'd'], rfl, rfl, rfl⟩
  case or => exact ⟨'o', ['r'], rfl, rfl, rfl⟩
  all_goals exact trivial

theorem TagOp.writable (op : TagOp) : op.kind.Writable := by cases op <;> exact trivial

theorem letWord_writable : (Token.Kind.word "let").Writable := ⟨'l', ['e', 't'], rfl, rfl, rfl⟩

namespace Phrase

/-- The text of a phrase does not start with a character that joins the symbol before it. -/
theorem unjoined_written {c : Category} (p : Phrase c) (hp : ∀ k ∈ p.kinds, k.Writable) :
    Unjoined p.written := by
  induction p with
  | letIn => exact unjoined_cons (by decide) _
  | lift p ih => exact ih hp
  | binary op h l r ih =>
    have hl := ih fun k hk => hp k (List.mem_append_left _ hk)
    exact hl.append (unjoined_cons (by decide) _)
  | tagged h name op v ih =>
    have hname := unjoined_spelling (hp name.kind (by simp [kinds])) (by simp [Name.kind])
    exact hname.append (unjoined_cons (by decide) _)
  | signed _ s => cases s <;> exact unjoined_cons (by decide) _
  | literal h v => exact unjoined_spelling (hp v.kind (by simp [kinds])) (by cases v <;> simp [Literal.kind])
  | reference h name => exact unjoined_spelling (hp name.kind (by simp [kinds])) (by simp [Name.kind])
  | hasTag => exact unjoined_cons (by decide) _
  | group => exact unjoined_cons (by decide) _
  | call h name args =>
    have hname := unjoined_spelling (hp name.kind (by simp [kinds])) (by simp [Name.kind])
    exact hname.append (unjoined_cons (by decide) _)
  | selector h key filters =>
    have hbrace := unjoined_cons (c := '\x7b') (by decide)
      (filters.written ++ spelling (.symbol .rightBrace))
    cases key with
    | none => exact hbrace
    | some name =>
      have hname := unjoined_spelling (hp name.kind (by simp [kinds])) (by simp [Name.kind])
      rw [written, Option.toList_some, List.flatMap_singleton]
      exact hname.append hbrace
  | list => exact unjoined_cons (by decide) _
  | one p ih => exact ih hp
  | more p q ih =>
    have hp := ih fun k hk => hp k (List.mem_append_left _ hk)
    exact hp.append (unjoined_cons (by decide) _)
  | none => exact unjoined_nil
  | some p ih => exact ih hp

/-- The text of a phrase is read as the tokens of the plain phrase. -/
theorem reads_written {c : Category} (p : Phrase c) (hp : ∀ k ∈ p.kinds, k.Writable)
    {more rest : List Char} {ks : List Token.Kind} (hmore : AtBreak more)
    (h : Reads more ks rest) : Reads (p.written ++ more) (p.plain.kinds ++ ks) rest := by
  induction p generalizing more ks with
  | letIn top name v b ihv ihb =>
    simp only [kinds, List.mem_cons, List.mem_append] at hp
    have hname : name.kind.Writable := hp _ (by simp)
    have hv : ∀ k ∈ v.kinds, k.Writable := fun k hk => hp k (by simp [hk])
    have hb : ∀ k ∈ b.kinds, k.Writable := fun k hk => hp k (by simp [hk])
    simp only [written, plain, kinds, List.append_assoc, List.cons_append]
    refine .spelling letWord_writable (atBreak_space _) (.space ?_)
    refine .spelling hname (atBreak_space _) (.space ?_)
    refine .spelling trivial (atBreak_space _) (.space ?_)
    refine ihv hv (atBreak_symbol rfl _) ?_
    exact .spelling trivial (atBreak_space _) (.space (ihb hb hmore h))
  | lift p ih => exact ih hp hmore h
  | binary op _ l r ihl ihr =>
    simp only [kinds, List.mem_cons, List.mem_append] at hp
    have hl : ∀ k ∈ l.kinds, k.Writable := fun k hk => hp k (by simp [hk])
    have hr : ∀ k ∈ r.kinds, k.Writable := fun k hk => hp k (by simp [hk])
    simp only [written, plain, kinds, List.append_assoc, List.cons_append]
    refine ihl hl (atBreak_space _) (.space ?_)
    exact .spelling op.writable (atBreak_space _) (.space (ihr hr hmore h))
  | tagged _ name op v ih =>
    simp only [kinds, List.mem_cons] at hp
    have hname : name.kind.Writable := hp _ (by simp)
    have hv : ∀ k ∈ v.kinds, k.Writable := fun k hk => hp k (by simp [hk])
    simp only [written, plain, kinds, List.append_assoc, List.cons_append]
    refine .spelling hname (atBreak_space _) (.space ?_)
    exact .spelling op.writable (atBreak_space _) (.space (ih hv hmore h))
  | signed _ s p ih =>
    simp only [kinds, List.mem_cons] at hp
    have hoperand : ∀ k ∈ p.kinds, k.Writable := fun k hk => hp k (by simp [hk])
    have hnext : Unjoined (p.written ++ more) :=
      (p.unjoined_written hoperand).append (unjoined_of_atBreak hmore)
    cases s <;> simp only [written, plain, kinds, List.append_assoc, List.cons_append] <;>
      exact .symbol _ (fun _ => hnext) (ih hoperand hmore h)
  | literal _ v => exact .spelling (hp _ (by simp [kinds])) hmore h
  | reference _ name => exact .spelling (hp _ (by simp [kinds])) hmore h
  | hasTag _ tag =>
    simp only [written, plain, kinds, List.append_assoc, List.cons_append, List.nil_append]
    exact .lone (s := .plus) rfl (.spelling (hp _ (by simp [kinds])) hmore h)
  | group _ p ih =>
    have hinner : ∀ k ∈ p.kinds, k.Writable := fun k hk => hp k (by simp [kinds, hk])
    simp only [written, plain, kinds, List.append_assoc, List.cons_append, List.nil_append]
    refine .lone (s := .leftParen) rfl (ih hinner (atBreak_symbol rfl _) ?_)
    exact .lone (s := .rightParen) rfl h
  | call _ name args ih =>
    have hname : name.kind.Writable := hp _ (by simp [kinds])
    have hargs : ∀ k ∈ args.kinds, k.Writable := fun k hk => hp k (by simp [kinds, hk])
    simp only [written, plain, kinds, List.append_assoc, List.cons_append, List.nil_append]
    refine .spelling hname (atBreak_symbol rfl _) (.lone (s := .leftParen) rfl ?_)
    exact ih hargs (atBreak_symbol rfl _) (.lone (s := .rightParen) rfl h)
  | selector _ key filters ih =>
    have hfilters : ∀ k ∈ filters.kinds, k.Writable := fun k hk => hp k (by simp [kinds, hk])
    have hbraces : Reads (spelling (.symbol .leftBrace) ++ (filters.written ++
        (spelling (.symbol .rightBrace) ++ more)))
        (.symbol .leftBrace :: (filters.plain.kinds ++ .symbol .rightBrace :: ks)) rest :=
      .lone (s := .leftBrace) rfl (ih hfilters (atBreak_symbol rfl _) (.lone (s := .rightBrace) rfl h))
    cases key with
    | none =>
      simp only [written, plain, kinds, List.append_assoc, List.cons_append, List.nil_append]
      exact hbraces
    | some name =>
      simp only [written, plain, kinds, List.append_assoc, List.cons_append, List.nil_append,
        Option.toList_some, List.flatMap_singleton, List.map_cons, List.map_nil]
      exact .spelling (hp _ (by simp [kinds])) (atBreak_symbol rfl _) hbraces
  | list _ p ih =>
    have hitems : ∀ k ∈ p.kinds, k.Writable := fun k hk => hp k (by simp [kinds, hk])
    simp only [written, plain, kinds, List.append_assoc, List.cons_append, List.nil_append]
    refine .lone (s := .leftBracket) rfl (ih hitems (atBreak_symbol rfl _) ?_)
    exact .lone (s := .rightBracket) rfl h
  | one p ih => exact ih hp hmore h
  | more p q ihp ihq =>
    simp only [kinds, List.mem_cons, List.mem_append] at hp
    have hitem : ∀ k ∈ p.kinds, k.Writable := fun k hk => hp k (by simp [hk])
    have hitems : ∀ k ∈ q.kinds, k.Writable := fun k hk => hp k (by simp [hk])
    simp only [written, plain, kinds, List.append_assoc, List.cons_append]
    refine ihp hitem (atBreak_symbol rfl _) ?_
    exact .lone (s := .comma) rfl (.space (ihq hitems hmore h))
  | none => exact h
  | some p ih => exact ih hp hmore h

end Phrase

end SeriesQuery
