/-
Printing trees that were not parsed. Where a part holds together less tightly
than its place asks for, its text gets parentheses; so the text is that of
the tree with groups in these places (`text_parenthesized`), which is
printed as it is (`printable_parenthesized`). Apart from groups the text
therefore stands for the tree it was made from, and means the same.
-/
import SeriesQuery.Proofs.Expr.Outcome
import SeriesQuery.Proofs.Expr.Printable
import SeriesQuery.Regex.Engine

namespace SeriesQuery

namespace Expr

/-- The tree in parentheses unless its level is at least the one asked for. -/
def enclosed (least level : Nat) (e : Expr) : Expr := if level < least then group nowhere e else e

mutual

/-- The tree, at no place, with a group wherever its text has parentheses. -/
def parenthesized : Expr → Expr
  | literal _ v => literal nowhere v
  | reference _ name => reference nowhere name
  | list _ items => list nowhere (parenthesizedAll items)
  | binary _ op _ l r =>
    binary nowhere op nowhere (enclosed op.level l.level (parenthesized l))
      (enclosed (op.level + 1) r.level (parenthesized r))
  | unary _ op _ a => unary nowhere op nowhere (enclosed Level.unary a.level (parenthesized a))
  | group _ a => group nowhere (parenthesized a)
  | call _ f args => call nowhere f (parenthesizedAll args)
  | letIn _ name v b => letIn nowhere name (parenthesized v) (parenthesized b)
  | tagFilter _ t op v =>
    tagFilter nowhere t op (enclosed (Level.comparison + 1) v.level (parenthesized v))
  | hasTag _ t => hasTag nowhere t
  | selector _ key filters => selector nowhere key (parenthesizedAll filters)

def parenthesizedAll : List Expr → List Expr
  | [] => []
  | e :: es => parenthesized e :: parenthesizedAll es

end

theorem level_parenthesized (e : Expr) : e.parenthesized.level = e.level := by
  cases e <;> simp only [parenthesized, level]

/-! ## Its text -/

/-- A group stands where the text has parentheses, so no more are added. -/
theorem atLevel_enclosed {least level : Nat} (hleast : least ≤ Level.primary) {e : Expr}
    (he : e.level = level) :
    atLevel least (enclosed least level e).level (enclosed least level e).text =
      atLevel least level e.text := by
  unfold enclosed atLevel
  split
  · have hopen : ¬ (group nowhere e).level < least := Nat.not_lt.mpr hleast
    rw [if_neg hopen, text]
  · rename_i hlevel
    rw [he, if_neg hlevel]

theorem op_level_lt_primary (op : BinaryOp) : op.level < Level.primary := by cases op <;> decide

mutual

theorem text_parenthesized : (e : Expr) → e.parenthesized.text = e.text
  | literal _ _ | reference _ _ | hasTag _ _ => by simp only [parenthesized, text]
  | list _ items => by simp only [parenthesized, text, texts_parenthesizedAll items]
  | binary _ op _ l r => by
    have hop := op_level_lt_primary op
    simp only [parenthesized, text, atLevel_enclosed (Nat.le_of_lt hop) (level_parenthesized l),
      atLevel_enclosed hop (level_parenthesized r), text_parenthesized l, text_parenthesized r]
  | unary _ _ _ a => by
    simp only [parenthesized, text, text_parenthesized a,
      atLevel_enclosed (show Level.unary ≤ Level.primary by decide) (level_parenthesized a)]
  | group _ a => by simp only [parenthesized, text, text_parenthesized a]
  | call _ _ args => by simp only [parenthesized, text, texts_parenthesizedAll args]
  | letIn _ _ v b => by simp only [parenthesized, text, text_parenthesized v, text_parenthesized b]
  | tagFilter _ _ _ v => by
    simp only [parenthesized, text, text_parenthesized v,
      atLevel_enclosed (show Level.comparison + 1 ≤ Level.primary by decide) (level_parenthesized v)]
  | selector _ _ filters => by simp only [parenthesized, text, texts_parenthesizedAll filters]

theorem texts_parenthesizedAll : (es : List Expr) → texts (parenthesizedAll es) = texts es
  | [] => rfl
  | e :: es => by
    simp only [parenthesizedAll, texts, text_parenthesized e, texts_parenthesizedAll es]

end

/-! ## Without its groups -/

theorem ungrouped_enclosed (least level : Nat) (e : Expr) :
    (enclosed least level e).ungrouped = e.ungrouped := by
  unfold enclosed
  split
  · rw [ungrouped]
  · rfl

mutual

/-- Only groups were put in. -/
theorem ungrouped_parenthesized : (e : Expr) → e.parenthesized.ungrouped = e.ungrouped.bare
  | literal _ _ | reference _ _ | hasTag _ _ => by simp only [parenthesized, ungrouped, bare]
  | list _ items => by simp only [parenthesized, ungrouped, bare, ungroupedAll_parenthesizedAll items]
  | binary _ _ _ l r => by
    simp only [parenthesized, ungrouped, bare, ungrouped_enclosed, ungrouped_parenthesized l,
      ungrouped_parenthesized r]
  | unary _ _ _ a => by
    simp only [parenthesized, ungrouped, bare, ungrouped_enclosed, ungrouped_parenthesized a]
  | group _ a => by simp only [parenthesized, ungrouped, ungrouped_parenthesized a]
  | call _ _ args => by simp only [parenthesized, ungrouped, bare, ungroupedAll_parenthesizedAll args]
  | letIn _ _ v b => by
    simp only [parenthesized, ungrouped, bare, ungrouped_parenthesized v, ungrouped_parenthesized b]
  | tagFilter _ _ _ v => by
    simp only [parenthesized, ungrouped, bare, ungrouped_enclosed, ungrouped_parenthesized v]
  | selector _ _ filters => by
    simp only [parenthesized, ungrouped, bare, ungroupedAll_parenthesizedAll filters]

theorem ungroupedAll_parenthesizedAll : (es : List Expr) →
    ungroupedAll (parenthesizedAll es) = bares (ungroupedAll es)
  | [] => rfl
  | e :: es => by
    simp only [parenthesizedAll, ungroupedAll, bares, ungrouped_parenthesized e,
      ungroupedAll_parenthesizedAll es]

end

mutual

theorem doubles_ungrouped : (e : Expr) → e.ungrouped.doubles = e.doubles
  | literal _ _ | reference _ _ | hasTag _ _ => by simp only [ungrouped]
  | list _ items => by simp only [ungrouped, doubles, doubles_ungroupedAll items]
  | binary _ _ _ l r => by simp only [ungrouped, doubles, doubles_ungrouped l, doubles_ungrouped r]
  | unary _ _ _ a => by simp only [ungrouped, doubles, doubles_ungrouped a]
  | group _ a => by simp only [ungrouped, doubles, doubles_ungrouped a]
  | call _ _ args => by simp only [ungrouped, doubles, doubles_ungroupedAll args]
  | letIn _ _ v b => by simp only [ungrouped, doubles, doubles_ungrouped v, doubles_ungrouped b]
  | tagFilter _ _ _ v => by simp only [ungrouped, doubles, doubles_ungrouped v]
  | selector _ _ filters => by simp only [ungrouped, doubles, doubles_ungroupedAll filters]

theorem doubles_ungroupedAll : (es : List Expr) → doublesOf (ungroupedAll es) = doublesOf es
  | [] => rfl
  | e :: es => by simp only [ungroupedAll, doublesOf, doubles_ungrouped e, doubles_ungroupedAll es]

end

end Expr

/-! ## It is printed as it is -/

section Printing

variable [PatternEngine]

/-- The literal is one that the lexer can give. -/
def Literal.Lexical : Literal → Prop
  | integer n => 0 ≤ n.toInt
  | double x => x.isFinite = true ∧ 0.0 ≤ x
  | duration d => 0 ≤ d.amount.toInt
  | string _ => True
  | regex p => ∃ c cs text rest, Scan.scan c cs = .token (.regex p) text rest
  | boolean _ => True

/-- Such a literal can be written, as far as the digits of a double read back. -/
theorem Literal.Lexical.writable {v : Literal} (h : v.Lexical) (hx : ∀ x ∈ v.doubles, ReadsBack x) :
    v.kind.Writable := by
  cases v with
  | integer n => exact h
  | double x => exact hx x (List.mem_singleton_self x)
  | duration d => exact h
  | string s => trivial
  | regex p =>
    obtain ⟨c, cs, text, rest, hscan⟩ := h
    exact (Scan.writable_of_scan hscan).resolve_right nofun
  | boolean b => exact Expr.writable_boolean b

namespace Expr

mutual

/-- The names and literals of the tree are such as parsed trees have. -/
def Lexical : Expr → Prop
  | literal _ v => v.Lexical
  | reference _ name => isName name = true
  | list _ items => AllLexical items
  | binary _ _ _ l r => Lexical l ∧ Lexical r
  | unary _ _ _ a => Lexical a
  | group _ a => Lexical a
  | call _ f args => isName f = true ∧ AllLexical args
  | letIn _ name v b => isName name = true ∧ Lexical v ∧ Lexical b
  | tagFilter _ t _ v => isName t = true ∧ Lexical v
  | hasTag _ t => isName t = true
  | selector _ key filters => (∀ k ∈ key, isName k = true) ∧ AllLexical filters

def AllLexical : List Expr → Prop
  | [] => True
  | e :: es => Lexical e ∧ AllLexical es

end

theorem Printable.enclosed {least level : Nat} {e : Expr} (hleast : least ≤ Level.primary)
    (h : Printable level e) : Printable least (enclosed least level e) := by
  unfold Expr.enclosed
  split
  · exact (h.mono (Nat.zero_le level)).group.mono hleast
  · rename_i hlevel
    exact h.mono (Nat.not_lt.mp hlevel)

mutual

theorem printable_parenthesized : (e : Expr) → e.Lexical → (∀ x ∈ e.doubles, ReadsBack x) →
    Printable e.level e.parenthesized
  | literal _ v, h, hx => printable_literal (h.writable hx)
  | reference _ _, h, _ => printable_reference h
  | list _ items, h, hx => (printableAll (printable_parenthesizedAll items h hx)).list
  | binary _ op _ l r, h, hx => by
    have hop := op_level_lt_primary op
    simp only [doubles, List.mem_append] at hx
    have hl := printable_parenthesized l h.1 fun x hxl => hx x (.inl hxl)
    have hr := printable_parenthesized r h.2 fun x hxr => hx x (.inr hxr)
    rw [parenthesized]
    exact (hl.enclosed (Nat.le_of_lt hop)).binary (hr.enclosed hop)
  | unary _ op _ a, h, hx => by
    have ha := printable_parenthesized a h hx
    rw [parenthesized]
    exact (ha.enclosed (by decide)).unary op
  | group _ a, h, hx => by
    have ha := printable_parenthesized a h hx
    rw [parenthesized]
    exact (ha.mono (Nat.zero_le _)).group
  | call _ _ args, h, hx => (printableAll (printable_parenthesizedAll args h.2 hx)).call h.1
  | letIn _ _ v b, h, hx => by
    simp only [doubles, List.mem_append] at hx
    have hv := printable_parenthesized v h.2.1 fun x hxv => hx x (.inl hxv)
    have hb := printable_parenthesized b h.2.2 fun x hxb => hx x (.inr hxb)
    rw [parenthesized]
    exact (hv.mono (Nat.zero_le _)).letIn h.1 (hb.mono (Nat.zero_le _))
  | tagFilter _ _ _ v, h, hx => by
    have hv := printable_parenthesized v h.2 hx
    rw [parenthesized]
    exact (hv.enclosed (by decide)).tagFilter h.1
  | hasTag _ _, h, _ => printable_hasTag h
  | selector _ _ filters, h, hx =>
    (printableAll (printable_parenthesizedAll filters h.2 hx)).selector h.1

theorem printable_parenthesizedAll : (es : List Expr) → AllLexical es →
    (∀ x ∈ doublesOf es, ReadsBack x) → ∀ e ∈ parenthesizedAll es, Printable Level.letBody e
  | [], _, _ => nofun
  | e :: es, h, hx => by
    simp only [doublesOf, List.mem_append] at hx
    intro e' he'
    rw [parenthesizedAll, List.mem_cons] at he'
    obtain rfl | he' := he'
    · exact (printable_parenthesized e h.1 fun x hxe => hx x (.inl hxe)).mono (Nat.zero_le _)
    · exact printable_parenthesizedAll es h.2 (fun x hxs => hx x (.inr hxs)) e' he'

end

/-! ## Parsing the text -/

/-- The text of any tree with such names and literals is parsed, within some limits, as a tree
that differs from it in groups and places only, and both evaluate alike in every scope. The digits
of its doubles have to read back. -/
theorem parse_text_built {e : Expr} (h : e.Lexical) (hx : ∀ x ∈ e.doubles, ReadsBack x) :
    ∃ most, ∀ limits : Limits, most ≤ limits.nesting → e.text.utf8ByteSize ≤ limits.length →
      ∃ e', parse limits e.text = .ok e' ∧ e'.ungrouped.sameShape e.ungrouped = true ∧
        ∀ scope, SameResult (e'.eval scope) (e.eval scope) := by
  obtain ⟨most, hmost⟩ := ((printable_parenthesized e h hx).mono (Nat.zero_le _)).parse
  rw [text_parenthesized] at hmost
  refine ⟨most, fun limits hnesting hlength => ?_⟩
  obtain ⟨e', he', hbare⟩ := hmost limits hnesting hlength
  have hsame : e'.ungrouped.bare = e.ungrouped.bare := by
    rw [← ungrouped_bare, hbare, ungrouped_parenthesized]
  have hdoubles : e'.ungrouped.doubles = e.doubles := by
    rw [← doubles_bare, hsame, doubles_bare, doubles_ungrouped]
  refine ⟨e', he', sameShape_of_bare_eq _ _ hsame fun x hmem => ?_, sameResult_eval hsame⟩
  rw [hdoubles] at hmem
  exact beq_self_of_isFinite (isFinite_of_readsBack (hx x hmem))

end Expr

end Printing

namespace Expr

open scoped Regex

/-- A choice under `and`, a sum under a sign and a `let` as an operand. -/
theorem parse_text_built_let :
    let place : Span := .point 5
    let e : Expr := .binary place .and place
      (.binary place .or place (.reference place "a") (.hasTag place "b"))
      (.unary place .negate place (.binary place .sub place (.literal place (.double 0.0))
        (.letIn place "x" (.literal place (.regex "c")) (.reference place "x"))))
    e.text = "(a or +b) and -(0.0 - (let x = r\"c\"; x))" ∧ e.Lexical ∧
      (∀ x ∈ e.doubles, ReadsBack x) ∧
      ∃ most, ∀ limits : Limits, most ≤ limits.nesting → e.text.utf8ByteSize ≤ limits.length →
        ∃ e', parse limits e.text = .ok e' ∧ e'.ungrouped.sameShape e.ungrouped = true ∧
          ∀ scope, SameResult (e'.eval scope) (e.eval scope) := by
  intro place e
  have hx : ∀ x ∈ e.doubles, ReadsBack x := by
    intro x hx
    obtain rfl := List.mem_singleton.mp hx
    exact readsBack_zero
  have hzero : (Literal.double 0.0).Lexical := by
    refine ⟨rfl, ?_⟩
    decide
  have hpattern : (Literal.regex "c").Lexical := ⟨'r', ['"', 'c', '"'], ['r', '"', 'c', '"'], [], rfl⟩
  have hname : ∀ s ∈ ["a", "b", "x"], isName s = true := by decide
  have h : e.Lexical :=
    ⟨⟨hname "a" (by decide), hname "b" (by decide)⟩, hzero, hname "x" (by decide), hpattern,
      hname "x" (by decide)⟩
  exact ⟨rfl, h, hx, parse_text_built h hx⟩

end Expr

end SeriesQuery
