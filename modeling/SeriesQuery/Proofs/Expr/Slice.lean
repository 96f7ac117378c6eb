/-
The place of a node covers exactly the text it was read from. Parsing the
slice of the query at any node gives that node again, moved to the start
of a text (`parse_slice`). A tree moves with its tokens (`Located.shift`),
so this comes down to the tokens of the slice being those the node was read
from.
-/
import SeriesQuery.Proofs.Expr.Grammar
import SeriesQuery.Proofs.Expr.Parts
import SeriesQuery.Regex.Engine

namespace SeriesQuery

open Category

/-! ## Moving -/

theorem Span.join_shift (n : Nat) (a b : Span) :
    (a.shift n).join (b.shift n) = (a.join b).shift n := by
  simp only [join, shift, Nat.add_min_add_right, Nat.add_max_add_right]

@[simp] theorem Token.span_shift (n : Nat) (t : Token) : (t.shift n).span = t.span.shift n := rfl

namespace Expr

mutual

/-- The tree moved right by `n` bytes. -/
def shift (n : Nat) : Expr → Expr
  | literal s v => literal (s.shift n) v
  | reference s name => reference (s.shift n) name
  | list s items => list (s.shift n) (shifts n items)
  | binary s op o l r => binary (s.shift n) op (o.shift n) (shift n l) (shift n r)
  | unary s op o a => unary (s.shift n) op (o.shift n) (shift n a)
  | group s a => group (s.shift n) (shift n a)
  | call s f args => call (s.shift n) f (shifts n args)
  | letIn s name v b => letIn (s.shift n) name (shift n v) (shift n b)
  | tagFilter s t op v => tagFilter (s.shift n) t op (shift n v)
  | hasTag s t => hasTag (s.shift n) t
  | selector s key filters => selector (s.shift n) key (shifts n filters)

def shifts (n : Nat) : List Expr → List Expr
  | [] => []
  | e :: es => shift n e :: shifts n es

end

@[simp] theorem span_shift (n : Nat) (e : Expr) : (e.shift n).span = e.span.shift n := by
  cases e <;> rfl

end Expr

namespace Phrase.Located

/-- What a phrase of the category stands for, moved right by `n` bytes. -/
def shiftIn (n : Nat) : (c : Category) → c.Tree → c.Tree
  | atLeast _, e => Expr.shift n e
  | oneOrMore, es => Expr.shifts n es
  | anyNumber, es => Expr.shifts n es

/-- The tree moves with its tokens. -/
theorem shift {c : Category} {p : Phrase c} {ts : List Token} {e : c.Tree} (h : p.Located ts e)
    (n : Nat) : p.Located (ts.map (Token.shift n)) (shiftIn n c e) := by
  have hkind {t : Token} {k : Token.Kind} (ht : t.kind = k) : (t.shift n).kind = k := ht
  induction h with
  | letIn hn ht hu ha _ hs _ ihv ihb =>
    simpa [shiftIn, Expr.shift, Span.join_shift] using
      letIn hn (hkind ht) (hkind hu) (hkind ha) ihv (hkind hs) ihb
  | lift _ ih => exact .lift ih
  | binary hn _ ht _ ihl ihr =>
    simpa [shiftIn, Expr.shift, Span.join_shift] using binary hn ihl (hkind ht) ihr
  | tagged hn ht hu _ ih =>
    simpa [shiftIn, Expr.shift, Span.join_shift] using tagged hn (hkind ht) (hkind hu) ih
  | signed hn ht _ ih => simpa [shiftIn, Expr.shift, Span.join_shift] using signed hn (hkind ht) ih
  | literal hn ht => exact literal hn (hkind ht)
  | reference hn ht => exact reference hn (hkind ht)
  | hasTag hn ht hu =>
    simpa [shiftIn, Expr.shift, Span.join_shift] using hasTag hn (hkind ht) (hkind hu)
  | group hn ht _ hu ih =>
    simpa [shiftIn, Expr.shift, Span.join_shift] using group hn (hkind ht) ih (hkind hu)
  | call hn ht ho _ hu ih =>
    simpa [shiftIn, Expr.shift, Span.join_shift] using call hn (hkind ht) (hkind ho) ih (hkind hu)
  | selector hn ho _ hu ih =>
    simpa [shiftIn, Expr.shift, Span.join_shift] using selector hn (hkind ho) ih (hkind hu)
  | keyed hn ht ho _ hu ih =>
    simpa [shiftIn, Expr.shift, Span.join_shift] using keyed hn (hkind ht) (hkind ho) ih (hkind hu)
  | list hn ho _ hu ih =>
    simpa [shiftIn, Expr.shift, Span.join_shift] using list hn (hkind ho) ih (hkind hu)
  | one _ ih => exact .one ih
  | more _ ht _ ihp ihq =>
    simpa [shiftIn, Expr.shifts] using more ihp (hkind ht) ihq
  | none => exact .none
  | some _ ih => exact .some ih

end Phrase.Located

/-! ## Parsing a slice -/

theorem BinaryOp.spelling_kind (op : BinaryOp) : op.kind.spelling = op.symbol.toList := by
  cases op <;> rfl

theorem BinaryOp.fixed_kind (op : BinaryOp) : op.kind.fixed = true := by
  cases op <;> rfl

theorem Sign.fixed_kind (sign : Sign) : sign.kind.fixed = true := by
  cases sign <;> rfl

namespace Expr

/-- An operator stands before its operand, or between its operands, and its place slices its
text. -/
def OperatorPlaced (source : String) : Expr → Prop
  | binary _ op opSpan l r => l.span.stop ≤ opSpan.start ∧ opSpan.stop ≤ r.span.start ∧
      opSpan.slice source = some op.symbol
  | unary _ op opSpan a => opSpan.stop ≤ a.span.start ∧
      (opSpan.slice source = some op.symbol ∨ op = .not ∧ opSpan.slice source = some "not")
  | _ => True

section Parsed

variable [PatternEngine] {limits : Limits} {source : String} {n e : Expr}

/-- A query that is parsed is read from its tokens. -/
theorem exists_reading_of_parse (h : parse limits source = .ok e) :
    source.utf8ByteSize ≤ limits.length ∧
      ∃ ts, Lexes 0 source.toList ts [] ∧ Reading limits.nesting e ts := by
  obtain ⟨hlength, p, ts, hnest, _, hts, hlexes⟩ := phrase_of_parse h
  obtain ⟨stop, hstop, htokens⟩ := tokenize_of_lexes hlexes
  obtain ⟨e', he', hlocated⟩ := ofTokens_located p hts hnest (.inr ⟨stop, hstop, rfl⟩)
  rw [String.ofList_toList] at htokens
  rw [parse_of_le hlength, htokens, he'] at h
  obtain rfl := Except.ok.inj h
  exact ⟨hlength, ts, hlexes, p, hnest, hlocated⟩

/-- A text is parsed as the tree that is read from its tokens, wherever these stand. -/
theorem parse_of_reading {cs : List Char} {us : List Token} {k : Nat}
    (hlength : (String.ofList cs).utf8ByteSize ≤ limits.length) (hus : Lexes 0 cs us [])
    (h : Reading limits.nesting n (us.map (Token.shift k))) :
    ∃ n', parse limits (String.ofList cs) = .ok n' ∧ n'.shift k = n := by
  obtain ⟨p, hnest, hlocated⟩ := h
  have hkinds : us.map Token.kind = p.kinds := by
    rw [← hlocated.kinds, List.map_map]
    rfl
  obtain ⟨stop, hstop, htokens⟩ := tokenize_of_lexes hus
  obtain ⟨n', hn', hlocated'⟩ := ofTokens_located p hkinds hnest (.inr ⟨stop, hstop, rfl⟩)
  refine ⟨n', ?_, (hlocated'.shift k).unique hlocated⟩
  rw [parse_of_le hlength, htokens, hn']

/-- The token of an operator stands in the row of the node's tokens. -/
theorem operatorPlaced_of_reading {most : Nat} {ts all : List Token} {s : Span} {rest : List Char}
    (h : Reading most n ts) (hrow : Row ts s) (hlexes : Lexes 0 source.toList all rest)
    (hall : ∀ t ∈ ts, t ∈ all) : n.OperatorPlaced source := by
  have hslice {t : Token} (ht : t ∈ ts) (hfixed : t.kind.fixed = true) :
      t.span.slice source = some (String.ofList t.kind.spelling) := by
    rw [Span.slice, hlexes.slice_fixed (hall t ht) hfixed, Option.map_some]
  obtain ⟨p, _, hlocated⟩ := h
  cases n with
  | binary s op opSpan l r =>
    obtain ⟨t, us, vs, rfl, ht, rfl, hl, hr⟩ := hlocated.of_binary
    obtain ⟨a, b, ha, hb, hab, rfl⟩ := hrow.split hl.ne_nil (List.cons_ne_nil t vs)
    have hb : Row ([t] ++ vs) b := hb
    obtain ⟨c, d, hc, hd, hcd, rfl⟩ := hb.split (List.cons_ne_nil t []) hr.ne_nil
    obtain rfl := hc.span_eq_of_singleton
    rw [OperatorPlaced, hl.span_eq ha, hr.span_eq hd]
    refine ⟨hab, hcd, ?_⟩
    rw [hslice (by simp) (ht ▸ op.fixed_kind), ht, op.spelling_kind, String.ofList_toList]
  | unary s op opSpan a =>
    obtain ⟨t, us, sign, rfl, rfl, ht, rfl, ha⟩ := hlocated.of_unary
    have hrow : Row ([t] ++ us) _ := hrow
    obtain ⟨c, d, hc, hd, hcd, rfl⟩ := hrow.split (List.cons_ne_nil t []) ha.ne_nil
    obtain rfl := hc.span_eq_of_singleton
    rw [OperatorPlaced, ha.span_eq hd]
    refine ⟨hcd, ?_⟩
    rw [hslice (by simp) (ht ▸ sign.fixed_kind), ht]
    cases sign with
    | minus | bang => exact .inl rfl
    | not => exact .inr ⟨rfl, rfl⟩
  | _ => exact trivial

/-- Every node of a parsed query covers the text it was read from: parsing the slice gives the node
again, at the start of a text. Its children lie in it, one after the other, and its operator before
or between them. -/
theorem parse_slice (h : parse limits source = .ok e) (hn : Part n e) :
    (∃ text, n.span.slice source = some text ∧
      ∃ n', parse limits text = .ok n' ∧ n'.shift n.span.start = n) ∧
    (∀ c ∈ n.children, n.span.start ≤ c.span.start ∧ c.span.stop ≤ n.span.stop) ∧
    (n.children.Pairwise fun a b => a.span.stop ≤ b.span.start) ∧ n.OperatorPlaced source := by
  obtain ⟨hlength, ts, hlexes, hreading⟩ := exists_reading_of_parse h
  obtain ⟨before, run, after, rfl, hrun⟩ := hreading.of_part hn
  obtain ⟨s, pre, text, post, us, hsource, hslice, hrow, hus, hshift⟩ := hlexes.slice hrun.ne_nil
  obtain rfl := hrun.span_eq hrow
  obtain ⟨hwithin, horder⟩ := hrun.spread.ordered hrow
  have hshorter : (String.ofList text).utf8ByteSize ≤ source.utf8ByteSize := by
    rw [← String.ofList_toList (s := source), hsource, String.ofList_append, String.ofList_append,
      String.utf8ByteSize_append, String.utf8ByteSize_append]
    omega
  refine ⟨⟨String.ofList text, ?_, ?_⟩, hwithin, horder, ?_⟩
  · rw [Span.slice, hslice, Option.map_some]
  · exact parse_of_reading (Nat.le_trans hshorter hlength) hus (hshift ▸ hrun)
  · exact operatorPlaced_of_reading hrun hrow hlexes fun t ht => by simp [ht]

end Parsed

open scoped Regex

/-- The operand of `or` below, parsed on its own, five bytes further left. -/
theorem parse_slice_operand :
    ∃ e n, parse ⟨16, 7⟩ "x or not (b - 1)" = .ok e ∧ Part n e ∧
      n.span.slice "x or not (b - 1)" = some "not (b - 1)" ∧
      ∃ n', parse ⟨16, 7⟩ "not (b - 1)" = .ok n' ∧ n'.shift 5 = n := by
  let n : Expr := .unary ⟨5, 16⟩ .not ⟨5, 8⟩ (.group ⟨9, 16⟩ (.binary ⟨10, 15⟩ .sub ⟨12, 13⟩
    (.reference ⟨10, 11⟩ "b") (.literal ⟨14, 15⟩ (.integer 1))))
  let e : Expr := .binary ⟨0, 16⟩ .or ⟨2, 4⟩ (.reference ⟨0, 1⟩ "x") n
  have he : parse ⟨16, 7⟩ "x or not (b - 1)" = .ok e := rfl
  have hn : Part n e := .inside (List.mem_cons_of_mem _ (List.mem_cons_self ..)) (.self n)
  obtain ⟨⟨text, htext, n', hn', hshift⟩, _⟩ := parse_slice he hn
  have hslice : n.span.slice "x or not (b - 1)" = some "not (b - 1)" := by decide
  obtain rfl : text = "not (b - 1)" := Option.some.inj (htext.symm.trans hslice)
  exact ⟨e, n, he, hn, hslice, n', hn', hshift⟩

end Expr

end SeriesQuery
