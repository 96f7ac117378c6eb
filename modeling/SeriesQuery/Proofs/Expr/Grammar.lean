/-
The parser reads its grammar. A tree says how many tokens each derivation of
it has (`kinds_length`), so the tokens of a phrase can be taken apart at one
place only and a derivation is known from its tree and its tokens
(`eq_of_tree_eq`). Since parsing gives one tree for the tokens, they have one
derivation.
-/
import SeriesQuery.Proofs.Expr.Nesting
import SeriesQuery.Proofs.Token.Slice

namespace SeriesQuery

open Category

namespace Expr

mutual

/-- The number of tokens a tree is written with. -/
def width : Expr → Nat
  | literal _ _ => 1
  | reference _ _ => 1
  | list _ items => widthOf items + 2
  | binary _ _ _ l r => width l + width r + 1
  | unary _ _ _ a => width a + 1
  | group _ a => width a + 2
  | call _ _ args => widthOf args + 3
  | letIn _ _ v b => width v + width b + 4
  | tagFilter _ _ _ v => width v + 2
  | hasTag _ _ => 2
  | selector _ key filters => key.toList.length + widthOf filters + 2

/-- The number of tokens of items with commas between them. -/
def widthOf : List Expr → Nat
  | [] => 0
  | [e] => width e
  | e :: es => width e + widthOf es + 1

end

end Expr

theorem Sign.eq_of_kind_eq {s s' : Sign} (h : s.kind = s'.kind) : s = s' := by
  cases s <;> cases s' <;> simp only [kind, Token.Kind.symbol.injEq, reduceCtorEq] at h ⊢

namespace Phrase

/-- A tree holds together as tightly as its phrase. -/
theorem le_level : {n : Nat} → (p : Phrase (atLeast n)) → n ≤ p.tree.level
  | _, lift p => Nat.le_of_succ_le p.le_level
  | _, binary _ h _ _ => Nat.le_of_eq h.symm
  | _, letIn h .. | _, tagged h .. | _, signed h .. | _, literal h .. | _, reference h ..
  | _, hasTag h .. | _, group h .. | _, call h .. | _, selector h .. | _, list h .. =>
    Nat.le_of_eq h

theorem tree_ne_nil : (p : Phrase oneOrMore) → p.tree ≠ []
  | one _ => nofun
  | more _ _ => nofun

/-- The number of tokens a tree of the category is written with. -/
def widthIn : (c : Category) → c.Tree → Nat
  | atLeast _, e => e.width
  | oneOrMore, es => Expr.widthOf es
  | anyNumber, es => Expr.widthOf es

theorem kinds_length {c : Category} (p : Phrase c) : p.kinds.length = widthIn c p.tree := by
  induction p with
  | selector _ key p ih =>
    cases key <;> simp_all [kinds, tree, widthIn, Expr.width]
    omega
  | more p q ihp ihq =>
    cases hq : q.tree with
    | nil => exact absurd hq q.tree_ne_nil
    | cons e es =>
      simp only [widthIn, hq] at ihq
      simp only [kinds, List.length_append, List.length_cons, ihp, ihq, widthIn, tree, hq,
        Expr.widthOf]
      omega
  | _ =>
    simp only [widthIn] at *
    simp only [kinds, tree, Expr.width, Expr.widthOf, List.length_append, List.length_cons,
      List.length_nil, *]
    try omega

/-- Tokens of two phrases with the same first trees are divided at the same place. -/
theorem kinds_inj {c c' : Category} {p : Phrase c} {q : Phrase c} {p' q' : Phrase c'}
    {k k' : Token.Kind} (ht : p.tree = q.tree)
    (h : p.kinds ++ k :: p'.kinds = q.kinds ++ k' :: q'.kinds) :
    p.kinds = q.kinds ∧ k = k' ∧ p'.kinds = q'.kinds := by
  have hlen : p.kinds.length = q.kinds.length := by rw [kinds_length, kinds_length, ht]
  obtain ⟨h₁, h₂⟩ := List.append_inj h hlen
  exact ⟨h₁, List.cons.inj h₂⟩

/-- What a lower level takes from the one above is no phrase of its own. -/
theorem level_ne {n : Nat} (p : Phrase (atLeast (n + 1))) {e : Expr} (he : e.level = n) :
    p.tree ≠ e := by
  rintro rfl
  have := p.le_level
  omega

theorem stop_not_mem_kinds {c : Category} (p : Phrase c) : .stop ∉ p.kinds := by
  induction p with
  | binary op => cases op <;> simp [kinds, *, BinaryOp.kind]
  | tagged _ _ op => cases op <;> simp [kinds, *, Name.kind, TagOp.kind]
  | signed _ s => cases s <;> simp [kinds, *, Sign.kind]
  | literal _ v => cases v <;> simp [kinds, Literal.kind]
  | selector _ key => cases key <;> simp [kinds, *, Name.kind]
  | _ => simp [kinds, *, Name.kind]

/-- A derivation is known from its tree and its tokens. -/
theorem eq_of_tree_eq : {c : Category} → (p q : Phrase c) → p.tree = q.tree → p.kinds = q.kinds →
    p = q
  | _, lift p, q, ht, hk => by
    cases q with
    | lift q => rw [eq_of_tree_eq p q ht hk]
    | binary _ h => exact absurd ht (p.level_ne h)
    | letIn h | tagged h | signed h | literal h | reference h | hasTag h | group h | call h
    | selector h | list h => exact absurd ht (p.level_ne h.symm)
  | _, letIn h name v b, q, ht, hk => by
    cases q with
    | lift q => exact absurd ht.symm (q.level_ne h.symm)
    | letIn _ name' v' b' =>
      simp only [tree, Expr.letIn.injEq, true_and] at ht
      simp only [kinds, List.cons.injEq, true_and] at hk
      obtain ⟨hv, _, hb⟩ := kinds_inj ht.2.1 hk.2
      rw [Subtype.ext ht.1, eq_of_tree_eq v v' ht.2.1 hv, eq_of_tree_eq b b' ht.2.2 hb]
    | _ => simp only [tree, reduceCtorEq] at ht
  | _, binary op h l r, q, ht, hk => by
    cases q with
    | lift q => exact absurd ht.symm (q.level_ne h)
    | binary op' _ l' r' =>
      simp only [tree, Expr.binary.injEq, true_and] at ht
      obtain ⟨rfl, hl, hr⟩ := ht
      obtain ⟨hkl, _, hkr⟩ := kinds_inj hl hk
      rw [eq_of_tree_eq l l' hl hkl, eq_of_tree_eq r r' hr hkr]
    | _ => simp only [tree, reduceCtorEq] at ht
  | _, tagged h name op v, q, ht, hk => by
    cases q with
    | lift q => exact absurd ht.symm (q.level_ne h.symm)
    | tagged _ name' op' v' =>
      simp only [tree, Expr.tagFilter.injEq, true_and] at ht
      simp only [kinds, List.cons.injEq] at hk
      rw [Subtype.ext ht.1, ht.2.1, eq_of_tree_eq v v' ht.2.2 hk.2.2]
    | _ => simp only [tree, reduceCtorEq] at ht
  | _, signed h s p, q, ht, hk => by
    cases q with
    | lift q => exact absurd ht.symm (q.level_ne h.symm)
    | signed _ s' p' =>
      simp only [tree, Expr.unary.injEq, true_and] at ht
      simp only [kinds, List.cons.injEq] at hk
      rw [Sign.eq_of_kind_eq hk.1, eq_of_tree_eq p p' ht.2 hk.2]
    | _ => simp only [tree, reduceCtorEq] at ht
  | _, literal h v, q, ht, hk => by
    cases q with
    | lift q => exact absurd ht.symm (q.level_ne h.symm)
    | literal _ v' =>
      simp only [tree, Expr.literal.injEq, true_and] at ht
      rw [ht]
    | _ => simp only [tree, reduceCtorEq] at ht
  | _, reference h name, q, ht, hk => by
    cases q with
    | lift q => exact absurd ht.symm (q.level_ne h.symm)
    | reference _ name' =>
      simp only [tree, Expr.reference.injEq, true_and] at ht
      rw [Subtype.ext ht]
    | _ => simp only [tree, reduceCtorEq] at ht
  | _, hasTag h tag, q, ht, hk => by
    cases q with
    | lift q => exact absurd ht.symm (q.level_ne h.symm)
    | hasTag _ tag' =>
      simp only [tree, Expr.hasTag.injEq, true_and] at ht
      rw [Subtype.ext ht]
    | _ => simp only [tree, reduceCtorEq] at ht
  | _, group h p, q, ht, hk => by
    cases q with
    | lift q => exact absurd ht.symm (q.level_ne h.symm)
    | group _ p' =>
      simp only [tree, Expr.group.injEq, true_and] at ht
      simp only [kinds, List.cons.injEq, true_and, List.append_cancel_right_eq] at hk
      rw [eq_of_tree_eq p p' ht hk]
    | _ => simp only [tree, reduceCtorEq] at ht
  | _, call h name p, q, ht, hk => by
    cases q with
    | lift q => exact absurd ht.symm (q.level_ne h.symm)
    | call _ name' p' =>
      simp only [tree, Expr.call.injEq, true_and] at ht
      simp only [kinds, List.cons.injEq, true_and, List.append_cancel_right_eq] at hk
      rw [Subtype.ext ht.1, eq_of_tree_eq p p' ht.2 hk.2]
    | _ => simp only [tree, reduceCtorEq] at ht
  | _, selector h key p, q, ht, hk => by
    cases q with
    | lift q => exact absurd ht.symm (q.level_ne h.symm)
    | selector _ key' p' =>
      simp only [tree, Expr.selector.injEq, true_and] at ht
      obtain rfl := Option.map_injective (fun _ _ => Subtype.ext) ht.1
      simp only [kinds, List.append_cancel_left_eq, List.cons.injEq, true_and,
        List.append_cancel_right_eq] at hk
      rw [eq_of_tree_eq p p' ht.2 hk]
    | _ => simp only [tree, reduceCtorEq] at ht
  | _, list h p, q, ht, hk => by
    cases q with
    | lift q => exact absurd ht.symm (q.level_ne h.symm)
    | list _ p' =>
      simp only [tree, Expr.list.injEq, true_and] at ht
      simp only [kinds, List.cons.injEq, true_and, List.append_cancel_right_eq] at hk
      rw [eq_of_tree_eq p p' ht hk]
    | _ => simp only [tree, reduceCtorEq] at ht
  | _, one p, q, ht, hk => by
    cases q with
    | one q =>
      simp only [tree, List.cons.injEq, and_true] at ht
      rw [eq_of_tree_eq p q ht hk]
    | more q q' =>
      simp only [tree, List.cons.injEq] at ht
      exact absurd ht.2.symm q'.tree_ne_nil
  | _, more p p', q, ht, hk => by
    cases q with
    | one q =>
      simp only [tree, List.cons.injEq] at ht
      exact absurd ht.2 p'.tree_ne_nil
    | more q q' =>
      simp only [tree, List.cons.injEq] at ht
      obtain ⟨hkp, _, hkp'⟩ := kinds_inj ht.1 hk
      rw [eq_of_tree_eq p q ht.1 hkp, eq_of_tree_eq p' q' ht.2 hkp']
  | _, none, q, ht, hk => by
    cases q with
    | none => rfl
    | some q => exact absurd ht.symm q.tree_ne_nil
  | _, some p, q, ht, hk => by
    cases q with
    | none => exact absurd ht p.tree_ne_nil
    | some q => rw [eq_of_tree_eq p q ht hk]

/-- Tokens are read as one tree, so two phrases with the same tokens are one. -/
theorem eq_of_kinds_eq {p q : Phrase (atLeast Level.letBody)} (h : p.kinds = q.kinds) : p = q := by
  let ts : List Token := p.kinds.map fun k => ⟨k, Expr.nowhere⟩
  have hts : ts.map Token.kind = p.kinds := by simp [ts, Function.comp_def]
  obtain ⟨e, he, hp⟩ := Expr.ofTokens_of_phrase p hts (Nat.le_max_left _ q.nesting) (.inl rfl)
  obtain ⟨e', he', hq⟩ := Expr.ofTokens_of_phrase q (hts.trans h) (Nat.le_max_right p.nesting _)
    (.inl rfl)
  obtain rfl : e = e' := Except.ok.inj (he.symm.trans he')
  exact eq_of_tree_eq p q (hp.symm.trans hq) h

end Phrase

namespace Expr

/-- A stream that is read is spanned by one derivation of the tree. -/
theorem derivation_of_ofTokens {most : Nat} {ts : List Token} {stop : Token} {e : Expr}
    (hts : ∀ t ∈ ts, t.kind ≠ .stop) (hstop : stop.kind = .stop)
    (h : ofTokens most (ts.map .ok ++ [.ok stop]) = .ok e) :
    ∃ p : Phrase (atLeast Level.letBody), p.nesting ≤ most ∧ p.kinds = ts.map Token.kind ∧
      p.tree = e.bare := by
  obtain ⟨p, ts', rest, hnest, htree, hts', htokens, hrest⟩ := phrase_of_ofTokens h
  have hno : ∀ t ∈ ts', t.kind ≠ .stop := fun t ht hk =>
    p.stop_not_mem_kinds (hts' ▸ hk ▸ List.mem_map_of_mem ht)
  obtain rfl := tokens_eq_of_ends hts hno (fun _ h => Except.ok.inj h ▸ hstop) hrest htokens
  exact ⟨p, hnest, hts'.symm, htree⟩

/-- The tree of a text is that of a phrase over the tokens it is read as. -/
theorem phrase_of_parse [PatternEngine] {limits : Limits} {source : String} {e : Expr}
    (h : parse limits source = .ok e) :
    source.utf8ByteSize ≤ limits.length ∧
      ∃ (p : Phrase (atLeast Level.letBody)) (ts : List Token), p.nesting ≤ limits.nesting ∧
        p.tree = e.bare ∧ ts.map Token.kind = p.kinds ∧ Lexes 0 source.toList ts [] := by
  obtain ⟨hlength, h⟩ := parse_eq_ok.mp h
  obtain ⟨p, ts, rest, hnest, htree, hts, htokens, hrest⟩ := phrase_of_ofTokens h
  have hno : ∀ t ∈ ts, t.kind ≠ .stop := fun t ht hk =>
    p.stop_not_mem_kinds (hts ▸ hk ▸ List.mem_map_of_mem ht)
  exact ⟨hlength, p, ts, hnest, htree, hts, lexes_of_tokenize hno hrest htokens⟩

/-- The parser accepts the sentences of its grammar and nothing else, and gives the tree of the
only derivation. The nesting limit takes no part unless it is reached, which no limit above the
number of tokens is. -/
theorem ofTokens_iff_sentence {ts : List Token} {stop : Token} (hts : ∀ t ∈ ts, t.kind ≠ .stop)
    (hstop : stop.kind = .stop) :
    (∀ most, ts.length + 1 < most → ¬ TooDeep most (ofTokens most ((ts ++ [stop]).map .ok))) ∧
    ∀ most, ¬ TooDeep most (ofTokens most ((ts ++ [stop]).map .ok)) →
      ((∃ e, ofTokens most ((ts ++ [stop]).map .ok) = .ok e) ↔ Sentence (ts.map Token.kind)) ∧
      ∀ e, ofTokens most ((ts ++ [stop]).map .ok) = .ok e →
        ∃ p : Phrase (atLeast Level.letBody), p.kinds = ts.map Token.kind ∧ p.tree = e.bare ∧
          ∀ q : Phrase (atLeast Level.letBody), q.kinds = ts.map Token.kind → q = p := by
  have hstream : (ts ++ [stop]).map (Except.ok (ε := Failure)) = ts.map .ok ++ [.ok stop] := by
    simp
  refine ⟨fun most hmost => ofTokens_not_tooDeep (by simpa using hmost), fun most hfree => ?_⟩
  rw [hstream] at hfree ⊢
  refine ⟨⟨?_, ?_⟩, ?_⟩
  · rintro ⟨e, he⟩
    obtain ⟨p, _, hp, _⟩ := derivation_of_ofTokens hts hstop he
    exact ⟨p, hp⟩
  · -- Under a limit that allows the derivation the tokens are read, and the limit changes nothing.
    rintro ⟨p, hp⟩
    obtain ⟨e, he, _⟩ := ofTokens_of_phrase p hp.symm (Nat.le_max_right most p.nesting)
      (.inr ⟨stop, hstop, rfl⟩)
    exact ⟨e, (ofTokens_mono (Nat.le_max_left most p.nesting) hfree).symm.trans he⟩
  · intro e he
    obtain ⟨p, _, hp, htree⟩ := derivation_of_ofTokens hts hstop he
    exact ⟨p, hp, htree, fun q hq => Phrase.eq_of_kinds_eq (hq.trans hp.symm)⟩

/-- `a or not b`, read under a limit above its five tokens. -/
theorem ofTokens_disjunction :
    let ts : List Token := [⟨.word "a", ⟨0, 1⟩⟩, ⟨.word "or", ⟨2, 4⟩⟩, ⟨.word "not", ⟨5, 8⟩⟩,
      ⟨.word "b", ⟨9, 10⟩⟩]
    let stop : Token := ⟨.stop, ⟨10, 10⟩⟩
    (∀ t ∈ ts, t.kind ≠ .stop) ∧ stop.kind = .stop ∧
      ∃ e, ofTokens 6 ((ts ++ [stop]).map .ok) = .ok e := by
  intro ts stop
  have hts : ∀ t ∈ ts, t.kind ≠ .stop := by simp [ts]
  have hstop : stop.kind = .stop := rfl
  obtain ⟨hlimit, h⟩ := ofTokens_iff_sentence hts hstop
  refine ⟨hts, rfl, (h 6 (hlimit 6 (by decide))).1.mpr ?_⟩
  let a : Phrase (atLeast Level.primary) := .reference rfl ⟨"a", by decide⟩
  let b : Phrase (atLeast Level.primary) := .reference rfl ⟨"b", by decide⟩
  let notB : Phrase (atLeast Level.unary) := .signed rfl .not (.lift b)
  exact ⟨.lift (.binary .or rfl (.lift (.lift (.lift (.lift (.lift (.lift a))))))
    (.lift (.lift (.lift (.lift notB))))), rfl⟩

end Expr

end SeriesQuery
