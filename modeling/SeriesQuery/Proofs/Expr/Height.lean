/-
How high a tree the nesting limit lets through. The limit counts the way
down to each token, and an operator that is taken late stands above all that
was read before it, so the parts on the left may be as deep as if they stood
alone. A limit of `n` therefore bounds the height by `n (n - 1) / 2 + 1`, and
there are texts that reach it: put the highest tree of the limit before in
parentheses, and as many operators after it as still fit.
-/
import SeriesQuery.Proofs.Expr.RoundTrip
import SeriesQuery.Regex.Engine

namespace SeriesQuery

open Category

namespace Expr

mutual

theorem height_bare : (e : Expr) → e.bare.height = e.height
  | literal _ _ | reference _ _ | hasTag _ _ => rfl
  | list _ items => by rw [bare, height, height, heightOf_bares items]
  | binary _ _ _ l r => by rw [bare, height, height, height_bare l, height_bare r]
  | unary _ _ _ a => by rw [bare, height, height, height_bare a]
  | group _ a => by rw [bare, height, height, height_bare a]
  | call _ _ args => by rw [bare, height, height, heightOf_bares args]
  | letIn _ _ v b => by rw [bare, height, height, height_bare v, height_bare b]
  | tagFilter _ _ _ v => by rw [bare, height, height, height_bare v]
  | selector _ _ filters => by rw [bare, height, height, heightOf_bares filters]

theorem heightOf_bares : (es : List Expr) → heightOf (bares es) = heightOf es
  | [] => rfl
  | e :: es => by rw [bares, heightOf, heightOf, height_bare e, heightOf_bares es]

end

end Expr

/-! ## The height of a phrase -/

/-- The height of the highest tree that a nesting limit lets through. -/
def greatestHeight : Nat → Nat
  | 0 => 0
  | n + 1 => greatestHeight n + max n 1

theorem greatestHeight_mono {m n : Nat} (h : m ≤ n) : greatestHeight m ≤ greatestHeight n := by
  induction h with
  | refl => exact Nat.le_refl _
  | step _ ih => exact Nat.le_trans ih (Nat.le_add_right _ _)

theorem greatestHeight_eq {n : Nat} (hn : 0 < n) : greatestHeight n = n * (n - 1) / 2 + 1 := by
  induction n with
  | zero => exact absurd hn (Nat.lt_irrefl 0)
  | succ n ih =>
    rcases Nat.eq_zero_or_pos n with rfl | hpos
    · rfl
    · have hdouble : (n + 1) * n = n * (n - 1) + n * 2 := by
        obtain ⟨k, rfl⟩ : ∃ k, n = k + 1 := ⟨n - 1, by omega⟩
        rw [Nat.mul_comm (k + 1 + 1), Nat.add_sub_cancel, ← Nat.mul_add]
      have hmax : max n 1 = n := by omega
      rw [greatestHeight, ih hpos, hmax, Nat.add_sub_cancel, hdouble,
        Nat.add_mul_div_right _ _ (by decide)]
      omega

namespace Phrase

/-- The height of one tree, or of the highest of several. -/
def heightIn : (c : Category) → c.Tree → Nat
  | atLeast _, e => e.height
  | oneOrMore, es => Expr.heightOf es
  | anyNumber, es => Expr.heightOf es

/-- What bounds the height of a phrase: what is left of its operators is as high as the limit lets
through less one level, and each operator adds one. -/
def heightBound : {c : Category} → Phrase c → Nat
  | atLeast _, p => greatestHeight (p.nesting - 1) + 1 + p.spine
  | oneOrMore, p => greatestHeight p.nesting
  | anyNumber, p => greatestHeight p.nesting

/-- Each operator of a chain is followed by an operand, which stands deeper. -/
theorem spine_lt_nesting : {n : Nat} → (p : Phrase (atLeast n)) →
    p.spine = 0 ∨ p.spine + 1 < p.nesting
  | _, lift p => p.spine_lt_nesting
  | _, binary _ _ l r => by
    have hpos := r.nesting_pos
    have hle := Nat.le_max_right l.nesting (l.spine + r.nesting + 2)
    right
    simp only [spine, nesting]
    omega
  | _, tagged _ _ _ v => by
    have hpos := v.nesting_pos
    right
    simp only [spine, nesting]
    omega
  | _, letIn .. | _, signed .. | _, literal .. | _, reference .. | _, hasTag .. | _, group ..
  | _, call .. | _, selector .. | _, list .. => .inl rfl

theorem heightBound_le {n : Nat} (p : Phrase (atLeast n)) :
    p.heightBound ≤ greatestHeight p.nesting := by
  have hpos := p.nesting_pos
  have hspine := p.spine_lt_nesting
  obtain ⟨k, hk⟩ : ∃ k, p.nesting = k + 1 := ⟨p.nesting - 1, by omega⟩
  simp only [heightBound, hk, Nat.add_sub_cancel, greatestHeight]
  omega

/-- What a phrase one level deeper adds to the height fits. -/
theorem succ_le_of_lt {h m n : Nat} (hm : h ≤ greatestHeight m) (hlt : m < n) :
    h + 1 ≤ greatestHeight (n - 1) + 1 := by
  have hmono := greatestHeight_mono (show m ≤ n - 1 by omega)
  omega

theorem height_le_heightBound {c : Category} (p : Phrase c) : heightIn c p.tree ≤ p.heightBound := by
  induction p with
  | lift p ih => exact ih
  | letIn top name v b ihv ihb =>
    have hv := succ_le_of_lt (n := (letIn top name v b).nesting) (Nat.le_trans ihv v.heightBound_le)
      (by simp only [nesting]; omega)
    have hb := succ_le_of_lt (n := (letIn top name v b).nesting) (Nat.le_trans ihb b.heightBound_le)
      (by simp only [nesting]; omega)
    simp only [heightIn, heightBound, tree, Expr.height, spine] at hv hb ⊢
    omega
  | binary op at_ l r ihl ihr =>
    -- The left side is as deep as it was alone, whatever is taken after it.
    have hl : greatestHeight (l.nesting - 1) ≤ greatestHeight ((binary op at_ l r).nesting - 1) := by
      refine greatestHeight_mono ?_
      simp only [nesting]
      omega
    have hr := succ_le_of_lt (n := (binary op at_ l r).nesting) (Nat.le_trans ihr r.heightBound_le)
      (by simp only [nesting]; omega)
    simp only [heightIn, heightBound, tree, Expr.height, spine] at ihl hl hr ⊢
    omega
  | tagged comparison name op v ih =>
    have hv := succ_le_of_lt (n := (tagged comparison name op v).nesting)
      (Nat.le_trans ih v.heightBound_le) (by simp only [nesting]; omega)
    simp only [heightIn, heightBound, tree, Expr.height, spine] at hv ⊢
    omega
  | signed _ _ p ih | group _ p ih =>
    exact succ_le_of_lt (Nat.le_trans ih p.heightBound_le) (Nat.lt_succ_self _)
  | call _ _ p ih | selector _ _ p ih | list _ p ih =>
    exact succ_le_of_lt ih (Nat.lt_succ_self _)
  | literal | reference | hasTag => exact Nat.le_refl 1
  | one p ih =>
    have hp := Nat.le_trans ih p.heightBound_le
    simpa only [heightIn, heightBound, tree, Expr.heightOf, nesting, Nat.max_zero] using hp
  | more p q ihp ihq =>
    have hp := Nat.le_trans ihp p.heightBound_le
    have hleft := greatestHeight_mono (Nat.le_max_left p.nesting q.nesting)
    have hright := greatestHeight_mono (Nat.le_max_right p.nesting q.nesting)
    simp only [heightIn, heightBound, tree, Expr.heightOf, nesting] at hp ihq ⊢
    omega
  | none => exact Nat.le_refl 0
  | some p ih => exact ih

theorem height_le {n : Nat} (p : Phrase (atLeast n)) : p.tree.height ≤ greatestHeight p.nesting :=
  Nat.le_trans p.height_le_heightBound p.heightBound_le

end Phrase

/-! ## The highest trees -/

section Highest

variable [PatternEngine]

namespace Phrase

/-- Some text is read within the nesting limit, as a tree of this height. -/
def Reaches (n height : Nat) : Prop :=
  ∃ p : Phrase (atLeast Level.letBody), (∀ k ∈ p.kinds, k.Writable) ∧ p.nesting ≤ n ∧
    p.tree.height = height

/-- A number, at every level. -/
theorem exists_number {m : Nat} (hm : m ≤ Level.primary) :
    ∃ p : Phrase (atLeast m), (∀ k ∈ p.kinds, k.Writable) ∧ p.nesting = 1 ∧ p.tree.height = 1 := by
  obtain ⟨p, hkinds, htree, -, hnesting⟩ :=
    (literal (n := Level.primary) rfl (.integer 1)).exists_lower hm
  refine ⟨p, fun k hk => ?_, hnesting, by rw [htree]; rfl⟩
  rw [hkinds] at hk
  obtain rfl := List.mem_singleton.mp hk
  exact (by decide : (0 : Int) ≤ (1 : Int64).toInt)

theorem reaches_one : Reaches 1 1 := by
  obtain ⟨p, hkinds, hnesting, hheight⟩ := exists_number (m := Level.letBody) (by decide)
  exact ⟨p, hkinds, Nat.le_of_eq hnesting, hheight⟩

/-- A tree in parentheses, and some of the additions after it that a limit leaves room for. -/
theorem exists_sum {n height : Nat} (h : Reaches n height) (count : Nat) (hcount : count < n) :
    ∃ p : Phrase (atLeast Level.additive), (∀ k ∈ p.kinds, k.Writable) ∧ p.nesting ≤ n + 1 ∧
      p.spine = count ∧ p.tree.height = height + 1 + count := by
  induction count with
  | zero =>
    obtain ⟨inner, hinner, hnesting, hheight⟩ := h
    obtain ⟨p, hkinds, htree, hspine, hp⟩ :=
      (group (n := Level.primary) rfl inner).exists_lower (m := Level.additive) (by decide)
    refine ⟨p, fun k hk => ?_, ?_, hspine, by rw [htree]; exact congrArg (· + 1) hheight⟩
    · simp only [hkinds, kinds, List.mem_cons, List.mem_append, List.not_mem_nil, or_false] at hk
      rcases hk with rfl | hk | rfl
      · trivial
      · exact hinner k hk
      · trivial
    · rw [hp]
      exact Nat.succ_le_succ hnesting
  | succ count ih =>
    obtain ⟨p, hp, hnesting, hspine, hheight⟩ := ih (by omega)
    obtain ⟨one, hone, hdeep, hlow⟩ := exists_number (m := Level.additive + 1) (by decide)
    refine ⟨.binary .add rfl p one, fun k hk => ?_, ?_, ?_, ?_⟩
    · simp only [kinds, List.mem_append, List.mem_cons] at hk
      rcases hk with hk | rfl | hk
      · exact hp k hk
      · trivial
      · exact hone k hk
    · simp only [nesting, hdeep, hspine]
      omega
    · simp only [spine, hspine]
    · simp only [tree, Expr.height, hheight, hlow]
      omega

theorem Reaches.succ {n height : Nat} (h : Reaches (n + 1) height) :
    Reaches (n + 2) (height + (n + 1)) := by
  obtain ⟨p, hkinds, hnesting, -, hheight⟩ := exists_sum h n (Nat.lt_succ_self n)
  obtain ⟨q, hq, htree, -, hdeep⟩ := p.exists_lower (m := Level.letBody) (by decide)
  refine ⟨q, fun k hk => hkinds k (hq ▸ hk), hdeep ▸ hnesting, ?_⟩
  rw [htree, hheight]
  omega

theorem reaches_greatestHeight (n : Nat) : Reaches (n + 1) (greatestHeight (n + 1)) := by
  induction n with
  | zero => exact reaches_one
  | succ n ih =>
    have hmax : max (n + 1) 1 = n + 1 := by omega
    rw [greatestHeight, hmax]
    exact ih.succ

end Phrase

namespace Expr

theorem height_le_of_parse {limits : Limits} {source : String} {e : Expr}
    (h : parse limits source = .ok e) : 0 < limits.nesting ∧ e.height ≤ greatestHeight limits.nesting := by
  obtain ⟨_, p, _, hp, htree, _⟩ := phrase_of_parse h
  have hpos := p.nesting_pos
  have hheight := p.height_le
  rw [htree, height_bare] at hheight
  exact ⟨by omega, Nat.le_trans hheight (greatestHeight_mono hp)⟩

theorem exists_parse_of_reaches {n height : Nat} (h : Phrase.Reaches n height) :
    ∃ length source e, parse ⟨length, n⟩ source = .ok e ∧ e.height = height := by
  obtain ⟨p, hkinds, hnesting, rfl⟩ := h
  obtain ⟨e, he, hbare⟩ :=
    parse_text_of_phrase ⟨p.tree.text.utf8ByteSize, n⟩ p hkinds hnesting (Nat.le_refl _)
  exact ⟨_, _, e, he, by rw [← height_bare, hbare]⟩

/-- The trees that a nesting limit of `n` lets through are at most `n (n - 1) / 2 + 1` high, and
some are that high. So the limit bounds the height only up to 2. -/
theorem height_within_nesting (n : Nat) :
    (∀ length source e, parse ⟨length, n⟩ source = .ok e →
      0 < n ∧ e.height ≤ n * (n - 1) / 2 + 1) ∧
    (0 < n → ∃ length source e, parse ⟨length, n⟩ source = .ok e ∧
      e.height = n * (n - 1) / 2 + 1) ∧
    ((∀ length source e, parse ⟨length, n⟩ source = .ok e → e.height ≤ n) ↔ n ≤ 2) := by
  have hmost : ∀ length source e, parse ⟨length, n⟩ source = .ok e →
      0 < n ∧ e.height ≤ n * (n - 1) / 2 + 1 := by
    intro length source e h
    obtain ⟨hn, hheight⟩ := height_le_of_parse h
    exact ⟨hn, greatestHeight_eq hn ▸ hheight⟩
  have hreached : 0 < n → ∃ length source e, parse ⟨length, n⟩ source = .ok e ∧
      e.height = n * (n - 1) / 2 + 1 := by
    intro hn
    obtain ⟨k, rfl⟩ : ∃ k, n = k + 1 := ⟨n - 1, by omega⟩
    rw [← greatestHeight_eq hn]
    exact exists_parse_of_reaches (Phrase.reaches_greatestHeight k)
  refine ⟨hmost, hreached, fun h => ?_, fun hn length source e h => ?_⟩
  · refine Decidable.byContradiction fun hlarge => ?_
    obtain ⟨length, source, e, he, hheight⟩ := hreached (by omega)
    have hle := h length source e he
    have hmul : n * 2 ≤ n * (n - 1) := Nat.mul_le_mul_left n (by omega)
    have hdiv : n ≤ n * (n - 1) / 2 := (Nat.le_div_iff_mul_le (by decide)).mpr hmul
    omega
  · obtain ⟨hpos, hheight⟩ := hmost length source e h
    have hcases : n = 1 ∨ n = 2 := by omega
    rcases hcases with rfl | rfl
    · exact hheight
    · exact hheight

end Expr

end Highest

namespace Expr

open scoped Regex

/-- A sum whose left side stands in two pairs of parentheses. -/
def groupedSum : Expr :=
  .binary ⟨0, 9⟩ .add ⟨6, 7⟩
    (.group ⟨0, 5⟩ (.group ⟨1, 4⟩ (.literal ⟨2, 3⟩ (.integer 1)))) (.literal ⟨8, 9⟩ (.integer 1))

theorem parse_groupedSum : parse ⟨9, 3⟩ "((1)) + 1" = .ok groupedSum := rfl

/-- Under a limit of 3 an addition makes a tree of height 4 of one in two pairs of parentheses. -/
theorem height_within_nesting_three : ∃ e, parse ⟨9, 3⟩ "((1)) + 1" = .ok e ∧
    0 < 3 ∧ e.height = 4 ∧ e.height ≤ 3 * (3 - 1) / 2 + 1 := by
  obtain ⟨hpos, hheight⟩ := (height_within_nesting 3).1 _ _ _ parse_groupedSum
  exact ⟨groupedSum, parse_groupedSum, hpos, rfl, hheight⟩

/-- The nesting limit does not bound the height. -/
theorem height_exceeds_nesting : ¬ ∀ (limits : Limits) (source : String) (e : Expr),
    parse limits source = .ok e → e.height ≤ limits.nesting := by
  intro hbound
  have hle := hbound _ _ _ parse_groupedSum
  exact absurd hle (by decide)

end Expr

end SeriesQuery
