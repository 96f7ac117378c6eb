/-
Queries name tags by names. The tags of a parsed tree were read as names
(`named_of_parse`), so whatever it evaluates or compiles to has only tags that
queries can name, as long as what its free names stand for does
(`named_evalIn`, `named_filterIn`).
-/
import SeriesQuery.Expr.Filter
import SeriesQuery.Proofs.Expr.RoundTrip
import SeriesQuery.Proofs.Result
import SeriesQuery.Proofs.Value.Named

namespace SeriesQuery

open Category

namespace Expr

mutual

/-- Every tag in the tree is a name of the language. -/
def Named : Expr → Prop
  | literal _ _ => True
  | reference _ _ => True
  | list _ items => AllNamed items
  | binary _ _ _ l r => Named l ∧ Named r
  | unary _ _ _ e => Named e
  | group _ e => Named e
  | call _ _ args => AllNamed args
  | letIn _ _ v b => Named v ∧ Named b
  | tagFilter _ t _ v => isName t = true ∧ Named v
  | hasTag _ t => isName t = true
  | selector _ _ filters => AllNamed filters

def AllNamed : List Expr → Prop
  | [] => True
  | e :: es => Named e ∧ AllNamed es

end

mutual

theorem named_bare : (e : Expr) → (e.bare.Named ↔ e.Named)
  | literal _ _ => by simp only [bare, Named]
  | reference _ _ => by simp only [bare, Named]
  | list _ items => by simp only [bare, Named, allNamed_bares items]
  | binary _ _ _ l r => by simp only [bare, Named, named_bare l, named_bare r]
  | unary _ _ _ e => by simp only [bare, Named, named_bare e]
  | group _ e => by simp only [bare, Named, named_bare e]
  | call _ _ args => by simp only [bare, Named, allNamed_bares args]
  | letIn _ _ v b => by simp only [bare, Named, named_bare v, named_bare b]
  | tagFilter _ _ _ v => by simp only [bare, Named, named_bare v]
  | hasTag _ _ => by simp only [bare, Named]
  | selector _ _ filters => by simp only [bare, Named, allNamed_bares filters]

theorem allNamed_bares : (es : List Expr) → (AllNamed (bares es) ↔ AllNamed es)
  | [] => Iff.rfl
  | e :: es => by simp only [bares, AllNamed, named_bare e, allNamed_bares es]

end

end Expr

/-! ## Parsed trees -/

theorem isName_iff {s : String} : isName s = true ↔ IsWord s.toList ∧ isReserved s = false := by
  unfold isName IsWord
  cases s.toList with
  | nil => simp
  | cons c cs => simp [and_assoc]

namespace Phrase

/-- The tags of one tree, or of several, are names. -/
def NamedIn : (c : Category) → c.Tree → Prop
  | atLeast _, e => e.Named
  | oneOrMore, es => Expr.AllNamed es
  | anyNumber, es => Expr.AllNamed es

theorem named_tree {c : Category} (p : Phrase c) (hp : ∀ w, .word w ∈ p.kinds → IsWord w.toList) :
    NamedIn c p.tree := by
  induction p with
  | letIn _ name v b ihv ihb =>
    simp only [kinds, List.mem_cons, List.mem_append] at hp
    exact ⟨ihv fun w hw => hp w (by simp [hw]), ihb fun w hw => hp w (by simp [hw])⟩
  | lift p ih => exact ih hp
  | binary op _ l r ihl ihr =>
    simp only [kinds, List.mem_cons, List.mem_append] at hp
    exact ⟨ihl fun w hw => hp w (by simp [hw]), ihr fun w hw => hp w (by simp [hw])⟩
  | tagged _ name op v ih =>
    simp only [kinds, List.mem_cons] at hp
    exact ⟨isName_iff.mpr ⟨hp name.1 (.inl rfl), name.2⟩, ih fun w hw => hp w (by simp [hw])⟩
  | signed _ s p ih => exact ih fun w hw => hp w (List.mem_cons_of_mem _ hw)
  | literal | reference => trivial
  | hasTag _ tag => exact isName_iff.mpr ⟨hp tag.1 (by simp [kinds, Name.kind]), tag.2⟩
  | group _ p ih => exact ih fun w hw => hp w (by simp [kinds, hw])
  | call _ name args ih => exact ih fun w hw => hp w (by simp [kinds, hw])
  | selector _ key filters ih => exact ih fun w hw => hp w (by simp [kinds, hw])
  | list _ p ih => exact ih fun w hw => hp w (by simp [kinds, hw])
  | one p ih => exact ⟨ih hp, trivial⟩
  | more p q ihp ihq =>
    simp only [kinds, List.mem_cons, List.mem_append] at hp
    exact ⟨ihp fun w hw => hp w (by simp [hw]), ihq fun w hw => hp w (by simp [hw])⟩
  | none => trivial
  | some p ih => exact ih hp

end Phrase

variable [PatternEngine]

/-- The words that a text is read as have the characters of words. -/
theorem Lexes.isWord {offset : Nat} {cs rest : List Char} {ts : List Token} {w : String}
    (h : Lexes offset cs ts rest) (hw : .word w ∈ ts.map Token.kind) : IsWord w.toList := by
  obtain ⟨_, _, _, _, hscan⟩ := h.exists_scan_of_mem_kinds hw
  obtain hwritable | ⟨x, hdouble⟩ := Scan.writable_of_scan hscan
  · exact hwritable
  · cases hdouble

namespace Expr

/-- Every tag of a parsed query is a name. -/
theorem named_of_parse {limits : Limits} {source : String} {e : Expr}
    (h : parse limits source = .ok e) : e.Named := by
  obtain ⟨_, p, ts, _, htree, hts, hlexes⟩ := phrase_of_parse h
  rw [← named_bare, ← htree]
  exact p.named_tree fun w hw => hlexes.isWord (hts ▸ hw)

end Expr

/-! ## Evaluation -/

/-- Whatever a name stands for has tags that can be named. -/
def Env.Named (env : Env) : Prop := ∀ name span v, env name span = .ok v → v.Named

theorem Env.Named.bind {env : Env} {name : String} {v : Value} (henv : env.Named) (hv : v.Named) :
    (env.bind name v).Named := by
  intro n span w hw
  unfold Env.bind at hw
  split at hw
  · cases hw
    exact hv
  · exact henv n span w hw

namespace Expr

variable {env : Env}

theorem named_tagSelector {tag text : String} {op : TagOp} {span : Span} {f : Filter}
    (ht : isName tag = true) (h : tagSelector tag op text span = .ok f) : f.Named := by
  cases op with
  | equal | startsWith =>
    cases h
    simpa only [Filter.Named] using ht
  | matching =>
    obtain ⟨p, -, h⟩ := map_eq_ok.mp (mapError_eq_ok.mp h)
    rw [← h]
    simpa only [Filter.Named] using ht

theorem named_selectorOf {key : Option String} {fs : List Filter} (h : Filter.AllNamed fs) :
    (selectorOf key fs).Named := by
  cases key with
  | none =>
    rw [selectorOf, Filter.Named]
    exact h
  | some k =>
    simp only [selectorOf, Option.map_some, Option.toList_some, List.singleton_append, Filter.Named,
      Filter.AllNamed, true_and]
    exact h

mutual

theorem named_evalIn {env : Env} (henv : env.Named) : (e : Expr) → e.Named → {v : Value} →
    e.evalIn env = .ok v → v.Named
  | literal _ v, _, _, h => by
    rw [evalIn] at h
    cases h
    exact Value.named_of_isPlain (by cases v <;> rfl)
  | reference span name, _, v, h => by
    rw [evalIn] at h
    exact henv name span v h
  | list _ items, he, _, h => by
    rw [evalIn] at h
    obtain ⟨vs, hvs, h⟩ := bind_ok_iff.mp h
    cases h
    rw [Named] at he
    rw [Value.Named]
    exact named_evalAllIn henv items he hvs
  | binary _ op opSpan l r, he, v, h => by
    rw [evalIn] at h
    obtain ⟨a, ha, h⟩ := bind_ok_iff.mp h
    obtain ⟨b, hb, h⟩ := bind_ok_iff.mp h
    rw [Named] at he
    exact Value.named_binary (named_evalIn henv l he.1 ha) (named_evalIn henv r he.2 hb) h
  | unary _ op opSpan e, he, v, h => by
    rw [evalIn] at h
    obtain ⟨a, ha, h⟩ := bind_ok_iff.mp h
    rw [Named] at he
    exact Value.named_unary (named_evalIn henv e he ha) h
  | group _ e, he, v, h => by
    rw [evalIn] at h
    rw [Named] at he
    exact named_evalIn henv e he h
  | call span name args, he, v, h => by
    rw [evalIn] at h
    split at h
    · cases h
    · split at h
      · cases h
      · obtain ⟨vs, hvs, h⟩ := bind_ok_iff.mp h
        rw [Named] at he
        exact Builtin.named_apply (named_evalAllIn henv args he hvs) (mapError_eq_ok.mp h)
  | letIn _ name value body, he, v, h => by
    rw [evalIn] at h
    obtain ⟨w, hw, h⟩ := bind_ok_iff.mp h
    rw [Named] at he
    exact named_evalIn (henv.bind (named_evalIn henv value he.1 hw)) body he.2 h
  | tagFilter _ tag op value, he, v, h => by
    rw [evalIn] at h
    obtain ⟨w, hw, h⟩ := bind_ok_iff.mp h
    obtain ⟨text, htext, h⟩ := bind_ok_iff.mp h
    obtain ⟨f, hf, h⟩ := bind_ok_iff.mp h
    cases h
    rw [Named] at he
    rw [Value.Named]
    exact named_tagSelector he.1 hf
  | hasTag _ tag, he, v, h => by
    rw [evalIn] at h
    cases h
    rw [Named] at he
    simpa only [Value.Named, Filter.Named] using he
  | selector _ key filters, he, v, h => by
    rw [evalIn] at h
    obtain ⟨fs, hfs, h⟩ := bind_ok_iff.mp h
    cases h
    rw [Named] at he
    rw [Value.Named]
    exact named_selectorOf (named_evalElementsIn henv filters he hfs)

theorem named_evalAllIn {env : Env} (henv : env.Named) : (es : List Expr) → AllNamed es →
    {vs : List Value} → evalAllIn env es = .ok vs → Value.AllNamed vs
  | [], _, _, h => by
    cases h
    rw [Value.AllNamed]
    trivial
  | e :: es, he, vs, h => by
    rw [evalAllIn] at h
    obtain ⟨v, hv, h⟩ := bind_ok_iff.mp h
    obtain ⟨ws, hws, h⟩ := bind_ok_iff.mp h
    cases h
    rw [Value.AllNamed]
    exact ⟨named_evalIn henv e he.1 hv, named_evalAllIn henv es he.2 hws⟩

theorem named_evalElementsIn {env : Env} (henv : env.Named) : (es : List Expr) → AllNamed es →
    {fs : List Filter} → evalElementsIn env es = .ok fs → Filter.AllNamed fs
  | [], _, _, h => by
    cases h
    rw [Filter.AllNamed]
    trivial
  | e :: es, he, fs, h => by
    rw [evalElementsIn] at h
    obtain ⟨v, hv, h⟩ := bind_ok_iff.mp h
    obtain ⟨f, hf, h⟩ := bind_ok_iff.mp h
    obtain ⟨gs, hgs, h⟩ := bind_ok_iff.mp h
    cases h
    have hnamed := named_evalIn henv e he.1 hv
    rw [Filter.AllNamed]
    refine ⟨?_, named_evalElementsIn henv es he.2 hgs⟩
    cases v with
    | selector g =>
      cases hf
      rwa [Value.Named] at hnamed
    | _ => cases hf

end

/-! ## Compilation -/

theorem named_selectorIn (henv : env.Named) {e : Expr} (he : e.Named) {f : Filter}
    (h : selectorIn env e = .ok f) : f.Named := by
  unfold selectorIn valueIn at h
  obtain ⟨v, hv, h⟩ := bind_ok_iff.mp h
  have hnamed := named_evalIn henv e he (mapError_eq_ok.mp hv)
  cases v with
  | selector g =>
    cases h
    rwa [Value.Named] at hnamed
  | _ => cases h

mutual

theorem named_filterIn {env : Env} (henv : env.Named) : (e : Expr) → e.Named → {f : Filter} →
    e.filterIn env = .ok f → f.Named
  | literal _ v, _, f, h => by
    cases v with
    | boolean b =>
      cases b <;> cases h
      · exact Filter.named_truth false
      · exact Filter.named_truth true
    | _ => cases h
  | reference span name, he, f, h => by
    rw [filterIn] at h
    exact named_selectorIn henv he h
  | list span items, _, f, h => by
    rw [filterIn] at h
    cases h
  | binary _ op opSpan l r, he, k, h => by
    have hpair : (∃ f g, l.filterIn env = .ok f ∧ r.filterIn env = .ok g ∧
        (k = .all [f, g] ∨ k = .any [f, g])) := by
      cases op with
      | and =>
        obtain ⟨f, hf, h⟩ := bind_ok_iff.mp h
        obtain ⟨g, hg, h⟩ := bind_ok_iff.mp h
        cases h
        exact ⟨f, g, hf, hg, .inl rfl⟩
      | or =>
        obtain ⟨f, hf, h⟩ := bind_ok_iff.mp h
        obtain ⟨g, hg, h⟩ := bind_ok_iff.mp h
        cases h
        exact ⟨f, g, hf, hg, .inr rfl⟩
      | _ => cases h
    obtain ⟨f, g, hf, hg, hk⟩ := hpair
    rw [Named] at he
    have hfn := named_filterIn henv l he.1 hf
    have hgn := named_filterIn henv r he.2 hg
    obtain rfl | rfl := hk <;> simp only [Filter.Named, Filter.AllNamed, hfn, hgn, and_self]
  | unary _ op opSpan e, he, f, h => by
    cases op with
    | not =>
      obtain ⟨g, hg, h⟩ := bind_ok_iff.mp h
      cases h
      rw [Named] at he
      exact Filter.named_not.mpr (named_filterIn henv e he hg)
    | negate => cases h
  | group _ e, he, f, h => by
    rw [filterIn] at h
    rw [Named] at he
    exact named_filterIn henv e he h
  | call span name args, he, f, h => by
    rw [filterIn] at h
    exact named_selectorIn henv he h
  | letIn _ name value body, he, f, h => by
    rw [filterIn, valueIn] at h
    obtain ⟨v, hv, h⟩ := bind_ok_iff.mp h
    rw [Named] at he
    have hvn := named_evalIn henv value he.1 (mapError_eq_ok.mp hv)
    exact named_filterIn (henv.bind hvn) body he.2 h
  | tagFilter span tag op value, he, f, h => by
    rw [filterIn] at h
    exact named_selectorIn henv he h
  | hasTag _ tag, he, f, h => by
    rw [filterIn] at h
    cases h
    rw [Named] at he
    rw [Filter.Named]
    exact he
  | selector _ key filters, he, f, h => by
    rw [filterIn] at h
    obtain ⟨fs, hfs, h⟩ := bind_ok_iff.mp h
    cases h
    rw [Named] at he
    exact named_selectorOf (named_filtersIn henv filters he hfs)

theorem named_filtersIn {env : Env} (henv : env.Named) : (es : List Expr) → AllNamed es →
    {fs : List Filter} → filtersIn env es = .ok fs → Filter.AllNamed fs
  | [], _, _, h => by
    cases h
    rw [Filter.AllNamed]
    trivial
  | e :: es, he, fs, h => by
    rw [filtersIn] at h
    obtain ⟨f, hf, h⟩ := bind_ok_iff.mp h
    obtain ⟨gs, hgs, h⟩ := bind_ok_iff.mp h
    cases h
    rw [Filter.AllNamed]
    exact ⟨named_filterIn henv e he.1 hf, named_filtersIn henv es he.2 hgs⟩

end

end Expr

/-! ## Scopes -/

/-- What is bound has tags that can be named. -/
def Binding.Named : Binding → Prop
  | .value v => v.Named
  | .deferred e => e.Named

/-- Values and queries with such tags, bound in any frames, give names such values. -/
theorem Scope.named_lookup : (scope : Scope) → (∀ frame ∈ scope, ∀ b ∈ frame, b.2.Named) →
    Env.Named scope.lookup
  | [], _ => by
    intro name span v hv
    rw [lookup] at hv
    cases hv
  | frame :: outer, h => by
    have houter : Env.Named (lookup outer) :=
      named_lookup outer fun frame' hframe => h frame' (List.mem_cons_of_mem frame hframe)
    intro name span v hv
    rw [lookup] at hv
    split at hv
    · rename_i w hw
      obtain ⟨before, after, rfl, -⟩ := List.lookup_eq_some_iff.mp hw
      cases hv
      exact h _ List.mem_cons_self (name, .value v) (by simp)
    · rename_i e he
      obtain ⟨before, after, rfl, -⟩ := List.lookup_eq_some_iff.mp he
      have hbound : e.Named := h _ List.mem_cons_self (name, .deferred e) (by simp)
      exact Expr.named_evalIn houter e hbound hv
    · exact houter name span v hv

end SeriesQuery
