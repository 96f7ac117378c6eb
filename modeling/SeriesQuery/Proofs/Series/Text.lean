/-
A series written as a selector and read back. The text of a series whose key
and tags can be named is that of a tree (`text_expr`) which is nested four
deep at most (`exists_phrase`). The tree compiles to the conjunction of the
key and the tags (`compiles_expr`), and the one series that this conjunction
describes is the series it was written for (`request_write_text`).
-/
import SeriesQuery.Proofs.Expr.Write
import SeriesQuery.Proofs.Filter.Query
import SeriesQuery.Regex.Engine

namespace SeriesQuery

open Category
open SeriesQuery.Expr (nowhere Compiles)

namespace Series

/-- The key and the names of the tags can be written in a query. -/
structure Named (s : Series) : Prop where
  key : isName s.key = true
  tags : ∀ name value, s.tag? name = some value → isName name = true

theorem Named.isName_of_mem {s : Series} (h : s.Named) :
    ∀ tag ∈ s.tags.toList, isName tag.1 = true := by
  intro tag htag
  have hget : s.tag? tag.1 = some tag.2 := SortedMap.get?_eq_some_iff.mpr htag
  exact h.tags tag.1 tag.2 hget

/-- A series is known from its key and the values of its tags. -/
theorem ext_tags {s t : Series} (hkey : s.key = t.key)
    (htags : ∀ name value, s.tag? name = some value ↔ t.tag? name = some value) : s = t := by
  have hmaps : s.tags = t.tags := SortedMap.ext_mem fun (name, value) => by
    rw [← SortedMap.get?_eq_some_iff, ← SortedMap.get?_eq_some_iff]
    exact htags name value
  cases s
  cases t
  rw [Series.mk.injEq]
  exact ⟨hkey, hmaps⟩

/-! ## The tree of the text -/

/-- The tag filter that a tag is written as. -/
def tagExpr (tag : String × String) : Expr :=
  .tagFilter nowhere tag.1 .equal (.literal nowhere (.string tag.2))

/-- The selector that a series is written as. -/
def expr (s : Series) : Expr := .selector nowhere (some s.key) (s.tags.toList.map tagExpr)

theorem text_tagExpr (tag : String × String) :
    (tagExpr tag).text = s!"{tag.1} = {quote tag.2}" := by
  rw [tagExpr, Expr.text_tagFilter]
  rfl

theorem text_expr (s : Series) : s.expr.text = s.text := by
  have htexts : ∀ tags : List (String × String),
      Expr.texts (tags.map tagExpr) = tags.map fun tag => s!"{tag.1} = {quote tag.2}" := by
    intro tags
    induction tags with
    | nil => rfl
    | cons tag tags ih => rw [List.map_cons, Expr.texts, text_tagExpr, ih, List.map_cons]
  rw [expr, Expr.text, htexts]
  rfl

/-! ## Its nesting -/

section Written

variable [PatternEngine]

/-- A tag is read within three levels: the tag filter, its operator and the literal. -/
theorem exists_tagPhrase {tag : String × String} (h : isName tag.1 = true) :
    ∃ p : Phrase (atLeast Level.letBody), p.tree = tagExpr tag ∧ p.nesting = 3 ∧
      ∀ k ∈ p.kinds, k.Writable := by
  obtain ⟨name, hname, hwritable⟩ := Expr.exists_name h
  have hliteral : Level.comparison + 1 ≤ Level.primary := by decide
  have hlowest : Level.letBody ≤ Level.comparison := Nat.zero_le _
  obtain ⟨v, hvkinds, hvtree, -, hvnesting⟩ :=
    (Phrase.literal rfl (.string tag.2)).exists_lower hliteral
  obtain ⟨p, hpkinds, hptree, -, hpnesting⟩ :=
    (Phrase.tagged rfl name .equal v).exists_lower hlowest
  refine ⟨p, ?_, ?_, fun k hk => ?_⟩
  · rw [hptree, Phrase.tree, hvtree, hname]
    rfl
  · rw [hpnesting, Phrase.nesting, hvnesting]
    rfl
  · rw [hpkinds, Phrase.kinds, hvkinds, Phrase.kinds] at hk
    simp only [List.mem_cons, List.not_mem_nil, or_false] at hk
    rcases hk with rfl | rfl | rfl
    · exact hwritable
    · exact TagOp.equal.writable
    · exact trivial

theorem exists_tagsPhrase {tags : List (String × String)} (h : ∀ tag ∈ tags, isName tag.1 = true) :
    ∃ p : Phrase anyNumber, p.tree = tags.map tagExpr ∧ p.nesting ≤ 3 ∧
      ∀ k ∈ p.kinds, k.Writable := by
  induction tags with
  | nil => exact ⟨.none, rfl, Nat.zero_le 3, nofun⟩
  | cons tag tags ih =>
    obtain ⟨p, hptree, hpnesting, hp⟩ := exists_tagPhrase (h tag List.mem_cons_self)
    obtain ⟨q, hqtree, hqnesting, hq⟩ := ih fun t ht => h t (List.mem_cons_of_mem tag ht)
    cases q with
    | none =>
      refine ⟨.some (.one p), ?_, Nat.le_of_eq hpnesting, hp⟩
      rw [List.map_cons, ← hqtree, ← hptree]
      rfl
    | some q =>
      refine ⟨.some (.more p q), ?_, ?_, fun k hk => ?_⟩
      · rw [List.map_cons, ← hqtree, ← hptree]
        rfl
      · have hle : q.nesting ≤ 3 := hqnesting
        simp only [Phrase.nesting]
        omega
      · simp only [Phrase.kinds, List.mem_append, List.mem_cons] at hk
        rcases hk with hk | rfl | hk
        · exact hp k hk
        · exact trivial
        · exact hq k hk

theorem exists_phrase {s : Series} (h : s.Named) :
    ∃ p : Phrase (atLeast Level.letBody), p.tree = s.expr ∧ p.nesting ≤ 4 ∧
      ∀ k ∈ p.kinds, k.Writable := by
  obtain ⟨key, hkey, hwritable⟩ := Expr.exists_name h.key
  obtain ⟨q, hqtree, hqnesting, hq⟩ := exists_tagsPhrase h.isName_of_mem
  have hlowest : Level.letBody ≤ Level.primary := Nat.zero_le _
  obtain ⟨p, hpkinds, hptree, -, hpnesting⟩ :=
    (Phrase.selector rfl (some key) q).exists_lower hlowest
  refine ⟨p, ?_, ?_, fun k hk => ?_⟩
  · rw [hptree, Phrase.tree, hqtree, Option.map_some, hkey]
    rfl
  · rw [hpnesting, Phrase.nesting]
    omega
  · rw [hpkinds, Phrase.kinds] at hk
    simp only [Option.toList_some, List.map_cons, List.map_nil, List.cons_append, List.nil_append,
      List.mem_cons, List.mem_append, List.not_mem_nil, or_false] at hk
    rcases hk with rfl | rfl | hk | rfl
    · exact hwritable
    · exact trivial
    · exact hq k hk
    · exact trivial

/-! ## Its filter -/

/-- The conjunction of the key and the tags. -/
def filter (s : Series) : Filter :=
  .all (.key s.key :: s.tags.toList.map fun tag => .tag tag.1 tag.2)

theorem compiles_expr (s : Series) : Compiles s.expr s.filter := by
  refine Expr.compiles_selector (some s.key) ?_
  rw [List.forall₂_map_left_iff, List.forall₂_map_right_iff, List.forall₂_same]
  intro tag _
  exact Expr.compiles_tagFilter fun _ => rfl

theorem conjoined_filter (s : Series) : s.filter.conjoined =
    .key s.key :: s.tags.toList.map fun tag => .tag tag.1 tag.2 := by
  have htags : ∀ tags : List (String × String),
      Filter.conjoinedAll (tags.map fun tag => .tag tag.1 tag.2) =
        tags.map fun tag => .tag tag.1 tag.2 := by
    intro tags
    induction tags with
    | nil => rfl
    | cons tag tags ih =>
      have htag : (Filter.tag tag.1 tag.2).conjoined = [.tag tag.1 tag.2] :=
        Filter.conjoined_of_ne_all fun fs heq => by cases heq
      rw [List.map_cons, Filter.conjoinedAll, ih, htag, List.singleton_append]
  have hkey : (Filter.key s.key).conjoined = [.key s.key] :=
    Filter.conjoined_of_ne_all fun fs heq => by cases heq
  rw [filter, Filter.conjoined_all, Filter.conjoinedAll, htags, hkey, List.singleton_append]

theorem tag_mem_conjoined {s : Series} {name value : String} :
    .tag name value ∈ s.filter.conjoined ↔ s.tag? name = some value := by
  rw [conjoined_filter, tag?, SortedMap.get?_eq_some_iff]
  simp

theorem describes_filter {s : Series} (h : s.Named) : s.filter.Describes s.key where
  key_mem := by
    rw [conjoined_filter]
    exact List.mem_cons_self
  key_ne := by
    intro hempty
    have hkey := h.key
    rw [hempty] at hkey
    cases hkey
  parts := by
    intro g hg
    rw [conjoined_filter, List.mem_cons, List.mem_map] at hg
    rcases hg with rfl | ⟨tag, htag, rfl⟩
    · exact .inr (.inl rfl)
    · have hname := h.isName_of_mem tag htag
      refine .inr (.inr ⟨tag.1, tag.2, ?_, rfl⟩)
      intro hempty
      rw [hempty] at hname
      cases hname
  agree := by
    intro name value value' hv hv'
    rw [tag_mem_conjoined] at hv hv'
    exact Option.some.inj (hv.symm.trans hv')

/-! ## Reading back -/

/-- The text of a series whose key and tags can be named is parsed under every nesting limit from
four on, and written from it, in any scope, is that series. -/
theorem request_write_text {s : Series} (h : s.Named) {limits : Limits}
    (hlength : s.text.utf8ByteSize ≤ limits.length) (hnesting : 4 ≤ limits.nesting) :
    ∃ e, Expr.parse limits s.text = .ok e ∧ ∀ (scope : Scope) (range : TimeRange)
      (limit : Option Nat), e.request scope .write range limit = .ok (.write s range) := by
  obtain ⟨p, hptree, hpnesting, hp⟩ := exists_phrase h
  have htext : p.tree.text = s.text := by rw [hptree, text_expr]
  obtain ⟨e, he, hbare⟩ := Expr.parse_text_of_phrase limits p hp (Nat.le_trans hpnesting hnesting)
    (by rwa [htext])
  rw [htext] at he
  refine ⟨e, he, fun scope range limit => ?_⟩
  have hfilter : e.filterIn scope.lookup = .ok s.filter :=
    compiles_expr s scope.lookup e (hbare.trans hptree)
  obtain ⟨t, ht, hkey, htags⟩ := Expr.exists_seriesOfFilter (describes_filter h)
  have hst : t = s := ext_tags hkey fun name value => (htags name value).trans tag_mem_conjoined
  refine Expr.request_write_eq_ok.mpr ⟨s.filter.normalize, s, ?_, hst ▸ ht, rfl⟩
  rw [Expr.filter, hfilter]
  rfl

end Written

open scoped Regex

/-- A value with quotes and a line break in it, and a name with a point. -/
theorem request_write_text_escaped :
    ∃ s : Series, s = ((ofKey "cpu").withTag "host.name" "a\"b\n").withTag "dc" "'" ∧ s.Named ∧
      s.text = "cpu\x7bdc = \"'\", host.name = \"a\\\"b\\n\"\x7d" ∧
      ∃ e, Expr.parse ⟨35, 4⟩ s.text = .ok e ∧
        e.request Scope.empty .write ⟨0, 9⟩ none = .ok (.write s ⟨0, 9⟩) := by
  let s : Series := ((ofKey "cpu").withTag "host.name" "a\"b\n").withTag "dc" "'"
  have hlist : s.tags.toList = [("dc", "'"), ("host.name", "a\"b\n")] := by decide
  have hnamed : s.Named :=
    { key := by decide
      tags := by
        intro name value hget
        have hmem : (name, value) ∈ s.tags.toList := SortedMap.get?_eq_some_iff.mp hget
        rw [hlist] at hmem
        simp only [List.mem_cons, Prod.mk.injEq, List.not_mem_nil, or_false] at hmem
        rcases hmem with ⟨rfl, -⟩ | ⟨rfl, -⟩ <;> decide }
  have htext : s.text = "cpu\x7bdc = \"'\", host.name = \"a\\\"b\\n\"\x7d" := by decide
  let limits : Limits := ⟨35, 4⟩
  have hlength : s.text.utf8ByteSize ≤ limits.length := by
    rw [htext]
    decide
  have hnesting : 4 ≤ limits.nesting := Nat.le_refl 4
  obtain ⟨e, he, hwrite⟩ := request_write_text hnamed hlength hnesting
  exact ⟨s, rfl, hnamed, htext, e, he, hwrite Scope.empty ⟨0, 9⟩ none⟩

end Series

end SeriesQuery
