/-
Writes. The series of a compiled write is the one its filter describes: the
filter holds of those series that have its key and all its tags
(`seriesOfParts_holds`). Any filter made by conjunction from one key and
values of tags that do not contradict each other gives a write, for
simplifying keeps just these parts, each once (`exists_normalize_eq`).
-/
import SeriesQuery.Proofs.Filter.Normal
import SeriesQuery.Proofs.Store.Selection
import SeriesQuery.Proofs.Result
import SeriesQuery.Expr.Request
import SeriesQuery.Expr.Text
import SeriesQuery.Regex.Engine
import SeriesQuery.Sha256

namespace SeriesQuery

/-- The series has the key of the other and, with the same values, all its tags. -/
structure Series.Extends (t s : Series) : Prop where
  key : t.key = s.key
  tags : ∀ name value, s.tag? name = some value → t.tag? name = some value

section Writes

variable [PatternEngine]

namespace Filter

mutual

/-- The filters a filter is made of by conjunctions, however nested. -/
def conjoined : Filter → List Filter
  | all fs => conjoinedAll fs
  | f => [f]

def conjoinedAll : List Filter → List Filter
  | [] => []
  | f :: fs => conjoined f ++ conjoinedAll fs

end

theorem mem_conjoinedAll {g : Filter} {fs : List Filter} :
    g ∈ conjoinedAll fs ↔ ∃ f ∈ fs, g ∈ f.conjoined := by
  induction fs with
  | nil => simp [conjoinedAll]
  | cons f fs ih => simp [conjoinedAll, ih]

theorem conjoined_all (fs : List Filter) : (all fs).conjoined = conjoinedAll fs := by
  rw [conjoined]

theorem conjoined_of_ne_all {f : Filter} (h : ∀ fs, f ≠ all fs) : f.conjoined = [f] := by
  cases f with
  | all fs => exact absurd rfl (h fs)
  | _ => rw [conjoined]; exact nofun

/-- The filter is a nested conjunction of one key, of tags with a name and one value each, and of
what always holds. -/
structure Describes (f : Filter) (k : String) : Prop where
  key_mem : key k ∈ f.conjoined
  key_ne : k ≠ ""
  parts : ∀ g ∈ f.conjoined, g = always ∨ g = key k ∨ ∃ name value, name ≠ "" ∧ g = tag name value
  agree : ∀ name value value', tag name value ∈ f.conjoined → tag name value' ∈ f.conjoined →
    value = value'

/-! ## Simplified conjunctions of atoms -/

theorem conjunction_eq (fs : List Filter) : conjunction fs =
    match sortedSet fs with
    | [] => always
    | [f] => f
    | fs => all fs := rfl

/-- The parts of a conjunction of atoms are the atoms. -/
theorem partsOf_conjunction {ps : List Filter} (h : ∀ g ∈ ps, g.isAtom = true) :
    Junction.conj.partsOf (conjunction ps) = some (sortedSet ps) := by
  rw [conjunction_eq]
  split
  · rename_i hset
    rw [hset]
    rfl
  · rename_i g hset
    have hatom : g.isAtom = true := h g (mem_sortedSet.mp (hset ▸ List.mem_singleton_self g))
    rw [hset]
    exact Junction.partsOf_of_core (.atom hatom) fun gs heq => by rw [heq] at hatom; cases hatom
  · exact Junction.partsOf_of

/-- A conjunction of atoms, however nested, simplifies to that of the atoms alone. -/
theorem exists_normalize_eq (f : Filter) (h : ∀ g ∈ f.conjoined, g = always ∨ g.isAtom = true) :
    ∃ ps, f.normalize = conjunction ps ∧ ∀ g, g ∈ ps ↔ g ∈ f.conjoined ∧ g ≠ always := by
  induction f using induction_members with
  | step f ih =>
    by_cases hall : ∃ fs, f = all fs
    · obtain ⟨fs, rfl⟩ := hall
      rw [conjoined_all] at h ⊢
      -- The parts of each simplified member are its atoms.
      have hmember : ∀ f ∈ fs, ∃ ps, Junction.conj.partsOf f.normalize = some ps ∧
          ∀ g, g ∈ ps ↔ g ∈ f.conjoined ∧ g ≠ always := by
        intro f hf
        have hparts : ∀ g ∈ f.conjoined, g = always ∨ g.isAtom = true := fun g hg =>
          h g (mem_conjoinedAll.mpr ⟨f, hf, hg⟩)
        obtain ⟨ps, hps, hmem⟩ := ih f hf hparts
        have hatoms : ∀ g ∈ ps, g.isAtom = true := fun g hg =>
          (hparts g ((hmem g).mp hg).1).resolve_left ((hmem g).mp hg).2
        exact ⟨sortedSet ps, hps ▸ partsOf_conjunction hatoms, fun g => mem_sortedSet.trans (hmem g)⟩
      have hundecided : ¬ Junction.conj.Decided (fs.map normalize) := by
        intro hdecided
        obtain ⟨f, hf, hnever⟩ := List.mem_map.mp hdecided
        obtain ⟨ps, hps, -⟩ := hmember f hf
        rw [hnever] at hps
        cases hps
      obtain ⟨ps, hps, hmem⟩ := Junction.exists_reduce_eq hundecided
      refine ⟨ps, ?_, fun g => ?_⟩
      · exact (Junction.normalize_of (j := .conj)).trans hps
      · rw [hmem, mem_conjoinedAll]
        constructor
        · rintro ⟨_, hn, qs, hqs, hg⟩
          obtain ⟨f, hf, rfl⟩ := List.mem_map.mp hn
          obtain ⟨ps', hps', hmem'⟩ := hmember f hf
          cases hps'.symm.trans hqs
          exact ⟨⟨f, hf, ((hmem' g).mp hg).1⟩, ((hmem' g).mp hg).2⟩
        · rintro ⟨⟨f, hf, hg⟩, hne⟩
          obtain ⟨ps', hps', hmem'⟩ := hmember f hf
          exact ⟨f.normalize, List.mem_map_of_mem hf, ps', hps', (hmem' g).mpr ⟨hg, hne⟩⟩
    · have hself : f.conjoined = [f] := conjoined_of_ne_all fun fs heq => hall ⟨fs, heq⟩
      rw [hself] at h ⊢
      rcases h f (List.mem_singleton_self f) with rfl | hatom
      · exact ⟨[], rfl, fun g => by simp⟩
      · refine ⟨[f], normalize_of_isAtom hatom, fun g => ⟨fun hg => ⟨hg, ?_⟩, fun hg => hg.1⟩⟩
        rintro rfl
        cases List.mem_singleton.mp hg
        cases hatom

end Filter

namespace Expr

open SeriesQuery.Filter (conjunction sortedSet)

/-! ## The series of a filter -/

theorem allHold_iff {s : Series} {fs : List Filter} :
    Filter.allHold s fs = true ↔ ∀ f ∈ fs, f.holds s = true := by
  rw [← Bool.not_eq_false, Junction.allHold_eq_false]
  simp

theorem holds_iff_parts (s : Series) (f : Filter) :
    f.holds s = true ↔ ∀ g ∈ seriesParts f, g.holds s = true := by
  cases f with
  | all fs =>
    rw [Filter.holds, allHold_iff]
    rfl
  | _ => simp [seriesParts]

/-- The series read off some parts is the least one they hold of. -/
theorem seriesOfParts_holds {key? : Option String} {tags : SortedMap String} {fs : List Filter}
    {s : Series} (h : seriesOfParts key? tags fs = .ok s) (t : Series) :
    t.Extends s ↔ (∀ k, key? = some k → t.key = k) ∧
      (∀ name value, tags.get? name = some value → t.tag? name = some value) ∧
      ∀ f ∈ fs, f.holds t = true := by
  fun_induction seriesOfParts key? tags fs with
  | case1 => cases h
  | case2 tags k =>
    cases h
    constructor
    · intro ht
      exact ⟨fun _ hk => ht.key.trans (Option.some.inj hk), ht.tags, nofun⟩
    · rintro ⟨hkey, htags, -⟩
      exact ⟨hkey _ rfl, htags⟩
  | case3 tags k fs ih =>
    rw [ih h]
    simp [Filter.holds, and_left_comm]
  | case4 => cases h
  | case5 key? tags name value fs hcontains ih =>
    have hnone : tags.get? name = none := by
      simpa [SortedMap.contains] using hcontains
    rw [ih h]
    refine and_congr_right fun _ => ?_
    simp only [SortedMap.get?_insert, List.forall_mem_cons, Filter.holds, beq_iff_eq]
    constructor
    · rintro ⟨htags, hfs⟩
      refine ⟨fun n v hn => htags n v ?_, htags name value (if_pos rfl), hfs⟩
      have hne : n ≠ name := fun heq => by rw [heq, hnone] at hn; cases hn
      rwa [if_neg hne]
    · rintro ⟨htags, htag, hfs⟩
      refine ⟨fun n v hn => ?_, hfs⟩
      split at hn
      · rename_i heq
        rw [heq, htag, hn]
      · exact htags n v hn
  | case6 => cases h

/-- Parts that give one key, none twice, and one value for each tag are read as a series. -/
theorem exists_seriesOfParts {k : String} {key? : Option String} (tags : SortedMap String)
    {fs : List Filter} (hnodup : fs.Nodup)
    (hparts : ∀ g ∈ fs, g = .key k ∨ ∃ name value, g = .tag name value)
    (hagree : ∀ name value value', .tag name value ∈ fs → .tag name value' ∈ fs → value = value')
    (hkey : key? = none ∧ .key k ∈ fs ∨ key? = some k ∧ .key k ∉ fs)
    (hfresh : ∀ name value, .tag name value ∈ fs → tags.get? name = none) :
    ∃ s, seriesOfParts key? tags fs = .ok s ∧ s.key = k ∧
      ∀ name value, s.tag? name = some value ↔
        tags.get? name = some value ∨ .tag name value ∈ fs := by
  induction fs generalizing key? tags with
  | nil =>
    obtain ⟨-, hmem⟩ | ⟨rfl, -⟩ := hkey
    · cases hmem
    · exact ⟨⟨k, tags⟩, rfl, rfl, fun name value => by simp [Series.tag?]⟩
  | cons g fs ih =>
    obtain ⟨hg, hrest⟩ := List.nodup_cons.mp hnodup
    have hparts' := fun g' hg' => hparts g' (List.mem_cons_of_mem g hg')
    have hagree' := fun name value value' hv hv' =>
      hagree name value value' (List.mem_cons_of_mem g hv) (List.mem_cons_of_mem g hv')
    have hfresh' := fun name value hv => hfresh name value (List.mem_cons_of_mem g hv)
    rcases hparts g List.mem_cons_self with rfl | ⟨name, value, rfl⟩
    · -- The key itself: no key was seen before it.
      obtain ⟨rfl, -⟩ | ⟨-, hnot⟩ := hkey
      · obtain ⟨s, hs, hskey, hstags⟩ := ih tags hrest hparts' hagree' (.inr ⟨rfl, hg⟩) hfresh'
        refine ⟨s, by rw [seriesOfParts, hs], hskey, fun n v => ?_⟩
        simp [hstags]
      · exact absurd List.mem_cons_self hnot
    · have hnone : tags.get? name = none := hfresh name value List.mem_cons_self
      have hkey' : key? = none ∧ .key k ∈ fs ∨ key? = some k ∧ .key k ∉ fs := by
        simpa using hkey
      have hfresh'' : ∀ n v, .tag n v ∈ fs → (tags.insert name value).get? n = none := by
        intro n v hv
        rw [SortedMap.get?_insert, if_neg, hfresh' n v hv]
        rintro rfl
        obtain rfl := hagree n v value (List.mem_cons_of_mem _ hv) List.mem_cons_self
        exact hg hv
      obtain ⟨s, hs, hskey, hstags⟩ := ih _ hrest hparts' hagree' hkey' hfresh''
      refine ⟨s, ?_, hskey, fun n v => ?_⟩
      · rw [seriesOfParts, if_neg (by simp [SortedMap.contains, hnone]), hs]
      · rw [hstags, SortedMap.get?_insert, List.mem_cons]
        split
        · rename_i heq
          subst heq
          simp [hnone, eq_comm]
        · rename_i hne
          simp [hne]

/-- The series of a filter can be stored, and the filter holds of what extends it. -/
theorem holds_iff_extends {f : Filter} {s : Series} (h : seriesOfFilter f = .ok s) :
    s.fault? = none ∧ ∀ t, f.holds t = true ↔ t.Extends s := by
  obtain ⟨s', hs', h⟩ := bind_ok_iff.mp h
  split at h
  · cases h
  · rename_i hfault
    cases h
    refine ⟨hfault, fun t => ?_⟩
    rw [seriesOfParts_holds hs', holds_iff_parts]
    simp [SortedMap.get?_eq_some_iff, SortedMap.empty]

/-- The parts of a simplified conjunction with an atom in it. -/
theorem seriesParts_conjunction {ps : List Filter} {f : Filter} (hatoms : ∀ g ∈ ps, g.isAtom = true)
    (hf : f ∈ ps) : seriesParts (conjunction ps) = sortedSet ps := by
  rw [Filter.conjunction_eq]
  split
  · rename_i hset
    have hmem := Filter.mem_sortedSet.mpr hf
    rw [hset] at hmem
    cases hmem
  · rename_i g hset
    have hatom : g.isAtom = true :=
      hatoms g (Filter.mem_sortedSet.mp (hset ▸ List.mem_singleton_self g))
    rw [hset]
    cases g with
    | all gs => cases hatom
    | _ => rfl
  · rfl

/-- A filter that describes a series simplifies to one that names it. -/
theorem exists_seriesOfFilter {f : Filter} {k : String} (h : f.Describes k) :
    ∃ s, seriesOfFilter f.normalize = .ok s ∧ s.key = k ∧
      ∀ name value, s.tag? name = some value ↔ .tag name value ∈ f.conjoined := by
  have hatom : ∀ g ∈ f.conjoined, g = .always ∨ g.isAtom = true := by
    intro g hg
    rcases h.parts g hg with rfl | rfl | ⟨name, value, -, rfl⟩
    · exact .inl rfl
    · exact .inr rfl
    · exact .inr rfl
  obtain ⟨ps, hps, hmem⟩ := Filter.exists_normalize_eq f hatom
  have hatoms : ∀ g ∈ ps, g.isAtom = true := fun g hg =>
    (hatom g ((hmem g).mp hg).1).resolve_left ((hmem g).mp hg).2
  have hset : ∀ g, g ∈ sortedSet ps ↔ g ∈ f.conjoined ∧ g ≠ .always := fun g =>
    Filter.mem_sortedSet.trans (hmem g)
  have hkey : .key k ∈ sortedSet ps := (hset _).mpr ⟨h.key_mem, nofun⟩
  have htag : ∀ name value, .tag name value ∈ sortedSet ps ↔ .tag name value ∈ f.conjoined :=
    fun name value => (hset _).trans (and_iff_left nofun)
  obtain ⟨s, hs, hskey, hstags⟩ :=
    exists_seriesOfParts .empty (Filter.sorted_sortedSet ps).nodup
      (fun g hg => ((h.parts g ((hset g).mp hg).1).resolve_left ((hset g).mp hg).2).imp_right
        fun ⟨name, value, _, heq⟩ => ⟨name, value, heq⟩)
      (fun name value value' hv hv' => h.agree name value value' ((htag _ _).mp hv) ((htag _ _).mp hv'))
      (.inl ⟨rfl, hkey⟩) (fun _ _ _ => rfl)
  have htags : ∀ name value, s.tag? name = some value ↔ .tag name value ∈ f.conjoined := by
    intro name value
    rw [hstags, htag]
    exact or_iff_right nofun
  have hfault : s.fault? = none := by
    rw [Series.fault?, if_neg (hskey ▸ h.key_ne), Option.map_eq_none_iff, ← Series.tag?,
      Option.eq_none_iff_forall_ne_some]
    intro value hvalue
    rcases h.parts _ ((htags _ _).mp hvalue) with heq | heq | ⟨name, value', hne, heq⟩
    · cases heq
    · cases heq
    · cases heq
      exact hne rfl
  refine ⟨s, ?_, hskey, htags⟩
  rw [seriesOfFilter, hps, seriesParts_conjunction hatoms ((hmem _).mpr ⟨h.key_mem, nofun⟩), hs,
    ok_bind, hfault]

/-! ## Writes -/

variable {scope : Scope} {range : TimeRange} {limit : Option Nat} {e : Expr}

theorem request_write_eq_ok {r : Request} :
    e.request scope .write range limit = .ok r ↔
      ∃ f s, e.filter scope = .ok f ∧ seriesOfFilter f = .ok s ∧ r = .write s range := by
  simp only [request, series, bind_ok_iff, mapError_eq_ok, Except.ok.injEq]
  constructor
  · rintro ⟨s, ⟨f, hf, hs⟩, rfl⟩
    exact ⟨f, s, hf, hs, rfl⟩
  · rintro ⟨f, s, hf, hs, rfl⟩
    exact ⟨s, ⟨f, hf, hs⟩, rfl⟩

/-- A write is of a series that every store takes and that the filter of the expression describes;
and an expression whose filter is made by conjunction of one key and of tags that agree is a write
of the series with that key and these tags. -/
theorem request_write [Digest] (scope : Scope) (range : TimeRange) (limit : Option Nat) (e : Expr) :
    (∀ r, e.request scope .write range limit = .ok r →
      ∃ s f, r = .write s range ∧ s.fault? = none ∧
        (∀ store : Store, ∃ response, (store.perform r).2 = .ok response) ∧
        e.filter scope = .ok f ∧ ∀ t, f.holds t = true ↔ t.Extends s) ∧
    ∀ f k, e.filterIn scope.lookup = .ok f → f.Describes k →
      ∃ s, e.request scope .write range limit = .ok (.write s range) ∧ s.key = k ∧
        ∀ name value, s.tag? name = some value ↔ .tag name value ∈ f.conjoined := by
  refine ⟨fun r hr => ?_, fun f k hf hdescribes => ?_⟩
  · obtain ⟨f, s, hf, hs, rfl⟩ := request_write_eq_ok.mp hr
    obtain ⟨hfault, hholds⟩ := holds_iff_extends hs
    refine ⟨s, f, rfl, hfault, fun store => ?_, hf, hholds⟩
    simp only [Store.perform, hfault]
    exact ⟨_, rfl⟩
  · obtain ⟨s, hs, hkey, htags⟩ := exists_seriesOfFilter hdescribes
    refine ⟨s, request_write_eq_ok.mpr ⟨f.normalize, s, ?_, hs, rfl⟩, hkey, htags⟩
    rw [filter, hf]
    rfl

end Expr

end Writes

namespace Expr

open scoped Regex Sha256

/-- The key twice, a tag that is bound before, and what always holds. -/
theorem request_write_bound :
    ∃ e : Expr, e.text = "let t = \x7bdc = \"x\"\x7d; cpu\x7bhost = \"a\", t\x7d and cpu\x7b\x7d and true" ∧
      ∃ f, e.filterIn Scope.empty.lookup = .ok f ∧ f.Describes "cpu" ∧
        ∃ s, e.request Scope.empty .write ⟨0, 9⟩ none = .ok (.write s ⟨0, 9⟩) ∧ s.key = "cpu" ∧
          s.tag? "host" = some "a" ∧ s.tag? "dc" = some "x" := by
  let place : Span := ⟨0, 0⟩
  let e : Expr := .letIn place "t"
    (.selector place none [.tagFilter place "dc" .equal (.literal place (.string "x"))])
    (.binary place .and place
      (.binary place .and place
        (.selector place (some "cpu")
          [.tagFilter place "host" .equal (.literal place (.string "a")), .reference place "t"])
        (.selector place (some "cpu") []))
      (.literal place (.boolean true)))
  let f : Filter := .all [.all [.all [.key "cpu", .tag "host" "a", .all [.tag "dc" "x"]],
    .all [.key "cpu"]], .always]
  have hconjoined : f.conjoined = [.key "cpu", .tag "host" "a", .tag "dc" "x", .key "cpu", .always] :=
    rfl
  have hf : e.filterIn Scope.empty.lookup = .ok f := rfl
  have hdescribes : f.Describes "cpu" :=
    { key_mem := by simp [hconjoined]
      key_ne := by decide
      parts := by simp [hconjoined]
      agree := by
        simp only [hconjoined]
        grind }
  obtain ⟨s, hs, hkey, htags⟩ := (request_write Scope.empty ⟨0, 9⟩ none e).2 f "cpu" hf hdescribes
  refine ⟨e, rfl, f, hf, hdescribes, s, hs, hkey, ?_, ?_⟩
  · rw [htags, hconjoined]
    simp
  · rw [htags, hconjoined]
    simp

end Expr

end SeriesQuery
