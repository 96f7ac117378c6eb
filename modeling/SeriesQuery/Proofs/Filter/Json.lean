/-
Filters as JSON. Every filter is read back from its JSON, with any fuel that
reaches as deep as it is nested (`ofJsonWithin?_toJson`), and no filter is
read from JSON that has a text that is no pattern in one of its parts,
however deep (`Refused.ofJsonWithin?_eq_none`).
-/
import SeriesQuery.Filter.Json
import SeriesQuery.Proofs.Json

namespace SeriesQuery

namespace Filter

open Json

/-! ## Given fields -/

/-- A kind that is given for the record of a filter. -/
def Labelled (nested : Bool) (j : Json) (kind : String) : Prop :=
  ∃ label, Given "type" 0 label j ∧ kind? nested label = some kind

/-- The kind that is read is the one that is given. -/
theorem Labelled.eq_kind {nested : Bool} {j label rest : Json} {kind : String}
    (h : Labelled nested j kind) (htag : j.tagged? "type" = some (label, rest)) :
    kind? nested label = some kind := by
  obtain ⟨label', hgiven, hkind⟩ := h
  rwa [hgiven.eq_label htag] at hkind

/-- The JSON of a filter is a part of that of another: what a `not` denies, or one of those that an
`and` or an `or` joins. -/
inductive PartOf (nested : Bool) (j : Json) : Json → Prop
  | denied {f : Json} : Labelled nested j "not" → Given "filter" 1 f j → PartOf nested j f
  | joined {kind : String} {f : Json} {fs : List Json} : kind = "and" ∨ kind = "or" →
      Labelled nested j kind → Given "filters" 1 (.array fs) j → f ∈ fs → PartOf nested j f

/-- The second of two texts that are read is the one that is given. -/
theorem eq_second {first second text : String} {j : Json} {texts : String × String}
    (hgiven : Given second 1 (.string text) j) (h : twoTexts? first second j = some texts) :
    texts.2 = text := by
  obtain ⟨values, hrecord, h⟩ := Option.bind_eq_some_iff.mp h
  have hvalue := hgiven.eq_value rfl hrecord
  split at h
  · cases hvalue
    obtain ⟨_, -, h⟩ := Option.bind_eq_some_iff.mp h
    cases h
    rfl
  · cases h

variable [PatternEngine]

/-! ## Reading back -/

mutual

theorem ofJsonWithin?_toJson : (f : Filter) → (fuel : Nat) → (nested : Bool) →
    f.toJson.depth ≤ fuel → ofJsonWithin? fuel nested f.toJson = some f
  | f, 0, _, h => by
    cases f <;> simp [toJson, depth] at h
  | always, fuel + 1, _, _ => rfl
  | never, fuel + 1, _, _ => rfl
  | all fs, fuel + 1, nested, h => by
    have hfs : depthItems (toJsonList fs) ≤ fuel := by
      simp only [toJson, depth, depthFields] at h
      omega
    have hstep : ofJsonWithin? (fuel + 1) nested (all fs).toJson =
      ((toJsonList fs).mapM (ofJsonWithin? fuel true)).map all := rfl
    rw [hstep, mapM_ofJsonWithin?_toJsonList fs fuel hfs, Option.map_some]
  | any fs, fuel + 1, nested, h => by
    have hfs : depthItems (toJsonList fs) ≤ fuel := by
      simp only [toJson, depth, depthFields] at h
      omega
    have hstep : ofJsonWithin? (fuel + 1) nested (any fs).toJson =
      ((toJsonList fs).mapM (ofJsonWithin? fuel true)).map any := rfl
    rw [hstep, mapM_ofJsonWithin?_toJsonList fs fuel hfs, Option.map_some]
  | not f, fuel + 1, nested, h => by
    have hf : f.toJson.depth ≤ fuel := by
      simp only [toJson, depth, depthFields] at h
      omega
    have hstep : ofJsonWithin? (fuel + 1) nested (not f).toJson =
      (ofJsonWithin? fuel true f.toJson).map not := rfl
    rw [hstep, ofJsonWithin?_toJson f fuel true hf, Option.map_some]
  | key k, fuel + 1, _, _ => rfl
  | tag t v, fuel + 1, _, _ => rfl
  | hasTag t, fuel + 1, _, _ => rfl
  | startsWith t v, fuel + 1, _, _ => rfl
  | matching t p, fuel + 1, nested, _ => by
    have hstep : ofJsonWithin? (fuel + 1) nested (matching t p).toJson =
      (matching? t p.text).toOption := rfl
    rw [hstep, matching?_text]
    rfl

theorem mapM_ofJsonWithin?_toJsonList : (fs : List Filter) → (fuel : Nat) →
    depthItems (toJsonList fs) ≤ fuel →
    (toJsonList fs).mapM (ofJsonWithin? fuel true) = some fs
  | [], _, _ => rfl
  | f :: fs, fuel, h => by
    simp only [toJsonList, depthItems] at h
    have hf := ofJsonWithin?_toJson f fuel true (by omega)
    have hfs := mapM_ofJsonWithin?_toJsonList fs fuel (by omega)
    simp only [toJsonList, List.mapM_cons, hf, hfs]
    rfl

end

theorem ofJson?_toJson (nested : Bool) (f : Filter) : ofJson? nested f.toJson = some f :=
  ofJsonWithin?_toJson f _ nested (Nat.le_refl _)

/-! ## Refused patterns -/

/-- The JSON of a filter, or of a part of it at any depth, is a regular expression of a text that
is no pattern. Where a field is given several times, any of them counts. -/
inductive Refused : Bool → Json → Prop
  | regex {nested : Bool} {j : Json} {text reason : String} :
      Labelled nested j "regex" → Given "pattern" 2 (.string text) j →
      Pattern.ofText? text = .error reason → Refused nested j
  | part {nested : Bool} {j f : Json} : PartOf nested j f → Refused true f → Refused nested j

/-- Nothing is read where a part is not. -/
theorem PartOf.ofJsonWithin?_eq_none {nested : Bool} {j f : Json} (h : PartOf nested j f)
    {fuel : Nat} (hf : ofJsonWithin? fuel true f = none) :
    ofJsonWithin? (fuel + 1) nested j = none := by
  refine Option.eq_none_iff_forall_ne_some.mpr fun g hg => ?_
  obtain ⟨⟨label, rest⟩, htag, hg⟩ := Option.bind_eq_some_iff.mp hg
  obtain ⟨read, hread, hg⟩ := Option.bind_eq_some_iff.mp hg
  cases h with
  | denied hlabel hgiven =>
    obtain rfl : read = "not" := Option.some.inj (hread.symm.trans (hlabel.eq_kind htag))
    obtain ⟨values, hrecord, hg⟩ := Option.bind_eq_some_iff.mp hg
    have hvalue := (hgiven.rest (by decide) htag).eq_value rfl hrecord
    split at hg
    · cases hvalue
      rw [hf] at hg
      cases hg
    · cases hg
  | @joined kind f fs hjoin hlabel hgiven hmem =>
    obtain rfl : read = kind := Option.some.inj (hread.symm.trans (hlabel.eq_kind htag))
    have hitems := mapM_eq_none hmem hf
    rcases hjoin with rfl | rfl
    all_goals
      obtain ⟨values, hrecord, hg⟩ := Option.bind_eq_some_iff.mp hg
      have hvalue := (hgiven.rest (by decide) htag).eq_value rfl hrecord
      split at hg
      · cases hvalue
        simp only [array?, Option.bind_eq_bind, Option.bind_some, hitems, Option.map_none] at hg
        cases hg
      · cases hg

theorem Refused.ofJsonWithin?_eq_none {nested : Bool} {j : Json} (h : Refused nested j)
    (fuel : Nat) : ofJsonWithin? fuel nested j = none := by
  induction h generalizing fuel with
  | regex hlabel hgiven hpattern =>
    cases fuel with
    | zero => rfl
    | succ fuel =>
      refine Option.eq_none_iff_forall_ne_some.mpr fun g hg => ?_
      obtain ⟨⟨label, rest⟩, htag, hg⟩ := Option.bind_eq_some_iff.mp hg
      obtain ⟨read, hread, hg⟩ := Option.bind_eq_some_iff.mp hg
      obtain rfl : read = "regex" := Option.some.inj (hread.symm.trans (hlabel.eq_kind htag))
      obtain ⟨⟨tag, text⟩, htexts, hg⟩ := Option.bind_eq_some_iff.mp hg
      obtain rfl := eq_second (hgiven.rest (by decide) htag) htexts
      dsimp only [matching?] at hg
      rw [hpattern] at hg
      cases hg
  | part hpart _ ih =>
    cases fuel with
    | zero => rfl
    | succ fuel => exact hpart.ofJsonWithin?_eq_none (ih fuel)

theorem Refused.ofJson?_eq_none {nested : Bool} {j : Json} (h : Refused nested j) :
    ofJson? nested j = none :=
  h.ofJsonWithin?_eq_none _

end Filter

end SeriesQuery
