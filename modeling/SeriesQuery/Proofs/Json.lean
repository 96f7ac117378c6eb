/-
Reading values out of JSON undoes writing them: numbers, items, the entries
of maps and the fields of records. Where a record is read, what is given for
one of its fields is what is read for it (`Given.eq_value`), since no field
may be given twice.
-/
import SeriesQuery.Json
import SeriesQuery.Proofs.SortedMap
import SeriesQuery.Proofs.Word

namespace SeriesQuery.Json

theorem count?_natural {n : Nat} (h : n < Word.size) : (natural n).count? = some n := by
  rw [natural, count?, integer?, Option.bind_some]
  exact countOfInt?_natCast h

theorem int64?_integer (x : Int64) : (integer x.toInt).int64? = some x := by
  rw [int64?, integer?, Option.bind_some]
  exact int64OfInt?_eq_some.mpr rfl

section Items

variable {α β γ : Type} {write : α → β} {read : β → Option α}

theorem mapM_eq_some_map {read : β → Option γ} {g : β → γ} {l : List β}
    (h : ∀ b ∈ l, read b = some (g b)) : l.mapM read = some (l.map g) := by
  induction l with
  | nil => rfl
  | cons b l ih =>
    have hb := h b (List.mem_cons_self ..)
    have hl := ih fun c hc => h c (List.mem_cons_of_mem b hc)
    simp only [List.mapM_cons, hb, hl]
    rfl

/-- Items are read back when each of them is. -/
theorem mapM_map_of_mem {l : List α} (h : ∀ a ∈ l, read (write a) = some a) :
    (l.map write).mapM read = some l := by
  rw [List.mapM_map]
  exact (mapM_eq_some_map h).trans (congrArg some (List.map_id' l))

/-- Each of the items that are read is, in its place. -/
theorem getElem?_mapM {read : β → Option γ} {l : List β} {out : List γ} {i : Nat} {b : β}
    (h : l.mapM read = some out) (hb : l[i]? = some b) : ∃ c, read b = some c ∧ out[i]? = some c := by
  induction l generalizing out i with
  | nil => cases hb
  | cons b' l ih =>
    rw [List.mapM_cons] at h
    obtain ⟨c, hc, h⟩ := Option.bind_eq_some_iff.mp h
    obtain ⟨rest, hl, h⟩ := Option.bind_eq_some_iff.mp h
    cases h
    cases i with
    | zero => exact ⟨c, Option.some.inj hb ▸ hc, rfl⟩
    | succ i => simpa only [List.getElem?_cons_succ] using ih hl hb

/-- Items are not read when one of them is not. -/
theorem mapM_eq_none {read : β → Option γ} {l : List β} {b : β} (hb : b ∈ l)
    (hread : read b = none) : l.mapM read = none := by
  induction l with
  | nil => cases hb
  | cons c l ih =>
    rw [List.mapM_cons]
    rcases List.mem_cons.mp hb with rfl | hb
    · rw [hread]
      rfl
    · rw [ih hb]
      cases read c <;> rfl

/-- A map is read back from its entries when its values are. -/
theorem ofList_entries (write : α → Json) (read : Json → Option α) {m : SortedMap α}
    (h : ∀ e ∈ m.toList, read (write e.2) = some e.2) :
    ((m.toList.map fun e => (e.1, write e.2)).mapM fun e => (read e.2).map (e.1, ·)).bind
      (fun entries => some (SortedMap.ofList entries)) = some m := by
  have hentries : (m.toList.map fun e => (e.1, write e.2)).mapM
      (fun e => (read e.2).map (e.1, ·)) = some m.toList := by
    refine mapM_map_of_mem fun e he => ?_
    rw [h e he, Option.map_some]
  rw [hentries, Option.bind_some, SortedMap.ofList_toList]

end Items

/-! ## Records -/

section Records

variable {fields : List (String × Json)} {name tag : String} {v : Json}

/-- The first field is the only one of its name. -/
theorem once?_cons_self (h : name ∉ fields.map (·.1)) :
    once? name ((name, v) :: fields) = some (some v) := by
  have hnone : fields.filter (fun f => f.1 == name) = [] :=
    List.filter_eq_nil_iff.mpr fun f hf heq => h (List.mem_map.mpr ⟨f, hf, eq_of_beq heq⟩)
  have hone : ((name, v) :: fields).filter (fun f => f.1 == name) = [(name, v)] := by
    rw [List.filter_cons_of_pos (by exact beq_self_eq_true name), hnone]
  rw [once?, hone]

theorem once?_cons_of_ne {f : String × Json} (h : f.1 ≠ name) :
    once? name (f :: fields) = once? name fields := by
  have hrest : (f :: fields).filter (fun f => f.1 == name) = fields.filter (fun f => f.1 == name) :=
    List.filter_cons_of_neg fun heq => h (eq_of_beq heq)
  rw [once?, hrest, once?]

/-- Where no two fields have the same name, each is read. -/
theorem once?_of_nodup (h : (fields.map (·.1)).Nodup) (hmem : (name, v) ∈ fields) :
    once? name fields = some (some v) := by
  induction fields with
  | nil => cases hmem
  | cons f fields ih =>
    obtain ⟨hnot, hnodup⟩ := List.nodup_cons.mp h
    rcases List.mem_cons.mp hmem with rfl | hmem
    · exact once?_cons_self hnot
    · have hne : f.1 ≠ name := fun heq => hnot (List.mem_map.mpr ⟨_, hmem, heq.symm⟩)
      rw [once?_cons_of_ne hne]
      exact ih hnodup hmem

/-- What is read for a name is whatever field of this name there is. -/
theorem eq_of_once? {found : Option Json} (h : once? name fields = some found)
    (hmem : (name, v) ∈ fields) : found = some v := by
  have hfilter : (name, v) ∈ fields.filter (·.1 == name) :=
    List.mem_filter.mpr ⟨hmem, beq_self_eq_true name⟩
  unfold once? at h
  split at h
  · rename_i hnil
    rw [hnil] at hfilter
    cases hfilter
  · rename_i hone
    rw [hone] at hfilter
    cases List.mem_singleton.mp hfilter
    exact (Option.some.inj h).symm
  · cases h

/-- A tag is taken off the front of a record without another field of its name. -/
theorem tagged?_cons (h : tag ∉ fields.map (·.1)) (label : Json) :
    (object ((tag, label) :: fields)).tagged? tag = some (label, object fields) := by
  have hrest : ((tag, label) :: fields).filter (fun f => f.1 ≠ tag) = fields := by
    rw [List.filter_cons_of_neg (by simp)]
    refine List.filter_eq_self.mpr fun f hf => decide_eq_true fun heq => h ?_
    exact List.mem_map.mpr ⟨f, hf, heq⟩
  rw [tagged?, hrest, once?_cons_self h]
  rfl

/-- The fields of a record are those of their names, if no two have the same name. -/
theorem record?_names (h : (fields.map (·.1)).Nodup) :
    (object fields).record? (fields.map (·.1)) = some (fields.map fun f => some f.2) := by
  rw [record?, List.mapM_map]
  exact mapM_eq_some_map fun f hf => once?_of_nodup h hf

/-- A value is given for a field of a record: under the name of the field in an object, or at its
place in an array. An object may give several. -/
inductive Given (name : String) (place : Nat) (v : Json) : Json → Prop
  | named {fields : List (String × Json)} : (name, v) ∈ fields → Given name place v (object fields)
  | placed {items : List Json} : items[place]? = some v → Given name place v (array items)

namespace Given

variable {place : Nat} {j j' label : Json}

theorem eq_label (h : Given tag 0 v j) (htag : j.tagged? tag = some (label, j')) : v = label := by
  cases h with
  | named hmem =>
    obtain ⟨_, honce, heq⟩ := Option.map_eq_some_iff.mp htag
    cases heq
    exact (Option.some.inj (eq_of_once? (Option.join_eq_some_iff.mp honce) hmem)).symm
  | @placed items hitem =>
    cases items with
    | nil => cases htag
    | cons item items =>
      cases htag
      exact (Option.some.inj hitem).symm

/-- What is given beside the tag is given in the rest of the record. -/
theorem rest (h : Given name (place + 1) v j) (hname : name ≠ tag)
    (htag : j.tagged? tag = some (label, j')) : Given name place v j' := by
  cases h with
  | named hmem =>
    obtain ⟨_, -, heq⟩ := Option.map_eq_some_iff.mp htag
    cases heq
    exact .named (List.mem_filter.mpr ⟨hmem, decide_eq_true hname⟩)
  | @placed items hitem =>
    cases items with
    | nil => cases htag
    | cons item items =>
      cases htag
      exact .placed hitem

/-- What is read for a field is what is given for it. -/
theorem eq_value {names : List String} {values : List (Option Json)} (h : Given name place v j)
    (hname : names[place]? = some name) (hread : j.record? names = some values) :
    values[place]? = some (some v) := by
  cases h with
  | named hmem =>
    obtain ⟨found, honce, hvalue⟩ := getElem?_mapM hread hname
    rw [hvalue, eq_of_once? honce hmem]
  | @placed items hitem =>
    rw [Json.record?, Option.ite_none_right_eq_some] at hread
    obtain ⟨-, hread⟩ := hread
    cases hread
    obtain ⟨hlt, -⟩ := List.getElem?_eq_some_iff.mp hitem
    rw [List.getElem?_append_left (by rwa [List.length_map]), List.getElem?_map, hitem]
    rfl

end Given

end Records

/-! ## Texts -/

theorem mapM_string? (items : List String) : (items.map string).mapM string? = some items :=
  mapM_map_of_mem fun _ _ => rfl

end SeriesQuery.Json
