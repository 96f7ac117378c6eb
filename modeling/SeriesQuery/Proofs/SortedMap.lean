/-
Sorted maps by their entries. What an entry of a map is after an insertion
or a deletion (`mem_insert`, `mem_erase`) says the rest: a map is determined
by its entries (`ext_mem`), and looking up a key finds its entry.
-/
import SeriesQuery.SortedMap

namespace SeriesQuery

section Ascending

variable {α : Type} {f : α → String} {l l' : List α}

theorem nodup_of_ascending (h : l.Pairwise fun a b => f a < f b) : l.Nodup := by
  refine h.imp ?_
  intro a b hlt heq
  exact String.lt_irrefl (f b) (heq ▸ hlt)

theorem eq_of_mem_ascending (h : l.Pairwise fun a b => f a < f b) {a b : α} (ha : a ∈ l)
    (hb : b ∈ l) (heq : f a = f b) : a = b := by
  induction l with
  | nil => cases ha
  | cons c l ih =>
    obtain ⟨hc, hl⟩ := List.pairwise_cons.mp h
    rcases List.mem_cons.mp ha with rfl | ha' <;> rcases List.mem_cons.mp hb with rfl | hb'
    · rfl
    · exact absurd (hc b hb') (heq ▸ String.lt_irrefl _)
    · exact absurd (hc a ha') (heq ▸ String.lt_irrefl _)
    · exact ih hl ha' hb'

/-- Ascending lists of the same things are one list. -/
theorem eq_of_ascending (h : l.Pairwise fun a b => f a < f b)
    (h' : l'.Pairwise fun a b => f a < f b) (hmem : ∀ a, a ∈ l ↔ a ∈ l') : l = l' := by
  have hperm : l.Perm l' :=
    (List.perm_ext_iff_of_nodup (nodup_of_ascending h) (nodup_of_ascending h')).mpr hmem
  refine hperm.eq_of_pairwise ?_ h h'
  intro a b _ _ hlt hgt
  exact absurd (String.lt_trans hlt hgt) (String.lt_irrefl (f a))

/-- Sorting by a text puts things into the only order in which it ascends. -/
theorem mergeSort_eq_of_ascending (h : l'.Pairwise fun a b => f a < f b) (hperm : l.Perm l') :
    l.mergeSort (fun a b => f a ≤ f b) = l' := by
  have hsorted : (l.mergeSort fun a b => f a ≤ f b).Pairwise fun a b => f a ≤ f b := by
    refine (List.pairwise_mergeSort ?_ ?_ l).imp of_decide_eq_true
    · intro a b c hab hbc
      exact decide_eq_true (String.le_trans (of_decide_eq_true hab) (of_decide_eq_true hbc))
    · intro a b
      rw [Bool.or_eq_true, decide_eq_true_eq, decide_eq_true_eq]
      exact String.le_total (f a) (f b)
  have hsame : (l.mergeSort fun a b => f a ≤ f b).Perm l' := (List.mergeSort_perm l _).trans hperm
  refine hsame.eq_of_pairwise ?_ hsorted (h.imp fun hlt => String.not_lt.mp (String.lt_asymm hlt))
  intro a b ha hb hab hba
  exact eq_of_mem_ascending h (hsame.subset ha) hb (String.le_antisymm hab hba)

end Ascending

namespace Increasing

variable {α : Type} {l : List (String × α)}

theorem nodup_keys (h : Increasing l) : (l.map (·.1)).Nodup :=
  nodup_of_ascending (f := id) (List.pairwise_map.mpr h)

/-- Each key stands once. -/
theorem eq_of_mem (h : Increasing l) {k : String} {v w : α} (hv : (k, v) ∈ l) (hw : (k, w) ∈ l) :
    v = w :=
  (Prod.mk.inj (eq_of_mem_ascending h hv hw rfl)).2

end Increasing

namespace SortedMap

variable {α : Type} {m n : SortedMap α} {k : String} {v : α} {e : String × α}

theorem ext_mem (h : ∀ e, e ∈ m.toList ↔ e ∈ n.toList) : m = n :=
  eq_of_toList_eq (eq_of_ascending m.increasing n.increasing h)

theorem mem_insertEntry_iff {entries : List (String × α)} (h : Increasing entries) :
    e ∈ insertEntry k v entries ↔ e = (k, v) ∨ (e ∈ entries ∧ e.1 ≠ k) := by
  induction entries with
  | nil => simp [insertEntry]
  | cons p rest ih =>
    obtain ⟨k', v'⟩ := p
    obtain ⟨hp, hrest⟩ := List.pairwise_cons.mp h
    rw [insertEntry]
    split
    · rename_i hlt
      -- Every key here is greater than the new one.
      have hne : ∀ e ∈ (k', v') :: rest, e.1 ≠ k := by
        intro e he heq
        rcases List.mem_cons.mp he with rfl | he
        · exact String.lt_irrefl k (heq ▸ hlt)
        · exact String.lt_irrefl k (String.lt_trans hlt (heq ▸ hp e he))
      rw [List.mem_cons]
      exact or_congr_right ⟨fun he => ⟨he, hne e he⟩, fun he => he.1⟩
    · rename_i hnlt
      split
      · rename_i heq
        subst heq
        have hne : ∀ e ∈ rest, e.1 ≠ k := fun e he heq => String.lt_irrefl k (heq ▸ hp e he)
        rw [List.mem_cons, List.mem_cons]
        refine or_congr_right ⟨fun he => ⟨.inr he, hne e he⟩, ?_⟩
        rintro ⟨rfl | he, hk⟩
        · exact absurd rfl hk
        · exact he
      · rename_i hne
        have hk : (k', v').1 ≠ k := fun heq => hne heq.symm
        rw [List.mem_cons, ih hrest, List.mem_cons]
        constructor
        · rintro (rfl | rfl | ⟨he, hek⟩)
          · exact .inr ⟨.inl rfl, hk⟩
          · exact .inl rfl
          · exact .inr ⟨.inr he, hek⟩
        · rintro (rfl | ⟨rfl | he, hek⟩)
          · exact .inr (.inl rfl)
          · exact .inl rfl
          · exact .inr (.inr ⟨he, hek⟩)

theorem mem_insert : e ∈ (m.insert k v).toList ↔ e = (k, v) ∨ (e ∈ m.toList ∧ e.1 ≠ k) :=
  mem_insertEntry_iff m.increasing

/-- Entries of different keys are put in alike in either order. -/
theorem insert_comm {k' : String} {v' : α} (h : k ≠ k') :
    (m.insert k v).insert k' v' = (m.insert k' v').insert k v := by
  refine ext_mem fun e => ?_
  simp only [mem_insert]
  constructor
  · rintro (rfl | ⟨rfl | ⟨he, hk⟩, hk'⟩)
    · exact .inr ⟨.inl rfl, h.symm⟩
    · exact .inl rfl
    · exact .inr ⟨.inr ⟨he, hk'⟩, hk⟩
  · rintro (rfl | ⟨rfl | ⟨he, hk'⟩, hk⟩)
    · exact .inr ⟨.inl rfl, h⟩
    · exact .inl rfl
    · exact .inr ⟨.inr ⟨he, hk⟩, hk'⟩

theorem mem_erase : e ∈ (m.erase k).toList ↔ e ∈ m.toList ∧ e.1 ≠ k := by
  simp only [erase, List.mem_filter, decide_eq_true_eq]

theorem get?_eq_some_iff : m.get? k = some v ↔ (k, v) ∈ m.toList := by
  have hlookup : ∀ {l : List (String × α)}, Increasing l → (l.lookup k = some v ↔ (k, v) ∈ l) := by
    intro l hl
    induction l with
    | nil => simp
    | cons p l ih =>
      obtain ⟨k', v'⟩ := p
      obtain ⟨hp, hrest⟩ := List.pairwise_cons.mp hl
      rw [List.lookup_cons, List.mem_cons]
      by_cases hk : k = k'
      · subst hk
        have hnot : (k, v) ∉ l := fun hmem => String.lt_irrefl k (hp _ hmem)
        simp [hnot, eq_comm]
      · have hbeq : (k == k') = false := by simp [hk]
        simp [hbeq, hk, ih hrest]
  exact hlookup m.increasing

theorem get?_eq_none_iff : m.get? k = none ↔ ∀ v, (k, v) ∉ m.toList := by
  rw [Option.eq_none_iff_forall_ne_some]
  exact forall_congr' fun v => not_congr get?_eq_some_iff

theorem contains_iff : m.contains k = true ↔ k ∈ m.keys := by
  rw [contains, Option.isSome_iff_exists, keys, List.mem_map]
  constructor
  · rintro ⟨v, hv⟩
    exact ⟨(k, v), get?_eq_some_iff.mp hv, rfl⟩
  · rintro ⟨⟨k', v⟩, hmem, rfl⟩
    exact ⟨v, get?_eq_some_iff.mpr hmem⟩

theorem get?_insert (k' : String) :
    (m.insert k v).get? k' = if k' = k then some v else m.get? k' := by
  refine Option.ext fun w => ?_
  rw [get?_eq_some_iff, mem_insert]
  split
  · rename_i hk
    simp [hk, eq_comm]
  · rename_i hk
    simp [hk, get?_eq_some_iff]

theorem mem_keys_insert {k' : String} : k' ∈ (m.insert k v).keys ↔ k' = k ∨ k' ∈ m.keys := by
  rw [← contains_iff, ← contains_iff, contains, contains, get?_insert]
  split
  · rename_i hk
    simp [hk]
  · rename_i hk
    simp [hk]

theorem increasing_keys : m.keys.Pairwise (· < ·) := List.pairwise_map.mpr m.increasing

theorem length_insertEntry {entries : List (String × α)} (h : Increasing entries) :
    (insertEntry k v entries).length =
      if k ∈ entries.map (·.1) then entries.length else entries.length + 1 := by
  induction entries with
  | nil => rfl
  | cons p rest ih =>
    obtain ⟨k', v'⟩ := p
    obtain ⟨hp, hrest⟩ := List.pairwise_cons.mp h
    rw [insertEntry]
    split
    · rename_i hlt
      have hnot : k ∉ ((k', v') :: rest).map (·.1) := by
        intro hmem
        obtain ⟨e, he, heq⟩ := List.mem_map.mp hmem
        rcases List.mem_cons.mp he with rfl | he
        · exact String.lt_irrefl k (heq ▸ hlt)
        · exact String.lt_irrefl k (String.lt_trans hlt (heq ▸ hp e he))
      rw [if_neg hnot, List.length_cons]
    · split
      · rename_i heq
        simp [heq]
      · rename_i hne
        simp only [List.length_cons, ih hrest, List.map_cons, List.mem_cons, hne, false_or]
        split <;> rfl

theorem size_insert :
    (m.insert k v).size = if m.contains k = true then m.size else m.size + 1 := by
  rw [size, insert, length_insertEntry m.increasing, size]
  simp only [contains_iff, keys]

/-- A key after all the others is put at the end. -/
theorem insertEntry_of_forall_lt {entries : List (String × α)} (h : ∀ e ∈ entries, e.1 < k) :
    insertEntry k v entries = entries ++ [(k, v)] := by
  induction entries with
  | nil => rfl
  | cons p rest ih =>
    obtain ⟨k', v'⟩ := p
    have hlt : k' < k := h (k', v') (List.mem_cons_self ..)
    have hne : k ≠ k' := fun heq => String.lt_irrefl k (heq ▸ hlt)
    rw [insertEntry, if_neg (String.lt_asymm hlt), if_neg hne,
      ih fun e he => h e (List.mem_cons_of_mem _ he), List.cons_append]

theorem toList_foldl_insert {entries : List (String × α)} (h : Increasing (m.toList ++ entries)) :
    (entries.foldl (fun m e => m.insert e.1 e.2) m).toList = m.toList ++ entries := by
  induction entries generalizing m with
  | nil => rw [List.foldl_nil, List.append_nil]
  | cons e entries ih =>
    have hlast : ∀ e' ∈ m.toList, e'.1 < e.1 := fun e' he' =>
      (List.pairwise_append.mp h).2.2 e' he' e (List.mem_cons_self ..)
    have hinsert : (m.insert e.1 e.2).toList = m.toList ++ [e] := insertEntry_of_forall_lt hlast
    have hsplit : m.toList ++ e :: entries = (m.insert e.1 e.2).toList ++ entries := by
      rw [hinsert, List.append_assoc, List.singleton_append]
    rw [hsplit] at h
    rw [List.foldl_cons, ih h, ← hsplit]

/-- A map is made again of its entries. -/
theorem ofList_toList (m : SortedMap α) : ofList m.toList = m :=
  eq_of_toList_eq (toList_foldl_insert m.increasing)

end SortedMap

namespace SortedSet

variable {k : String} {s : SortedSet} {ks : List String}

theorem mem_keys_add {k' : String} : k' ∈ (s.add k).keys ↔ k' = k ∨ k' ∈ s.keys :=
  SortedMap.mem_keys_insert

theorem mem_keys_foldl_add : k ∈ (ks.foldl add s).keys ↔ k ∈ s.keys ∨ k ∈ ks := by
  induction ks generalizing s with
  | nil => simp
  | cons k' ks ih =>
    rw [List.foldl_cons, ih, mem_keys_add, List.mem_cons]
    constructor
    · rintro ((rfl | h) | h)
      · exact .inr (.inl rfl)
      · exact .inl h
      · exact .inr (.inr h)
    · rintro (h | rfl | h)
      · exact .inl (.inr h)
      · exact .inl (.inl rfl)
      · exact .inr h

theorem mem_keys_ofKeys : k ∈ (ofKeys ks).keys ↔ k ∈ ks := by
  rw [ofKeys, mem_keys_foldl_add]
  exact ⟨fun h => h.resolve_left (by simp [SortedMap.keys, SortedMap.empty]), .inr⟩

/-- Keys in order, none twice, are the keys of their set. -/
theorem keys_ofKeys (h : ks.Pairwise (· < ·)) : (ofKeys ks).keys = ks :=
  eq_of_ascending (f := id) SortedMap.increasing_keys h fun _ => mem_keys_ofKeys

/-- A set is made again of its keys. -/
theorem ofKeys_keys (s : SortedSet) : ofKeys s.keys = s := by
  have hkeys : (ofKeys s.keys).keys = s.keys := keys_ofKeys SortedMap.increasing_keys
  have hinjective : ∀ e e' : String × Unit, e.1 = e'.1 → e = e' := fun _ _ heq => Prod.ext heq rfl
  exact SortedMap.eq_of_toList_eq ((List.map_inj_right hinjective).mp hkeys)

end SortedSet

end SeriesQuery
