/-
Maps from texts, kept as a list of entries in increasing order of the keys.
The order is that of code points, which is also the order of the UTF-8 bytes.
Two maps with the same entries are equal.
-/
namespace SeriesQuery

/-- Keys strictly increase. -/
def Increasing {α : Type} (entries : List (String × α)) : Prop :=
  entries.Pairwise fun a b => a.1 < b.1

structure SortedMap (α : Type) where
  toList : List (String × α)
  increasing : Increasing toList

namespace SortedMap

variable {α : Type}

def empty : SortedMap α := ⟨[], List.Pairwise.nil⟩

theorem eq_of_toList_eq {m n : SortedMap α} (h : m.toList = n.toList) : m = n := by
  cases m; cases n; cases h; rfl

instance [DecidableEq α] : DecidableEq (SortedMap α) := fun m n =>
  if h : m.toList = n.toList then isTrue (eq_of_toList_eq h)
  else isFalse fun e => h (congrArg toList e)

/-- The entries with one added in its place, or put for the one with the same key. -/
def insertEntry (k : String) (v : α) : List (String × α) → List (String × α)
  | [] => [(k, v)]
  | (k', v') :: rest =>
    if k < k' then (k, v) :: (k', v') :: rest
    else if k = k' then (k, v) :: rest
    else (k', v') :: insertEntry k v rest

theorem mem_insertEntry {k : String} {v : α} {entries : List (String × α)} {e : String × α}
    (h : e ∈ insertEntry k v entries) : e = (k, v) ∨ e ∈ entries := by
  induction entries with
  | nil => simpa [insertEntry] using h
  | cons p rest ih =>
    obtain ⟨k', v'⟩ := p
    simp only [insertEntry] at h
    split at h
    · simpa using h
    · split at h
      · rcases List.mem_cons.1 h with h | h
        · exact .inl h
        · exact .inr (List.mem_cons_of_mem _ h)
      · rcases List.mem_cons.1 h with h | h
        · exact .inr (h ▸ List.mem_cons_self)
        · rcases ih h with h | h
          · exact .inl h
          · exact .inr (List.mem_cons_of_mem _ h)

theorem lt_of_not_lt_of_ne {a b : String} (h : ¬a < b) (hne : a ≠ b) : b < a :=
  Decidable.byContradiction fun h' =>
    hne (String.le_antisymm (String.not_lt.1 h') (String.not_lt.1 h))

theorem increasing_insertEntry {k : String} {v : α} {entries : List (String × α)}
    (h : Increasing entries) : Increasing (insertEntry k v entries) := by
  induction entries with
  | nil => exact List.pairwise_singleton _ _
  | cons p rest ih =>
    obtain ⟨k', v'⟩ := p
    obtain ⟨hp, hr⟩ := List.pairwise_cons.1 h
    simp only [insertEntry]
    split
    · rename_i hlt
      refine List.pairwise_cons.2 ⟨?_, h⟩
      intro e he
      rcases List.mem_cons.1 he with he | he
      · subst he; exact hlt
      · exact String.lt_trans hlt (hp e he)
    · rename_i hnlt
      split
      · rename_i heq
        subst heq
        exact List.pairwise_cons.2 ⟨hp, hr⟩
      · rename_i hne
        refine List.pairwise_cons.2 ⟨?_, ih hr⟩
        intro e he
        rcases mem_insertEntry he with he | he
        · subst he; exact lt_of_not_lt_of_ne hnlt hne
        · exact hp e he

def insert (m : SortedMap α) (k : String) (v : α) : SortedMap α :=
  ⟨insertEntry k v m.toList, increasing_insertEntry m.increasing⟩

def get? (m : SortedMap α) (k : String) : Option α := m.toList.lookup k

def contains (m : SortedMap α) (k : String) : Bool := (m.get? k).isSome

def erase (m : SortedMap α) (k : String) : SortedMap α :=
  ⟨m.toList.filter fun e => e.1 ≠ k, List.Pairwise.filter _ m.increasing⟩

def keys (m : SortedMap α) : List String := m.toList.map (·.1)

def size (m : SortedMap α) : Nat := m.toList.length

/-- The map of some entries; of two with one key the later counts. -/
def ofList (entries : List (String × α)) : SortedMap α :=
  entries.foldl (fun m e => m.insert e.1 e.2) empty

end SortedMap

/-- Sets of texts. -/
abbrev SortedSet := SortedMap Unit

namespace SortedSet

def add (s : SortedSet) (k : String) : SortedSet := s.insert k ()

def ofKeys (keys : List String) : SortedSet := keys.foldl add .empty

end SortedSet

end SeriesQuery
