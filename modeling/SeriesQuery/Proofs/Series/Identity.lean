/-
What is hashed for the identity of a series. Every text stands after its
length, so a sequence of texts is read back from its bytes one by one
(`flatMap_field_inj`), and a series from its texts (`texts_injective`). The
tags are kept in order of their names, so that the order in which they were
added leaves no trace (`withTags_perm`).
-/
import Mathlib.Algebra.Group.Nat.Defs
import Mathlib.Data.List.Nodup
import Mathlib.Data.List.Perm.Basic
import SeriesQuery.Proofs.SortedMap
import SeriesQuery.Series
import SeriesQuery.Word

namespace SeriesQuery

/-! ## Numbers as bytes -/

namespace Word

theorem bigEndian_succ (count n : Nat) :
    bigEndian (count + 1) n = UInt8.ofNat (n >>> (8 * count)) :: bigEndian count n := by
  simp [bigEndian, List.range_succ]

theorem length_bigEndian (count n : Nat) : (bigEndian count n).length = count := by
  simp [bigEndian]

/-- The bytes of a number determine it, as far as they go. -/
theorem mod_eq_of_bigEndian_eq {count m n : Nat} (h : bigEndian count m = bigEndian count n) :
    m % 256 ^ count = n % 256 ^ count := by
  induction count with
  | zero => rw [Nat.pow_zero, Nat.mod_one, Nat.mod_one]
  | succ count ih =>
    rw [bigEndian_succ, bigEndian_succ] at h
    obtain ⟨hhighest, hrest⟩ := List.cons.inj h
    have hpow : 2 ^ (8 * count) = 256 ^ count := Nat.pow_mul 2 8 count
    have hbyte : m / 256 ^ count % 256 = n / 256 ^ count % 256 := by
      rw [← hpow, ← Nat.shiftRight_eq_div_pow, ← Nat.shiftRight_eq_div_pow]
      exact congrArg UInt8.toNat hhighest
    rw [Nat.mod_pow_succ, Nat.mod_pow_succ, ih hrest, hbyte]

end Word

namespace Series

/-! ## Texts as bytes -/

theorem toByteArray_utf8 (s : String) : (utf8 s).toByteArray = s.toByteArray := by
  rw [← String.utf8Encode_toList, List.utf8Encode, utf8]

theorem length_utf8 (s : String) : (utf8 s).length = s.utf8ByteSize := by
  rw [String.utf8ByteSize, ← toByteArray_utf8, List.size_toByteArray]

theorem utf8_injective {s t : String} (h : utf8 s = utf8 t) : s = t := by
  rw [← String.toByteArray_inj, ← toByteArray_utf8, ← toByteArray_utf8, h]

/-- The length of the text fits in the bytes that are written for it. -/
def Addressable (text : String) : Prop := text.utf8ByteSize < Word.size

instance : DecidablePred Addressable := fun text =>
  inferInstanceAs (Decidable (text.utf8ByteSize < Word.size))

theorem eq_of_bigEndian_eq {s t : String} (hs : Addressable s) (ht : Addressable t)
    (h : Word.bigEndian 8 (utf8 s).length = Word.bigEndian 8 (utf8 t).length) :
    (utf8 s).length = (utf8 t).length := by
  have hmod := Word.mod_eq_of_bigEndian_eq h
  rw [length_utf8, length_utf8] at hmod ⊢
  have hsize : (256 : Nat) ^ 8 = Word.size := rfl
  rwa [hsize, Nat.mod_eq_of_lt hs, Nat.mod_eq_of_lt ht] at hmod

/-- A text is read back from the bytes that start with its field. -/
theorem field_append_inj {s t : String} {xs ys : List UInt8} (hs : Addressable s)
    (ht : Addressable t) (h : field s ++ xs = field t ++ ys) : s = t ∧ xs = ys := by
  rw [field, field, List.append_assoc, List.append_assoc] at h
  obtain ⟨hlength, h⟩ := List.append_inj h (by simp only [Word.length_bigEndian])
  obtain ⟨hutf8, hrest⟩ := List.append_inj h (eq_of_bigEndian_eq hs ht hlength)
  exact ⟨utf8_injective hutf8, hrest⟩

theorem field_ne_nil (s : String) : field s ≠ [] := by
  intro h
  have hlength := congrArg List.length h
  rw [field, List.length_append, Word.length_bigEndian, List.length_nil] at hlength
  omega

/-- The bytes of some texts determine them and their number. -/
theorem flatMap_field_inj {ss ts : List String} (hs : ∀ s ∈ ss, Addressable s)
    (ht : ∀ t ∈ ts, Addressable t) (h : ss.flatMap field = ts.flatMap field) : ss = ts := by
  induction ss generalizing ts with
  | nil =>
    cases ts with
    | nil => rfl
    | cons t ts => exact absurd (List.append_eq_nil_iff.mp h.symm).1 (field_ne_nil t)
  | cons s ss ih =>
    cases ts with
    | nil => exact absurd (List.append_eq_nil_iff.mp h).1 (field_ne_nil s)
    | cons t ts =>
      obtain ⟨hs, hss⟩ := List.forall_mem_cons.mp hs
      obtain ⟨ht, hts⟩ := List.forall_mem_cons.mp ht
      obtain ⟨rfl, hrest⟩ := field_append_inj hs ht h
      rw [ih hss hts hrest]

/-! ## Series as texts -/

/-- The texts of a series: its key, and the names of its tags each with its value. -/
def texts (s : Series) : List String := s.key :: s.tags.toList.flatMap fun tag => [tag.1, tag.2]

theorem bytes_eq (s : Series) : s.bytes = s.texts.flatMap field := by
  simp [bytes, texts, List.flatMap_assoc]

theorem flatMap_pair_inj {l l' : List (String × String)}
    (h : (l.flatMap fun tag => [tag.1, tag.2]) = l'.flatMap fun tag => [tag.1, tag.2]) :
    l = l' := by
  induction l generalizing l' with
  | nil =>
    cases l' with
    | nil => rfl
    | cons => cases h
  | cons tag l ih =>
    cases l' with
    | nil => cases h
    | cons tag' l' =>
      obtain ⟨hname, h⟩ := List.cons.inj h
      obtain ⟨hvalue, h⟩ := List.cons.inj h
      rw [Prod.ext hname hvalue, ih h]

theorem texts_injective {a b : Series} (h : a.texts = b.texts) : a = b := by
  obtain ⟨key, tags⟩ := a
  obtain ⟨key', tags'⟩ := b
  obtain ⟨hkey, htags⟩ := List.cons.inj h
  obtain rfl : key = key' := hkey
  exact congrArg (Series.mk key) (SortedMap.eq_of_toList_eq (flatMap_pair_inj htags))

/-! ## Tags in any order -/

/-- The series with several tags added, one after the other. -/
def withTags (s : Series) (tags : List (String × String)) : Series :=
  tags.foldl (fun s tag => s.withTag tag.1 tag.2) s

theorem withTag_comm (s : Series) {name name' : String} (h : name ≠ name') (value value' : String) :
    (s.withTag name value).withTag name' value' = (s.withTag name' value').withTag name value :=
  congrArg (Series.mk s.key) (SortedMap.insert_comm h)

/-- Tags of distinct names may be added in any order. -/
theorem withTags_perm (s : Series) {tags tags' : List (String × String)} (h : tags.Perm tags')
    (hnames : (tags.map Prod.fst).Nodup) : s.withTags tags = s.withTags tags' := by
  refine h.foldl_eq' (fun tag htag tag' htag' s => ?_) s
  by_cases hname : tag.1 = tag'.1
  · rw [List.inj_on_of_nodup_map hnames htag htag' hname]
  · exact withTag_comm s hname tag.2 tag'.2

/-- The bytes that are hashed identify a series, and do not depend on the order in which its tags
were added. -/
theorem bytes_identify :
    (∀ a b : Series, (∀ s ∈ a.texts, Addressable s) → (∀ s ∈ b.texts, Addressable s) →
      a.bytes = b.bytes → a = b) ∧
    ∀ (key : String) (tags tags' : List (String × String)), tags.Perm tags' →
      (tags.map Prod.fst).Nodup →
      ((ofKey key).withTags tags).bytes = ((ofKey key).withTags tags').bytes := by
  constructor
  · intro a b ha hb h
    rw [bytes_eq, bytes_eq] at h
    exact texts_injective (flatMap_field_inj ha hb h)
  · intro key tags tags' h hnames
    rw [withTags_perm _ h hnames]

/-- Tags added in either order make one series, and a text moved over to the next field another. -/
theorem bytes_identify_shifted :
    let a := (ofKey "cpu").withTags [("host", "a"), ("dc", "é")]
    let b := (ofKey "cpu").withTags [("dc", "é"), ("host", "a")]
    let c := (ofKey "cpud").withTags [("c", "é"), ("host", "a")]
    (∀ s ∈ a.texts, Addressable s) ∧ (∀ s ∈ b.texts, Addressable s) ∧
      (∀ s ∈ c.texts, Addressable s) ∧ a.bytes = b.bytes ∧ a = b ∧ a.bytes ≠ c.bytes := by
  intro a b c
  have ha : a.texts = ["cpu", "dc", "é", "host", "a"] := by decide
  have hb : b.texts = ["cpu", "dc", "é", "host", "a"] := by decide
  have hc : c.texts = ["cpud", "c", "é", "host", "a"] := by decide
  have haShort : ∀ s ∈ a.texts, Addressable s := by rw [ha]; decide
  have hbShort : ∀ s ∈ b.texts, Addressable s := by rw [hb]; decide
  have hcShort : ∀ s ∈ c.texts, Addressable s := by rw [hc]; decide
  obtain ⟨hinjective, hperm⟩ := bytes_identify
  have hbytes : a.bytes = b.bytes := hperm "cpu" _ _ (List.Perm.swap ..) (by decide)
  refine ⟨haShort, hbShort, hcShort, hbytes, hinjective a b haShort hbShort hbytes, fun h => ?_⟩
  have htexts := congrArg texts (hinjective a c haShort hcShort h)
  rw [ha, hc] at htexts
  revert htexts
  decide

end Series

end SeriesQuery
