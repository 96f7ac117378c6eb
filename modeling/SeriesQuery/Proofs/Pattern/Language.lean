/-
What is relied on of a pattern engine: the language of its patterns, as far
as groups, comments and the anchors are concerned, and that the engine
implements it (`PatternEngine.Implements`). From this it follows which texts
compile between the anchors (`compiles_anchored_iff`), and that the program
then finds the values that the pattern matches from end to end
(`found_anchored_iff`).
-/
import SeriesQuery.Pattern

namespace SeriesQuery

/-- A language of patterns. -/
structure PatternLanguage where
  /-- What a text is read as. -/
  Tree : Type
  /-- What a text is read as up to its end, or up to a closing parenthesis that closes no group of
  it, with what is left from there. -/
  readUpTo? : List Char → Option (Tree × List Char)
  /-- The text ends in a comment of verbose mode, whose line is not at its end. -/
  OpenComment : List Char → Prop
  /-- The limits are kept, on how deep patterns are nested and on how large they are compiled. -/
  Fits : Tree → Prop
  /-- A pattern matches what stands between two other parts of a text. -/
  Matches : Tree → List Char → List Char → List Char → Prop
  start : Tree
  stop : Tree
  group : Tree → Tree
  concat : List Tree → Tree

namespace PatternLanguage

variable (L : PatternLanguage)

/-- The text is read up to its end. -/
def Reads (cs : List Char) (tree : L.Tree) : Prop := L.readUpTo? cs = some (tree, [])

/-- The tree in a group between the anchors. -/
def anchored (tree : L.Tree) : L.Tree := L.concat [L.start, L.group tree, L.stop]

/-- The text closes a group that is not its own. -/
def ClosesEarly (cs : List Char) : Prop :=
  ∃ inner rest tree, cs = inner ++ ')' :: rest ∧ L.Reads inner tree ∧ ¬L.OpenComment inner

end PatternLanguage

/-- The engine compiles the patterns of the language and finds what they match. -/
structure PatternEngine.Implements [PatternEngine] (L : PatternLanguage) : Prop where
  /-- The texts that compile are the patterns that keep the limits. -/
  compiles_iff : ∀ text, (∃ program, PatternEngine.compile text = .ok program) ↔
    ∃ tree, L.Reads text.toList tree ∧ L.Fits tree
  /-- Whatever part of a text a pattern matches is found. -/
  found_iff : ∀ {text program tree}, PatternEngine.compile text = .ok program →
    L.Reads text.toList tree → ∀ value, PatternEngine.found program value = true ↔
      ∃ before inside after, value.toList = before ++ inside ++ after ∧
        L.Matches tree before inside after
  /-- A parenthesis after a pattern closes a group around it. -/
  closes : ∀ {cs tree}, L.Reads cs tree → ¬L.OpenComment cs →
    ∀ rest, L.readUpTo? (cs ++ ')' :: rest) = some (tree, ')' :: rest)
  /-- But a comment takes it, with all that stands on the same line. -/
  comment : ∀ {cs tree}, L.Reads cs tree → L.OpenComment cs →
    ∀ rest, '\n' ∉ rest → L.readUpTo? (cs ++ ')' :: rest) = some (tree, [])
  /-- What a parenthesis closes is a pattern. -/
  closed : ∀ {cs tree rest}, L.readUpTo? cs = some (tree, ')' :: rest) →
    ∃ inner, cs = inner ++ ')' :: rest ∧ L.Reads inner tree ∧ ¬L.OpenComment inner
  /-- A group between the anchors. -/
  anchors : ∀ {cs tree}, L.readUpTo? cs = some (tree, [')', '$']) →
    L.Reads ('^' :: '(' :: '?' :: ':' :: cs) (L.anchored tree)
  /-- A group that is opened must be closed. -/
  unclosed : ∀ {cs whole}, L.Reads ('^' :: '(' :: '?' :: ':' :: cs) whole →
    ∃ tree rest, L.readUpTo? cs = some (tree, ')' :: rest)
  matches_start : ∀ {before inside after},
    L.Matches L.start before inside after ↔ before = [] ∧ inside = []
  matches_stop : ∀ {before inside after},
    L.Matches L.stop before inside after ↔ inside = [] ∧ after = []
  matches_group : ∀ {tree before inside after},
    L.Matches (L.group tree) before inside after ↔ L.Matches tree before inside after
  matches_nil : ∀ {before inside after}, L.Matches (L.concat []) before inside after ↔ inside = []
  matches_cons : ∀ {tree trees before inside after},
    L.Matches (L.concat (tree :: trees)) before inside after ↔ ∃ first second,
      inside = first ++ second ∧ L.Matches tree before first (second ++ after) ∧
        L.Matches (L.concat trees) (before ++ first) second after

theorem toList_anchored (pattern : String) :
    (anchored pattern).toList = '^' :: '(' :: '?' :: ':' :: (pattern.toList ++ [')', '$']) := by
  simp [anchored]

namespace PatternEngine.Implements

variable [PatternEngine] {L : PatternLanguage} {pattern : String} {tree : L.Tree}

theorem accepts_iff (h : Implements L) (hread : L.Reads pattern.toList tree) :
    accepts pattern = true ↔ L.Fits tree := by
  rw [PatternEngine.accepts_iff, h.compiles_iff]
  constructor
  · rintro ⟨tree', hread', hfits⟩
    obtain rfl : tree' = tree := (Prod.mk.inj (Option.some.inj (hread'.symm.trans hread))).1
    exact hfits
  · exact fun hfits => ⟨tree, hread, hfits⟩

theorem reads_anchored_iff (h : Implements L) (hread : L.Reads pattern.toList tree)
    {whole : L.Tree} : L.Reads (anchored pattern).toList whole ↔
      ¬L.OpenComment pattern.toList ∧ whole = L.anchored tree := by
  rw [toList_anchored]
  constructor
  · intro hwhole
    have hopen : ¬L.OpenComment pattern.toList := by
      intro hcomment
      obtain ⟨tree', rest, hgroup⟩ := h.unclosed hwhole
      rw [h.comment hread hcomment ['$'] (by decide)] at hgroup
      cases hgroup
    have hanchored := h.anchors (h.closes hread hopen ['$'])
    exact ⟨hopen, (Prod.mk.inj (Option.some.inj (hwhole.symm.trans hanchored))).1⟩
  · rintro ⟨hopen, rfl⟩
    exact h.anchors (h.closes hread hopen ['$'])

/-- A pattern compiles between the anchors just when no comment takes the closing one, and the limits
leave room for the anchors. -/
theorem compiles_anchored_iff (h : Implements L) (hread : L.Reads pattern.toList tree) :
    (∃ program, compile (anchored pattern) = .ok program) ↔
      ¬L.OpenComment pattern.toList ∧ L.Fits (L.anchored tree) := by
  rw [h.compiles_iff]
  simp only [h.reads_anchored_iff hread]
  constructor
  · rintro ⟨_, ⟨hopen, rfl⟩, hfits⟩
    exact ⟨hopen, hfits⟩
  · rintro ⟨hopen, hfits⟩
    exact ⟨_, ⟨hopen, rfl⟩, hfits⟩

/-- What compiles between the anchors is a pattern, or closes the group that it is put in. -/
theorem reads_or_closesEarly (h : Implements L) {program : Program}
    (hprogram : compile (anchored pattern) = .ok program) :
    (∃ tree, L.Reads pattern.toList tree) ∨ L.ClosesEarly pattern.toList := by
  obtain ⟨whole, hwhole, -⟩ := (h.compiles_iff _).mp ⟨program, hprogram⟩
  rw [toList_anchored] at hwhole
  obtain ⟨tree, rest, hgroup⟩ := h.unclosed hwhole
  obtain ⟨inner, hinner, hread, hopen⟩ := h.closed hgroup
  rcases List.append_eq_append_iff.mp hinner with ⟨b, hinner, hrest⟩ | ⟨b, hpattern, hrest⟩
  · -- No parenthesis stands after the closing one.
    rcases b with _ | ⟨c, _ | ⟨d, b⟩⟩
    · rw [List.append_nil] at hinner
      exact .inl ⟨tree, hinner ▸ hread⟩
    · cases hrest
    · simp at hrest
  · cases b with
    | nil =>
      rw [List.append_nil] at hpattern
      exact .inl ⟨tree, hpattern ▸ hread⟩
    | cons c b =>
      obtain rfl : ')' = c := (List.cons.inj hrest).1
      exact .inr ⟨inner, b, tree, hpattern, hread, hopen⟩

theorem matches_anchored_iff (h : Implements L) {before inside after : List Char} :
    L.Matches (L.anchored tree) before inside after ↔
      before = [] ∧ after = [] ∧ L.Matches tree [] inside [] := by
  simp only [PatternLanguage.anchored, h.matches_cons, h.matches_start, h.matches_group,
    h.matches_stop, h.matches_nil]
  constructor
  · rintro ⟨_, _, rfl, ⟨rfl, rfl⟩, first, _, rfl, hmatches, _, _, rfl, ⟨rfl, hafter⟩, rfl⟩
    obtain rfl : after = [] := by simpa using hafter
    exact ⟨rfl, rfl, by simpa using hmatches⟩
  · rintro ⟨rfl, rfl, hmatches⟩
    exact ⟨[], inside, rfl, ⟨rfl, rfl⟩, inside, [], by simp, by simpa using hmatches, [], [], rfl,
      ⟨rfl, rfl⟩, rfl⟩

/-- Between the anchors a pattern is found where it matches from end to end. -/
theorem found_anchored_iff (h : Implements L) {program : Program}
    (hprogram : compile (anchored pattern) = .ok program) (hread : L.Reads pattern.toList tree)
    (value : String) : found program value = true ↔ L.Matches tree [] value.toList [] := by
  have hopen := ((h.compiles_anchored_iff hread).mp ⟨program, hprogram⟩).1
  rw [h.found_iff hprogram ((h.reads_anchored_iff hread).mpr ⟨hopen, rfl⟩) value]
  simp only [h.matches_anchored_iff]
  constructor
  · rintro ⟨_, inside, _, hvalue, rfl, rfl, hmatches⟩
    rw [List.nil_append, List.append_nil] at hvalue
    exact hvalue ▸ hmatches
  · exact fun hmatches => ⟨[], value.toList, [], by simp, rfl, rfl, hmatches⟩

end PatternEngine.Implements

end SeriesQuery
