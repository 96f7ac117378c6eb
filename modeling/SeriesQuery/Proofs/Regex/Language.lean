/-
The language of the patterns that are read here, and that the engine which
walks their trees implements it (`implements`). What is read in a group is
what is read by itself, unless a comment takes what would close the group.
-/
import SeriesQuery.Proofs.Pattern.Language
import SeriesQuery.Proofs.Regex.Spans
import SeriesQuery.Proofs.Regex.Whole
import SeriesQuery.Regex.Engine

namespace SeriesQuery.Regex

variable {cs t t' : List Char} {x : Told}

/-! ## Reading a text from its start -/

/-- What is read from the start of a text, and what is left of it. -/
def upTo? (cs : List Char) : Option (Told × List Char) :=
  readAt? (cs.length + 1) .initial [] [] [] cs

theorem readAt?_mono {fuel fuel' : Nat} (hfuel : cs.length < fuel') {r : List Char}
    (h : readAt? fuel .initial [] [] [] cs = some (x, r)) :
    readAt? fuel' .initial [] [] [] cs = some (x, r) := by
  have hends : Ends [] [] := ⟨nofun, nofun, fun _ => List.not_mem_nil⟩
  rw [← List.append_nil cs] at h hfuel
  rw [← List.append_nil r] at h
  rcases same_readAt hends hfuel .initial [] [] [] x r h with hsame | ⟨rfl, -, hsame⟩
  · rwa [List.append_nil, List.append_nil] at hsame
  · rwa [List.append_nil] at hsame

/-- There is always enough fuel. -/
theorem readAt?_initial {fuel : Nat} (hfuel : cs.length < fuel) :
    readAt? fuel .initial [] [] [] cs = upTo? cs :=
  Option.ext fun _ => ⟨readAt?_mono (Nat.lt_succ_self _), readAt?_mono hfuel⟩

/-- What is read before the one ending is read before the other too. -/
theorem same_upTo (h : Ends t t') (cs : List Char) (hread : upTo? (cs ++ t) = some (x, t)) :
    upTo? (cs ++ t') = some (x, t') ∨ t = [] ∧ upTo? (cs ++ t') = some (x, []) := by
  rcases same_readAt h (Nat.lt_succ_self _) .initial [] [] [] x [] hread with hsame | ⟨-, hnil, hsame⟩
  · exact .inl hsame
  · exact .inr ⟨hnil, hsame⟩

theorem closes_cons (rest : List Char) : ∀ c rest', ')' :: rest = c :: rest' → c = ')' :=
  fun _ _ heq => (List.cons.inj heq).1.symm

theorem same_upTo_of_close {rest : List Char} (ht' : ∀ c rest, t' = c :: rest → c = ')')
    (hread : upTo? (cs ++ ')' :: rest) = some (x, ')' :: rest)) : upTo? (cs ++ t') = some (x, t') := by
  have hends : Ends (')' :: rest) t' := ⟨closes_cons rest, ht', nofun⟩
  rcases same_upTo hends cs hread with hsame | ⟨hnil, -⟩
  · exact hsame
  · cases hnil

/-- A comment at the end of the text takes a parenthesis after it. -/
def OpenComment (cs : List Char) : Prop := ∃ x, upTo? (cs ++ [')']) = some (x, [])

theorem not_openComment_of_close {rest : List Char}
    (hread : upTo? (cs ++ ')' :: rest) = some (x, ')' :: rest)) : ¬OpenComment cs := by
  rintro ⟨y, htaken⟩
  have hclose := same_upTo_of_close (closes_cons []) hread
  rw [htaken] at hclose
  cases hclose

/-- A whole text before a parenthesis: the parenthesis is left, or a comment takes it. -/
theorem same_upTo_of_whole {rest : List Char} (hline : '\n' ∉ rest) (hread : upTo? cs = some (x, [])) :
    upTo? (cs ++ ')' :: rest) = some (x, ')' :: rest) ∨ upTo? (cs ++ ')' :: rest) = some (x, []) := by
  have hends : Ends [] (')' :: rest) := ⟨nofun, closes_cons rest, fun _ => by simpa using hline⟩
  rcases same_upTo hends cs (by rwa [List.append_nil]) with hsame | ⟨-, hsame⟩
  · exact .inl hsame
  · exact .inr hsame

theorem upTo?_close (hread : upTo? cs = some (x, [])) (hopen : ¬OpenComment cs)
    (rest : List Char) : upTo? (cs ++ ')' :: rest) = some (x, ')' :: rest) := by
  have hline : '\n' ∉ ([] : List Char) := List.not_mem_nil
  rcases same_upTo_of_whole hline hread with hleft | htaken
  · exact same_upTo_of_close (closes_cons rest) hleft
  · exact absurd ⟨x, htaken⟩ hopen

theorem upTo?_comment (hread : upTo? cs = some (x, [])) (hopen : OpenComment cs) {rest : List Char}
    (hline : '\n' ∉ rest) : upTo? (cs ++ ')' :: rest) = some (x, []) :=
  (same_upTo_of_whole hline hread).resolve_left fun hleft => not_openComment_of_close hleft hopen

/-- What is read up to a parenthesis is a whole text by itself. -/
theorem exists_of_upTo?_close {rest : List Char} (hread : upTo? cs = some (x, ')' :: rest)) :
    ∃ inner, cs = inner ++ ')' :: rest ∧ upTo? inner = some (x, []) ∧ ¬OpenComment inner := by
  obtain ⟨inner, rfl⟩ := leaves_readAt _ _ _ _ _ _ _ _ hread
  have hinner : upTo? (inner ++ []) = some (x, []) := same_upTo_of_close nofun hread
  rw [List.append_nil] at hinner
  exact ⟨inner, rfl, hinner, not_openComment_of_close hread⟩

/-! ## A group between the anchors -/

theorem skip_initial (cs : List Char) : Flags.initial.skip cs = cs := rfl

theorem opening?_flagless (cs : List Char) : opening? ('?' :: ':' :: cs) = some (.body [] none, cs) :=
  rfl

theorem readFrom?_group {readRest : ReadRest} {flags : Flags} {names : List String}
    {branches : List Part} {elements : List Element} (rest : List Char) :
    readFrom? readRest flags names branches elements ('(' :: rest) =
      (opening? (flags.skip rest)).bind fun p =>
        afterOpening? readRest flags names branches elements p.1 p.2 := rfl

/-- The element before the group. -/
def anchor : Element := some ⟨.look .textStart, 0⟩

theorem readAt?_anchored (fuel : Nat) (cs : List Char) :
    readAt? (fuel + 2) .initial [] [] [] ('^' :: '(' :: '?' :: ':' :: cs) =
      (readAt? fuel .initial [] [] [] cs).bind fun p =>
        afterBody? (readAt? fuel) .initial [] [anchor] p.1 p.2 := by
  rw [readAt?_succ, skip_initial, readFrom?_of_not_mem_signs (by decide), item?_of_ne (by decide)]
  show readAt? (fuel + 1) .initial [] [] [anchor] ('(' :: '?' :: ':' :: cs) = _
  rw [readAt?_succ, skip_initial, readFrom?_group, skip_initial, opening?_flagless]
  rfl

theorem upTo?_anchored (cs : List Char) :
    upTo? ('^' :: '(' :: '?' :: ':' :: cs) =
      (upTo? cs).bind fun p => afterBody? (readAt? (cs.length + 3)) .initial [] [anchor] p.1 p.2 := by
  have hfuel : cs.length < cs.length + 3 := by omega
  rw [← readAt?_initial hfuel, ← readAt?_anchored]
  rfl

/-! ## The language -/

/-- The sequence of the parts. -/
def concat (parts : List Part) : Part := sequence (parts.reverse.map some)

def language : PatternLanguage where
  Tree := Part
  readUpTo? cs := (upTo? cs).map fun p => (p.1.1, p.2)
  OpenComment := OpenComment
  Fits part := part.depth ≤ maxDepth
  Matches part := part.node.Matches
  start := ⟨.look .textStart, 0⟩
  stop := ⟨.look .textEnd, 0⟩
  group part := ⟨part.node, part.depth + 1⟩
  concat := concat

/-- After the group nothing is left but the end of the text. -/
theorem readAt?_dollar (fuel : Nat) (names : List String) (part : Part) :
    readAt? (fuel + 2) .initial names [] [some ⟨part.node, part.depth + 1⟩, anchor] ['$'] =
      some ((language.anchored part, .initial, names), []) := by
  rw [readAt?_succ, skip_initial, readFrom?_of_not_mem_signs (by decide), item?_of_ne (by decide)]
  show readAt? (fuel + 1) .initial names []
    [some ⟨.look .textEnd, 0⟩, some ⟨part.node, part.depth + 1⟩, anchor] [] = _
  rw [readAt?_nil]
  rfl

theorem upTo?_anchors (hread : upTo? cs = some (x, [')', '$'])) :
    upTo? ('^' :: '(' :: '?' :: ':' :: cs) = some ((language.anchored x.1, .initial, x.2.2), []) := by
  rw [upTo?_anchored, hread, Option.bind_some]
  exact readAt?_dollar _ _ x.1

theorem exists_of_upTo?_anchored {p : Told × List Char}
    (h : upTo? ('^' :: '(' :: '?' :: ':' :: cs) = some p) :
    ∃ x rest, upTo? cs = some (x, ')' :: rest) := by
  rw [upTo?_anchored] at h
  obtain ⟨⟨x, r⟩, hread, hbody⟩ := Option.bind_eq_some_iff.mp h
  unfold afterBody? at hbody
  split at hbody
  · rename_i rest hr
    exact ⟨x, rest, hread.trans (by rw [← hr])⟩
  · cases hbody

/-! ## Whole patterns -/

theorem readUpTo?_eq_some_iff {part : Part} {rest : List Char} :
    language.readUpTo? cs = some (part, rest) ↔ ∃ y, upTo? cs = some ((part, y), rest) := by
  show (upTo? cs).map (fun p => (p.1.1, p.2)) = some (part, rest) ↔ _
  rw [Option.map_eq_some_iff]
  constructor
  · rintro ⟨⟨⟨part, y⟩, rest⟩, h, heq⟩
    cases heq
    exact ⟨y, h⟩
  · rintro ⟨y, h⟩
    exact ⟨_, h, rfl⟩

theorem reads_iff {part : Part} :
    language.Reads cs part ↔ ∃ y, upTo? cs = some ((part, y), []) :=
  readUpTo?_eq_some_iff

theorem parse_eq_some_iff {text : String} {node : Node} : parse text = some node ↔
    ∃ part, language.Reads text.toList part ∧ language.Fits part ∧ part.node = node := by
  have hparse : parse text = (upTo? text.toList).bind fun p =>
      if p.2.isEmpty && p.1.1.depth ≤ maxDepth then some p.1.1.node else none := by
    rw [parse, upTo?, readAt?, Option.bind_map]
    rfl
  rw [hparse, Option.bind_eq_some_iff]
  constructor
  · rintro ⟨⟨⟨part, y⟩, rest⟩, hread, h⟩
    split at h
    · rename_i hkept
      rw [Bool.and_eq_true, List.isEmpty_iff, decide_eq_true_iff] at hkept
      obtain rfl : rest = [] := hkept.1
      exact ⟨part, reads_iff.mpr ⟨y, hread⟩, hkept.2, Option.some.inj h⟩
    · cases h
  · rintro ⟨part, hread, hdepth, rfl⟩
    obtain ⟨y, hread⟩ := reads_iff.mp hread
    have hkept : part.depth ≤ maxDepth := hdepth
    exact ⟨_, hread, if_pos (by simpa using hkept)⟩

theorem compile_eq_ok_iff {text : String} {node : Node} :
    engine.compile text = .ok node ↔ parse text = some node := by
  show (parse text).elim (.error notAPattern) Except.ok = .ok node ↔ _
  cases parse text with
  | none => exact iff_of_false nofun nofun
  | some node => simp

/-! ## Sequences -/

/-- The parts one after the other, and nothing after the last. -/
def chain (parts : List Part) : Node :=
  parts.foldr (fun part node => .seq part.node node) .empty

theorem node_sequence {elements : List Element} (h : 2 ≤ elements.length) :
    (sequence elements).node =
      (elements.filterMap id).foldl (fun node part => .seq part.node node) .empty := by
  match elements, h with
  | some _ :: _ :: _, _ => rfl
  | none :: _ :: _, _ => rfl

theorem node_concat {parts : List Part} (h : 2 ≤ parts.length) : (concat parts).node = chain parts := by
  have hlength : 2 ≤ (parts.reverse.map some).length := by simpa using h
  rw [concat, node_sequence hlength, List.filterMap_map, List.foldl_filterMap]
  simp [chain]

theorem spans_concat_iff {text : Array Char} {i j : Nat} (parts : List Part) :
    (concat parts).node.Spans text i j ↔ (chain parts).Spans text i j := by
  rcases parts with _ | ⟨part, _ | ⟨second, parts⟩⟩
  · rfl
  · simp [chain, concat, sequence, Node.Spans]
  · rw [node_concat (by simp)]

theorem matches_concat_cons_iff {part : Part} {parts : List Part} {before inside after : List Char} :
    (concat (part :: parts)).node.Matches before inside after ↔
      (Node.seq part.node (concat parts).node).Matches before inside after := by
  simp only [Node.Matches, Node.Spans, spans_concat_iff]
  rfl

/-- The engine implements the language of the patterns it reads. -/
theorem implements : PatternEngine.Implements language where
  compiles_iff text := by
    show (∃ node : Node, engine.compile text = .ok node) ↔ _
    simp only [compile_eq_ok_iff, parse_eq_some_iff]
    exact ⟨fun ⟨_, part, hread, hfits, _⟩ => ⟨part, hread, hfits⟩,
      fun ⟨part, hread, hfits⟩ => ⟨_, part, hread, hfits, rfl⟩⟩
  found_iff := by
    intro text node part hcompile hread value
    obtain ⟨part', hread', -, rfl⟩ := parse_eq_some_iff.mp (compile_eq_ok_iff.mp hcompile)
    obtain rfl : part' = part := (Prod.mk.inj (Option.some.inj (hread'.symm.trans hread))).1
    exact part'.node.found_iff value
  closes := by
    intro cs part hread hopen rest
    obtain ⟨y, hread⟩ := reads_iff.mp hread
    exact readUpTo?_eq_some_iff.mpr ⟨y, upTo?_close hread hopen rest⟩
  comment := by
    intro cs part hread hopen rest hline
    obtain ⟨y, hread⟩ := reads_iff.mp hread
    exact readUpTo?_eq_some_iff.mpr ⟨y, upTo?_comment hread hopen hline⟩
  closed := by
    intro cs part rest hread
    obtain ⟨y, hread⟩ := readUpTo?_eq_some_iff.mp hread
    obtain ⟨inner, hcs, hinner, hopen⟩ := exists_of_upTo?_close hread
    exact ⟨inner, hcs, reads_iff.mpr ⟨y, hinner⟩, hopen⟩
  anchors := by
    intro cs part hread
    obtain ⟨y, hread⟩ := readUpTo?_eq_some_iff.mp hread
    exact reads_iff.mpr ⟨_, upTo?_anchors hread⟩
  unclosed := by
    intro cs whole hwhole
    obtain ⟨y, hwhole⟩ := reads_iff.mp hwhole
    obtain ⟨x, rest, hread⟩ := exists_of_upTo?_anchored hwhole
    exact ⟨x.1, rest, readUpTo?_eq_some_iff.mpr ⟨x.2, hread⟩⟩
  matches_start := Node.matches_textStart_iff
  matches_stop := Node.matches_textEnd_iff
  matches_group := .rfl
  matches_nil := by
    intro before inside after
    exact Node.matches_empty_iff before inside after
  matches_cons := matches_concat_cons_iff.trans (Node.matches_seq_iff _ _)

end SeriesQuery.Regex
