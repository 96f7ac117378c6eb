/-
Lines of a text. Whole lines in front of a text are cut on their own, and
there are as many of them as they have line feeds (`lines_append`,
`length_lines`). The first line of a text, its ending and what follows are
told by the text (`FirstLine.unique`), and text without a line feed reaches at
most into the ending (`FirstLine.split`).
-/
import Mathlib.Data.List.DropRight
import SeriesQuery.Proofs.Text.Span

namespace SeriesQuery

/-- The first line of a text, nothing if the text is empty. -/
def firstLine (cs : List Char) : List Char := (lines cs).head?.getD []

/-! ## Whole lines -/

/-- A text of whole lines. -/
def WholeLines (cs : List Char) : Prop := cs = [] ∨ cs.getLast? = some '\n'

theorem WholeLines.of_cons {c : Char} {cs : List Char} (h : WholeLines (c :: cs)) :
    WholeLines cs := by
  cases cs with
  | nil => exact .inl rfl
  | cons d cs => exact .inr (by simpa [WholeLines, List.getLast?_cons_cons] using h)

/-- A character that is not in an ending starts the first line. -/
theorem lines_cons {c : Char} {cs : List Char} (hfeed : c ≠ '\n')
    (hreturn : ∀ rest, c = '\r' → cs ≠ '\n' :: rest) :
    lines (c :: cs) = (c :: firstLine cs) :: (lines cs).tail := by
  rw [lines, firstLine]
  · cases lines cs <;> rfl
  · exact hfeed
  · exact hreturn

theorem lines_eq_nil_iff {cs : List Char} : lines cs = [] ↔ cs = [] := by
  fun_induction lines cs <;> simp

theorem lines_append {head : List Char} (h : WholeLines head) (rest : List Char) :
    lines (head ++ rest) = lines head ++ lines rest := by
  fun_induction lines head with
  | case1 => rfl
  | case2 cs ih => rw [List.cons_append, lines, ih h.of_cons, List.cons_append]
  | case3 cs ih =>
    rw [List.cons_append, List.cons_append, lines, ih h.of_cons.of_cons, List.cons_append]
  | case4 c cs hfeed hreturn hnil ih =>
    obtain rfl := lines_eq_nil_iff.mp hnil
    exact absurd (by simpa [WholeLines] using h) hfeed
  | case5 c cs hfeed hreturn l ls hcons ih =>
    have hreturn' : ∀ more, c = '\r' → cs ++ rest ≠ '\n' :: more := by
      intro more hc hmore
      cases cs with
      | nil => cases hcons
      | cons d ds => exact hreturn ds hc (congrArg (· :: ds) (List.cons.inj hmore).1)
    rw [List.cons_append, lines_cons hfeed hreturn', firstLine, ih h.of_cons, hcons]
    rfl

theorem length_lines {head : List Char} (h : WholeLines head) :
    (lines head).length = head.count '\n' := by
  fun_induction lines head with
  | case1 => rfl
  | case2 cs ih => simp [ih h.of_cons]
  | case3 cs ih => simp [ih h.of_cons.of_cons]
  | case4 c cs hfeed hreturn hnil ih =>
    obtain rfl := lines_eq_nil_iff.mp hnil
    exact absurd (by simpa [WholeLines] using h) hfeed
  | case5 c cs hfeed hreturn l ls hcons ih =>
    rw [List.count_cons_of_ne hfeed, ← ih h.of_cons, hcons, List.length_cons, List.length_cons]

/-- A text is whole lines and what has no line feed after them. -/
theorem exists_lead (cs : List Char) :
    ∃ head lead, cs = head ++ lead ∧ WholeLines head ∧ '\n' ∉ lead := by
  refine ⟨cs.rdropWhile (· ≠ '\n'), cs.rtakeWhile (· ≠ '\n'),
    List.rdropWhile_append_rtakeWhile.symm, ?_, fun h => ?_⟩
  · by_cases h : cs.rdropWhile (· ≠ '\n') = []
    · exact .inl h
    · have hlast := List.rdropWhile_last_not (· ≠ '\n') cs h
      exact .inr (by rw [List.getLast?_eq_some_getLast h]; simpa using hlast)
  · simpa using List.mem_rtakeWhile_imp h

theorem WholeLines.rtakeWhile {cs : List Char} (h : WholeLines cs) :
    cs.rtakeWhile (· ≠ '\n') = [] := by
  rw [List.rtakeWhile_eq_nil_iff]
  intro hne
  rcases h with rfl | h
  · contradiction
  · rw [List.getLast?_eq_some_getLast hne, Option.some.injEq] at h
    simp [h]

theorem rtakeWhile_append (a : List Char) {more : List Char} (h : '\n' ∉ more) :
    (a ++ more).rtakeWhile (· ≠ '\n') = a.rtakeWhile (· ≠ '\n') ++ more := by
  have hall : ∀ c ∈ more.reverse, decide (c ≠ '\n') = true := fun c hc =>
    decide_eq_true fun heq => h (heq ▸ List.mem_reverse.mp hc)
  rw [List.rtakeWhile, List.reverse_append, List.takeWhile_append_of_pos hall,
    List.reverse_append, List.reverse_reverse]
  rfl

/-! ## The first line -/

/-- How a line ends: with the text, with a line feed, or with a carriage return and a line feed. -/
inductive LineEnd (line : List Char) : List Char → List Char → Prop
  | last : LineEnd line [] []
  | feed (rest : List Char) : line.getLast? ≠ some '\r' → LineEnd line ['\n'] rest
  | returnFeed (rest : List Char) : LineEnd line ['\r', '\n'] rest

theorem LineEnd.rest_eq_nil {line rest : List Char} (h : LineEnd line [] rest) : rest = [] := by
  cases h
  rfl

/-- Only the last character of an ending is a line feed. -/
theorem LineEnd.not_mem_dropLast {line ending rest : List Char} (h : LineEnd line ending rest)
    (hline : '\n' ∉ line) : '\n' ∉ (line ++ ending).dropLast := by
  cases h with
  | last => exact fun hmem => hline (by simpa using List.dropLast_subset _ hmem)
  | feed => rwa [List.dropLast_concat]
  | returnFeed =>
    rw [List.dropLast_append_of_ne_nil (by simp)]
    simpa using hline

/-- A line feed after a carriage return belongs to the ending, with the carriage return. -/
theorem LineEnd.head?_ne {line ending rest : List Char} (h : LineEnd line ending rest)
    (hreturn : line.getLast? = some '\r') : (ending ++ rest).head? ≠ some '\n' := by
  cases h with
  | last => simp
  | feed _ hlast => exact absurd hreturn hlast
  | returnFeed => simp

/-- The first line of a text with its ending and what follows. -/
structure FirstLine (cs line ending rest : List Char) : Prop where
  text : cs = line ++ ending ++ rest
  unbroken : '\n' ∉ line
  ends : LineEnd line ending rest

theorem exists_firstLine (cs : List Char) :
    ∃ ending rest, FirstLine cs (firstLine cs) ending rest := by
  unfold firstLine
  fun_induction lines cs with
  | case1 => exact ⟨[], [], rfl, List.not_mem_nil, .last⟩
  | case2 cs ih => exact ⟨['\n'], cs, rfl, List.not_mem_nil, .feed cs (by simp)⟩
  | case3 cs ih => exact ⟨['\r', '\n'], cs, rfl, List.not_mem_nil, .returnFeed cs⟩
  | case4 c cs hfeed hreturn hnil ih =>
    obtain rfl := lines_eq_nil_iff.mp hnil
    exact ⟨[], [], rfl, by simpa using Ne.symm hfeed, .last⟩
  | case5 c cs hfeed hreturn l ls hcons ih =>
    obtain ⟨ending, rest, htext, hunbroken, hends⟩ := ih
    rw [hcons, List.head?_cons, Option.getD_some] at htext hunbroken hends
    rw [List.head?_cons, Option.getD_some]
    refine ⟨ending, rest, by simp [htext], by simpa [Ne.symm hfeed] using hunbroken, ?_⟩
    cases hends with
    | last => exact .last
    | returnFeed => exact .returnFeed _
    | feed _ hlast =>
      refine .feed _ fun hc => ?_
      cases l with
      | nil => exact hreturn rest (by simpa using hc) htext
      | cons d l => exact hlast (by rwa [List.getLast?_cons_cons] at hc)

/-- Text without a line feed ends on the first line, or inside the ending of it. -/
theorem FirstLine.split {lead tail line ending rest : List Char}
    (h : FirstLine (lead ++ tail) line ending rest) (hlead : '\n' ∉ lead) :
    (∃ more, line = lead ++ more ∧ tail = more ++ (ending ++ rest)) ∨
      (lead = line ++ ['\r'] ∧ ending = ['\r', '\n'] ∧ tail = '\n' :: rest) := by
  have happend : lead ++ tail = line ++ (ending ++ rest) := by rw [h.text, List.append_assoc]
  rcases List.append_eq_append_iff.mp happend with ⟨more, hmore⟩ | ⟨extra, rfl, hextra⟩
  · exact .inl ⟨more, hmore⟩
  · have hbreak : '\n' ∉ extra := fun hmem => hlead (List.mem_append_right _ hmem)
    -- What stands over the line is a start of its ending that is no line feed.
    match extra, hextra, h.ends with
    | [], hextra, _ => exact .inl ⟨[], by simp, hextra.symm⟩
    | c :: extra, hextra, .feed _ _ =>
      obtain rfl := (List.cons.inj hextra).1
      exact absurd List.mem_cons_self hbreak
    | [c], hextra, .returnFeed _ =>
      obtain ⟨rfl, hrest⟩ := List.cons.inj hextra
      exact .inr ⟨rfl, rfl, hrest.symm⟩
    | c :: d :: extra, hextra, .returnFeed _ =>
      obtain rfl := (List.cons.inj (List.cons.inj hextra).2).1
      exact absurd (List.mem_cons_of_mem _ List.mem_cons_self) hbreak

/-- The first line goes as far as any. -/
theorem FirstLine.prefix_of {cs line ending rest line' ending' rest' : List Char}
    (h : FirstLine cs line ending rest) (h' : FirstLine cs line' ending' rest') :
    line <+: line' := by
  have htext : cs = line ++ (ending ++ rest) := by rw [h.text, List.append_assoc]
  rcases (htext ▸ h').split h.unbroken with ⟨more, hmore, -⟩ | ⟨rfl, -, hfeed⟩
  · exact ⟨more, hmore.symm⟩
  · exact absurd (by rw [hfeed]; rfl) (h.ends.head?_ne List.getLast?_concat)

/-- A text has one first line. -/
theorem FirstLine.unique {cs line ending rest line' ending' rest' : List Char}
    (h : FirstLine cs line ending rest) (h' : FirstLine cs line' ending' rest') :
    line = line' ∧ ending = ending' ∧ rest = rest' := by
  obtain rfl : line = line' :=
    (h.prefix_of h').eq_of_length_le (h'.prefix_of h).length_le
  have htext : line ++ (ending ++ rest) = line ++ (ending' ++ rest') := by
    rw [← List.append_assoc, ← List.append_assoc, ← h.text, ← h'.text]
  have htail : ending ++ rest = ending' ++ rest' := List.append_cancel_left htext
  refine ⟨rfl, ?_⟩
  cases h.ends <;> cases h'.ends <;> simp_all

/-- Text without a line feed ends before the ending of the first line does, or with the text. -/
theorem FirstLine.inside {lead tail line ending rest : List Char}
    (h : FirstLine (lead ++ tail) line ending rest) (hlead : '\n' ∉ lead) :
    byteLength lead < byteLength (line ++ ending) ∨ (ending = [] ∧ tail = []) := by
  rcases h.split hlead with ⟨more, rfl, rfl⟩ | ⟨rfl, rfl, -⟩
  · rw [byteLength_append, byteLength_append]
    by_cases hnil : more ++ ending = []
    · obtain ⟨rfl, rfl⟩ := List.append_eq_nil_iff.mp hnil
      exact .inr ⟨rfl, by rw [h.ends.rest_eq_nil]; rfl⟩
    · have := byteLength_pos hnil
      rw [byteLength_append] at this
      exact .inl (by omega)
  · rw [byteLength_append, byteLength_append]
    exact .inl (Nat.add_lt_add_left (by decide) _)

theorem firstLine_of_unbroken {cs : List Char} (h : '\n' ∉ cs) : firstLine cs = cs := by
  obtain ⟨ending, rest, htext, -, hends⟩ := exists_firstLine cs
  cases hends with
  | last => simpa using htext.symm
  | feed | returnFeed => exact absurd (by rw [htext]; simp) h

end SeriesQuery
