/-
Where diagnostics point. The line and the column of a range tell its start
apart from every other place of the text, and the excerpt shows the line with
that start, up to its ending, and one caret for each character of it that
the range covers (`report_points`). Lines are numbered by line feeds and cut
at their endings, and the two agree on which line is which (`line_lead`).
-/
import SeriesQuery.Failure
import SeriesQuery.Proofs.Text.Lines

namespace SeriesQuery

/-! ## The characters a range covers -/

namespace Span

/-- How many characters of a text that starts at an offset the range covers. -/
def covered (s : Span) : Nat → List Char → Nat
  | _, [] => 0
  | n, c :: cs =>
    (if s.start ≤ n ∧ n + c.utf8Size ≤ s.stop then 1 else 0) + s.covered (n + c.utf8Size) cs

variable {s : Span}

theorem covered_append (n : Nat) (a b : List Char) :
    s.covered n (a ++ b) = s.covered n a + s.covered (n + byteLength a) b := by
  induction a generalizing n with
  | nil => simp [covered, byteLength]
  | cons c a ih =>
    rw [List.cons_append, covered, covered, ih, byteLength, Nat.add_assoc, Nat.add_assoc]

theorem covered_before {n : Nat} {cs : List Char} (h : n + byteLength cs ≤ s.start) :
    s.covered n cs = 0 := by
  induction cs generalizing n with
  | nil => rfl
  | cons c cs ih =>
    have hc := c.utf8Size_pos
    rw [byteLength] at h
    rw [covered, if_neg (by omega), ih (by omega)]

theorem covered_after {n : Nat} {cs : List Char} (h : s.stop ≤ n) : s.covered n cs = 0 := by
  induction cs generalizing n with
  | nil => rfl
  | cons c cs ih =>
    have hc := c.utf8Size_pos
    rw [covered, if_neg (by omega), ih (by omega)]

theorem covered_inside {n : Nat} {cs : List Char} (hstart : s.start ≤ n)
    (hstop : n + byteLength cs ≤ s.stop) : s.covered n cs = cs.length := by
  induction cs generalizing n with
  | nil => rfl
  | cons c cs ih =>
    rw [byteLength] at hstop
    rw [covered, if_pos (by omega), ih (by omega) (by omega), List.length_cons, Nat.add_comm]

/-- On its first line a range covers the first line of its text, up to the end of that line. -/
theorem covered_firstLine {head lead b c line ending rest : List Char}
    (h : FirstLine (lead ++ (b ++ c)) line ending rest) (hlead : '\n' ∉ lead) :
    covered ⟨byteLength (head ++ lead), byteLength (head ++ lead) + byteLength b⟩
        (byteLength head) line =
      min (line.length - lead.length) (firstLine b).length := by
  rw [byteLength_append head lead]
  rcases h.split hlead with ⟨more, hline, hmore⟩ | ⟨hextra, -⟩
  · have hlength : line.length - lead.length = more.length := by simp [hline]
    rw [hlength, hline, covered_append, covered_before (Nat.le_refl _), Nat.zero_add]
    rcases List.append_eq_append_iff.mp hmore with ⟨tail, htail, -⟩ | ⟨tail, hb, htail⟩
    · -- The range ends on the line.
      have hb : '\n' ∉ b := fun hmem => h.unbroken (by simp [hline, htail, hmem])
      rw [firstLine_of_unbroken hb, htail, covered_append,
        covered_inside (Nat.le_refl _) (Nat.le_refl _), covered_after (Nat.le_refl _),
        List.length_append]
      omega
    · -- The range goes on to the end of the line.
      subst hb
      obtain ⟨ending', rest', hfirst⟩ := exists_firstLine (more ++ tail)
      have hle : more.length ≤ (firstLine (more ++ tail)).length := by
        have hunbroken : '\n' ∉ more := fun hmem => h.unbroken (by simp [hline, hmem])
        rcases hfirst.split hunbroken with ⟨tail', htail', -⟩ | ⟨hextra, -, rfl⟩
        · rw [htail', List.length_append]
          exact Nat.le_add_right ..
        · have hreturn : line.getLast? = some '\r' := by
            rw [hline, hextra, ← List.append_assoc, List.getLast?_concat]
          exact absurd (by rw [htail]; rfl) (h.ends.head?_ne hreturn)
      rw [covered_inside (Nat.le_refl _) (by rw [byteLength_append]; dsimp only; omega)]
      omega
  · have hlength : line.length - lead.length = 0 := by simp [hextra]
    rw [hlength, Nat.zero_min, covered_before]
    rw [hextra, byteLength_append]
    dsimp only
    omega

/-! ## The place of a range -/

/-- Line and column of an offset: the line feeds before it, and the characters after the last of
them. -/
theorem locate_append (a tail : List Char) (stop : Nat) :
    locate ⟨byteLength a, stop⟩ (a ++ tail) =
      (a.count '\n' + 1, (a.rtakeWhile (· ≠ '\n')).length + 1) := by
  have hbefore : before ⟨byteLength a, stop⟩ (a ++ tail) = a := by
    rw [before, byteLength_append, Nat.min_eq_left (Nat.le_add_right ..), takeBytes_append]
    rfl
  rw [locate, hbefore, List.rtakeWhile, List.length_reverse]

/-- A later place of the text is on a later line, or in a later column of the same line. -/
theorem locate_lt {cs : List Char} {s t : Span} (hs : Boundary s.start cs)
    (ht : Boundary t.start cs) (hlt : s.start < t.start) :
    Prod.Lex (· < ·) (· < ·) (s.locate cs) (t.locate cs) := by
  obtain ⟨start, stop⟩ := s
  obtain ⟨start', stop'⟩ := t
  obtain ⟨a, rest, rfl, rfl⟩ := hs
  obtain ⟨a', rest', hcs, rfl⟩ := ht
  obtain ⟨more, rfl, rfl⟩ := exists_append_of_byteLength_le hcs (Nat.le_of_lt hlt)
  rw [locate_append, ← List.append_assoc, locate_append, List.count_append]
  by_cases hbreak : '\n' ∈ more
  · have := List.count_pos_iff.mpr hbreak
    exact .left _ _ (by omega)
  · have hmore : more ≠ [] := by
      rintro rfl
      simp at hlt
    have := List.length_pos_of_ne_nil hmore
    rw [List.count_eq_zero.mpr hbreak, rtakeWhile_append a hbreak, List.length_append]
    exact .right _ (by omega)

section

variable {head lead : List Char} (hwhole : WholeLines head) (hlead : '\n' ∉ lead)
include hwhole hlead

theorem locate_lead (tail : List Char) (stop : Nat) :
    locate ⟨byteLength (head ++ lead), stop⟩ (head ++ lead ++ tail) =
      (head.count '\n' + 1, lead.length + 1) := by
  rw [locate_append, List.count_append, List.count_eq_zero.mpr hlead, rtakeWhile_append head hlead,
    hwhole.rtakeWhile]
  rfl

/-- The line numbered by the line feeds before the start of a range is the line it starts on. -/
theorem line_lead (tail : List Char) (stop : Nat) :
    line ⟨byteLength (head ++ lead), stop⟩ (head ++ lead ++ tail) = firstLine (lead ++ tail) := by
  rw [line, locate_lead hwhole hlead, List.append_assoc, lines_append hwhole,
    ← length_lines hwhole, Nat.add_sub_cancel, List.getElem?_append_right (Nat.le_refl _),
    Nat.sub_self, ← List.head?_eq_getElem?]
  rfl

end

/-- The line of a text that an offset is on. After the last ending stands an empty line. -/
structure LineAt (cs : List Char) (n : Nat) where
  /-- The lines before it. -/
  head : List Char
  /-- The line itself, without its ending. -/
  line : List Char
  ending : List Char
  rest : List Char
  /-- What stands between the start of the line and the offset. -/
  lead : List Char
  text : cs = head ++ (line ++ ending ++ rest)
  whole : WholeLines head
  unbroken : '\n' ∉ line
  ends : LineEnd line ending rest
  leads : head ++ lead <+: cs
  offset : byteLength (head ++ lead) = n
  /-- The offset is before the end of the ending, or at the end of a text without one. -/
  inside : n < byteLength (head ++ (line ++ ending)) ∨ (ending = [] ∧ n = byteLength cs)

namespace LineAt

variable {n : Nat}

theorem lead_unbroken (l : LineAt cs n) : '\n' ∉ l.lead := by
  intro hmem
  obtain ⟨tail, htail⟩ := l.leads
  have htext : l.lead ++ tail = l.line ++ l.ending ++ l.rest :=
    List.append_cancel_left ((List.append_assoc ..).symm.trans (htail.trans l.text))
  rcases l.inside with hlt | ⟨hending, -⟩
  · have hlt := l.offset.trans_lt hlt
    rw [byteLength_append, byteLength_append l.head] at hlt
    rcases List.append_eq_append_iff.mp htext with ⟨more, hmore, -⟩ | ⟨more, hmore, -⟩
    · have hne : more ≠ [] := by
        rintro rfl
        rw [hmore, List.append_nil] at hlt
        exact Nat.lt_irrefl _ hlt
      refine l.ends.not_mem_dropLast l.unbroken ?_
      rw [hmore, List.dropLast_append_of_ne_nil hne]
      exact List.mem_append_left _ hmem
    · rw [hmore, byteLength_append (l.line ++ l.ending)] at hlt
      omega
  · have hrest : l.rest = [] := (hending ▸ l.ends).rest_eq_nil
    refine l.unbroken ?_
    rw [hending, hrest, List.append_nil, List.append_nil] at htext
    rw [← htext]
    exact List.mem_append_left _ hmem

theorem head_lead_eq (l l' : LineAt cs n) : l.head ++ l.lead = l'.head ++ l'.lead := by
  obtain ⟨tail, htail⟩ := l.leads
  obtain ⟨tail', htail'⟩ := l'.leads
  have hoffset : byteLength (l'.head ++ l'.lead) = byteLength (l.head ++ l.lead) :=
    l'.offset.trans l.offset.symm
  obtain ⟨more, hmore, -⟩ :=
    exists_append_of_byteLength_le (htail.trans htail'.symm) hoffset.ge
  have hnil : more = [] := by
    by_contra hne
    have := byteLength_pos hne
    rw [hmore, byteLength_append] at hoffset
    omega
  rw [hmore, hnil, List.append_nil]

/-- An offset is on one line. -/
theorem unique (l l' : LineAt cs n) : l' = l := by
  have hplace := head_lead_eq l l'
  have hlead : l.lead = l'.lead := by
    have := congrArg (List.rtakeWhile (· ≠ '\n')) hplace
    rwa [rtakeWhile_append _ l.lead_unbroken, rtakeWhile_append _ l'.lead_unbroken,
      l.whole.rtakeWhile, l'.whole.rtakeWhile] at this
  have hhead : l.head = l'.head := by
    rw [hlead] at hplace
    exact List.append_cancel_right hplace
  have htext : l'.line ++ l'.ending ++ l'.rest = l.line ++ l.ending ++ l.rest := by
    have := l'.text.symm.trans l.text
    rw [hhead] at this
    exact List.append_cancel_left this
  have hfirst : FirstLine (l.line ++ l.ending ++ l.rest) l.line l.ending l.rest :=
    ⟨rfl, l.unbroken, l.ends⟩
  have hfirst' : FirstLine (l.line ++ l.ending ++ l.rest) l'.line l'.ending l'.rest :=
    ⟨htext.symm, l'.unbroken, l'.ends⟩
  obtain ⟨hline, hending, hrest⟩ := hfirst.unique hfirst'
  cases l
  cases l'
  simp_all

end LineAt

/-- The excerpt for a range: its place, the line it starts on, and its carets there. -/
theorem Within.exists_lineAt (h : s.Within cs) :
    ∃ l : LineAt cs s.start, s.locate cs = (l.head.count '\n' + 1, l.lead.length + 1) ∧
      s.line cs = l.line ∧ s.caretCount cs = max 1 (s.covered (byteLength l.head) l.line) := by
  obtain ⟨a, b, c, rfl, rfl⟩ := h.exists_append
  obtain ⟨head, lead, rfl, hwhole, hlead⟩ := exists_lead a
  let s : Span := ⟨byteLength (head ++ lead), byteLength (head ++ lead) + byteLength b⟩
  let cs := head ++ lead ++ b ++ c
  have hcs : cs = head ++ lead ++ (b ++ c) := List.append_assoc ..
  obtain ⟨ending, rest, hfirst⟩ := exists_firstLine (lead ++ (b ++ c))
  have hlocate : s.locate cs = (head.count '\n' + 1, lead.length + 1) := by
    rw [hcs]
    exact locate_lead hwhole hlead ..
  have hline : s.line cs = firstLine (lead ++ (b ++ c)) := by
    rw [hcs]
    exact line_lead hwhole hlead ..
  refine ⟨{
    head, lead, ending, rest
    line := firstLine (lead ++ (b ++ c))
    text := by rw [← hfirst.text, List.append_assoc, List.append_assoc]
    whole := hwhole
    unbroken := hfirst.unbroken
    ends := hfirst.ends
    leads := ⟨b ++ c, hcs.symm⟩
    offset := rfl
    inside := ?_ }, hlocate, hline, ?_⟩
  · rcases hfirst.inside hlead with h | ⟨hending, htail⟩
    · refine .inl ?_
      rw [byteLength_append head (_ ++ _)]
      exact (byteLength_append head lead).trans_lt (Nat.add_lt_add_left h _)
    · exact .inr ⟨hending, by rw [List.append_assoc, htail, List.append_nil]⟩
  · have hslice : s.sliceChars cs = some b := sliceChars_append ..
    calc s.caretCount cs
        = min (max 1 (firstLine b).length)
            (max ((firstLine (lead ++ (b ++ c))).length - lead.length) 1) := by
          rw [caretCount, hline, hlocate, hslice]
          rfl
      _ = max 1 (min ((firstLine (lead ++ (b ++ c))).length - lead.length)
            (firstLine b).length) := by omega
      _ = max 1 (s.covered (byteLength head) (firstLine (lead ++ (b ++ c)))) := by
          rw [covered_firstLine hfirst hlead]

end Span

/-! ## Reports -/

theorem Span.report_eq (s : Span) (message source : String) {line column : Nat}
    (h : s.locate source.toList = (line, column)) :
    s.report message source =
      s!"{line}:{column}: {message}\n  {String.ofList (s.line source.toList)}\n  " ++
        String.ofList (List.replicate (column - 1) ' ' ++
          List.replicate (s.caretCount source.toList) '^') := by
  rw [report, h]

theorem Span.caretCount_pos (s : Span) (cs : List Char) : 0 < s.caretCount cs := by
  simp only [caretCount]
  omega

/-- A report on a range of the text shows the place of its start, the one line it is on, and
carets under the characters of that line that the range covers, one at least. The place tells the
start apart from every other place of the text. Wherever the range is, there is a place and a
caret. -/
theorem Failure.report_points (source : String) :
    (∀ f : Failure, (f.span.slice source).isSome →
      ∃ (l : Span.LineAt source.toList f.span.start) (line column : Nat), (∀ l', l' = l) ∧
        f.span.locate source.toList = (line, column) ∧
        line = l.head.count '\n' + 1 ∧ column = l.lead.length + 1 ∧
        f.report source =
          s!"{line}:{column}: {f.message}\n  {String.ofList l.line}\n  " ++
            String.ofList (List.replicate (column - 1) ' ' ++
              List.replicate (max 1 (f.span.covered (byteLength l.head) l.line)) '^')) ∧
    (∀ s t : Span, Boundary s.start source.toList → Boundary t.start source.toList →
      s.start < t.start →
      Prod.Lex (· < ·) (· < ·) (s.locate source.toList) (t.locate source.toList)) ∧
    ∀ f : Failure, 1 ≤ (f.span.locate source.toList).1 ∧ 1 ≤ (f.span.locate source.toList).2 ∧
      ∃ (excerpt : String) (carets : Nat), 1 ≤ carets ∧
        f.report source = excerpt ++ String.ofList (List.replicate carets '^') := by
  refine ⟨fun f hslice => ?_, fun s t => Span.locate_lt, fun f => ?_⟩
  · have hwithin : f.span.Within source.toList := by
      rw [Span.within_iff_isSome, ← Option.isSome_map]
      exact hslice
    obtain ⟨l, hlocate, hline, hcarets⟩ := hwithin.exists_lineAt
    refine ⟨l, _, _, l.unique, hlocate, rfl, rfl, ?_⟩
    rw [Failure.report, Span.report_eq _ _ _ hlocate, hline, hcarets]
  · refine ⟨Nat.le_add_left .., Nat.le_add_left .., ?_⟩
    have hreport := Span.report_eq f.span f.message source (Prod.eta _).symm
    rw [String.ofList_append, ← String.append_assoc] at hreport
    exact ⟨_, _, Span.caretCount_pos .., hreport⟩

/-- A range over the end of a line: one caret, under the last character of the line. -/
theorem Failure.report_points_lines :
    (∃ l : Span.LineAt "é +\r\nb".toList 3, l.head.count '\n' = 0 ∧ l.lead.length = 2) ∧
    Failure.report ⟨⟨3, 7⟩, .lex .unterminatedString⟩ "é +\r\nb" =
      "1:3: unterminated string literal\n  é +\n    ^" ∧
    Prod.Lex (· < ·) (· < ·) (Span.locate ⟨3, 7⟩ "é +\r\nb".toList)
      (Span.locate ⟨6, 7⟩ "é +\r\nb".toList) := by
  have hslice : (Span.slice ⟨3, 7⟩ "é +\r\nb").isSome = true := by decide
  have hat : Span.locate ⟨3, 7⟩ "é +\r\nb".toList = (1, 3) := by decide
  have hshown : Failure.report ⟨⟨3, 7⟩, .lex .unterminatedString⟩ "é +\r\nb" =
      "1:3: unterminated string literal\n  é +\n    ^" := by rfl
  obtain ⟨hreport, hplace, -⟩ := report_points "é +\r\nb"
  obtain ⟨l, line, column, -, hlocate, hline, hcolumn, -⟩ :=
    hreport ⟨⟨3, 7⟩, .lex .unterminatedString⟩ hslice
  obtain ⟨rfl, rfl⟩ := Prod.mk.inj (hat.symm.trans hlocate)
  refine ⟨⟨l, by omega, by omega⟩, hshown, ?_⟩
  exact hplace _ _ ⟨['é', ' '], ['+', '\r', '\n', 'b'], by rfl, by rfl⟩
    ⟨['é', ' ', '+', '\r', '\n'], ['b'], by rfl, by rfl⟩ (by decide)

end SeriesQuery
