/-
Counts of repetitions and openings of groups before an ending.
-/
import SeriesQuery.Proofs.Regex.Reading

namespace SeriesQuery.Regex

variable {flags : Flags} {t t' cs : List Char}

/-! ## Counts -/

theorem countDigits_eq (fuel : Nat) (cs : List Char) :
    countDigits flags fuel cs = spanSkip flags Char.isDigit fuel cs := by
  induction fuel generalizing cs with
  | zero => rfl
  | succ fuel ih =>
    cases cs with
    | nil => rfl
    | cons c cs =>
      rw [spanSkip, ← ih]
      rfl

theorem blanksAfter_eq (fuel : Nat) (cs : List Char) :
    blanksAfter flags fuel cs = (spanSkip flags isBlank fuel cs).2 := by
  induction fuel generalizing cs with
  | zero => rfl
  | succ fuel ih =>
    cases cs with
    | nil => rfl
    | cons c cs =>
      rw [spanSkip, blanksAfter, ih]
      split
      · rfl
      · rfl

/-- The count that digits spell, none inside when there are none. -/
def countValue? (digits : List Char) : Option (Option Nat) :=
  if digits.isEmpty then some none
  else if Decimal.digitsValue digits < 4294967296 then some (some (Decimal.digitsValue digits))
  else none

/-- A count from its digits on. -/
def countFrom? (flags : Flags) (fuel : Nat) (cs : List Char) : Option (Option Nat × List Char) :=
  (some (spanSkip flags Char.isDigit fuel cs)).bind fun p =>
    (countValue? p.1).map (·, (spanSkip flags isBlank (p.2.length + 1) p.2).2)

theorem count?_eq (cs : List Char) :
    count? flags cs = countFrom? flags (cs.length + 1) (cs.dropWhile isBlank) := by
  unfold count? countFrom? countValue?
  rw [countDigits_eq]
  dsimp only [Option.bind_some]
  rw [blanksAfter_eq]
  split
  · rfl
  · split
    · rfl
    · rfl

theorem leaves_blanks {digits : List Char} (r : List Char) :
    Leaves r ((countValue? digits).map (·, (spanSkip flags isBlank (r.length + 1) r).2)) :=
  leaves_map (spanSkip_suffix _ _ r)

theorem leaves_count (cs : List Char) : Leaves cs (count? flags cs) := by
  rw [count?_eq, countFrom?]
  refine Leaves.bind ?_ fun _ r => leaves_blanks r
  exact leaves_some ((spanSkip_suffix _ _ _).trans (List.dropWhile_suffix _))

theorem dropWhile_of_closes {p : Char → Bool} (hp : p ')' = false)
    (h : ∀ c rest, t = c :: rest → c = ')') : t.dropWhile p = t := by
  cases t with
  | nil => rfl
  | cons c rest =>
    obtain rfl := h c rest rfl
    rw [List.dropWhile_cons, hp]
    rfl

theorem exists_dropWhile (h : Ends t t') {p : Char → Bool} (hp : p ')' = false) (w : List Char) :
    ∃ v, (w ++ t).dropWhile p = v ++ t ∧ (w ++ t').dropWhile p = v ++ t' := by
  induction w with
  | nil => exact ⟨[], dropWhile_of_closes hp h.closes, dropWhile_of_closes hp h.closes_target⟩
  | cons c w ih =>
    rw [List.cons_append, List.cons_append, List.dropWhile_cons, List.dropWhile_cons]
    split
    · exact ih
    · exact ⟨c :: w, rfl, rfl⟩

theorem same_count (h : Ends t t') (w : List Char) :
    Same t t' (count? flags (w ++ t)) (count? flags (w ++ t')) := by
  have hdigit : Char.isDigit ')' = false := by decide
  have hblank : isBlank ')' = false := by decide
  obtain ⟨v, hv, hv'⟩ := exists_dropWhile h hblank w
  have hle : (v ++ t).length ≤ (w ++ t).length := hv ▸ (List.dropWhile_suffix isBlank).length_le
  have hle' : (v ++ t').length ≤ (w ++ t').length := hv' ▸ (List.dropWhile_suffix isBlank).length_le
  rw [count?_eq, count?_eq, hv, hv', countFrom?, countFrom?]
  refine (same_spanSkip h hdigit (Nat.le_succ_of_le hle) (Nat.le_succ_of_le hle')).bind
    (fun _ r => leaves_blanks r) fun digits w => ?_
  dsimp only
  cases countValue? digits with
  | none => exact exact_none.same
  | some n =>
    exact (same_spanSkip h hblank (Nat.le_succ _) (Nat.le_succ _)).bind (g := fun p => some (n, p.2))
      (fun _ r => leaves_some (List.suffix_refl r)) fun _ _ => exact_some.same

/-! ## Bounds -/

abbrev Bounds := Option Nat × Option Nat

/-- The upper bound, from after the comma and what may be skipped. -/
def upper? (flags : Flags) (least : Option Nat) : List Char → Option (Bounds × List Char)
  | '\x7d' :: rest => some ((least, none), '\x7d' :: rest)
  | cs =>
    (count? flags cs).bind fun p => p.1.bind fun most => some ((least, some most), p.2)

/-- Both bounds, from after the lower one. -/
def afterLower? (flags : Flags) (least : Option Nat) : List Char → Option (Bounds × List Char)
  | ',' :: rest => (flags.more? rest).bind (upper? flags least)
  | cs => some ((least, least), cs)

/-- The bounds at the closing brace. -/
def boundsEnd? (flags : Flags) (bounds : Bounds) (cs : List Char) :
    Option ((Nat × Option Nat) × List Char) :=
  match bounds, cs with
  | (some least, most), '\x7d' :: rest =>
    if least ≤ most.getD least then some ((least, most), dropLazy (flags.skip rest)) else none
  | _, _ => none

theorem upper?_of_ne (least : Option Nat) (h : ∀ rest, cs ≠ '\x7d' :: rest) :
    upper? flags least cs =
      (count? flags cs).bind fun p => p.1.bind fun most => some ((least, some most), p.2) := by
  unfold upper?
  split
  · exact absurd rfl (h _)
  · rfl

theorem afterLower?_of_ne (least : Option Nat) (h : ∀ rest, cs ≠ ',' :: rest) :
    afterLower? flags least cs = some ((least, least), cs) := by
  unfold afterLower?
  split
  · exact absurd rfl (h _)
  · rfl

theorem bounds?_eq (cs : List Char) :
    bounds? flags cs = (flags.more? cs).bind fun cs => (count? flags cs).bind fun p =>
      (afterLower? flags p.1 p.2).bind fun q => boundsEnd? flags q.1 q.2 := by
  refine congrArg (flags.more? cs).bind (funext fun cs => ?_)
  refine congrArg (count? flags cs).bind (funext fun p => ?_)
  obtain ⟨least, cs⟩ := p
  dsimp only
  split
  · rename_i rest
    show _ = ((flags.more? rest).bind (upper? flags least)).bind fun q => boundsEnd? flags q.1 q.2
    rw [Option.bind_assoc]
    refine congrArg (flags.more? rest).bind (funext fun cs => ?_)
    split
    · rfl
    · rename_i hne
      rw [upper?_of_ne least hne, Option.bind_assoc]
      refine congrArg (count? flags _).bind (funext fun q => ?_)
      obtain ⟨most, rest⟩ := q
      cases most with
      | none => rfl
      | some most => rfl
  · rename_i hne
    rw [afterLower?_of_ne least hne]
    rfl

theorem leaves_most (least most : Option Nat) (r : List Char) :
    Leaves r (most.bind fun most => some ((least, some most), r)) := by
  cases most with
  | none => exact leaves_none
  | some most => exact leaves_some (List.suffix_refl r)

theorem leaves_upper (least : Option Nat) (cs : List Char) :
    Leaves cs (upper? flags least cs) := by
  unfold upper?
  split
  · exact leaves_some (List.suffix_refl _)
  · exact (leaves_count _).bind (leaves_most least)

theorem inside_upper (h : Ends t t') (least : Option Nat) (w : List Char) :
    SameInside t t' (upper? flags least (w ++ t)) (upper? flags least (w ++ t')) := by
  cases w with
  | nil => exact inside_of_leaves (leaves_upper least t)
  | cons c w =>
    by_cases hc : c = '\x7d'
    · subst hc
      exact (exact_some (w := '\x7d' :: w)).inside
    · rw [List.cons_append, List.cons_append,
        upper?_of_ne least fun rest heq => hc (List.cons.inj heq).1,
        upper?_of_ne least fun rest heq => hc (List.cons.inj heq).1]
      refine (same_count h (c :: w)).inside.bind (leaves_most least) fun most v => ?_
      cases most with
      | none => exact exact_none.inside
      | some most => exact exact_some.inside

theorem leaves_afterLower (least : Option Nat) (cs : List Char) :
    Leaves cs (afterLower? flags least cs) := by
  unfold afterLower?
  split
  · exact (Leaves.more (leaves_upper least) _).cons.leaves
  · exact leaves_some (List.suffix_refl cs)

theorem inside_afterLower (h : Ends t t') (least : Option Nat) (w : List Char) :
    SameInside t t' (afterLower? flags least (w ++ t)) (afterLower? flags least (w ++ t')) := by
  cases w with
  | nil => exact inside_of_leaves (leaves_afterLower least t)
  | cons c w =>
    by_cases hc : c = ','
    · subst hc
      exact SameInside.more h (leaves_upper least) fun v _ => inside_upper h least v
    · rw [List.cons_append, List.cons_append,
        afterLower?_of_ne least fun rest heq => hc (List.cons.inj heq).1,
        afterLower?_of_ne least fun rest heq => hc (List.cons.inj heq).1]
      exact (exact_some (w := c :: w)).inside

theorem dropLazy_suffix (cs : List Char) : dropLazy cs <:+ cs := by
  unfold dropLazy
  split
  · exact List.suffix_cons _ _
  · exact List.suffix_refl _

theorem dropLazy_of_ne {c : Char} (hc : c ≠ '?') (cs : List Char) :
    dropLazy (c :: cs) = c :: cs := by
  unfold dropLazy
  split
  · rename_i heq
    exact absurd (List.cons.inj heq).1 hc
  · rfl

theorem dropLazy_of_closes (h : ∀ c rest, t = c :: rest → c = ')') : dropLazy t = t := by
  cases t with
  | nil => rfl
  | cons c rest =>
    obtain rfl := h c rest rfl
    rfl

theorem exact_dropLazy {α : Type} (h : Ends t t') (a : α) (w : List Char) :
    SameExact t t' (some (a, dropLazy (w ++ t))) (some (a, dropLazy (w ++ t'))) := by
  cases w with
  | nil =>
    rw [List.nil_append, List.nil_append, dropLazy_of_closes h.closes,
      dropLazy_of_closes h.closes_target]
    exact exact_some (w := [])
  | cons c w =>
    by_cases hc : c = '?'
    · subst hc
      exact exact_some
    · rw [List.cons_append, List.cons_append, dropLazy_of_ne hc, dropLazy_of_ne hc]
      exact exact_some (w := c :: w)

theorem consumes_boundsEnd (bounds : Bounds) (cs : List Char) :
    Consumes cs (boundsEnd? flags bounds cs) := by
  unfold boundsEnd?
  split
  · split
    · exact consumes_some ((dropLazy_suffix _).trans (skip_suffix flags _))
    · exact consumes_none
  · exact consumes_none

theorem same_boundsEnd (h : Ends t t') (bounds : Bounds) (w : List Char) :
    Same t t' (boundsEnd? flags bounds (w ++ t)) (boundsEnd? flags bounds (w ++ t')) := by
  cases w with
  | nil => exact (exact_of_consumes (consumes_boundsEnd bounds t)).same
  | cons c w =>
    obtain ⟨least, most⟩ := bounds
    by_cases hc : c = '\x7d'
    · subst hc
      cases least with
      | none => exact exact_none.same
      | some least =>
        simp only [List.cons_append, boundsEnd?]
        split
        · exact (same_skip h flags (least, most) w).bind (g := fun p => some (p.1, dropLazy p.2))
            (fun _ r => leaves_some (dropLazy_suffix r)) fun _ v => (exact_dropLazy h _ v).same
        · exact exact_none.same
    · intro x r hx
      simp [boundsEnd?, hc] at hx

theorem consumes_boundsTail (least : Option Nat) (cs : List Char) :
    Consumes cs ((afterLower? flags least cs).bind fun q => boundsEnd? flags q.1 q.2) :=
  (leaves_afterLower least cs).bind_consumes consumes_boundsEnd

theorem consumes_counts (cs : List Char) :
    Consumes cs ((count? flags cs).bind fun p =>
      (afterLower? flags p.1 p.2).bind fun q => boundsEnd? flags q.1 q.2) :=
  (leaves_count cs).bind_consumes consumes_boundsTail

theorem leaves_bounds (cs : List Char) : Leaves cs (bounds? flags cs) := by
  rw [bounds?_eq]
  exact Leaves.more (fun cs => (consumes_counts cs).leaves) cs

theorem same_bounds (h : Ends t t') (w : List Char) :
    Same t t' (bounds? flags (w ++ t)) (bounds? flags (w ++ t')) := by
  rw [bounds?_eq, bounds?_eq]
  refine Same.more h consumes_counts (fun v => ?_) w
  refine (same_count h v).inside.bind_consumes consumes_boundsTail fun least v _ => ?_
  exact (inside_afterLower h least v).bind_consumes consumes_boundsEnd
    fun bounds v _ => same_boundsEnd h bounds v

/-! ## Openings of groups -/

/-- A group's name ends with its angle, and what follows may be anything. -/
theorem exists_of_groupName {name : String} {r : List Char} (h : groupName? cs = some (name, r)) :
    ∃ u, cs = u ++ '>' :: r ∧ ∀ r', groupName? (u ++ '>' :: r') = some (name, r') := by
  have hspan : cs.span (· != '>') = ((cs.span (· != '>')).1, (cs.span (· != '>')).2) := rfl
  obtain ⟨hcs, hname, hhead⟩ := of_span_ne hspan
  unfold groupName? at h
  dsimp only at h
  split at h
  · rename_i c name' d rest hfirst hrest
    split at h
    · rename_i hvalid
      cases h
      rw [hrest] at hcs hhead
      rw [hfirst] at hcs hname
      obtain rfl : d = '>' := hhead d rfl
      refine ⟨c :: name', hcs, fun r' => ?_⟩
      unfold groupName?
      rw [span_ne_append hname]
      exact if_pos hvalid
    · cases h
  · cases h

theorem exact_groupName (t t' w : List Char) :
    SameExact t t' (groupName? (w ++ t)) (groupName? (w ++ t')) := by
  intro name r h
  obtain ⟨u, hw, hsame⟩ := exists_of_groupName h
  have hw' : w = u ++ '>' :: r := List.append_cancel_right (by simpa using hw)
  rw [hw', List.append_assoc]
  exact hsame (r ++ t')

theorem leaves_groupName (cs : List Char) : Leaves cs (groupName? cs) := by
  intro name r h
  obtain ⟨u, rfl, -⟩ := exists_of_groupName h
  exact ⟨u ++ ['>'], by simp⟩

theorem leaves_flagLetters (negated : Bool) (seen cs : List Char) :
    Leaves cs (flagLetters? negated seen cs) := by
  induction cs generalizing negated seen with
  | nil => exact leaves_none
  | cons c cs ih =>
    rw [flagLetters?]
    split
    · split
      · exact leaves_none
      · exact leaves_some (List.suffix_refl _)
    · split
      · split
        · exact leaves_none
        · exact (ih _ _).cons.leaves
      · split
        · exact ((ih _ _).map ((c, !negated) :: ·)).cons.leaves
        · exact leaves_none

theorem inside_flagLetters (negated : Bool) (seen w : List Char) :
    SameInside t t' (flagLetters? negated seen (w ++ t)) (flagLetters? negated seen (w ++ t')) := by
  induction w generalizing negated seen with
  | nil => exact inside_of_leaves (leaves_flagLetters negated seen t)
  | cons c w ih =>
    rw [List.cons_append, List.cons_append, flagLetters?, flagLetters?]
    split
    · split
      · exact exact_none.inside
      · exact (exact_some (w := c :: w)).inside
    · split
      · split
        · exact exact_none.inside
        · exact ih _ _
      · split
        · exact (ih _ _).map ((c, !negated) :: ·)
        · exact exact_none.inside

/-- Flags end before a colon or a closing parenthesis. -/
theorem head_of_flagLetters {negated : Bool} {seen : List Char} {letters : List (Char × Bool)}
    {r : List Char} (h : flagLetters? negated seen cs = some (letters, r)) : ∃ c rest, r = c :: rest := by
  induction cs generalizing negated seen letters with
  | nil => cases h
  | cons c cs ih =>
    rw [flagLetters?] at h
    split at h
    · split at h
      · cases h
      · cases h
        exact ⟨c, cs, rfl⟩
    · split at h
      · split at h
        · cases h
        · exact ih h
      · split at h
        · obtain ⟨p, hp, heq⟩ := Option.map_eq_some_iff.mp h
          cases heq
          exact ih hp
        · cases h

/-- The opening of a group with flags, at their end. -/
def flagsEnd? (letters : List (Char × Bool)) : List Char → Option (Opening × List Char)
  | ')' :: rest => if letters.isEmpty then none else some (.change letters, rest)
  | cs => some (.body letters none, cs.tail)

theorem leaves_flagsEnd (letters : List (Char × Bool)) (cs : List Char) :
    Leaves cs (flagsEnd? letters cs) := by
  unfold flagsEnd?
  split
  · split
    · exact leaves_none
    · exact leaves_some (List.suffix_cons _ _)
  · exact leaves_some (List.tail_suffix cs)

/-- The opening of a group with flags. -/
def flagsOpening? (cs : List Char) : Option (Opening × List Char) :=
  (flagLetters? false [] cs).bind fun p => flagsEnd? p.1 p.2

theorem flagsEnd?_cons {letters : List (Char × Bool)} {c : Char} {cs : List Char} {x : Opening}
    {r : List Char} (h : flagsEnd? letters (c :: cs) = some (x, r)) :
    r = cs ∧ ∀ cs', flagsEnd? letters (c :: cs') = some (x, cs') := by
  unfold flagsEnd? at h
  split at h
  · rename_i heq
    obtain ⟨rfl, rfl⟩ := List.cons.inj heq
    split at h
    · cases h
    · rename_i hempty
      cases h
      exact ⟨rfl, fun cs' => if_neg hempty⟩
  · rename_i hne
    cases h
    refine ⟨rfl, fun cs' => ?_⟩
    unfold flagsEnd?
    split
    · rename_i heq
      exact (hne cs (by rw [(List.cons.inj heq).1])).elim
    · rfl

theorem exact_flagsOpening (w : List Char) :
    SameExact t t' (flagsOpening? (w ++ t)) (flagsOpening? (w ++ t')) := by
  intro x r hx
  obtain ⟨⟨letters, rest⟩, hletters, hend⟩ := Option.bind_eq_some_iff.mp hx
  obtain ⟨c, rest, rfl⟩ := head_of_flagLetters hletters
  obtain ⟨rfl, hsame⟩ := flagsEnd?_cons hend
  have hletters' : flagLetters? false [] (w ++ t') = some (letters, c :: r ++ t') :=
    inside_flagLetters false [] w letters (c :: r) nofun hletters
  rw [flagsOpening?, hletters']
  exact hsame (r ++ t')

theorem leaves_flagsOpening (cs : List Char) : Leaves cs (flagsOpening? cs) :=
  (leaves_flagLetters false [] cs).bind leaves_flagsEnd

/-- The opening of a group with a name, from after its angle. -/
def namedOpening? (cs : List Char) : Option (Opening × List Char) :=
  (groupName? cs).map fun p => (.body [] (some p.1), p.2)

/-- The opening of a group from after its question mark. -/
def afterQuestion? : List Char → Option (Opening × List Char)
  | '=' :: _ => none
  | '!' :: _ => none
  | '<' :: '=' :: _ => none
  | '<' :: '!' :: _ => none
  | 'P' :: '<' :: rest => namedOpening? rest
  | '<' :: rest => namedOpening? rest
  | cs => flagsOpening? cs

theorem opening?_question (cs : List Char) : opening? ('?' :: cs) = afterQuestion? cs := by
  unfold afterQuestion?
  split
  · rfl
  · rfl
  · rfl
  · rfl
  · rfl
  · rename_i rest hequals hbang
    exact opening?.eq_6 rest hequals hbang
  · rename_i hequals hbang hbehind hnotBehind hnamed hangle
    rw [opening?.eq_7 cs hequals hbang hbehind hnotBehind hnamed hangle, flagsOpening?]
    rfl

theorem opening?_of_ne (h : ∀ rest, cs ≠ '?' :: rest) :
    opening? cs = some (.body [] none, cs) := by
  unfold opening?
  split <;> first
    | rfl
    | exact absurd rfl (h _)

theorem afterQuestion?_angle (h : ∀ c ∈ cs.head?, c ≠ '=' ∧ c ≠ '!') :
    afterQuestion? ('<' :: cs) = namedOpening? cs := by
  unfold afterQuestion?
  split
  · rename_i heq
    cases heq
  · rename_i heq
    cases heq
  · rename_i heq
    cases heq
    exact absurd rfl (h '=' rfl).1
  · rename_i heq
    cases heq
    exact absurd rfl (h '!' rfl).2
  · rename_i heq
    cases heq
  · rename_i heq
    cases heq
    rfl
  · rename_i hangle
    exact (hangle cs rfl).elim

theorem afterQuestion?_of_ne {c : Char} (hequals : c ≠ '=') (hbang : c ≠ '!') (hangle : c ≠ '<')
    (hnamed : c = 'P' → ∀ rest, cs ≠ '<' :: rest) :
    afterQuestion? (c :: cs) = flagsOpening? (c :: cs) := by
  unfold afterQuestion?
  split
  · rename_i heq
    exact absurd (List.cons.inj heq).1 hequals
  · rename_i heq
    exact absurd (List.cons.inj heq).1 hbang
  · rename_i heq
    exact absurd (List.cons.inj heq).1 hangle
  · rename_i heq
    exact absurd (List.cons.inj heq).1 hangle
  · rename_i heq
    exact absurd (List.cons.inj heq).2 (hnamed (List.cons.inj heq).1 _)
  · rename_i heq
    exact absurd (List.cons.inj heq).1 hangle
  · rfl

theorem exact_namedOpening (t t' w : List Char) :
    SameExact t t' (namedOpening? (w ++ t)) (namedOpening? (w ++ t')) :=
  (exact_groupName t t' w).map (Opening.body [] ∘ some)

theorem afterQuestion?_of_closes (h : ∀ c rest, t = c :: rest → c = ')') :
    afterQuestion? t = none := by
  cases t with
  | nil => rfl
  | cons c rest =>
    obtain rfl := h c rest rfl
    rfl

/-- What holds of the first character of a text, and of a closing parenthesis, holds of the first
character before the ending. -/
theorem head_append {p : Char → Prop} {w : List Char} (h : ∀ c rest, t = c :: rest → c = ')')
    (hclose : p ')') (hw : ∀ c ∈ w.head?, p c) : ∀ c ∈ (w ++ t).head?, p c := by
  intro c hc
  cases w with
  | nil =>
    cases t with
    | nil => cases hc
    | cons d rest =>
      cases hc
      exact h c rest rfl ▸ hclose
  | cons d w =>
    cases hc
    exact hw c rfl

theorem exact_afterQuestion (h : Ends t t') (w : List Char) :
    SameExact t t' (afterQuestion? (w ++ t)) (afterQuestion? (w ++ t')) := by
  cases w with
  | nil =>
    rw [List.nil_append, afterQuestion?_of_closes h.closes]
    exact exact_none
  | cons c w =>
    rw [List.cons_append, List.cons_append]
    by_cases hangle : c = '<'
    · subst hangle
      by_cases hlook : ∀ d ∈ w.head?, d ≠ '=' ∧ d ≠ '!'
      · rw [afterQuestion?_angle (head_append h.closes (by decide) hlook),
          afterQuestion?_angle (head_append h.closes_target (by decide) hlook)]
        exact exact_namedOpening t t' w
      · cases w with
        | nil => exact absurd nofun hlook
        | cons d w =>
          have hd : d = '=' ∨ d = '!' := by
            refine Decidable.byContradiction fun hne => hlook ?_
            rintro _ ⟨⟩
            exact not_or.mp hne
          rcases hd with rfl | rfl
          · exact exact_none
          · exact exact_none
    · by_cases hequals : c = '='
      · subst hequals
        exact exact_none
      · by_cases hbang : c = '!'
        · subst hbang
          exact exact_none
        · by_cases hnamed : c = 'P' ∧ ∃ rest, w = '<' :: rest
          · obtain ⟨rfl, rest, rfl⟩ := hnamed
            exact exact_namedOpening t t' rest
          · have hplain : ∀ {s : List Char}, (∀ c rest, s = c :: rest → c = ')') →
                c = 'P' → ∀ rest, w ++ s ≠ '<' :: rest := by
              intro s hs hc rest heq
              have hw : ∀ d ∈ w.head?, d ≠ '<' := by
                intro d hd hopen
                cases w with
                | nil => cases hd
                | cons e w =>
                  cases hd
                  exact hnamed ⟨hc, w, by rw [hopen]⟩
              exact head_append hs (by decide) hw '<' (by rw [heq]; rfl) rfl
            rw [afterQuestion?_of_ne hequals hbang hangle (hplain h.closes),
              afterQuestion?_of_ne hequals hbang hangle (hplain h.closes_target)]
            exact exact_flagsOpening (c :: w)

/-- The opening of a group that is read before the one ending is read before the other too. -/
theorem exact_opening (h : Ends t t') (w : List Char) :
    SameExact t t' (opening? (w ++ t)) (opening? (w ++ t')) := by
  have hplain : ∀ {s : List Char}, (∀ c ∈ s.head?, c ≠ '?') → opening? s = some (.body [] none, s) := by
    intro s hs
    refine opening?_of_ne fun rest heq => hs '?' ?_ rfl
    rw [heq]
    rfl
  by_cases hquestion : ∃ rest, w = '?' :: rest
  · obtain ⟨rest, rfl⟩ := hquestion
    rw [List.cons_append, List.cons_append, opening?_question, opening?_question]
    exact exact_afterQuestion h rest
  · have hw : ∀ c ∈ w.head?, c ≠ '?' := by
      intro c hc heq
      cases w with
      | nil => cases hc
      | cons d w =>
        cases hc
        exact hquestion ⟨w, by rw [heq]⟩
    rw [hplain (head_append h.closes (by decide) hw),
      hplain (head_append h.closes_target (by decide) hw)]
    exact exact_some

theorem leaves_afterQuestion (cs : List Char) : Leaves cs (afterQuestion? cs) := by
  have hnamed : ∀ cs, Leaves cs (namedOpening? cs) :=
    fun cs => (leaves_groupName cs).map (Opening.body [] ∘ some)
  unfold afterQuestion?
  split <;> first
    | exact leaves_none
    | exact leaves_flagsOpening cs
    | exact (hnamed _).cons.leaves
    | exact (hnamed _).cons.leaves.cons.leaves

theorem leaves_opening (cs : List Char) : Leaves cs (opening? cs) := by
  by_cases hquestion : ∃ rest, cs = '?' :: rest
  · obtain ⟨rest, rfl⟩ := hquestion
    rw [opening?_question]
    exact (leaves_afterQuestion rest).cons.leaves
  · rw [opening?_of_ne fun rest heq => hquestion ⟨rest, heq⟩]
    exact leaves_some (List.suffix_refl cs)

end SeriesQuery.Regex
