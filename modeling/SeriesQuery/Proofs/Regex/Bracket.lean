/-
Bracketed classes before an ending. A class ends with its closing bracket,
and what comes after that makes no difference to it.
-/
import SeriesQuery.Proofs.Regex.Item

namespace SeriesQuery.Regex

variable {flags : Flags} {t t' cs : List Char}

/-! ## Names in brackets -/

/-- The sign of a negation at the front, and what follows it. -/
def caret : List Char → Bool × List Char
  | '^' :: rest => (true, rest)
  | cs => (false, cs)

theorem caret_of_ne {c : Char} (hc : c ≠ '^') (cs : List Char) :
    caret (c :: cs) = (false, c :: cs) := by
  unfold caret
  split
  · rename_i heq
    exact absurd (List.cons.inj heq).1 hc
  · rfl

/-- The name in brackets, from after the colon and the sign of a negation. -/
def posixName? (negated : Bool) (cs : List Char) : Option ((String × Bool) × List Char) :=
  let (name, rest) := cs.span (· != ':')
  match rest with
  | ':' :: ']' :: rest =>
    let name := String.ofList name
    if (posixClasses.lookup name).isSome then some ((name, negated), rest) else none
  | _ => none

theorem posix?_colon (cs : List Char) :
    posix? (':' :: cs) = posixName? (caret cs).1 (caret cs).2 := rfl

/-- No name of a class in brackets has a parenthesis in it. -/
theorem not_mem_of_posixClass {name : List Char}
    (h : (posixClasses.lookup (String.ofList name)).isSome = true) : ')' ∉ name := by
  obtain ⟨p, hp, hname⟩ := List.lookup_isSome_iff.mp h
  have hnone : ∀ p ∈ posixClasses, ')' ∉ p.1.toList := by decide
  have hnone := hnone p hp
  rwa [← eq_of_beq hname, String.toList_ofList] at hnone

theorem exists_of_posixName {negated : Bool} {x : String × Bool} {r : List Char}
    (h : posixName? negated cs = some (x, r)) :
    ∃ name, cs = name ++ ':' :: ']' :: r ∧ ')' ∉ name ∧
      ∀ r', posixName? negated (name ++ ':' :: ']' :: r') = some (x, r') := by
  have hspan : cs.span (· != ':') = ((cs.span (· != ':')).1, (cs.span (· != ':')).2) := rfl
  obtain ⟨hcs, hname, -⟩ := of_span_ne hspan
  unfold posixName? at h
  dsimp only at h
  split at h
  · rename_i rest hrest
    split at h
    · rename_i hclass
      cases h
      refine ⟨(cs.span (· != ':')).1, by rw [← hrest, ← hcs], not_mem_of_posixClass hclass,
        fun r' => ?_⟩
      unfold posixName?
      rw [span_ne_append hname]
      exact if_pos hclass
    · cases h
  · cases h

/-- A name in brackets ends with its own bracket, and what follows may be anything. -/
theorem exists_of_posix {x : String × Bool} {r : List Char} (h : posix? cs = some (x, r)) :
    ∃ u, cs = u ++ ']' :: r ∧ ')' ∉ u ∧ ∀ r', posix? (u ++ ']' :: r') = some (x, r') := by
  obtain ⟨rest, rfl⟩ : ∃ rest, cs = ':' :: rest := by
    unfold posix? at h
    split at h
    · exact ⟨_, rfl⟩
    · cases h
  rw [posix?_colon] at h
  obtain ⟨name, hrest, hparen, hname⟩ := exists_of_posixName h
  cases rest with
  | nil =>
    rw [show (caret []).2 = [] from rfl] at hrest
    exact absurd hrest.symm (by simp)
  | cons c rest =>
    by_cases hc : c = '^'
    · subst hc
      have hrest' : rest = name ++ ':' :: ']' :: r := hrest
      refine ⟨':' :: '^' :: (name ++ [':']), by simp [hrest'], by simp [hparen], fun r' => ?_⟩
      have hsame := hname r'
      rw [← hsame]
      simp [posix?_colon, caret]
    · rw [caret_of_ne hc] at hrest hname
      refine ⟨':' :: (name ++ [':']), by simp [← hrest], by simp [hparen], fun r' => ?_⟩
      have hcaret : caret (name ++ ':' :: ']' :: r') = (false, name ++ ':' :: ']' :: r') := by
        cases name with
        | nil => rfl
        | cons d name =>
          rw [List.cons_append] at hrest
          exact caret_of_ne ((List.cons.inj hrest).1 ▸ hc) _
      have hsame := hname r'
      rw [← hsame]
      simp [posix?_colon, hcaret]

theorem posix_suffix {x : String × Bool} {r : List Char} (h : posix? cs = some (x, r)) : r <:+ cs := by
  obtain ⟨u, rfl, -, -⟩ := exists_of_posix h
  exact ⟨u ++ [']'], by simp⟩

theorem exact_posix (t t' w : List Char) : SameExact t t' (posix? (w ++ t)) (posix? (w ++ t')) := by
  intro x r h
  obtain ⟨u, hw, -, hsame⟩ := exists_of_posix h
  have hw' : w = u ++ ']' :: r := List.append_cancel_right (by simpa using hw)
  rw [hw', List.append_assoc]
  exact hsame (r ++ t')

/-- Where no name stands before the one ending, none does before the other. -/
theorem posix_none (h : Ends t t') {w : List Char} (hnone : posix? (w ++ t) = none) :
    posix? (w ++ t') = none := by
  refine Option.eq_none_iff_forall_ne_some.mpr fun ⟨x, r⟩ hsome => ?_
  obtain ⟨u, hw, hparen, hsame⟩ := exists_of_posix hsome
  rcases List.append_eq_append_iff.mp hw with ⟨a, hu, ht⟩ | ⟨v, hw', hr⟩
  · -- The parenthesis that starts the ending would be in the name.
    cases a with
    | nil => cases h.closes_target _ _ ht
    | cons c a =>
      obtain rfl := h.closes_target _ _ ht
      exact hparen (hu ▸ List.mem_append_right w List.mem_cons_self)
  · cases v with
    | nil => cases h.closes_target _ _ hr.symm
    | cons c v =>
      obtain ⟨rfl, rfl⟩ := List.cons.inj hr
      rw [hw', List.append_assoc, List.cons_append, hsame] at hnone
      cases hnone

/-! ## The opening of a class -/

theorem leadingHyphens_hyphen (fuel : Nat) (ms : Members) (cs : List Char) :
    leadingHyphens flags (fuel + 1) ms ('-' :: cs) =
      (flags.more? cs).bind (leadingHyphens flags fuel (ms.add (.single '-') 0)) := rfl

theorem leadingHyphens_of_ne (fuel : Nat) (ms : Members) (h : ∀ rest, cs ≠ '-' :: rest) :
    leadingHyphens flags (fuel + 1) ms cs = some (ms, cs) := by
  rw [leadingHyphens]
  exact h

theorem leaves_leadingHyphens (fuel : Nat) (ms : Members) (cs : List Char) :
    Leaves cs (leadingHyphens flags fuel ms cs) := by
  induction fuel generalizing ms cs with
  | zero => exact leaves_none
  | succ fuel ih =>
    by_cases hhyphen : ∃ rest, cs = '-' :: rest
    · obtain ⟨rest, rfl⟩ := hhyphen
      rw [leadingHyphens_hyphen]
      exact (Leaves.more (ih _) rest).cons.leaves
    · rw [leadingHyphens_of_ne fuel ms fun rest heq => hhyphen ⟨rest, heq⟩]
      exact leaves_some (List.suffix_refl cs)

theorem inside_leadingHyphens (h : Ends t t') {fuel fuel' : Nat} {w : List Char}
    (hfuel : (w ++ t').length < fuel') (ms : Members) :
    SameInside t t' (leadingHyphens flags fuel ms (w ++ t)) (leadingHyphens flags fuel' ms (w ++ t')) := by
  induction fuel generalizing fuel' w ms with
  | zero => exact exact_none.inside
  | succ fuel ih =>
    cases w with
    | nil => exact inside_of_leaves (leaves_leadingHyphens _ ms t)
    | cons c w =>
      obtain ⟨fuel', rfl⟩ : ∃ n, fuel' = n + 1 := ⟨fuel' - 1, by omega⟩
      rw [List.cons_append, List.length_cons] at hfuel
      rw [List.cons_append, List.cons_append]
      by_cases hc : c = '-'
      · subst hc
        rw [leadingHyphens_hyphen, leadingHyphens_hyphen]
        exact SameInside.more h (leaves_leadingHyphens fuel _) fun v hv => ih (by omega) _
      · rw [leadingHyphens_of_ne fuel ms fun rest heq => hc (List.cons.inj heq).1,
          leadingHyphens_of_ne fuel' ms fun rest heq => hc (List.cons.inj heq).1]
        exact (exact_some (w := c :: w)).inside

/-- A closing bracket that stands for itself because it comes first. -/
def firstBracket? (flags : Flags) (negated : Bool) (ms : Members) (cs : List Char) :
    Option ((Bool × Members) × List Char) :=
  match cs with
  | ']' :: rest =>
    if ms.count = 0 then
      (flags.more? rest).bind fun rest => some ((negated, ms.add (.single ']') 0), rest)
    else some ((negated, ms), cs)
  | cs => some ((negated, ms), cs)

/-- The opening of a class from after the sign of a negation. -/
def openAfter? (flags : Flags) (negated : Bool) (cs : List Char) :
    Option ((Bool × Members) × List Char) :=
  (leadingHyphens flags (cs.length + 1) .none cs).bind fun p => firstBracket? flags negated p.1 p.2

/-- The opening of a class from its first character on. -/
def openFrom? (flags : Flags) : List Char → Option ((Bool × Members) × List Char)
  | '^' :: rest => (flags.more? rest).bind (openAfter? flags true)
  | cs => openAfter? flags false cs

theorem openFrom?_of_ne (h : ∀ rest, cs ≠ '^' :: rest) :
    openFrom? flags cs = openAfter? flags false cs := by
  unfold openFrom?
  split
  · exact absurd rfl (h _)
  · rfl

theorem openClass?_eq (cs : List Char) :
    openClass? flags cs = (flags.more? cs).bind (openFrom? flags) := by
  refine congrArg (flags.more? cs).bind (funext fun cs => ?_)
  split
  · exact Option.bind_map
  · rename_i hne
    rw [openFrom?_of_ne hne]
    rfl

theorem leaves_firstBracket (negated : Bool) (ms : Members) (cs : List Char) :
    Leaves cs (firstBracket? flags negated ms cs) := by
  unfold firstBracket?
  split
  · split
    · exact (Leaves.more (fun cs => leaves_some (List.suffix_refl cs)) _).cons.leaves
    · exact leaves_some (List.suffix_refl _)
  · exact leaves_some (List.suffix_refl _)

theorem inside_firstBracket (h : Ends t t') (negated : Bool) (ms : Members) (w : List Char) :
    SameInside t t' (firstBracket? flags negated ms (w ++ t))
      (firstBracket? flags negated ms (w ++ t')) := by
  cases w with
  | nil => exact inside_of_leaves (leaves_firstBracket negated ms t)
  | cons c w =>
    rw [List.cons_append, List.cons_append]
    by_cases hc : c = ']'
    · subst hc
      simp only [firstBracket?]
      split
      · exact SameInside.more h (fun cs => leaves_some (List.suffix_refl cs)) fun _ _ => exact_some.inside
      · exact (exact_some (w := ']' :: w)).inside
    · have hother : ∀ rest, firstBracket? flags negated ms (c :: rest) =
          some ((negated, ms), c :: rest) := by
        intro rest
        unfold firstBracket?
        split
        · rename_i heq
          exact absurd (List.cons.inj heq).1 hc
        · rfl
      rw [hother, hother]
      exact (exact_some (w := c :: w)).inside

theorem leaves_openAfter (negated : Bool) (cs : List Char) :
    Leaves cs (openAfter? flags negated cs) :=
  (leaves_leadingHyphens _ _ cs).bind (leaves_firstBracket negated)

theorem inside_openAfter (h : Ends t t') (negated : Bool) (w : List Char) :
    SameInside t t' (openAfter? flags negated (w ++ t)) (openAfter? flags negated (w ++ t')) :=
  (inside_leadingHyphens h (Nat.lt_succ_self _) .none).bind (leaves_firstBracket negated)
    (inside_firstBracket h negated)

theorem leaves_openFrom (cs : List Char) : Leaves cs (openFrom? flags cs) := by
  unfold openFrom?
  split
  · exact (Leaves.more (leaves_openAfter true) _).cons.leaves
  · exact leaves_openAfter false _

theorem inside_openFrom (h : Ends t t') (w : List Char) :
    SameInside t t' (openFrom? flags (w ++ t)) (openFrom? flags (w ++ t')) := by
  cases w with
  | nil => exact inside_of_leaves (leaves_openFrom t)
  | cons c w =>
    by_cases hc : c = '^'
    · subst hc
      exact SameInside.more h (leaves_openAfter true) fun v _ => inside_openAfter h true v
    · rw [List.cons_append, List.cons_append,
        openFrom?_of_ne fun rest heq => hc (List.cons.inj heq).1,
        openFrom?_of_ne fun rest heq => hc (List.cons.inj heq).1]
      exact inside_openAfter h false (c :: w)

theorem leaves_openClass (cs : List Char) : Leaves cs (openClass? flags cs) := by
  rw [openClass?_eq]
  exact Leaves.more leaves_openFrom cs

theorem inside_openClass (h : Ends t t') (w : List Char) :
    SameInside t t' (openClass? flags (w ++ t)) (openClass? flags (w ++ t')) := by
  rw [openClass?_eq, openClass?_eq]
  exact SameInside.more h leaves_openFrom fun v _ => inside_openFrom h v

/-! ## Members -/

/-- Whatever is found before the ending is found whatever the ending is. -/
theorem peekPast_append (h : ∀ c rest, t = c :: rest → c = ')') (comment : Bool) (w : List Char) :
    peekPast comment (w ++ t) = peekPast comment w ∨
      peekPast comment w = none ∧ peekPast comment (w ++ t) = some ')' := by
  induction w generalizing comment with
  | nil =>
    cases t with
    | nil => exact .inl rfl
    | cons c rest =>
      obtain rfl := h c rest rfl
      refine .inr ⟨by cases comment <;> rfl, ?_⟩
      cases comment <;> rfl
  | cons c w ih =>
    rw [List.cons_append, peekPast, peekPast]
    split
    · exact ih comment
    · split
      · exact ih true
      · exact .inl rfl

theorem head_of_peekPast {c : Char} {cs : List Char} (h : peekPast false (c :: cs) = none) :
    isBlank c = true ∨ c = '#' := by
  rw [peekPast] at h
  split at h
  · rename_i hblank
    exact .inl hblank
  · split at h
    · rename_i hsign
      exact .inr (by simpa using hsign)
    · cases h

/-- Whether a hyphen or a closing bracket comes next does not depend on the ending. -/
theorem peek_append (h : ∀ c rest, t = c :: rest → c = ')') {x : Char} (hx : x = ']' ∨ x = '-')
    (w : List Char) : flags.peek (w ++ t) = some x ↔ flags.peek w = some x := by
  have hclose : some ')' ≠ some x := by
    rcases hx with rfl | rfl
    · decide
    · decide
  have hhead : (w ++ t).head? = some x ↔ w.head? = some x := by
    cases w with
    | nil =>
      refine iff_of_false (fun heq => ?_) nofun
      cases t with
      | nil => cases heq
      | cons c rest => exact hclose (h c rest rfl ▸ heq)
    | cons c w => exact Iff.rfl
  rw [Flags.peek, Flags.peek]
  split
  · rcases peekPast_append h false w with hsame | ⟨hnone, hsome⟩
    · rw [hsame]
      cases peekPast false w with
      | none => exact hhead
      | some c => exact Iff.rfl
    · rw [hsome, hnone]
      refine iff_of_false hclose fun heq => ?_
      cases w with
      | nil => cases heq
      | cons c w =>
        cases heq
        rcases head_of_peekPast hnone with hblank | rfl
        · rcases hx with rfl | rfl
          · exact absurd hblank (by decide)
          · exact absurd hblank (by decide)
        · rcases hx with hx | hx
          · cases hx
          · cases hx
  · exact hhead

theorem peek_eq (h : Ends t t') {x : Char} (hx : x = ']' ∨ x = '-') (w : List Char) :
    (flags.peek (w ++ t') == some x) = (flags.peek (w ++ t) == some x) := by
  rw [Bool.eq_iff_iff, beq_iff_eq, beq_iff_eq, peek_append h.closes_target hx,
    peek_append h.closes hx]

/-- The range between two items, which have to be characters. -/
def range? (flags : Flags) : Item → Item → Option CharClass
  | .literal lo _, .literal hi _ => do
    let lo ← flags.member? lo
    let hi ← flags.member? hi
    if lo ≤ hi then some (.range lo.toNat hi.toNat) else none
  | _, _ => none

/-- A range after its hyphen, or the item before the hyphen alone. -/
def afterHyphen? (flags : Flags) (first : Item) (cs : List Char) :
    Option (CharClass × List Char) :=
  if flags.peek cs == some ']' || flags.peek cs == some '-' then
    (flags.class? first).map (·, '-' :: cs)
  else
    (flags.more? cs).bind fun cs =>
      (bracketItem? flags cs).bind fun p => (range? flags first p.1).map (·, p.2)

/-- A member after its first item. -/
def afterItem? (flags : Flags) (first : Item) : List Char → Option (CharClass × List Char)
  | '-' :: cs => afterHyphen? flags first cs
  | cs => (flags.class? first).map (·, cs)

theorem range?_map (first second : Item) (r : List Char) :
    (match first, second with
      | .literal lo _, .literal hi _ => do
        let lo ← flags.member? lo
        let hi ← flags.member? hi
        if lo ≤ hi then some (CharClass.range lo.toNat hi.toNat, r) else none
      | _, _ => none) = (range? flags first second).map (·, r) := by
  unfold range?
  split
  · rename_i lo _ hi _
    cases flags.member? lo with
    | none => rfl
    | some lo =>
      cases flags.member? hi with
      | none => rfl
      | some hi =>
        dsimp only [bind, Option.bind_some]
        split
        · rfl
        · rfl
  · rfl

theorem afterItem?_of_ne (first : Item) (h : ∀ rest, cs ≠ '-' :: rest) :
    afterItem? flags first cs = (flags.class? first).map (·, cs) := by
  unfold afterItem?
  split
  · exact absurd rfl (h _)
  · rfl

theorem member?_eq (cs : List Char) :
    member? flags cs = (bracketItem? flags cs).bind fun p =>
      (flags.more? p.2).bind (afterItem? flags p.1) := by
  refine congrArg (bracketItem? flags cs).bind (funext fun p => ?_)
  refine congrArg (flags.more? p.2).bind (funext fun cs => ?_)
  split
  · rename_i after
    show _ = afterHyphen? flags p.1 after
    unfold afterHyphen?
    split
    · rfl
    · refine congrArg (flags.more? after).bind (funext fun cs => ?_)
      refine congrArg (bracketItem? flags cs).bind (funext fun q => ?_)
      exact range?_map p.1 q.1 q.2
  · rename_i hne
    exact (afterItem?_of_ne p.1 hne).symm

theorem range?_look (first : Item) (condition : Look) :
    range? flags first (.look condition) = none := by
  cases first with
  | _ => rfl

theorem leaves_rangeEnd (first : Item) (cs : List Char) :
    Leaves cs ((bracketItem? flags cs).bind fun p => (range? flags first p.1).map (·, p.2)) :=
  (consumes_bracketItem cs).leaves.bind fun _ r => leaves_map (List.suffix_refl r)

theorem leaves_afterHyphen (first : Item) (cs : List Char) :
    Leaves ('-' :: cs) (afterHyphen? flags first cs) := by
  unfold afterHyphen?
  split
  · exact leaves_map (List.suffix_refl _)
  · exact (Leaves.more (leaves_rangeEnd first) cs).cons.leaves

theorem inside_afterHyphen (h : Ends t t') (first : Item) (w : List Char) :
    SameInside t t' (afterHyphen? flags first (w ++ t)) (afterHyphen? flags first (w ++ t')) := by
  unfold afterHyphen?
  rw [peek_eq h (.inl rfl), peek_eq h (.inr rfl)]
  split
  · exact (exact_map (w := '-' :: w)).inside
  · refine SameInside.more h (leaves_rangeEnd first) fun v _ => ?_
    refine (sameItem_bracketItem h v).bind (fun _ r => leaves_map (List.suffix_refl r)) ?_
      fun _ _ => exact_map.inside
    intro condition r
    dsimp only
    rw [range?_look]
    rfl

theorem leaves_afterItem (first : Item) (cs : List Char) :
    Leaves cs (afterItem? flags first cs) := by
  unfold afterItem?
  split
  · exact leaves_afterHyphen first _
  · exact leaves_map (List.suffix_refl cs)

theorem inside_afterItem (h : Ends t t') (first : Item) (w : List Char) :
    SameInside t t' (afterItem? flags first (w ++ t)) (afterItem? flags first (w ++ t')) := by
  cases w with
  | nil => exact inside_of_leaves (leaves_afterItem first t)
  | cons c w =>
    by_cases hc : c = '-'
    · subst hc
      exact inside_afterHyphen h first w
    · rw [List.cons_append, List.cons_append,
        afterItem?_of_ne first fun rest heq => hc (List.cons.inj heq).1,
        afterItem?_of_ne first fun rest heq => hc (List.cons.inj heq).1]
      exact (exact_map (w := c :: w)).inside

theorem afterItem?_look (condition : Look) (cs : List Char) :
    afterItem? flags (.look condition) cs = none := by
  unfold afterItem?
  split
  · unfold afterHyphen?
    split
    · rfl
    · refine Option.eq_none_iff_forall_ne_some.mpr fun x hx => ?_
      obtain ⟨cs, -, hx⟩ := Option.bind_eq_some_iff.mp hx
      obtain ⟨p, -, hx⟩ := Option.bind_eq_some_iff.mp hx
      cases hx
  · rfl

theorem consumes_member (cs : List Char) : Consumes cs (member? flags cs) := by
  rw [member?_eq]
  exact (consumes_bracketItem cs).bind fun first => Leaves.more (leaves_afterItem first)

theorem inside_member (h : Ends t t') (w : List Char) :
    SameInside t t' (member? flags (w ++ t)) (member? flags (w ++ t')) := by
  rw [member?_eq, member?_eq]
  refine (sameItem_bracketItem h w).bind (fun first => Leaves.more (leaves_afterItem first)) ?_
    fun first w => SameInside.more h (leaves_afterItem first) fun v _ => inside_afterItem h first v
  intro condition r
  refine Option.eq_none_iff_forall_ne_some.mpr fun x hx => ?_
  obtain ⟨cs, -, hx⟩ := Option.bind_eq_some_iff.mp hx
  rw [afterItem?_look] at hx
  cases hx

/-! ## Whole classes -/

/-- How a class is read on. -/
abbrev ReadOn := Bool → Pending → Members → List Char → Option ((CharClass × Nat) × List Char)

/-- The operation on classes that two characters mean. -/
def setOpOf? : Char → Char → Option SetOp
  | '&', '&' => some .intersection
  | '-', '-' => some .difference
  | '~', '~' => some .symmetricDifference
  | _, _ => none

/-- The operation at the front, and what follows it. -/
def setOp? : List Char → Option (SetOp × List Char)
  | c :: d :: rest => (setOpOf? c d).map (·, rest)
  | _ => none

theorem setOp?_append (h : ∀ c rest, t = c :: rest → c = ')') (c : Char) (w : List Char) :
    setOp? (c :: w ++ t) = (setOp? (c :: w)).map fun p => (p.1, p.2 ++ t) := by
  cases w with
  | nil =>
    cases t with
    | nil => rfl
    | cons d rest =>
      obtain rfl := h d rest rfl
      have hnone : setOpOf? c ')' = none := by
        unfold setOpOf?
        split <;> first
          | rfl
          | rename_i heq; cases heq
      simp [setOp?, hnone]
  | cons d w =>
    rw [List.cons_append, List.cons_append, setOp?, setOp?]
    cases setOpOf? c d with
    | none => rfl
    | some op => rfl

theorem setOp?_suffix {op : SetOp} {r : List Char} (h : setOp? cs = some (op, r)) :
    r.length < cs.length ∧ r <:+ cs := by
  unfold setOp? at h
  split at h
  · rename_i c d rest
    cases hop : setOpOf? c d with
    | none =>
      rw [hop] at h
      cases h
    | some op' =>
      rw [hop] at h
      cases h
      exact ⟨Nat.lt_succ_of_lt (Nat.lt_succ_self _), (List.suffix_cons d _).trans (List.suffix_cons c _)⟩
  · cases h

/-- A class, a name or an operation in a class, from after an opening bracket. -/
def nested? (flags : Flags) (readOn : ReadOn) (negated : Bool) (pending : Pending) (ms : Members)
    (cs : List Char) : Option ((CharClass × Nat) × List Char) :=
  match posix? cs with
  | some ((name, not), rest) =>
    (flags.negate? not (flags.fold (posixClass name))).bind fun cls =>
      readOn negated pending (ms.add cls 0) rest
  | none =>
    (openClass? flags cs).bind fun p => (readOn p.1.1 none p.1.2 p.2).bind fun q =>
      readOn negated pending (ms.add q.1.1 (q.1.2 + 1)) q.2

/-- The class at its closing bracket. -/
def closed? (flags : Flags) (negated : Bool) (pending : Pending) (ms : Members) :
    Option (CharClass × Nat) :=
  (flags.negate? negated (flags.fold (finish flags pending ms).1)).map
    (·, (finish flags pending ms).2)

/-- A class from its next character that counts on. -/
def bracketsFrom? (flags : Flags) (readOn : ReadOn) (negated : Bool) (pending : Pending)
    (ms : Members) : List Char → Option ((CharClass × Nat) × List Char)
  | [] => none
  | '[' :: rest => nested? flags readOn negated pending ms rest
  | ']' :: rest => (closed? flags negated pending ms).map (·, rest)
  | cs =>
    match setOp? cs with
    | some (op, rest) =>
      readOn negated (some ((finish flags pending ms).1, (finish flags pending ms).2, op)) .none rest
    | none => (member? flags cs).bind fun p => readOn negated pending (ms.add p.1 0) p.2

theorem brackets?_succ (fuel : Nat) (negated : Bool) (pending : Pending) (ms : Members)
    (cs : List Char) :
    brackets? flags (fuel + 1) negated pending ms cs =
      bracketsFrom? flags (brackets? flags fuel) negated pending ms (flags.skip cs) := by
  rw [brackets?]
  unfold bracketsFrom?
  generalize flags.skip cs = cs
  dsimp only
  split
  · rfl
  · rfl
  · rw [closed?]
    cases flags.negate? negated (flags.fold (finish flags pending ms).1) with
    | none => rfl
    | some cls => rfl
  · rfl
  · rfl
  · rfl
  · rename_i hnil hopen hclose hand hminus htilde
    have hop : setOp? cs = none := by
      unfold setOp?
      split
      · unfold setOpOf?
        split
        · exact (hand _ rfl).elim
        · exact (hminus _ rfl).elim
        · exact (htilde _ rfl).elim
        · rfl
      · rfl
    split
    · exact (hnil rfl).elim
    · exact (hopen _ rfl).elim
    · exact (hclose _ rfl).elim
    · rw [hop]
      rfl

theorem bracketsFrom?_of_ne {readOn : ReadOn} {negated : Bool} {pending : Pending} {ms : Members}
    {c : Char} (hopen : c ≠ '[') (hclose : c ≠ ']') (cs : List Char) :
    bracketsFrom? flags readOn negated pending ms (c :: cs) =
      match setOp? (c :: cs) with
      | some (op, rest) =>
        readOn negated (some ((finish flags pending ms).1, (finish flags pending ms).2, op)) .none rest
      | none => (member? flags (c :: cs)).bind fun p => readOn negated pending (ms.add p.1 0) p.2 := by
  unfold bracketsFrom?
  split
  · rename_i heq
    cases heq
  · rename_i heq
    exact absurd (List.cons.inj heq).1 hopen
  · rename_i heq
    exact absurd (List.cons.inj heq).1 hclose
  · rfl

section ReadOn

variable {readOn readOn' : ReadOn} {negated : Bool} {pending : Pending} {ms : Members}

theorem leaves_nested (hread : ∀ negated pending ms cs, Leaves cs (readOn negated pending ms cs))
    (cs : List Char) : Leaves cs (nested? flags readOn negated pending ms cs) := by
  unfold nested?
  split
  · rename_i hposix
    intro x r hx
    obtain ⟨cls, -, hx⟩ := Option.bind_eq_some_iff.mp hx
    exact (hread _ _ _ _ x r hx).trans (posix_suffix hposix)
  · exact (leaves_openClass cs).bind fun _ r => (hread _ _ _ r).bind fun _ r => hread _ _ _ r

theorem consumes_bracketsFrom
    (hread : ∀ negated pending ms cs, Leaves cs (readOn negated pending ms cs)) (cs : List Char) :
    Consumes cs (bracketsFrom? flags readOn negated pending ms cs) := by
  cases cs with
  | nil => exact consumes_none
  | cons c cs =>
    by_cases hopen : c = '['
    · subst hopen
      exact (leaves_nested hread cs).cons
    · by_cases hclose : c = ']'
      · subst hclose
        exact (leaves_map (List.suffix_refl cs)).cons
      · rw [bracketsFrom?_of_ne hopen hclose]
        split
        · rename_i hop
          obtain ⟨hlength, hsuffix⟩ := setOp?_suffix hop
          intro x r hx
          have hleft := hread _ _ _ _ x r hx
          exact ⟨hleft.trans hsuffix, Nat.lt_of_le_of_lt hleft.length_le hlength⟩
        · exact (consumes_member (c :: cs)).bind fun _ r => hread _ _ _ r

theorem exact_nested (h : Ends t t') {w : List Char}
    (hread : ∀ negated pending ms cs, Consumes cs (readOn negated pending ms cs))
    (hread' : ∀ negated pending ms cs, Leaves cs (readOn' negated pending ms cs))
    (hexact : ∀ negated pending ms v, (v ++ t').length ≤ (w ++ t').length →
      SameExact t t' (readOn negated pending ms (v ++ t)) (readOn' negated pending ms (v ++ t'))) :
    SameExact t t' (nested? flags readOn negated pending ms (w ++ t))
      (nested? flags readOn' negated pending ms (w ++ t')) := by
  unfold nested?
  cases hposix : posix? (w ++ t) with
  | some p =>
    obtain ⟨⟨name, not⟩, rest⟩ := p
    intro x r hx
    obtain ⟨cls, hcls, hx⟩ := Option.bind_eq_some_iff.mp hx
    obtain ⟨u, rfl⟩ := exists_of_leaves (hread _ _ _ _ x _ hx).1
    have hposix' := exact_posix t t' w _ (u ++ r) hposix
    rw [hposix']
    dsimp only
    rw [hcls]
    exact hexact _ _ _ _ (posix_suffix hposix').length_le x r hx
  | none =>
    rw [posix_none h hposix]
    refine (inside_openClass h w).bind_exact
      (fun _ r => (hread _ _ _ r).bind fun _ r => (hread _ _ _ r).leaves) fun p v hopen => ?_
    have hlength := (leaves_openClass _ _ _ hopen).length_le
    refine (hexact _ _ _ v hlength).bind (fun _ r => (hread _ _ _ r).leaves) fun q v' hinner => ?_
    exact hexact _ _ _ v' ((hread' _ _ _ _ _ _ hinner).length_le.trans hlength)

theorem exact_bracketsFrom (h : Ends t t') {w : List Char}
    (hread : ∀ negated pending ms cs, Consumes cs (readOn negated pending ms cs))
    (hread' : ∀ negated pending ms cs, Leaves cs (readOn' negated pending ms cs))
    (hexact : ∀ negated pending ms v, (v ++ t').length < (w ++ t').length →
      SameExact t t' (readOn negated pending ms (v ++ t)) (readOn' negated pending ms (v ++ t'))) :
    SameExact t t' (bracketsFrom? flags readOn negated pending ms (w ++ t))
      (bracketsFrom? flags readOn' negated pending ms (w ++ t')) := by
  cases w with
  | nil =>
    exact exact_of_consumes
      (consumes_bracketsFrom (fun _ _ _ cs => (hread _ _ _ cs).leaves) t)
  | cons c w =>
    rw [List.cons_append, List.length_cons] at hexact
    by_cases hopen : c = '['
    · subst hopen
      exact exact_nested h hread hread' fun _ _ _ v hv => hexact _ _ _ v (Nat.lt_succ_of_le hv)
    · by_cases hclose : c = ']'
      · subst hclose
        exact exact_map
      · rw [List.cons_append, List.cons_append, bracketsFrom?_of_ne hopen hclose,
          bracketsFrom?_of_ne hopen hclose, ← List.cons_append, ← List.cons_append,
          setOp?_append h.closes, setOp?_append h.closes_target]
        cases hop : setOp? (c :: w) with
        | some p =>
          have hlength := (setOp?_suffix hop).1
          exact hexact _ _ _ p.2 (by
            rw [List.length_append, List.length_append]
            rw [List.length_cons] at hlength
            omega)
        | none =>
          refine (inside_member h (c :: w)).bind_exact (fun _ r => hread _ _ _ r) fun _ v hmember => ?_
          have hlength := (consumes_member _ _ _ hmember).2
          exact hexact _ _ _ v hlength

end ReadOn

theorem consumes_brackets (fuel : Nat) (negated : Bool) (pending : Pending) (ms : Members)
    (cs : List Char) : Consumes cs (brackets? flags fuel negated pending ms cs) := by
  induction fuel generalizing negated pending ms cs with
  | zero => exact consumes_none
  | succ fuel ih =>
    rw [brackets?_succ]
    intro x r hx
    obtain ⟨hleft, hlength⟩ :=
      consumes_bracketsFrom (fun negated pending ms cs => (ih negated pending ms cs).leaves) _ x r hx
    have hskip := skip_suffix flags cs
    exact ⟨hleft.trans hskip, Nat.lt_of_lt_of_le hlength hskip.length_le⟩

/-- A class that is read before the one ending is read before the other too. -/
theorem exact_brackets (h : Ends t t') {fuel fuel' : Nat} {w : List Char}
    (hfuel : (w ++ t').length < fuel') (negated : Bool) (pending : Pending) (ms : Members) :
    SameExact t t' (brackets? flags fuel negated pending ms (w ++ t))
      (brackets? flags fuel' negated pending ms (w ++ t')) := by
  induction fuel generalizing fuel' w negated pending ms with
  | zero => exact exact_none
  | succ fuel ih =>
    obtain ⟨fuel', rfl⟩ : ∃ n, fuel' = n + 1 := ⟨fuel' - 1, by omega⟩
    rw [brackets?_succ, brackets?_succ]
    intro x r hx
    have hconsumes : Consumes (flags.skip (w ++ t))
        (bracketsFrom? flags (brackets? flags fuel) negated pending ms (flags.skip (w ++ t))) :=
      consumes_bracketsFrom (fun _ _ _ cs => (consumes_brackets fuel _ _ _ cs).leaves) _
    obtain ⟨u, hu, hne⟩ := hconsumes.exists_append hx
    rcases same_skip h flags () w () (u ++ r) (by rw [hu]) with hsame | ⟨hnil, -⟩
    · have hskip := (Prod.mk.inj (Option.some.inj hsame)).2
      have hle : (u ++ r ++ t').length ≤ (w ++ t').length := hskip ▸ (skip_suffix flags _).length_le
      rw [hskip]
      rw [hu] at hx
      refine exact_bracketsFrom h (consumes_brackets fuel)
        (fun negated pending ms cs => (consumes_brackets fuel' negated pending ms cs).leaves)
        (fun _ _ _ v hv => ih (by omega) _ _ _) x r hx
    · exact absurd hnil hne

end SeriesQuery.Regex
