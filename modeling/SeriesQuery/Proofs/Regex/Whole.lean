/-
Whole patterns before an ending. What is read before the end of the text or
a closing parenthesis is the same part of a pattern wherever the one or the
other comes (`same_readAt`), unless a comment of verbose mode takes what
follows for its own.
-/
import SeriesQuery.Proofs.Regex.Bracket
import SeriesQuery.Proofs.Regex.Bound

namespace SeriesQuery.Regex

variable {flags : Flags} {t t' cs : List Char}

/-! ## One step -/

/-- What is told of a part that was read: the part, with the flags and names after it. -/
abbrev Told := Part × Flags × List String

/-- How a pattern is read on. -/
abbrev ReadRest :=
  Flags → List String → List Part → List Element → List Char → Option (Told × List Char)

/-- A state taken apart. -/
def apart (p : Part × State) : Told × List Char := ((p.1, p.2.flags, p.2.names), p.2.rest)

/-- The reader of patterns, its state taken apart. -/
def readAt? (fuel : Nat) : ReadRest := fun flags names branches elements cs =>
  (read? fuel ⟨cs, flags, names⟩ branches elements).map apart

section Step

variable (readRest : ReadRest) (flags : Flags) (names : List String) (branches : List Part)
  (elements : List Element)

/-- The end of the last branch. -/
def told : Told := (choice (sequence elements) branches, flags, names)

/-- What comes after a sign of repetition. -/
def afterRepeat? (least : Nat) (most : Option Nat) (cs : List Char) : Option (Told × List Char) :=
  (repeatLast least most elements).bind fun elements => readRest flags names branches elements cs

/-- A class in brackets, from after its opening bracket. -/
def bracketed? (cs : List Char) : Option ((CharClass × Nat) × List Char) :=
  (openClass? flags cs).bind fun p => brackets? flags (p.2.length + 1) p.1.1 none p.1.2 p.2

/-- The names given, with that of one more group, which must be new. -/
def addName? : Option String → Option (List String)
  | none => some names
  | some name => if names.contains name then none else some (name :: names)

/-- What comes after the body of a group. -/
def afterBody? (body : Told) : List Char → Option (Told × List Char)
  | ')' :: rest =>
    readRest flags body.2.2 branches (some ⟨body.1.node, body.1.depth + 1⟩ :: elements) rest
  | _ => none

/-- A group from after its opening. -/
def afterOpening? (opening : Opening) (cs : List Char) : Option (Told × List Char) :=
  match opening with
  | .change letters => readRest (flags.setAll letters) names branches (none :: elements) cs
  | .body letters name =>
    (addName? names name).bind fun names => (readRest (flags.setAll letters) names [] [] cs).bind
      fun p => afterBody? readRest flags branches elements p.1 p.2

/-- A pattern from an item on. -/
def element? (item : Item) (cs : List Char) : Option (Told × List Char) :=
  (flags.node? item).bind fun node =>
    readRest flags names branches (some ⟨node, 0⟩ :: elements) cs

/-- A pattern from its next character that counts on. -/
def readFrom? : List Char → Option (Told × List Char)
  | [] => some (told flags names branches elements, [])
  | ')' :: rest => some (told flags names branches elements, ')' :: rest)
  | '|' :: rest => readRest flags names (sequence elements :: branches) [] rest
  | '(' :: rest =>
    (opening? (flags.skip rest)).bind fun p =>
      afterOpening? readRest flags names branches elements p.1 p.2
  | '[' :: rest =>
    (bracketed? flags rest).bind fun p =>
      readRest flags names branches (some ⟨.one p.1.1, p.1.2 + 1⟩ :: elements) p.2
  | '?' :: rest => afterRepeat? readRest flags names branches elements 0 (some 1) (dropLazy rest)
  | '*' :: rest => afterRepeat? readRest flags names branches elements 0 none (dropLazy rest)
  | '+' :: rest => afterRepeat? readRest flags names branches elements 1 none (dropLazy rest)
  | '\x7b' :: rest =>
    (bounds? flags rest).bind fun p =>
      afterRepeat? readRest flags names branches elements p.1.1 p.1.2 p.2
  | cs =>
    (item? flags cs).bind fun p => element? readRest flags names branches elements p.1 p.2

end Step

/-- The characters that start more than an item. -/
def signs : List Char := [')', '|', '(', '[', '?', '*', '+', '\x7b']

theorem readFrom?_of_not_mem_signs {readRest : ReadRest} {names : List String}
    {branches : List Part} {elements : List Element} {c : Char} (hc : c ∉ signs) (cs : List Char) :
    readFrom? readRest flags names branches elements (c :: cs) =
      (item? flags (c :: cs)).bind fun p =>
        element? readRest flags names branches elements p.1 p.2 := by
  have hne : ∀ d ∈ signs, ∀ rest, c :: cs ≠ d :: rest :=
    fun d hd rest heq => hc ((List.cons.inj heq).1 ▸ hd)
  unfold readFrom?
  split
  · rename_i heq
    cases heq
  · rename_i heq
    exact absurd heq (hne _ (by decide) _)
  · rename_i heq
    exact absurd heq (hne _ (by decide) _)
  · rename_i heq
    exact absurd heq (hne _ (by decide) _)
  · rename_i heq
    exact absurd heq (hne _ (by decide) _)
  · rename_i heq
    exact absurd heq (hne _ (by decide) _)
  · rename_i heq
    exact absurd heq (hne _ (by decide) _)
  · rename_i heq
    exact absurd heq (hne _ (by decide) _)
  · rename_i heq
    exact absurd heq (hne _ (by decide) _)
  · rfl

section Read

variable (fuel : Nat) (flags : Flags) (names : List String) (branches : List Part)
  (elements : List Element)

theorem repeat_apart (least : Nat) (most : Option Nat) (cs : List Char) :
    ((repeatLast least most elements).bind fun elements =>
        read? fuel ⟨cs, flags, names⟩ branches elements).map apart =
      afterRepeat? (readAt? fuel) flags names branches elements least most cs :=
  Option.map_bind

theorem body_apart (flags' : Flags) (cs : List Char) :
    ((read? fuel ⟨cs, flags', names⟩ [] []).bind fun p =>
        match p.2.rest with
        | ')' :: rest =>
          read? fuel ⟨rest, flags, p.2.names⟩ branches
            (some ⟨p.1.node, p.1.depth + 1⟩ :: elements)
        | _ => none).map apart =
      (readAt? fuel flags' names [] [] cs).bind fun p =>
        afterBody? (readAt? fuel) flags branches elements p.1 p.2 := by
  rw [Option.map_bind, readAt?, Option.bind_map]
  refine congrArg (read? fuel _ [] []).bind (funext fun p => ?_)
  obtain ⟨part, rest, flags', names⟩ := p
  dsimp only [Function.comp_apply, apart]
  unfold afterBody?
  split
  · rfl
  · rfl

theorem group_apart (p : Opening × List Char) :
    (match p with
      | (.change letters, rest) =>
        read? fuel ⟨rest, flags.setAll letters, names⟩ branches (none :: elements)
      | (.body letters name, rest) => do
        let names ← match name with
          | none => some names
          | some name => if names.contains name then none else some (name :: names)
        let (part, inner) ← read? fuel ⟨rest, flags.setAll letters, names⟩ [] []
        match inner.rest with
        | ')' :: rest =>
          read? fuel ⟨rest, flags, inner.names⟩ branches
            (some ⟨part.node, part.depth + 1⟩ :: elements)
        | _ => none).map apart =
      afterOpening? (readAt? fuel) flags names branches elements p.1 p.2 := by
  obtain ⟨opening, rest⟩ := p
  cases opening with
  | change letters => rfl
  | body letters name =>
    have hbody := fun names => body_apart fuel flags names branches elements (flags.setAll letters) rest
    cases name with
    | none => exact hbody names
    | some name =>
      simp only [afterOpening?, addName?]
      split
      · rfl
      · exact hbody (name :: names)

theorem readAt?_succ (cs : List Char) :
    readAt? (fuel + 1) flags names branches elements cs =
      readFrom? (readAt? fuel) flags names branches elements (flags.skip cs) := by
  rw [readAt?, read?]
  generalize flags.skip cs = cs
  dsimp only
  split
  · rfl
  · rfl
  · rfl
  · rename_i rest
    refine Option.map_bind.trans (congrArg (opening? (flags.skip rest)).bind (funext fun p => ?_))
    exact group_apart fuel flags names branches elements p
  · rename_i rest
    show _ = (bracketed? flags rest).bind _
    rw [bracketed?, Option.bind_assoc]
    refine Option.map_bind.trans (congrArg (openClass? flags rest).bind (funext fun p => ?_))
    exact Option.map_bind
  · exact repeat_apart fuel flags names branches elements 0 (some 1) _
  · exact repeat_apart fuel flags names branches elements 0 none _
  · exact repeat_apart fuel flags names branches elements 1 none _
  · rename_i rest
    refine Option.map_bind.trans (congrArg (bounds? flags rest).bind (funext fun p => ?_))
    exact repeat_apart fuel flags names branches elements p.1.1 p.1.2 p.2
  · rename_i hnil hclose hbar hopen hbracket hquestion hstar hplus hbrace
    cases cs with
    | nil => exact (hnil rfl).elim
    | cons c cs =>
      have hc : c ∉ signs := by
        intro hc
        simp only [signs, List.mem_cons, List.not_mem_nil, or_false] at hc
        rcases hc with rfl | rfl | rfl | rfl | rfl | rfl | rfl | rfl
        · exact hclose _ rfl
        · exact hbar _ rfl
        · exact hopen _ rfl
        · exact hbracket _ rfl
        · exact hquestion _ rfl
        · exact hstar _ rfl
        · exact hplus _ rfl
        · exact hbrace _ rfl
      rw [readFrom?_of_not_mem_signs hc]
      refine Option.map_bind.trans (congrArg (item? flags _).bind (funext fun p => ?_))
      exact Option.map_bind

end Read

/-! ## What is left -/

section Leaves

variable {readRest : ReadRest} {names : List String} {branches : List Part}
  {elements : List Element}

theorem leaves_afterRepeat
    (hread : ∀ flags names branches elements cs,
      Leaves cs (readRest flags names branches elements cs))
    (least : Nat) (most : Option Nat) (cs : List Char) :
    Leaves cs (afterRepeat? readRest flags names branches elements least most cs) := by
  rw [afterRepeat?]
  cases repeatLast least most elements with
  | none => exact leaves_none
  | some elements => exact hread _ _ _ _ cs

theorem consumes_afterBody
    (hread : ∀ flags names branches elements cs,
      Leaves cs (readRest flags names branches elements cs))
    (body : Told) (cs : List Char) :
    Consumes cs (afterBody? readRest flags branches elements body cs) := by
  unfold afterBody?
  split
  · exact (hread _ _ _ _ _).cons
  · exact consumes_none

theorem leaves_afterOpening
    (hread : ∀ flags names branches elements cs,
      Leaves cs (readRest flags names branches elements cs))
    (opening : Opening) (cs : List Char) :
    Leaves cs (afterOpening? readRest flags names branches elements opening cs) := by
  cases opening with
  | change letters => exact hread _ _ _ _ cs
  | body letters name =>
    rw [afterOpening?]
    cases addName? names name with
    | none => exact leaves_none
    | some names =>
      exact (hread _ names [] [] cs).bind fun body r => (consumes_afterBody hread body r).leaves

theorem leaves_element
    (hread : ∀ flags names branches elements cs,
      Leaves cs (readRest flags names branches elements cs))
    (item : Item) (cs : List Char) :
    Leaves cs (element? readRest flags names branches elements item cs) := by
  rw [element?]
  cases flags.node? item with
  | none => exact leaves_none
  | some node => exact hread _ _ _ _ cs

theorem consumes_bracketed (cs : List Char) : Consumes cs (bracketed? flags cs) :=
  (leaves_openClass cs).bind_consumes fun _ r => consumes_brackets _ _ _ _ r

theorem leaves_readFrom
    (hread : ∀ flags names branches elements cs,
      Leaves cs (readRest flags names branches elements cs))
    (cs : List Char) : Leaves cs (readFrom? readRest flags names branches elements cs) := by
  have hlazy : ∀ least most cs,
      Leaves cs (afterRepeat? readRest flags names branches elements least most (dropLazy cs)) :=
    fun least most cs x r hx =>
      (leaves_afterRepeat hread least most _ x r hx).trans (dropLazy_suffix cs)
  unfold readFrom?
  split
  · exact leaves_some (List.suffix_refl _)
  · exact leaves_some (List.suffix_refl _)
  · exact (hread _ _ _ _ _).cons.leaves
  · rename_i rest
    have hopening : Leaves rest (opening? (flags.skip rest)) :=
      fun x r hx => (leaves_opening _ x r hx).trans (skip_suffix flags rest)
    exact (hopening.bind (leaves_afterOpening hread)).cons.leaves
  · exact ((consumes_bracketed _).leaves.bind fun _ r => hread _ _ _ _ r).cons.leaves
  · exact (hlazy _ _ _).cons.leaves
  · exact (hlazy _ _ _).cons.leaves
  · exact (hlazy _ _ _).cons.leaves
  · exact ((leaves_bounds _).bind fun _ r => leaves_afterRepeat hread _ _ r).cons.leaves
  · exact (consumes_item _).leaves.bind (leaves_element hread)

end Leaves

theorem leaves_readAt (fuel : Nat) (flags : Flags) (names : List String) (branches : List Part)
    (elements : List Element) (cs : List Char) :
    Leaves cs (readAt? fuel flags names branches elements cs) := by
  induction fuel generalizing flags names branches elements cs with
  | zero => exact leaves_none
  | succ fuel ih =>
    rw [readAt?_succ]
    exact fun x r hx => (leaves_readFrom ih _ x r hx).trans (skip_suffix flags cs)

/-! ## The same before another ending -/

/-- Two ways to read on, of which the second reads texts shorter than `n` before the one ending as
the first does before the other. Neither goes on where a position has left its reader stuck. -/
structure ReadsOn (t t' : List Char) (n : Nat) (readRest readRest' : ReadRest) : Prop where
  leaves : ∀ flags names branches elements cs,
    Leaves cs (readRest flags names branches elements cs)
  leaves' : ∀ flags names branches elements cs,
    Leaves cs (readRest' flags names branches elements cs)
  same : ∀ flags names branches elements w, (w ++ t').length < n →
    Same t t' (readRest flags names branches elements (w ++ t))
      (readRest' flags names branches elements (w ++ t'))
  atEnd : 0 < n → ∀ flags names branches elements x,
    readRest flags names branches elements [] = some (x, []) →
      readRest' flags names branches elements [] = some (x, [])
  stuck : ∀ flags names branches elements u x r, Flags.skip flags (u ++ t) <:+ t →
    readRest flags names branches elements ('\x7b' :: u ++ t) ≠ some (x, r ++ t)

namespace ReadsOn

variable {n : Nat} {readRest readRest' : ReadRest} {names : List String} {branches : List Part}
  {elements : List Element} {w : List Char}

theorem afterRepeat (hr : ReadsOn t t' n readRest readRest') (hw : (w ++ t').length < n)
    (least : Nat) (most : Option Nat) :
    Same t t' (afterRepeat? readRest flags names branches elements least most (w ++ t))
      (afterRepeat? readRest' flags names branches elements least most (w ++ t')) := by
  rw [afterRepeat?, afterRepeat?]
  cases repeatLast least most elements with
  | none => exact exact_none.same
  | some elements => exact hr.same _ _ _ _ w hw

theorem afterRepeat_atEnd (hr : ReadsOn t t' n readRest readRest') (hn : 0 < n) {least : Nat}
    {most : Option Nat} {x : Told}
    (hx : afterRepeat? readRest flags names branches elements least most [] = some (x, [])) :
    afterRepeat? readRest' flags names branches elements least most [] = some (x, []) := by
  rw [afterRepeat?] at hx ⊢
  obtain ⟨elements, helements, hx⟩ := Option.bind_eq_some_iff.mp hx
  rw [helements]
  exact hr.atEnd hn _ _ _ _ x hx

theorem afterBody (hr : ReadsOn t t' n readRest readRest') (hw : (w ++ t').length < n) (body : Told) :
    Same t t' (afterBody? readRest flags branches elements body (w ++ t))
      (afterBody? readRest' flags branches elements body (w ++ t')) := by
  cases w with
  | nil => exact (exact_of_consumes (consumes_afterBody hr.leaves body t)).same
  | cons c w =>
    by_cases hc : c = ')'
    · subst hc
      exact hr.same _ _ _ _ w (Nat.lt_of_succ_lt hw)
    · intro x r hx
      simp [afterBody?, hc] at hx

theorem afterOpening (hr : ReadsOn t t' n readRest readRest') (hw : (w ++ t').length < n)
    (opening : Opening) :
    Same t t' (afterOpening? readRest flags names branches elements opening (w ++ t))
      (afterOpening? readRest' flags names branches elements opening (w ++ t')) := by
  cases opening with
  | change letters => exact hr.same _ _ _ _ w hw
  | body letters name =>
    rw [afterOpening?, afterOpening?]
    cases addName? names name with
    | none => exact exact_none.same
    | some names =>
      refine (hr.same (flags.setAll letters) names [] [] w hw).inside.bind_consumes
        (consumes_afterBody hr.leaves) fun body v hbody => ?_
      have hlength := (hr.leaves' _ _ _ _ _ _ _ hbody).length_le
      exact hr.afterBody (Nat.lt_of_le_of_lt hlength hw) body

theorem afterOpening_atEnd (hr : ReadsOn t t' n readRest readRest') (hn : 0 < n)
    {opening : Opening} {x : Told}
    (hx : afterOpening? readRest flags names branches elements opening [] = some (x, [])) :
    afterOpening? readRest' flags names branches elements opening [] = some (x, []) := by
  cases opening with
  | change letters => exact hr.atEnd hn _ _ _ _ x hx
  | body letters name =>
    obtain ⟨names, -, hx⟩ := Option.bind_eq_some_iff.mp hx
    obtain ⟨⟨body, r⟩, hbody, hx⟩ := Option.bind_eq_some_iff.mp hx
    -- The end of the text closes no group.
    obtain rfl := List.suffix_nil.mp (hr.leaves _ _ _ _ _ _ _ hbody)
    cases hx

theorem element (hr : ReadsOn t t' n readRest readRest') (hw : (w ++ t').length < n) (item : Item) :
    Same t t' (element? readRest flags names branches elements item (w ++ t))
      (element? readRest' flags names branches elements item (w ++ t')) := by
  rw [element?, element?]
  cases flags.node? item with
  | none => exact exact_none.same
  | some node => exact hr.same _ _ _ _ w hw

/-- An item and what follows it. -/
theorem item (h : Ends t t') (hr : ReadsOn t t' (w ++ t').length readRest readRest') :
    Same t t'
      ((item? flags (w ++ t)).bind fun p =>
        element? readRest flags names branches elements p.1 p.2)
      ((item? flags (w ++ t')).bind fun p =>
        element? readRest' flags names branches elements p.1 p.2) := by
  intro x r hx
  obtain ⟨item, u, ho, hx⟩ := exists_of_bind (leaves_element hr.leaves) hx
  rcases sameItem_item h w item (u ++ r) ho with ho' | ⟨hnil, rfl, ho'⟩ | ⟨⟨condition, rfl⟩, v, hv, hskip⟩
  · rw [ho']
    exact hr.element (consumes_item _ _ _ ho').2 item x r hx
  · obtain ⟨rfl, rfl⟩ := List.append_eq_nil_iff.mp hnil
    obtain ⟨node, hnode, hx⟩ := Option.bind_eq_some_iff.mp hx
    have hn : 0 < (w ++ t').length := by
      have hlength := (consumes_item _ _ _ ho).2
      rw [List.append_nil w] at hlength
      rw [List.length_append]
      omega
    refine .inr ⟨rfl, rfl, ?_⟩
    rw [ho', Option.bind_some, element?, hnode]
    exact hr.atEnd hn _ _ _ _ x hx
  · obtain ⟨node, -, hx⟩ := Option.bind_eq_some_iff.mp hx
    rw [hv] at hx
    exact absurd hx (hr.stuck _ _ _ _ v x r hskip)

theorem mono {m : Nat} (hr : ReadsOn t t' n readRest readRest') (hm : m ≤ n) :
    ReadsOn t t' m readRest readRest' where
  leaves := hr.leaves
  leaves' := hr.leaves'
  same _ _ _ _ w hw := hr.same _ _ _ _ w (Nat.lt_of_lt_of_le hw hm)
  atEnd hpos := hr.atEnd (Nat.lt_of_lt_of_le hpos hm)
  stuck := hr.stuck

end ReadsOn

theorem exact_bracketed (h : Ends t t') (w : List Char) :
    SameExact t t' (bracketed? flags (w ++ t)) (bracketed? flags (w ++ t')) :=
  (inside_openClass h w).bind_exact (fun _ r => consumes_brackets _ _ _ _ r)
    fun _ _ _ => exact_brackets h (Nat.lt_succ_self _) _ _ _

theorem readFrom?_of_closes {readRest : ReadRest} {names : List String} {branches : List Part}
    {elements : List Element} (h : ∀ c rest, t = c :: rest → c = ')') :
    readFrom? readRest flags names branches elements t =
      some (told flags names branches elements, t) := by
  cases t with
  | nil => rfl
  | cons c rest =>
    obtain rfl := h c rest rfl
    rfl

theorem same_readFrom (h : Ends t t') {readRest readRest' : ReadRest} {names : List String}
    {branches : List Part} {elements : List Element} {w : List Char}
    (hr : ReadsOn t t' (w ++ t').length readRest readRest') :
    Same t t' (readFrom? readRest flags names branches elements (w ++ t))
      (readFrom? readRest' flags names branches elements (w ++ t')) := by
  cases w with
  | nil =>
    rw [List.nil_append, List.nil_append, readFrom?_of_closes h.closes,
      readFrom?_of_closes h.closes_target]
    exact (exact_some (w := [])).same
  | cons c w =>
    have hlt : ∀ {v : List Char}, (v ++ t').length ≤ (w ++ t').length →
        (v ++ t').length < (c :: w ++ t').length := Nat.lt_succ_of_le
    have hpos : 0 < (c :: w ++ t').length := Nat.succ_pos _
    by_cases hc : c ∈ signs
    · have hlazy : ∀ least most, Same t t'
          (afterRepeat? readRest flags names branches elements least most (dropLazy (w ++ t)))
          (afterRepeat? readRest' flags names branches elements least most (dropLazy (w ++ t'))) := by
        intro least most
        refine (exact_dropLazy h () w).bind_same
          (g := fun p => afterRepeat? readRest flags names branches elements least most p.2)
          (k := fun p => afterRepeat? readRest' flags names branches elements least most p.2)
          (fun _ r => leaves_afterRepeat hr.leaves least most r) fun _ v hv => ?_
        have hlength := (dropLazy_suffix (w ++ t')).length_le
        rw [(Prod.mk.inj (Option.some.inj hv)).2] at hlength
        exact hr.afterRepeat (hlt hlength) least most
      simp only [signs, List.mem_cons, List.not_mem_nil, or_false] at hc
      rcases hc with rfl | rfl | rfl | rfl | rfl | rfl | rfl | rfl
      · exact (exact_some (w := ')' :: w)).same
      · exact hr.same _ _ _ _ w (hlt (Nat.le_refl _))
      · refine (Same.skip h leaves_opening (fun v => (exact_opening h v).same) w).bind_fuel
          (leaves_afterOpening hr.leaves) (fun opening v _ hopening => ?_)
          fun opening x => hr.afterOpening_atEnd hpos
        have hlength := (leaves_opening _ _ _ hopening).length_le
        exact hr.afterOpening (hlt (hlength.trans (skip_suffix flags _).length_le)) opening
      · refine (exact_bracketed h w).bind_same (fun _ r => hr.leaves _ _ _ _ r) fun cls v hcls => ?_
        exact hr.same _ _ _ _ v (hlt (consumes_bracketed _ _ _ hcls).1.length_le)
      · exact hlazy 0 (some 1)
      · exact hlazy 0 none
      · exact hlazy 1 none
      · refine (same_bounds h w).bind_fuel (fun _ r => leaves_afterRepeat hr.leaves _ _ r)
          (fun bounds v _ hbounds => ?_) fun _ x => hr.afterRepeat_atEnd hpos
        exact hr.afterRepeat (hlt (leaves_bounds _ _ _ hbounds).length_le) _ _
    · rw [List.cons_append, List.cons_append, readFrom?_of_not_mem_signs hc,
        readFrom?_of_not_mem_signs hc]
      exact ReadsOn.item (w := c :: w) h hr

/-- No bounds are read that lie before the ending when nothing before it counts. -/
theorem length_of_bounds {x : Nat × Option Nat} {r : List Char} (h : flags.skip cs <:+ t)
    (hbounds : bounds? flags cs = some (x, r)) : r.length < t.length := by
  rw [bounds?_eq] at hbounds
  obtain ⟨v, hmore, hbounds⟩ := Option.bind_eq_some_iff.mp hbounds
  obtain ⟨rfl, -⟩ := more?_eq_some_iff.mp hmore
  exact Nat.lt_of_lt_of_le (consumes_counts _ _ _ hbounds).2 h.length_le

theorem skip_brace (cs : List Char) : flags.skip ('\x7b' :: cs) = '\x7b' :: cs := by
  rw [Flags.skip]
  split
  · rfl
  · rfl

theorem readAt?_zero (flags : Flags) (names : List String) (branches : List Part)
    (elements : List Element) (cs : List Char) :
    readAt? 0 flags names branches elements cs = none := rfl

theorem readAt?_nil {fuel : Nat} {names : List String} {branches : List Part}
    {elements : List Element} :
    readAt? (fuel + 1) flags names branches elements [] =
      some (told flags names branches elements, []) := by
  have hskip : flags.skip [] = [] := List.suffix_nil.mp (skip_suffix flags [])
  rw [readAt?_succ, hskip]
  rfl

theorem stuck_readAt {fuel : Nat} {names : List String} {branches : List Part}
    {elements : List Element} {u r : List Char} {x : Told} (h : flags.skip (u ++ t) <:+ t) :
    readAt? fuel flags names branches elements ('\x7b' :: u ++ t) ≠ some (x, r ++ t) := by
  intro hx
  cases fuel with
  | zero => cases hx
  | succ fuel =>
    rw [readAt?_succ, List.cons_append, skip_brace] at hx
    obtain ⟨⟨bounds, r'⟩, hbounds, hx⟩ := Option.bind_eq_some_iff.mp hx
    have hleft := (leaves_afterRepeat (leaves_readAt fuel) _ _ _ x _ hx).length_le
    have hlength := length_of_bounds h hbounds
    rw [List.length_append] at hleft
    dsimp only at hleft
    omega

theorem readsOn_readAt (h : Ends t t') (fuel fuel' : Nat) :
    ReadsOn t t' fuel' (readAt? fuel) (readAt? fuel') := by
  induction fuel generalizing fuel' with
  | zero =>
    refine ⟨leaves_readAt 0, leaves_readAt fuel', ?_, ?_, fun _ _ _ _ _ _ _ => stuck_readAt⟩
    · intro flags names branches elements w _
      rw [readAt?_zero]
      exact exact_none.same
    · intro _ flags names branches elements x hx
      rw [readAt?_zero] at hx
      cases hx
  | succ fuel ih =>
    refine ⟨leaves_readAt _, leaves_readAt fuel', ?_, ?_, fun _ _ _ _ _ _ _ => stuck_readAt⟩
    · intro flags names branches elements w hw
      obtain ⟨fuel', rfl⟩ : ∃ n, fuel' = n + 1 := ⟨fuel' - 1, by omega⟩
      rw [readAt?_succ, readAt?_succ]
      refine (same_skip h flags () w).bind_fuel
        (g := fun p => readFrom? (readAt? fuel) flags names branches elements p.2)
        (k := fun p => readFrom? (readAt? fuel') flags names branches elements p.2)
        (fun _ r => leaves_readFrom (leaves_readAt fuel) r) ?_ fun _ _ => id
      intro _ v _ hv
      have hlength := (skip_suffix flags (w ++ t')).length_le
      rw [(Prod.mk.inj (Option.some.inj hv)).2] at hlength
      exact same_readFrom h ((ih fuel').mono (by omega))
    · intro hpos flags names branches elements x hx
      obtain ⟨fuel', rfl⟩ : ∃ n, fuel' = n + 1 := ⟨fuel' - 1, by omega⟩
      rw [readAt?_nil] at hx ⊢
      exact hx

/-- What is read before the one ending is read before the other too, or else the second ending was
taken for a comment. -/
theorem same_readAt (h : Ends t t') {fuel fuel' : Nat} {w : List Char}
    (hfuel : (w ++ t').length < fuel') (flags : Flags) (names : List String)
    (branches : List Part) (elements : List Element) :
    Same t t' (readAt? fuel flags names branches elements (w ++ t))
      (readAt? fuel' flags names branches elements (w ++ t')) :=
  (readsOn_readAt h fuel fuel').same flags names branches elements w hfuel

end SeriesQuery.Regex
