/-
Single items of a pattern before an ending: escapes, literals and what
stands for a position.
-/
import SeriesQuery.Proofs.Regex.Reading

namespace SeriesQuery.Regex

variable {flags : Flags} {t t' cs : List Char}

/-! ## Code points and properties -/

theorem hexDigits?_succ_cons (n : Nat) (c : Char) (cs : List Char) :
    hexDigits? flags (n + 1) (c :: cs) =
      if isHexDigit c = true then
        (hexDigits? flags n (flags.skip cs)).bind fun p => some (c :: p.1, p.2)
      else none := by
  rw [hexDigits?.eq_def]
  dsimp only
  cases n with
  | zero =>
    rw [if_pos rfl]
    rfl
  | succ n =>
    rw [if_neg n.succ_ne_zero, Flags.more?]
    cases flags.skip cs with
    | nil =>
      show none = _
      split
      · rfl
      · rfl
    | cons d rest => rfl

theorem leaves_hexDigits (n : Nat) (cs : List Char) : Leaves cs (hexDigits? flags n cs) := by
  induction n generalizing cs with
  | zero => exact leaves_some (List.suffix_refl cs)
  | succ n ih =>
    cases cs with
    | nil => exact leaves_none
    | cons c cs =>
      rw [hexDigits?_succ_cons]
      split
      · refine Leaves.bind ?_ fun a r => leaves_some (List.suffix_refl r)
        exact fun a r hr => ((ih _ a r hr).trans (skip_suffix flags cs)).trans (List.suffix_cons c cs)
      · exact leaves_none

theorem same_hexDigits (h : Ends t t') (n : Nat) (w : List Char) :
    Same t t' (hexDigits? flags n (w ++ t)) (hexDigits? flags n (w ++ t')) := by
  induction n generalizing w with
  | zero => exact exact_some.same
  | succ n ih =>
    cases w with
    | nil =>
      refine (exact_of_consumes fun a r hr => ?_).same
      cases t with
      | nil => cases hr
      | cons c rest =>
        obtain rfl := h.closes c rest rfl
        rw [List.nil_append, hexDigits?_succ_cons] at hr
        cases hr
    | cons c w =>
      rw [List.cons_append, List.cons_append, hexDigits?_succ_cons, hexDigits?_succ_cons]
      split
      · refine Same.bind ?_ (fun _ r => leaves_some (List.suffix_refl r)) fun _ _ => exact_some.same
        exact Same.skip h (leaves_hexDigits n) ih w
      · exact exact_none.same

theorem upToBrace?_succ (fuel : Nat) (cs : List Char) :
    upToBrace? flags (fuel + 1) cs = (flags.next? cs).bind fun p =>
      if p.1 == '\x7d' then some ([], p.2)
      else (upToBrace? flags fuel p.2).bind fun q => some (p.1 :: q.1, q.2) := by
  rw [upToBrace?.eq_def]
  exact more?_bind cs _

theorem leaves_upToBrace (fuel : Nat) (cs : List Char) : Leaves cs (upToBrace? flags fuel cs) := by
  induction fuel generalizing cs with
  | zero => exact leaves_none
  | succ fuel ih =>
    rw [upToBrace?_succ]
    refine (consumes_next flags cs).leaves.bind fun c r => ?_
    split
    · exact leaves_some (List.suffix_refl r)
    · exact (ih r).bind fun _ r => leaves_some (List.suffix_refl r)

theorem exact_upToBrace (h : Ends t t') {fuel fuel' : Nat} {w : List Char}
    (hfuel : (w ++ t').length < fuel') :
    SameExact t t' (upToBrace? flags fuel (w ++ t)) (upToBrace? flags fuel' (w ++ t')) := by
  induction fuel generalizing fuel' w with
  | zero => exact exact_none
  | succ fuel ih =>
    obtain ⟨fuel', rfl⟩ : ∃ n, fuel' = n + 1 := ⟨fuel' - 1, by omega⟩
    rw [upToBrace?_succ, upToBrace?_succ]
    refine (exact_next h flags w).bind (fun c r => ?_) fun c w' hnext => ?_
    · split
      · exact leaves_some (List.suffix_refl r)
      · exact (leaves_upToBrace fuel r).bind fun _ r => leaves_some (List.suffix_refl r)
    · have hlength := (consumes_next flags _ c _ hnext).2
      split
      · exact exact_some
      · exact (ih (by omega)).bind (fun _ r => leaves_some (List.suffix_refl r)) fun _ _ _ => exact_some

theorem exact_braced (h : Ends t t') (w : List Char) :
    SameExact t t' (upToBrace? flags ((w ++ t).length + 1) (w ++ t))
      (upToBrace? flags ((w ++ t').length + 1) (w ++ t')) :=
  exact_upToBrace h (Nat.lt_succ_self _)

/-- A character by its code point, from after the first character that counts. -/
def hexAfter? (flags : Flags) (digits : Nat) (p : Char × List Char) : Option (Item × List Char) :=
  if p.1 == '\x7b' then
    (upToBrace? flags (p.2.length + 1) p.2).bind fun q =>
      if q.1.isEmpty || !q.1.all isHexDigit then none
      else (charOfHex? q.1).bind fun c => some (.literal c false, flags.skip q.2)
  else
    (hexDigits? flags digits (p.1 :: p.2)).bind fun q =>
      (charOfHex? q.1).bind fun c => some (.literal c (digits == 2), q.2)

theorem hexLiteral?_eq (digits : Nat) (cs : List Char) :
    hexLiteral? flags digits cs = (flags.next? cs).bind (hexAfter? flags digits) :=
  more?_bind cs _

theorem leaves_charOfHex {digits cs : List Char} {item : Char → Item} {r : List Char}
    (hr : r <:+ cs) : Leaves cs ((charOfHex? digits).bind fun c => some (item c, r)) := by
  cases charOfHex? digits with
  | none => exact leaves_none
  | some c => exact leaves_some hr

theorem same_charOfHex {digits : List Char} {item : Char → Item} {r r' : List Char}
    (hr : ∀ c, Same t t' (some (item c, r)) (some (item c, r'))) :
    Same t t' ((charOfHex? digits).bind fun c => some (item c, r))
      ((charOfHex? digits).bind fun c => some (item c, r')) := by
  cases charOfHex? digits with
  | none => exact exact_none.same
  | some c => exact hr c

theorem leaves_braced (flags : Flags) (inner r : List Char) :
    Leaves r (if inner.isEmpty || !inner.all isHexDigit then none
      else (charOfHex? inner).bind fun c => some (Item.literal c false, flags.skip r)) := by
  split
  · exact leaves_none
  · exact leaves_charOfHex (skip_suffix flags r)

theorem leaves_hexAfter (digits : Nat) (c : Char) (r : List Char) :
    Leaves r (hexAfter? flags (digits + 1) (c, r)) := by
  rw [hexAfter?]
  split
  · exact (leaves_upToBrace _ r).bind (leaves_braced flags)
  · rw [hexDigits?_succ_cons]
    split
    · refine Leaves.bind (Leaves.bind ?_ fun _ r => leaves_some (List.suffix_refl r))
        fun _ r => leaves_charOfHex (List.suffix_refl r)
      exact fun a r' hr => (leaves_hexDigits digits _ a r' hr).trans (skip_suffix flags r)
    · exact leaves_none

theorem same_hexAfter (h : Ends t t') (digits : Nat) (c : Char) (w : List Char) :
    Same t t' (hexAfter? flags digits (c, w ++ t)) (hexAfter? flags digits (c, w ++ t')) := by
  rw [hexAfter?, hexAfter?]
  split
  · refine (exact_braced h w).same.bind (leaves_braced flags) fun inner w => ?_
    dsimp only
    split
    · exact exact_none.same
    · exact same_charOfHex fun c => same_skip h flags _ w
  · exact (same_hexDigits h digits (c :: w)).bind
      (fun _ r => leaves_charOfHex (List.suffix_refl r)) fun _ _ =>
        same_charOfHex fun _ => exact_some.same

theorem consumes_hexLiteral (digits : Nat) (cs : List Char) :
    Consumes cs (hexLiteral? flags (digits + 1) cs) := by
  rw [hexLiteral?_eq]
  exact (consumes_next flags cs).bind (leaves_hexAfter digits)

theorem same_hexLiteral (h : Ends t t') (digits : Nat) (w : List Char) :
    Same t t' (hexLiteral? flags (digits + 1) (w ++ t)) (hexLiteral? flags (digits + 1) (w ++ t')) := by
  rw [hexLiteral?_eq, hexLiteral?_eq]
  exact (exact_next h flags w).same.bind (leaves_hexAfter digits) (same_hexAfter h (digits + 1))

/-- A property, from after the first character that counts. -/
def propertyAfter? (flags : Flags) (negated : Bool) (p : Char × List Char) :
    Option (Item × List Char) :=
  if p.1 == '\x7b' then
    (upToBrace? flags (p.2.length + 1) p.2).bind fun q =>
      match described? q.1 with
      | some (cls, flip) => some (.property (some cls) (negated != flip), q.2)
      | none => some (.property none negated, q.2)
  else if p.1 == '\\' then none
  else some (.property (property? (String.ofList [p.1])) negated, flags.skip p.2)

theorem propertyItem?_eq (negated : Bool) (cs : List Char) :
    propertyItem? flags negated cs = (flags.next? cs).bind (propertyAfter? flags negated) :=
  more?_bind cs _

theorem leaves_propertyAfter (negated : Bool) (c : Char) (r : List Char) :
    Leaves r (propertyAfter? flags negated (c, r)) := by
  rw [propertyAfter?]
  split
  · refine (leaves_upToBrace _ r).bind fun inner r => ?_
    dsimp only
    split
    · exact leaves_some (List.suffix_refl r)
    · exact leaves_some (List.suffix_refl r)
  · split
    · exact leaves_none
    · exact leaves_some (skip_suffix flags r)

theorem same_propertyAfter (h : Ends t t') (negated : Bool) (c : Char) (w : List Char) :
    Same t t' (propertyAfter? flags negated (c, w ++ t))
      (propertyAfter? flags negated (c, w ++ t')) := by
  rw [propertyAfter?, propertyAfter?]
  split
  · refine (exact_braced h w).same.bind (fun inner r => ?_) fun inner w => ?_
    · dsimp only
      split
      · exact leaves_some (List.suffix_refl r)
      · exact leaves_some (List.suffix_refl r)
    · dsimp only
      split
      · exact exact_some.same
      · exact exact_some.same
  · split
    · exact exact_none.same
    · exact same_skip h flags _ w

theorem consumes_propertyItem (negated : Bool) (cs : List Char) :
    Consumes cs (propertyItem? flags negated cs) := by
  rw [propertyItem?_eq]
  exact (consumes_next flags cs).bind (leaves_propertyAfter negated)

theorem same_propertyItem (h : Ends t t') (negated : Bool) (w : List Char) :
    Same t t' (propertyItem? flags negated (w ++ t)) (propertyItem? flags negated (w ++ t')) := by
  rw [propertyItem?_eq, propertyItem?_eq]
  exact (exact_next h flags w).same.bind (leaves_propertyAfter negated) (same_propertyAfter h negated)

/-! ## Positions -/

theorem boundaryName_eq (fuel : Nat) (cs : List Char) :
    boundaryName flags fuel cs = spanSkip flags isBoundaryNameChar fuel cs := by
  induction fuel generalizing cs with
  | zero => rfl
  | succ fuel ih =>
    cases cs with
    | nil => rfl
    | cons c cs =>
      rw [spanSkip, ← ih]
      rfl

/-- The condition that a name in braces means, at the end of the name. -/
def boundaryEnd? (ascii : Bool) : List Char × List Char → Option (Item × List Char)
  | (name, '\x7d' :: rest) =>
    match String.ofList name with
    | "start" => some (.look (.wordStart ascii), rest)
    | "end" => some (.look (.wordEnd ascii), rest)
    | "start-half" => some (.look (.wordStartHalf ascii), rest)
    | "end-half" => some (.look (.wordEndHalf ascii), rest)
    | _ => none
  | _ => none

theorem consumes_boundaryEnd (ascii : Bool) (name r : List Char) :
    Consumes r (boundaryEnd? ascii (name, r)) := by
  unfold boundaryEnd?
  split
  · rename_i heq
    cases heq
    split <;> first
      | exact consumes_some (List.suffix_refl _)
      | exact consumes_none
  · exact consumes_none

theorem exact_boundaryEnd (ascii : Bool) (name w : List Char) :
    SameExact t t' (boundaryEnd? ascii (name, w ++ t)) (boundaryEnd? ascii (name, w ++ t')) := by
  cases w with
  | nil => exact exact_of_consumes (consumes_boundaryEnd ascii name t)
  | cons c w =>
    by_cases hc : c = '\x7d'
    · subst hc
      simp only [List.cons_append, boundaryEnd?]
      split <;> first
        | exact exact_some
        | exact exact_none
    · intro item r ho
      simp [boundaryEnd?, hc] at ho

/-- The condition that a name in braces means. -/
def boundaryNamed? (flags : Flags) (c : Char) (cs : List Char) : Option (Item × List Char) :=
  boundaryEnd? (!flags.unicode) (boundaryName flags (cs.length + 1) (c :: cs))

theorem consumes_boundaryNamed (c : Char) (cs : List Char) :
    Consumes (c :: cs) (boundaryNamed? flags c cs) := by
  intro item r ho
  have hname : (boundaryName flags (cs.length + 1) (c :: cs)).2 <:+ c :: cs := by
    rw [boundaryName_eq]
    exact spanSkip_suffix _ _ _
  obtain ⟨hleft, hlength⟩ := consumes_boundaryEnd _ _ _ item r ho
  exact ⟨hleft.trans hname, Nat.lt_of_lt_of_le hlength hname.length_le⟩

theorem same_boundaryNamed (h : Ends t t') (c : Char) (w : List Char) :
    Same t t' (boundaryNamed? flags c (w ++ t)) (boundaryNamed? flags c (w ++ t')) := by
  have hclose : isBoundaryNameChar ')' = false := by decide
  have hname : Same t t' (some (boundaryName flags ((w ++ t).length + 1) (c :: w ++ t)))
      (some (boundaryName flags ((w ++ t').length + 1) (c :: w ++ t'))) := by
    rw [boundaryName_eq, boundaryName_eq]
    exact same_spanSkip h hclose (Nat.le_refl _) (Nat.le_refl _)
  exact hname.inside.bind_consumes (g := boundaryEnd? (!flags.unicode))
    (consumes_boundaryEnd (!flags.unicode)) fun name w _ => (exact_boundaryEnd _ name w).same

theorem boundary?_brace (rest : List Char) :
    boundary? flags ('\x7b' :: rest) = (flags.next? rest).bind fun p =>
      if !isBoundaryNameChar p.1 then some (.look (.wordBoundary !flags.unicode), '\x7b' :: rest)
      else boundaryNamed? flags p.1 p.2 :=
  more?_bind rest _

theorem boundary?_of_ne (h : ∀ rest, cs ≠ '\x7b' :: rest) :
    boundary? flags cs = some (.look (.wordBoundary !flags.unicode), cs) := by
  unfold boundary?
  split
  · rename_i rest
    exact absurd rfl (h rest)
  · rfl

theorem leaves_boundary (cs : List Char) : Leaves cs (boundary? flags cs) := by
  by_cases hbrace : ∃ rest, cs = '\x7b' :: rest
  · obtain ⟨rest, rfl⟩ := hbrace
    intro item r ho
    rw [boundary?_brace] at ho
    obtain ⟨⟨c, inner⟩, hnext, ho⟩ := Option.bind_eq_some_iff.mp ho
    split at ho
    · cases ho
      exact List.suffix_refl _
    · have hinner : c :: inner <:+ rest := next?_eq_some_iff.mp hnext ▸ skip_suffix flags rest
      exact ((consumes_boundaryNamed c inner item r ho).1.trans hinner).trans (List.suffix_cons _ _)
  · rw [boundary?_of_ne fun rest heq => hbrace ⟨rest, heq⟩]
    exact leaves_some (List.suffix_refl cs)

/-- A position read right before a brace, after which nothing counts before the ending. The reader
of the position has looked at what follows; whoever goes on with the brace will fail. -/
def Stuck (flags : Flags) (t : List Char) (item : Item) (r : List Char) : Prop :=
  (∃ condition, item = .look condition) ∧ ∃ u, r = '\x7b' :: u ∧ flags.skip (u ++ t) <:+ t

/-- The item read before the one ending is read before the other too, or else the second ending was
taken for a comment, or the reader is stuck. -/
def SameItem (flags : Flags) (t t' : List Char) (o o' : Option (Item × List Char)) : Prop :=
  ∀ item r, o = some (item, r ++ t) → o' = some (item, r ++ t') ∨
    r = [] ∧ t = [] ∧ o' = some (item, []) ∨ Stuck flags t item r

theorem Same.item {o o' : Option (Item × List Char)} (h : Same t t' o o') :
    SameItem flags t t' o o' := fun item r ho => (h item r ho).imp_right .inl

/-- Where no position may stand, no reader is stuck. -/
theorem SameItem.bind {α : Type} {o o' : Option (Item × List Char)}
    {g : Item × List Char → Option (α × List Char)} (h : SameItem flags t t' o o')
    (hg : ∀ item r, Leaves r (g (item, r))) (hlook : ∀ condition r, g (.look condition, r) = none)
    (hsame : ∀ item w, SameInside t t' (g (item, w ++ t)) (g (item, w ++ t'))) :
    SameInside t t' (o.bind g) (o'.bind g) := by
  intro b r hne hb
  obtain ⟨item, u, ho, hr⟩ := exists_of_bind hg hb
  rcases h item (u ++ r) ho with ho' | ⟨hnil, -⟩ | ⟨⟨condition, rfl⟩, -⟩
  · rw [ho']
    exact hsame item (u ++ r) b r hne hr
  · exact absurd (List.append_eq_nil_iff.mp hnil).2 hne
  · rw [hlook] at hr
    cases hr

theorem sameItem_boundary (h : Ends t t') (w : List Char) :
    SameItem flags t t' (boundary? flags (w ++ t)) (boundary? flags (w ++ t')) := by
  have hother : ∀ {s : List Char}, (∀ c rest, s = c :: rest → c ≠ '\x7b') →
      boundary? flags s = some (.look (.wordBoundary !flags.unicode), s) :=
    fun hs => boundary?_of_ne fun rest heq => hs _ rest heq rfl
  have hclose : ∀ c : Char, c = ')' → c ≠ '\x7b' := by
    rintro c rfl
    decide
  cases w with
  | nil =>
    rw [List.nil_append, List.nil_append, hother fun c rest ht => hclose c (h.closes c rest ht),
      hother fun c rest ht => hclose c (h.closes_target c rest ht)]
    exact (exact_some (w := [])).same.item
  | cons c w =>
    by_cases hc : c = '\x7b'
    · subst hc
      intro item r ho
      rw [List.cons_append, boundary?_brace] at ho
      obtain ⟨⟨c, inner⟩, hnext, ho⟩ := Option.bind_eq_some_iff.mp ho
      have hskip := next?_eq_some_iff.mp hnext
      -- Either the next character lies before the ending, or there is none that counts.
      by_cases hinner : ∃ u, inner = u ++ t
      · obtain ⟨u, rfl⟩ := hinner
        rw [List.cons_append, boundary?_brace, exact_next h flags w c u hnext]
        by_cases hname : isBoundaryNameChar c = true
        · simp only [hname, Bool.not_true, Bool.false_eq_true, if_false, Option.bind_some] at ho ⊢
          exact (same_boundaryNamed h c u).item item r ho
        · simp only [hname, Bool.not_false, if_true, Option.bind_some] at ho ⊢
          exact (exact_some (w := '\x7b' :: w)).same.item item r ho
      · have hshort : c :: inner <:+ t := by
          have hsuffix : c :: inner <:+ w ++ t := hskip ▸ skip_suffix flags (w ++ t)
          refine List.suffix_of_suffix_length_le hsuffix (List.suffix_append w t) ?_
          refine Nat.le_of_not_lt fun hlt => hinner ?_
          have hback := List.suffix_of_suffix_length_le (List.suffix_append w t)
            ((List.suffix_cons c inner).trans hsuffix) (Nat.le_of_lt_succ hlt)
          obtain ⟨u, hu⟩ := hback
          exact ⟨u, hu.symm⟩
        dsimp only [Option.bind_some] at ho
        split at ho
        · obtain ⟨rfl, hr⟩ := Prod.mk.inj (Option.some.inj ho)
          have hrest : r = '\x7b' :: w := (List.append_cancel_right hr).symm
          exact .inr (.inr ⟨⟨_, rfl⟩, w, hrest, hskip ▸ hshort⟩)
        · have hlength := (consumes_boundaryNamed c inner item _ ho).2
          have hle := hshort.length_le
          rw [List.length_append] at hlength
          omega
    · rw [List.cons_append, List.cons_append, hother fun d rest heq => (List.cons.inj heq).1 ▸ hc,
        hother fun d rest heq => (List.cons.inj heq).1 ▸ hc]
      exact (exact_some (w := c :: w)).same.item

/-! ## Escapes and other items -/

theorem leaves_escapeAfter (c : Char) (cs : List Char) : Leaves cs (escape? flags (c :: cs)) := by
  have hsome : ∀ item : Item, Leaves cs (some (item, cs)) := fun _ => leaves_some (List.suffix_refl cs)
  unfold escape?
  dsimp only
  split <;> first
    | exact hsome _
    | exact (consumes_hexLiteral _ cs).leaves
    | exact (consumes_propertyItem _ cs).leaves
    | exact leaves_boundary cs
    | skip
  split
  · exact hsome _
  · exact leaves_none

theorem consumes_escape (cs : List Char) : Consumes cs (escape? flags cs) := by
  cases cs with
  | nil => exact consumes_none
  | cons c cs => exact (leaves_escapeAfter c cs).cons

theorem sameItem_escape (h : Ends t t') (w : List Char) :
    SameItem flags t t' (escape? flags (w ++ t)) (escape? flags (w ++ t')) := by
  cases w with
  | nil => exact (exact_of_consumes (consumes_escape t)).same.item
  | cons c w =>
    have hsome : ∀ item : Item, SameItem flags t t' (some (item, w ++ t)) (some (item, w ++ t')) :=
      fun _ => exact_some.same.item
    rw [List.cons_append, List.cons_append]
    unfold escape?
    dsimp only
    split <;> first
      | exact hsome _
      | exact (same_hexLiteral h _ w).item
      | exact (same_propertyItem h _ w).item
      | exact sameItem_boundary h w
      | skip
    split
    · exact hsome _
    · exact exact_none.same.item

/-- The item that a character outside brackets is when it is no backslash. -/
def plainItem (flags : Flags) : Char → Item
  | '.' => .dot
  | '^' => .look flags.start
  | '$' => .look flags.stop
  | c => .literal c false

theorem item?_of_ne {c : Char} (hc : c ≠ '\\') (cs : List Char) :
    item? flags (c :: cs) = some (plainItem flags c, cs) := by
  unfold item?
  split
  · rename_i heq
    cases heq
  · rename_i heq
    cases heq
    exact absurd rfl hc
  · rename_i heq
    cases heq
    rfl
  · rename_i heq
    cases heq
    rfl
  · rename_i heq
    cases heq
    rfl
  · rename_i hdot hstart hstop heq
    cases heq
    unfold plainItem
    split
    · exact (hdot rfl).elim
    · exact (hstart rfl).elim
    · exact (hstop rfl).elim
    · rfl

theorem consumes_item (cs : List Char) : Consumes cs (item? flags cs) := by
  cases cs with
  | nil => exact consumes_none
  | cons c cs =>
    by_cases hc : c = '\\'
    · subst hc
      exact (consumes_escape cs).leaves.cons
    · rw [item?_of_ne hc]
      exact consumes_some (List.suffix_refl cs)

theorem sameItem_item (h : Ends t t') (w : List Char) :
    SameItem flags t t' (item? flags (w ++ t)) (item? flags (w ++ t')) := by
  cases w with
  | nil => exact (exact_of_consumes (consumes_item t)).same.item
  | cons c w =>
    by_cases hc : c = '\\'
    · subst hc
      exact sameItem_escape h w
    · rw [List.cons_append, List.cons_append, item?_of_ne hc, item?_of_ne hc]
      exact exact_some.same.item

theorem consumes_bracketItem (cs : List Char) : Consumes cs (bracketItem? flags cs) := by
  unfold bracketItem?
  split <;> first
    | exact consumes_none
    | exact (consumes_escape _).leaves.cons
    | exact consumes_some (List.suffix_refl _)

theorem sameItem_bracketItem (h : Ends t t') (w : List Char) :
    SameItem flags t t' (bracketItem? flags (w ++ t)) (bracketItem? flags (w ++ t')) := by
  cases w with
  | nil => exact (exact_of_consumes (consumes_bracketItem t)).same.item
  | cons c w =>
    by_cases hc : c = '\\'
    · subst hc
      exact sameItem_escape h w
    · rw [List.cons_append, List.cons_append]
      simp only [bracketItem?]
      exact exact_some.same.item

end SeriesQuery.Regex
