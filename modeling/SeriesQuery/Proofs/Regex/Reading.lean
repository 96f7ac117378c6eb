/-
Readers of patterns, and what follows the text that they read. A reader
takes characters from the front and leaves the rest (`Leaves`). One that
comes to its end before an ending, which is the end of the text or a closing
parenthesis, reads the same before another ending (`Same`), but for a
comment of verbose mode, which runs into what follows. Both are kept when
one reader goes on where another has left off.
-/
import Mathlib.Data.List.TakeDrop
import Mathlib.Data.List.TakeWhile
import SeriesQuery.Regex.Reader

namespace SeriesQuery.Regex

variable {α β : Type} {cs : List Char} {o o' : Option (α × List Char)}
  {g : α × List Char → Option (β × List Char)}

/-! ## Taking from the front -/

/-- What is left is an end of the text. -/
def Leaves (cs : List Char) (o : Option (α × List Char)) : Prop := ∀ a r, o = some (a, r) → r <:+ cs

/-- What is left is an end of the text, and something has been taken. -/
def Consumes (cs : List Char) (o : Option (α × List Char)) : Prop :=
  ∀ a r, o = some (a, r) → r <:+ cs ∧ r.length < cs.length

theorem Consumes.leaves (h : Consumes cs o) : Leaves cs o := fun a r hr => (h a r hr).1

theorem leaves_none : Leaves cs (none : Option (α × List Char)) := nofun

theorem consumes_none : Consumes cs (none : Option (α × List Char)) := nofun

theorem leaves_some {a : α} {r : List Char} (h : r <:+ cs) : Leaves cs (some (a, r)) := by
  rintro b r' ⟨⟩
  exact h

theorem consumes_some {a : α} {c : Char} {r : List Char} (h : r <:+ cs) :
    Consumes (c :: cs) (some (a, r)) := by
  rintro b r' ⟨⟩
  exact ⟨h.trans (List.suffix_cons c cs), Nat.lt_succ_of_le h.length_le⟩

theorem leaves_map {o : Option α} {r : List Char} (h : r <:+ cs) : Leaves cs (o.map (·, r)) := by
  cases o with
  | none => exact leaves_none
  | some a => exact leaves_some h

theorem Leaves.cons {c : Char} (h : Leaves cs o) : Consumes (c :: cs) o := fun a r hr =>
  ⟨(h a r hr).trans (List.suffix_cons c cs), Nat.lt_succ_of_le (h a r hr).length_le⟩

theorem Leaves.bind (h : Leaves cs o) (hg : ∀ a r, Leaves r (g (a, r))) : Leaves cs (o.bind g) := by
  intro b r hb
  obtain ⟨⟨a, r'⟩, ho, hr⟩ := Option.bind_eq_some_iff.mp hb
  exact (hg a r' b r hr).trans (h a r' ho)

theorem Consumes.bind (h : Consumes cs o) (hg : ∀ a r, Leaves r (g (a, r))) :
    Consumes cs (o.bind g) := by
  intro b r hb
  obtain ⟨⟨a, r'⟩, ho, hr⟩ := Option.bind_eq_some_iff.mp hb
  have hleft := hg a r' b r hr
  exact ⟨hleft.trans (h a r' ho).1, Nat.lt_of_le_of_lt hleft.length_le (h a r' ho).2⟩

theorem Leaves.bind_consumes (h : Leaves cs o) (hg : ∀ a r, Consumes r (g (a, r))) :
    Consumes cs (o.bind g) := by
  intro b r hb
  obtain ⟨⟨a, r'⟩, ho, hr⟩ := Option.bind_eq_some_iff.mp hb
  have hleft := hg a r' b r hr
  exact ⟨hleft.1.trans (h a r' ho), Nat.lt_of_lt_of_le hleft.2 (h a r' ho).length_le⟩

theorem Leaves.map (h : Leaves cs o) (f : α → β) : Leaves cs (o.map fun p => (f p.1, p.2)) := by
  intro b r hb
  obtain ⟨⟨a, r'⟩, ho, heq⟩ := Option.map_eq_some_iff.mp hb
  cases heq
  exact h a r' ho

/-! ## Endings -/

/-- Two endings, each of them nothing or a closing parenthesis with anything after it. If the first
is nothing, the second is a single line, so that a comment takes all of it. -/
structure Ends (t t' : List Char) : Prop where
  closes : ∀ c rest, t = c :: rest → c = ')'
  closes_target : ∀ c rest, t' = c :: rest → c = ')'
  line : t = [] → '\n' ∉ t'

variable {t t' : List Char}

/-- What was read before the one ending is read before the other too, or else the second ending was
taken for a comment. -/
def Same (t t' : List Char) (o o' : Option (α × List Char)) : Prop :=
  ∀ a r, o = some (a, r ++ t) → o' = some (a, r ++ t') ∨ r = [] ∧ t = [] ∧ o' = some (a, [])

/-- What was read, with something left before the one ending, is read before the other too. -/
def SameInside (t t' : List Char) (o o' : Option (α × List Char)) : Prop :=
  ∀ a r, r ≠ [] → o = some (a, r ++ t) → o' = some (a, r ++ t')

/-- What was read before the one ending is read before the other too. -/
def SameExact (t t' : List Char) (o o' : Option (α × List Char)) : Prop :=
  ∀ a r, o = some (a, r ++ t) → o' = some (a, r ++ t')

theorem SameExact.same (h : SameExact t t' o o') : Same t t' o o' := fun a r ho => .inl (h a r ho)

theorem SameExact.inside (h : SameExact t t' o o') : SameInside t t' o o' := fun a r _ => h a r

theorem Same.inside (h : Same t t' o o') : SameInside t t' o o' := by
  intro a r hr ho
  rcases h a r ho with ho' | ⟨hnil, -⟩
  · exact ho'
  · exact absurd hnil hr

theorem exact_none : SameExact t t' (none : Option (α × List Char)) o' := nofun

theorem exact_some {a : α} {w : List Char} :
    SameExact t t' (some (a, w ++ t)) (some (a, w ++ t')) := by
  intro b r ho
  obtain ⟨rfl, hr⟩ := Prod.mk.inj (Option.some.inj ho)
  rw [List.append_cancel_right hr]

theorem exact_map {o : Option α} {w : List Char} :
    SameExact t t' (o.map (·, w ++ t)) (o.map (·, w ++ t')) := by
  cases o with
  | none => exact exact_none
  | some a => exact exact_some

theorem SameInside.map (h : SameInside t t' o o') (f : α → β) :
    SameInside t t' (o.map fun p => (f p.1, p.2)) (o'.map fun p => (f p.1, p.2)) := by
  intro b r hne hb
  obtain ⟨⟨a, r'⟩, ho, heq⟩ := Option.map_eq_some_iff.mp hb
  cases heq
  rw [h a r hne ho]
  rfl

theorem SameExact.map (h : SameExact t t' o o') (f : α → β) :
    SameExact t t' (o.map fun p => (f p.1, p.2)) (o'.map fun p => (f p.1, p.2)) := by
  intro b r hb
  obtain ⟨⟨a, r'⟩, ho, heq⟩ := Option.map_eq_some_iff.mp hb
  cases heq
  rw [h a r ho]
  rfl

/-- Nothing is said where the ending itself was read into. -/
theorem exact_of_consumes (h : Consumes t o) : SameExact t t' o o' := by
  intro a r ho
  have hlength := (h a _ ho).2
  rw [List.length_append] at hlength
  omega

/-- What cannot take anything before the ending says nothing inside. -/
theorem inside_of_leaves (h : Leaves t o) : SameInside t t' o o' := by
  intro a r hne ho
  have hlength := (h a _ ho).length_le
  rw [List.length_append] at hlength
  exact absurd (List.eq_nil_of_length_eq_zero (by omega)) hne

/-- Whatever comes after a text before the ending is that of a text before the ending. -/
theorem exists_of_leaves {r w : List Char} (h : r ++ t <:+ w) : ∃ u, w = u ++ r ++ t := by
  obtain ⟨u, rfl⟩ := h
  exact ⟨u, (List.append_assoc u r t).symm⟩

/-- What was taken of it lies before the ending too. -/
theorem Consumes.exists_append (h : Consumes cs o) {a : α} {r : List Char}
    (ho : o = some (a, r ++ t)) : ∃ u, cs = u ++ r ++ t ∧ u ++ r ≠ [] := by
  obtain ⟨hleft, hlength⟩ := h a _ ho
  obtain ⟨u, rfl⟩ := exists_of_leaves hleft
  refine ⟨u, rfl, fun hnil => ?_⟩
  rw [hnil, List.nil_append, List.length_append] at hlength
  omega

/-- Where the first of two readers has left off, when the second one leaves the ending. -/
theorem exists_of_bind (hg : ∀ a r, Leaves r (g (a, r))) {b : β} {r : List Char}
    (hb : o.bind g = some (b, r ++ t)) :
    ∃ a u, o = some (a, u ++ r ++ t) ∧ g (a, u ++ r ++ t) = some (b, r ++ t) := by
  obtain ⟨⟨a, r'⟩, ho, hr⟩ := Option.bind_eq_some_iff.mp hb
  obtain ⟨u, rfl⟩ := exists_of_leaves (hg a r' b _ hr)
  exact ⟨a, u, ho, hr⟩

/-- The first one has left something before the ending if the second one takes something. -/
theorem exists_of_bind_consumes (hg : ∀ a r, Consumes r (g (a, r))) {b : β} {r : List Char}
    (hb : o.bind g = some (b, r ++ t)) :
    ∃ a u, u ++ r ≠ [] ∧ o = some (a, u ++ r ++ t) ∧ g (a, u ++ r ++ t) = some (b, r ++ t) := by
  obtain ⟨⟨a, r'⟩, ho, hr⟩ := Option.bind_eq_some_iff.mp hb
  obtain ⟨u, rfl, hne⟩ := (hg a r').exists_append hr
  exact ⟨a, u, hne, ho, hr⟩

/-- The second reader may differ too, as when it is given other fuel. -/
theorem Same.bind_fuel (h : Same t t' o o') {k : α × List Char → Option (β × List Char)}
    (hg : ∀ a r, Leaves r (g (a, r)))
    (hsame : ∀ a w, o = some (a, w ++ t) → o' = some (a, w ++ t') →
      Same t t' (g (a, w ++ t)) (k (a, w ++ t')))
    (hnil : ∀ a b, g (a, []) = some (b, []) → k (a, []) = some (b, [])) :
    Same t t' (o.bind g) (o'.bind k) := by
  intro b r hb
  obtain ⟨a, u, ho, hr⟩ := exists_of_bind hg hb
  rcases h a (u ++ r) ho with ho' | ⟨hempty, rfl, ho'⟩
  · rw [ho']
    exact hsame a (u ++ r) ho ho' b r hr
  · obtain ⟨rfl, rfl⟩ := List.append_eq_nil_iff.mp hempty
    rw [ho']
    exact .inr ⟨rfl, rfl, hnil a b hr⟩

theorem Same.bind (h : Same t t' o o') (hg : ∀ a r, Leaves r (g (a, r)))
    (hsame : ∀ a w, Same t t' (g (a, w ++ t)) (g (a, w ++ t'))) :
    Same t t' (o.bind g) (o'.bind g) :=
  h.bind_fuel hg (fun a w _ _ => hsame a w) fun _ _ => id

theorem SameExact.bind (h : SameExact t t' o o') {k : α × List Char → Option (β × List Char)}
    (hg : ∀ a r, Leaves r (g (a, r)))
    (hexact : ∀ a w, o' = some (a, w ++ t') → SameExact t t' (g (a, w ++ t)) (k (a, w ++ t'))) :
    SameExact t t' (o.bind g) (o'.bind k) := by
  intro b r hb
  obtain ⟨a, u, ho, hr⟩ := exists_of_bind hg hb
  have ho' := h a (u ++ r) ho
  rw [ho']
  exact hexact a (u ++ r) ho' b r hr

theorem SameExact.bind_same (h : SameExact t t' o o')
    {k : α × List Char → Option (β × List Char)} (hg : ∀ a r, Leaves r (g (a, r)))
    (hsame : ∀ a w, o' = some (a, w ++ t') → Same t t' (g (a, w ++ t)) (k (a, w ++ t'))) :
    Same t t' (o.bind g) (o'.bind k) := by
  intro b r hb
  obtain ⟨a, u, ho, hr⟩ := exists_of_bind hg hb
  have ho' := h a (u ++ r) ho
  rw [ho']
  exact hsame a (u ++ r) ho' b r hr

theorem SameInside.bind (h : SameInside t t' o o') (hg : ∀ a r, Leaves r (g (a, r)))
    (hsame : ∀ a w, SameInside t t' (g (a, w ++ t)) (g (a, w ++ t'))) :
    SameInside t t' (o.bind g) (o'.bind g) := by
  intro b r hne hb
  obtain ⟨a, u, ho, hr⟩ := exists_of_bind hg hb
  rw [h a (u ++ r) (List.append_ne_nil_of_right_ne_nil u hne) ho]
  exact hsame a (u ++ r) b r hne hr

theorem SameInside.bind_exact (h : SameInside t t' o o') {k : α × List Char → Option (β × List Char)}
    (hg : ∀ a r, Consumes r (g (a, r)))
    (hexact : ∀ a w, o' = some (a, w ++ t') → SameExact t t' (g (a, w ++ t)) (k (a, w ++ t'))) :
    SameExact t t' (o.bind g) (o'.bind k) := by
  intro b r hb
  obtain ⟨a, u, hne, ho, hr⟩ := exists_of_bind_consumes hg hb
  have ho' := h a (u ++ r) hne ho
  rw [ho']
  exact hexact a (u ++ r) ho' b r hr

theorem SameInside.bind_consumes (h : SameInside t t' o o')
    {k : α × List Char → Option (β × List Char)} (hg : ∀ a r, Consumes r (g (a, r)))
    (hsame : ∀ a w, o' = some (a, w ++ t') → Same t t' (g (a, w ++ t)) (k (a, w ++ t'))) :
    Same t t' (o.bind g) (o'.bind k) := by
  intro b r hb
  obtain ⟨a, u, hne, ho, hr⟩ := exists_of_bind_consumes hg hb
  have ho' := h a (u ++ r) hne ho
  rw [ho']
  exact hsame a (u ++ r) ho' b r hr

/-! ## Skipping -/

variable {flags : Flags}

theorem skipBlanks_suffix (comment : Bool) (cs : List Char) : skipBlanks comment cs <:+ cs := by
  induction cs generalizing comment with
  | nil => cases comment <;> exact List.suffix_refl _
  | cons c cs ih =>
    have hrest (b : Bool) : skipBlanks b cs <:+ c :: cs := (ih b).trans (List.suffix_cons c cs)
    cases comment with
    | false =>
      rw [skipBlanks]
      split
      · exact hrest false
      · split
        · exact hrest true
        · exact List.suffix_refl _
    | true =>
      rw [skipBlanks]
      split
      · exact hrest false
      · exact hrest true

theorem skip_suffix (flags : Flags) (cs : List Char) : flags.skip cs <:+ cs := by
  rw [Flags.skip]
  split
  · exact skipBlanks_suffix false cs
  · exact List.suffix_refl cs

theorem skipBlanks_false_eq_self (h : ∀ c rest, cs = c :: rest → c = ')') :
    skipBlanks false cs = cs := by
  cases cs with
  | nil => rfl
  | cons c rest =>
    obtain rfl := h c rest rfl
    rfl

theorem skipBlanks_true_eq_nil (h : '\n' ∉ cs) : skipBlanks true cs = [] := by
  induction cs with
  | nil => rfl
  | cons c rest ih =>
    obtain ⟨hc, hrest⟩ := not_or.mp (mt List.mem_cons.mpr h)
    have hline : (c == '\n') = false := beq_eq_false_iff_ne.mpr fun heq => hc heq.symm
    rw [skipBlanks, hline]
    exact ih hrest

/-- What is skipped before the one ending is skipped before the other, unless that is within a
comment. -/
theorem same_skipBlanks (h : Ends t t') (comment : Bool) (a : α) (w : List Char) :
    Same t t' (some (a, skipBlanks comment (w ++ t))) (some (a, skipBlanks comment (w ++ t'))) := by
  induction w generalizing comment with
  | nil =>
    cases comment with
    | false =>
      rw [List.nil_append, List.nil_append, skipBlanks_false_eq_self h.closes,
        skipBlanks_false_eq_self h.closes_target]
      exact (exact_some (w := [])).same
    | true =>
      rw [List.nil_append, List.nil_append]
      cases t with
      | nil =>
        intro b r hb
        obtain ⟨rfl, hr⟩ := Prod.mk.inj (Option.some.inj hb)
        obtain ⟨rfl, -⟩ := List.append_eq_nil_iff.mp hr.symm
        rw [skipBlanks_true_eq_nil (h.line rfl)]
        exact .inr ⟨rfl, rfl, rfl⟩
      | cons c rest =>
        refine (exact_of_consumes ?_).same
        obtain rfl := h.closes c rest rfl
        exact consumes_some (skipBlanks_suffix true rest)
  | cons c w ih =>
    cases comment with
    | false =>
      rw [List.cons_append, List.cons_append, skipBlanks, skipBlanks]
      split
      · exact ih false
      · split
        · exact ih true
        · exact (exact_some (w := c :: w)).same
    | true =>
      rw [List.cons_append, List.cons_append, skipBlanks, skipBlanks]
      split
      · exact ih false
      · exact ih true

theorem same_skip (h : Ends t t') (flags : Flags) (a : α) (w : List Char) :
    Same t t' (some (a, flags.skip (w ++ t))) (some (a, flags.skip (w ++ t'))) := by
  rw [Flags.skip, Flags.skip]
  split
  · exact same_skipBlanks h false a w
  · exact exact_some.same

/-- A reader that goes on after what is skipped. -/
theorem Same.skip {f : List Char → Option (α × List Char)} (h : Ends t t')
    (hleaves : ∀ cs, Leaves cs (f cs)) (hsame : ∀ w, Same t t' (f (w ++ t)) (f (w ++ t')))
    (w : List Char) : Same t t' (f (flags.skip (w ++ t))) (f (flags.skip (w ++ t'))) :=
  (same_skip h flags () w).bind (g := fun p => f p.2) (fun _ => hleaves) fun _ => hsame

/-! ## The next character -/

/-- The next character that counts. -/
def Flags.next? (flags : Flags) (cs : List Char) : Option (Char × List Char) :=
  match flags.skip cs with
  | [] => none
  | c :: rest => some (c, rest)

theorem more?_bind (cs : List Char) (g : List Char → Option β) :
    (flags.more? cs).bind g = (flags.next? cs).bind fun p => g (p.1 :: p.2) := by
  rw [Flags.more?, Flags.next?]
  cases flags.skip cs with
  | nil => rfl
  | cons c rest => rfl

theorem next?_eq_some_iff {c : Char} {r : List Char} :
    flags.next? cs = some (c, r) ↔ flags.skip cs = c :: r := by
  rw [Flags.next?]
  cases flags.skip cs with
  | nil => exact iff_of_false nofun nofun
  | cons d rest => simp

theorem consumes_next (flags : Flags) (cs : List Char) : Consumes cs (flags.next? cs) := by
  intro c r hnext
  have hskip := skip_suffix flags cs
  rw [next?_eq_some_iff.mp hnext] at hskip
  exact ⟨(List.suffix_cons c r).trans hskip, hskip.length_le⟩

theorem exact_next (h : Ends t t') (flags : Flags) (w : List Char) :
    SameExact t t' (flags.next? (w ++ t)) (flags.next? (w ++ t')) := by
  intro c r hnext
  have hs : flags.skip (w ++ t) = c :: r ++ t := next?_eq_some_iff.mp hnext
  rcases same_skip h flags () w () (c :: r) (by rw [hs]) with hskip | ⟨hnil, -⟩
  · exact next?_eq_some_iff.mpr (Prod.mk.inj (Option.some.inj hskip)).2
  · cases hnil

theorem more?_eq_some_iff {r : List Char} : flags.more? cs = some r ↔ flags.skip cs = r ∧ r ≠ [] := by
  rw [Flags.more?]
  cases flags.skip cs with
  | nil => exact iff_of_false nofun fun h => h.2 h.1.symm
  | cons c rest => simp +contextual [eq_comm]

theorem more?_suffix {r : List Char} (h : flags.more? cs = some r) : r <:+ cs :=
  (more?_eq_some_iff.mp h).1 ▸ skip_suffix flags cs

/-- Something that counts is still left, and of it something before the ending. -/
theorem more?_append (h : Ends t t') {w v : List Char} (hne : v ≠ [])
    (hmore : flags.more? (w ++ t) = some (v ++ t)) : flags.more? (w ++ t') = some (v ++ t') := by
  have hskip := (more?_eq_some_iff.mp hmore).1
  rcases same_skip h flags () w () v (by rw [hskip]) with hsame | ⟨hnil, -⟩
  · exact more?_eq_some_iff.mpr
      ⟨(Prod.mk.inj (Option.some.inj hsame)).2, List.append_ne_nil_of_left_ne_nil hne t'⟩
  · exact absurd hnil hne

theorem Leaves.more {f : List Char → Option (α × List Char)} (hf : ∀ cs, Leaves cs (f cs))
    (cs : List Char) : Leaves cs ((flags.more? cs).bind f) := by
  intro a r ho
  obtain ⟨v, hmore, hr⟩ := Option.bind_eq_some_iff.mp ho
  exact (hf v a r hr).trans (more?_suffix hmore)

theorem SameInside.more (h : Ends t t') {f f' : List Char → Option (α × List Char)}
    (hf : ∀ cs, Leaves cs (f cs)) {w : List Char}
    (hsame : ∀ v, (v ++ t').length ≤ (w ++ t').length → SameInside t t' (f (v ++ t)) (f' (v ++ t'))) :
    SameInside t t' ((flags.more? (w ++ t)).bind f) ((flags.more? (w ++ t')).bind f') := by
  intro a r hne ho
  obtain ⟨v, hmore, hr⟩ := Option.bind_eq_some_iff.mp ho
  obtain ⟨u, rfl⟩ := exists_of_leaves (hf v a _ hr)
  have hmore' := more?_append h (List.append_ne_nil_of_right_ne_nil u hne) hmore
  rw [hmore']
  exact hsame (u ++ r) (more?_suffix hmore').length_le a r hne hr

theorem Same.more (h : Ends t t') {f : List Char → Option (α × List Char)}
    (hf : ∀ cs, Consumes cs (f cs)) (hsame : ∀ v, Same t t' (f (v ++ t)) (f (v ++ t')))
    (w : List Char) : Same t t' ((flags.more? (w ++ t)).bind f) ((flags.more? (w ++ t')).bind f) := by
  intro a r ho
  obtain ⟨v, hmore, hr⟩ := Option.bind_eq_some_iff.mp ho
  obtain ⟨u, rfl, hne⟩ := (hf v).exists_append hr
  rw [more?_append h hne hmore]
  exact hsame (u ++ r) a r hr

/-! ## Runs of characters -/

theorem span_ne_append {stop : Char} {name : List Char} (h : stop ∉ name) (rest : List Char) :
    (name ++ stop :: rest).span (· != stop) = (name, stop :: rest) := by
  have hname : ∀ c ∈ name, (c != stop) = true := by
    intro c hc
    exact bne_iff_ne.mpr fun heq => h (heq ▸ hc)
  rw [List.span_eq_takeWhile_dropWhile, List.takeWhile_append_of_pos hname,
    List.dropWhile_append_of_pos hname]
  simp

theorem of_span_ne {stop : Char} {name rest : List Char} (h : cs.span (· != stop) = (name, rest)) :
    cs = name ++ rest ∧ stop ∉ name ∧ ∀ c ∈ rest.head?, c = stop := by
  rw [List.span_eq_takeWhile_dropWhile, Prod.mk.injEq] at h
  obtain ⟨rfl, rfl⟩ := h
  refine ⟨List.takeWhile_append_dropWhile.symm, fun hmem => ?_, fun c hc => ?_⟩
  · have hne : (stop != stop) = true := List.mem_takeWhile_imp (p := (· != stop)) hmem
    exact bne_iff_ne.mp hne rfl
  · have hnot := List.head?_dropWhile_not (· != stop) cs
    rw [Option.mem_def.mp hc] at hnot
    simpa using hnot

/-- The characters of a kind from the front, each followed by what may be skipped. -/
def spanSkip (flags : Flags) (kind : Char → Bool) : Nat → List Char → List Char × List Char
  | 0, cs => ([], cs)
  | _ + 1, [] => ([], [])
  | fuel + 1, c :: cs =>
    if kind c then
      (c :: (spanSkip flags kind fuel (flags.skip cs)).1,
        (spanSkip flags kind fuel (flags.skip cs)).2)
    else ([], c :: cs)

theorem spanSkip_nil (kind : Char → Bool) (fuel : Nat) : spanSkip flags kind fuel [] = ([], []) := by
  cases fuel with
  | zero => rfl
  | succ fuel => rfl

theorem spanSkip_suffix (kind : Char → Bool) (fuel : Nat) (cs : List Char) :
    (spanSkip flags kind fuel cs).2 <:+ cs := by
  induction fuel generalizing cs with
  | zero => exact List.suffix_refl cs
  | succ fuel ih =>
    cases cs with
    | nil => exact List.suffix_refl []
    | cons c cs =>
      rw [spanSkip]
      split
      · exact ((ih _).trans (skip_suffix flags cs)).trans (List.suffix_cons c cs)
      · exact List.suffix_refl (c :: cs)

theorem spanSkip_of_closes {kind : Char → Bool} (hkind : kind ')' = false) (fuel : Nat)
    (h : ∀ c rest, t = c :: rest → c = ')') : spanSkip flags kind fuel t = ([], t) := by
  cases t with
  | nil => exact spanSkip_nil kind fuel
  | cons c rest =>
    obtain rfl := h c rest rfl
    cases fuel with
    | zero => rfl
    | succ fuel =>
      rw [spanSkip, hkind]
      rfl

theorem same_spanSkip (h : Ends t t') {kind : Char → Bool} (hkind : kind ')' = false)
    {fuel fuel' : Nat} {w : List Char} (hfuel : (w ++ t).length ≤ fuel)
    (hfuel' : (w ++ t').length ≤ fuel') :
    Same t t' (some (spanSkip flags kind fuel (w ++ t)))
      (some (spanSkip flags kind fuel' (w ++ t'))) := by
  induction fuel generalizing fuel' w with
  | zero =>
    have hnil := List.eq_nil_of_length_eq_zero (Nat.le_zero.mp hfuel)
    obtain ⟨rfl, rfl⟩ := List.append_eq_nil_iff.mp hnil
    rw [List.nil_append, List.nil_append, spanSkip_nil,
      spanSkip_of_closes hkind fuel' h.closes_target]
    exact (exact_some (w := [])).same
  | succ fuel ih =>
    cases w with
    | nil =>
      rw [List.nil_append, List.nil_append, spanSkip_of_closes hkind _ h.closes,
        spanSkip_of_closes hkind _ h.closes_target]
      exact (exact_some (w := [])).same
    | cons c w =>
      obtain ⟨fuel', rfl⟩ : ∃ n, fuel' = n + 1 :=
        ⟨fuel' - 1, by rw [List.cons_append, List.length_cons] at hfuel'; omega⟩
      rw [List.cons_append, List.length_cons] at hfuel hfuel'
      rw [List.cons_append, List.cons_append, spanSkip, spanSkip]
      split
      · refine (same_skip h flags () w).bind_fuel
          (g := fun p => some (c :: (spanSkip flags kind fuel p.2).1, (spanSkip flags kind fuel p.2).2))
          (k := fun p =>
            some (c :: (spanSkip flags kind fuel' p.2).1, (spanSkip flags kind fuel' p.2).2))
          (fun _ r => leaves_some (spanSkip_suffix kind fuel r)) ?_ ?_
        · intro _ w' ho ho'
          have hlength := (skip_suffix flags (w ++ t)).length_le
          have hlength' := (skip_suffix flags (w ++ t')).length_le
          rw [(Prod.mk.inj (Option.some.inj ho)).2] at hlength
          rw [(Prod.mk.inj (Option.some.inj ho')).2] at hlength'
          exact (ih (by omega) (by omega)).bind (g := fun p => some (c :: p.1, p.2))
            (fun _ r => leaves_some (List.suffix_refl r)) fun _ _ => exact_some.same
        · intro _ b hb
          rw [spanSkip_nil] at hb ⊢
          exact hb
      · exact (exact_some (w := c :: w)).same

end SeriesQuery.Regex
