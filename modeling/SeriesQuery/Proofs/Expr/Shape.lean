/-
Trees of the same shape. Shape tells integers, strings and names apart, and
doubles too as far as they have no sign, which those of parsed trees do not
(`unsigned_of_parse`). Of a duration it sees the length and not the unit. So
trees of the same shape with durations in the same units differ in their
places only (`bare_eq_of_sameShape`), and come to the same results.
-/
import SeriesQuery.Proofs.Decimal.Unsigned
import SeriesQuery.Proofs.Expr.Outcome
import SeriesQuery.Proofs.Expr.RoundTrip
import SeriesQuery.Regex.Engine

namespace SeriesQuery

open Category

/-! ## Doubles of parsed trees -/

namespace Scan

theorem eq_of_double {text cs text' rest : List Char} {x y : Float}
    (h : number.double text x cs = .token (.double y) text' rest) : y = x := by
  unfold number.double at h
  split at h
  · unfold duration at h
    cases h
  · split at h
    · cases h
      rfl
    · cases h

theorem unsigned_of_number {cs text rest : List Char} {x : Float}
    (h : number cs = .token (.double x) text rest) : Unsigned x := by
  unfold number at h
  dsimp only at h
  split at h
  · exact eq_of_double h ▸ unsigned_nearest _ _
  · split at h
    · exact eq_of_double h ▸ unsigned_nearest _ _
    · split at h
      · unfold duration at h
        dsimp only at h
        split at h
        · cases h
        · split at h <;> cases h
      · split at h <;> cases h

end Scan

namespace Phrase

theorem mem_kinds_of_mem_doubles {c : Category} (p : Phrase c) {x : Float}
    (h : x ∈ doublesIn c p.tree) : .double x ∈ p.kinds := by
  induction p with
  | letIn _ name v b ihv ihb =>
    simp only [kinds, List.mem_cons, List.mem_append]
    rcases List.mem_append.mp h with h | h
    · simp [ihv h]
    · simp [ihb h]
  | lift p ih => exact ih h
  | binary op _ l r ihl ihr =>
    simp only [kinds, List.mem_append, List.mem_cons]
    rcases List.mem_append.mp h with h | h
    · simp [ihl h]
    · simp [ihr h]
  | literal _ v =>
    cases v with
    | double y =>
      obtain rfl := List.mem_singleton.mp h
      exact List.mem_singleton_self _
    | _ => cases h
  | more p q ihp ihq =>
    simp only [kinds, List.mem_append, List.mem_cons]
    rcases List.mem_append.mp h with h | h
    · simp [ihp h]
    · simp [ihq h]
  | one p ih => exact ih ((List.mem_append.mp h).resolve_right List.not_mem_nil)
  | some p ih => exact ih h
  | tagged _ name op v ih => simp [kinds, ih h]
  | signed _ s p ih => simp [kinds, ih h]
  | group _ p ih => simp [kinds, ih h]
  | call _ name args ih => simp [kinds, ih h]
  | selector _ key filters ih => simp [kinds, ih h]
  | list _ p ih => simp [kinds, ih h]
  | reference | hasTag | none => cases h

end Phrase

/-! ## Units -/

/-- The unit that a literal is written in, if it is a duration. -/
def Literal.units : Literal → List TimeUnit
  | duration d => [d.unit]
  | _ => []

theorem Duration.eq_of_same {c d : Duration} (h : c.same d = true) (hunit : c.unit = d.unit) : c = d := by
  obtain ⟨m, u⟩ := c
  obtain ⟨n, u'⟩ := d
  obtain rfl : u = u' := hunit
  have hmillis : u.millis ≠ 0 := by cases u <;> decide
  have hamount : m.toInt = n.toInt := Int.eq_of_mul_eq_mul_right hmillis (beq_iff_eq.mp h)
  rw [Int64.toInt_inj.mp hamount]

variable {us us' : List TimeUnit}

/-- Equal literals are the same one, if they have no signs and the same units. -/
theorem Literal.eq_of_same {v w : Literal} (h : v.same w = true) (hv : ∀ x ∈ v.doubles, Unsigned x)
    (hw : ∀ x ∈ w.doubles, Unsigned x) (hunits : v.units ++ us = w.units ++ us') :
    v = w ∧ us = us' := by
  cases v <;> cases w <;> try cases h
  case double.double x y =>
    have hx := hv x (List.mem_singleton_self x)
    have hy := hw y (List.mem_singleton_self y)
    exact ⟨congrArg double (hx.eq_of_beq hy h), hunits⟩
  case duration.duration c d =>
    obtain ⟨hunit, hunits⟩ := List.cons.inj hunits
    exact ⟨congrArg duration (Duration.eq_of_same h hunit), hunits⟩
  all_goals exact ⟨congrArg _ (beq_iff_eq.mp h), hunits⟩

namespace Expr

mutual

/-- The units that the durations of a tree are written in, from left to right. -/
def units : Expr → List TimeUnit
  | literal _ v => v.units
  | reference _ _ => []
  | list _ items => unitsOf items
  | binary _ _ _ l r => units l ++ units r
  | unary _ _ _ a => units a
  | group _ a => units a
  | call _ _ args => unitsOf args
  | letIn _ _ v b => units v ++ units b
  | tagFilter _ _ _ v => units v
  | hasTag _ _ => []
  | selector _ _ filters => unitsOf filters

def unitsOf : List Expr → List TimeUnit
  | [] => []
  | e :: es => units e ++ unitsOf es

end

mutual

/-- Trees of the same shape are the same up to places, if their doubles have no signs and their
durations the same units. Further units follow in both, for the parts of a tree one by one. -/
theorem bare_eq_of_sameShape : (a b : Expr) → a.sameShape b = true →
    (∀ x ∈ a.doubles, Unsigned x) → (∀ x ∈ b.doubles, Unsigned x) → {us us' : List TimeUnit} →
    a.units ++ us = b.units ++ us' → a.bare = b.bare ∧ us = us'
  | literal _ v, b, h, ha, hb, _, _, hunits => by
    cases b <;> simp only [sameShape, Bool.false_eq_true] at h
    obtain ⟨rfl, hrest⟩ := Literal.eq_of_same h ha hb hunits
    exact ⟨rfl, hrest⟩
  | reference _ name, b, h, _, _, _, _, hunits => by
    cases b <;> simp only [sameShape, Bool.false_eq_true, beq_iff_eq] at h
    subst h
    exact ⟨rfl, hunits⟩
  | list _ items, b, h, ha, hb, _, _, hunits => by
    cases b <;> simp only [sameShape, Bool.false_eq_true] at h
    obtain ⟨hitems, hrest⟩ := bares_eq_of_sameShapes items _ h ha hb hunits
    exact ⟨by rw [bare, bare, hitems], hrest⟩
  | binary _ op _ l r, b, h, ha, hb, _, _, hunits => by
    cases b <;> simp only [sameShape, Bool.false_eq_true, Bool.and_eq_true, beq_iff_eq] at h
    obtain ⟨⟨rfl, hl⟩, hr⟩ := h
    simp only [doubles, List.forall_mem_append] at ha hb
    simp only [units, List.append_assoc] at hunits
    obtain ⟨hleft, hunits⟩ := bare_eq_of_sameShape l _ hl ha.1 hb.1 hunits
    obtain ⟨hright, hrest⟩ := bare_eq_of_sameShape r _ hr ha.2 hb.2 hunits
    exact ⟨by rw [bare, bare, hleft, hright], hrest⟩
  | unary _ op _ a, b, h, ha, hb, _, _, hunits => by
    cases b <;> simp only [sameShape, Bool.false_eq_true, Bool.and_eq_true, beq_iff_eq] at h
    obtain ⟨rfl, h⟩ := h
    obtain ⟨hoperand, hrest⟩ := bare_eq_of_sameShape a _ h ha hb hunits
    exact ⟨by rw [bare, bare, hoperand], hrest⟩
  | group _ a, b, h, ha, hb, _, _, hunits => by
    cases b <;> simp only [sameShape, Bool.false_eq_true] at h
    obtain ⟨hinner, hrest⟩ := bare_eq_of_sameShape a _ h ha hb hunits
    exact ⟨by rw [bare, bare, hinner], hrest⟩
  | call _ f args, b, h, ha, hb, _, _, hunits => by
    cases b <;> simp only [sameShape, Bool.false_eq_true, Bool.and_eq_true, beq_iff_eq] at h
    obtain ⟨rfl, h⟩ := h
    obtain ⟨hargs, hrest⟩ := bares_eq_of_sameShapes args _ h ha hb hunits
    exact ⟨by rw [bare, bare, hargs], hrest⟩
  | letIn _ name v e, b, h, ha, hb, _, _, hunits => by
    cases b <;> simp only [sameShape, Bool.false_eq_true, Bool.and_eq_true, beq_iff_eq] at h
    obtain ⟨⟨rfl, hv⟩, he⟩ := h
    simp only [doubles, List.forall_mem_append] at ha hb
    simp only [units, List.append_assoc] at hunits
    obtain ⟨hvalue, hunits⟩ := bare_eq_of_sameShape v _ hv ha.1 hb.1 hunits
    obtain ⟨hbody, hrest⟩ := bare_eq_of_sameShape e _ he ha.2 hb.2 hunits
    exact ⟨by rw [bare, bare, hvalue, hbody], hrest⟩
  | tagFilter _ t op v, b, h, ha, hb, _, _, hunits => by
    cases b <;> simp only [sameShape, Bool.false_eq_true, Bool.and_eq_true, beq_iff_eq] at h
    obtain ⟨⟨rfl, rfl⟩, h⟩ := h
    obtain ⟨hvalue, hrest⟩ := bare_eq_of_sameShape v _ h ha hb hunits
    exact ⟨by rw [bare, bare, hvalue], hrest⟩
  | hasTag _ t, b, h, _, _, _, _, hunits => by
    cases b <;> simp only [sameShape, Bool.false_eq_true, beq_iff_eq] at h
    subst h
    exact ⟨rfl, hunits⟩
  | selector _ key filters, b, h, ha, hb, _, _, hunits => by
    cases b <;> simp only [sameShape, Bool.false_eq_true, Bool.and_eq_true, beq_iff_eq] at h
    obtain ⟨rfl, h⟩ := h
    obtain ⟨hfilters, hrest⟩ := bares_eq_of_sameShapes filters _ h ha hb hunits
    exact ⟨by rw [bare, bare, hfilters], hrest⟩

theorem bares_eq_of_sameShapes : (as bs : List Expr) → sameShapes as bs = true →
    (∀ x ∈ doublesOf as, Unsigned x) → (∀ x ∈ doublesOf bs, Unsigned x) →
    {us us' : List TimeUnit} → unitsOf as ++ us = unitsOf bs ++ us' →
    bares as = bares bs ∧ us = us'
  | [], bs, h, _, _, _, _, hunits => by
    cases bs <;> simp only [sameShapes, Bool.false_eq_true] at h
    exact ⟨rfl, hunits⟩
  | a :: as, bs, h, ha, hb, _, _, hunits => by
    cases bs <;> simp only [sameShapes, Bool.false_eq_true, Bool.and_eq_true] at h
    simp only [doublesOf, List.forall_mem_append] at ha hb
    simp only [unitsOf, List.append_assoc] at hunits
    obtain ⟨hhead, hunits⟩ := bare_eq_of_sameShape a _ h.1 ha.1 hb.1 hunits
    obtain ⟨htail, hrest⟩ := bares_eq_of_sameShapes as _ h.2 ha.2 hb.2 hunits
    exact ⟨by rw [bares, bares, hhead, htail], hrest⟩

end

/-! ## Parsed trees -/

section Parsed

variable [PatternEngine] {limits limits' : Limits} {source source' : String} {a b e : Expr}

/-- The doubles of a parsed tree were read as numbers. -/
theorem number_of_mem_doubles (h : parse limits source = .ok e) {x : Float} (hx : x ∈ e.doubles) :
    ∃ cs text rest, Scan.number cs = .token (.double x) text rest := by
  obtain ⟨_, p, ts, _, htree, hts, hlexes⟩ := phrase_of_parse h
  rw [← doubles_bare, ← htree] at hx
  have hkind : .double x ∈ p.kinds := p.mem_kinds_of_mem_doubles hx
  obtain ⟨c, cs, text, rest, hscan⟩ := hlexes.exists_scan_of_mem_kinds (hts ▸ hkind)
  exact ⟨_, _, _, (Scan.number_of_scan_double hscan).2⟩

theorem unsigned_of_parse (h : parse limits source = .ok e) : ∀ x ∈ e.doubles, Unsigned x := by
  intro x hx
  obtain ⟨cs, text, rest, hnumber⟩ := number_of_mem_doubles h hx
  exact Scan.unsigned_of_number hnumber

/-- Parsed trees of the same shape whose durations are written in the same units evaluate alike in
every scope, and describe the same filter. -/
theorem sameResult_of_sameShape (ha : parse limits source = .ok a) (hb : parse limits' source' = .ok b)
    (h : a.sameShape b = true) (hunits : a.units = b.units) (scope : Scope) :
    SameResult (a.eval scope) (b.eval scope) ∧ SameResult (a.filter scope) (b.filter scope) := by
  have hbare : a.bare = b.bare :=
    (bare_eq_of_sameShape a b h (unsigned_of_parse ha) (unsigned_of_parse hb)
      (congrArg (· ++ []) hunits)).1
  have hsame := ungrouped_bare_eq hbare
  exact ⟨sameResult_eval hsame scope, sameResult_filter hsame scope⟩

end Parsed

open scoped Regex

/-- Neither layout nor zeros that add nothing make a difference, and `not` may be written `!`. -/
theorem sameResult_of_sameShape_layout :
    ∃ a b, parse ⟨20, 9⟩ "not (02m / 0.50 < t)" = .ok a ∧ parse ⟨20, 9⟩ "!(2m/0.5<t)" = .ok b ∧
      a.sameShape b = true ∧ a.units = b.units ∧
      ∀ scope, SameResult (a.eval scope) (b.eval scope) ∧
        SameResult (a.filter scope) (b.filter scope) := by
  let tree (not op inner quotient division minutes half less name : Span) (x : Float) : Expr :=
    .unary not .not op (.group inner (.binary ⟨inner.start + 1, inner.stop - 1⟩ .less less
      (.binary quotient .div division (.literal minutes (.duration ⟨2, .minutes⟩))
        (.literal half (.double x))) (.reference name "t")))
  let a : Expr := tree ⟨0, 20⟩ ⟨0, 3⟩ ⟨4, 20⟩ ⟨5, 15⟩ ⟨9, 10⟩ ⟨5, 8⟩ ⟨11, 15⟩ ⟨16, 17⟩ ⟨18, 19⟩
    (Decimal.nearest 50 (-2))
  let b : Expr := tree ⟨0, 11⟩ ⟨0, 1⟩ ⟨1, 11⟩ ⟨2, 8⟩ ⟨4, 5⟩ ⟨2, 4⟩ ⟨5, 8⟩ ⟨8, 9⟩ ⟨9, 10⟩
    (Decimal.nearest 5 (-1))
  have ha : parse ⟨20, 9⟩ "not (02m / 0.50 < t)" = .ok a := rfl
  have hb : parse ⟨20, 9⟩ "!(2m/0.5<t)" = .ok b := rfl
  have hshape : a.sameShape b = true := by decide
  have hunits : a.units = b.units := by decide
  exact ⟨a, b, ha, hb, hshape, hunits, sameResult_of_sameShape ha hb hshape hunits⟩

/-- The same length in another unit is another divisor: `60 / 2m` is half an hour, and `60 / 120s`
half a second. -/
theorem eval_differs_of_sameShape :
    ¬ ∀ (limits limits' : Limits) (source source' : String) (a b : Expr),
      parse limits source = .ok a → parse limits' source' = .ok b → a.sameShape b = true →
        ∀ scope, SameResult (a.eval scope) (b.eval scope) ∧ SameResult (a.filter scope) (b.filter scope) := by
  intro hall
  let a : Expr := .binary ⟨0, 7⟩ .div ⟨3, 4⟩ (.literal ⟨0, 2⟩ (.integer 60))
    (.literal ⟨5, 7⟩ (.duration ⟨2, .minutes⟩))
  let b : Expr := .binary ⟨0, 9⟩ .div ⟨3, 4⟩ (.literal ⟨0, 2⟩ (.integer 60))
    (.literal ⟨5, 9⟩ (.duration ⟨120, .seconds⟩))
  have ha : parse ⟨9, 9⟩ "60 / 2m" = .ok a := rfl
  have hb : parse ⟨9, 9⟩ "60 / 120s" = .ok b := rfl
  have hshape : a.sameShape b = true := by decide
  have hsame := (hall _ _ _ _ a b ha hb hshape Scope.empty).1
  have heval : a.eval Scope.empty = .ok (.duration ⟨30, .minutes⟩) := rfl
  have heval' : b.eval Scope.empty = .ok (.duration ⟨500, .milliseconds⟩) := rfl
  rw [heval, heval'] at hsame
  cases hsame

end Expr

end SeriesQuery
