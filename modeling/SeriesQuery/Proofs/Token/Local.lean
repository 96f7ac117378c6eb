/-
Tokens are read locally. A scanner takes its token off the front of the
text, and takes the same token when the text ends anywhere after it
(`scan_local`). So the characters after a token may stop it, and leaving
them out makes it neither longer nor shorter.
-/
import Mathlib.Data.List.TakeWhile
import SeriesQuery.Proofs.Token.Written

namespace SeriesQuery

/-- Words and symbols, which are written in one way only. -/
def Token.Kind.fixed : Token.Kind → Bool
  | word _ | symbol _ => true
  | _ => false

namespace Scan

/-- After `text` the scanner comes to `result`, however much of `rest` follows. -/
def Local {α : Type} (f : List Char → α) (text rest : List Char) (result : List Char → α) : Prop :=
  ∀ r, r <+: rest → f (text ++ r) = result r

theorem prefix_after {r rest : List Char} (text : List Char) (h : r <+: rest) :
    text ++ r <+: text ++ rest :=
  (List.prefix_append_right_inj text).mpr h

/-- A start of a text begins as the text does, unless it is empty. -/
theorem mem_head?_of_isPrefix {c : Char} {r rest : List Char} (hr : r <+: rest)
    (hc : c ∈ r.head?) : c ∈ rest.head? := by
  obtain ⟨more, rfl⟩ := hr
  rw [List.head?_append, hc, Option.some_or]
  rfl

theorem span_local {p : Char → Bool} {cs a b : List Char} (h : cs.span p = (a, b)) :
    cs = a ++ b ∧ Local (List.span p) a b fun r => (a, r) := by
  rw [List.span_eq_takeWhile_dropWhile, Prod.mk.injEq] at h
  obtain ⟨rfl, rfl⟩ := h
  refine ⟨List.takeWhile_append_dropWhile.symm, fun r hr => ?_⟩
  refine span_eq (fun c hc => List.mem_takeWhile_imp hc) fun c hc => ?_
  replace hc := mem_head?_of_isPrefix hr hc
  have := List.head?_dropWhile_not p cs
  rw [Option.mem_def.mp hc] at this
  simpa using this

/-! ## Numbers -/

/-- The text of a fraction with these digits. -/
def point (digits : List Char) : List Char := if digits.isEmpty then [] else '.' :: digits

theorem fraction_local {cs digits rest : List Char} (h : fraction cs = (digits, rest)) :
    cs = point digits ++ rest ∧ Local fraction (point digits) rest fun r => (digits, r) := by
  unfold fraction at h
  split at h
  · rename_i c cs
    split at h
    · rename_i hdigit
      obtain ⟨hcs, hspan⟩ := span_local h
      cases digits with
      | nil =>
        rw [List.span_eq_takeWhile_dropWhile, List.takeWhile_cons_of_pos hdigit] at h
        cases h
      | cons d ds =>
        refine ⟨by rw [hcs]; rfl, fun r hr => ?_⟩
        obtain ⟨rfl, _⟩ := List.cons.inj hcs
        exact (if_pos hdigit).trans (hspan r hr)
    · rename_i hdigit
      cases h
      refine ⟨rfl, fun r hr => ?_⟩
      obtain rfl | ⟨r, rfl, hr'⟩ := List.prefix_cons_iff.mp hr
      · rfl
      obtain rfl | ⟨r, rfl, -⟩ := List.prefix_cons_iff.mp hr'
      · rfl
      · exact if_neg hdigit
  · rename_i hpoint
    cases h
    refine ⟨rfl, fun r hr => ?_⟩
    simp only [point, List.isEmpty_nil, if_true, List.nil_append]
    unfold fraction
    split
    · obtain ⟨more, rfl⟩ := hr
      exact absurd rfl (hpoint _ _)
    · rfl

theorem exponentDigits_local {mark mark' cs ds rest : List Char}
    (h : exponentDigits mark cs = some (mark', ds, rest)) :
    mark' = mark ∧ cs = ds ++ rest ∧
      Local (exponentDigits mark) ds rest fun r => some (mark, ds, r) := by
  unfold exponentDigits at h
  split at h
  · cases h
  · rename_i a b hne hspan
    simp only [Option.some.injEq, Prod.mk.injEq] at h
    obtain ⟨rfl, rfl, rfl⟩ := h
    obtain ⟨rfl, hlocal⟩ := span_local hspan
    refine ⟨rfl, rfl, fun r hr => ?_⟩
    rw [exponentDigits, hlocal r hr]
    cases a with
    | nil => exact absurd rfl hne
    | cons d ds => rfl

theorem exponentDigits_ne_none {mark cs more : List Char} (h : exponentDigits mark cs ≠ none)
    (mark' : List Char) : exponentDigits mark' (cs ++ more) ≠ none := by
  unfold exponentDigits at h ⊢
  cases cs with
  | nil => exact absurd rfl h
  | cons c cs =>
    cases hc : c.isDigit with
    | false => simp [List.span_eq_takeWhile_dropWhile, hc] at h
    | true => simp [List.span_eq_takeWhile_dropWhile, hc]

/-- The sign of an exponent, if any, and the text after it. -/
def sign : List Char → List Char × List Char
  | '+' :: cs => (['+'], cs)
  | '-' :: cs => (['-'], cs)
  | cs => ([], cs)

theorem exponent_eq {e : Char} (he : (e == 'e' || e == 'E') = true) (cs : List Char) :
    exponent (e :: cs) = exponentDigits (e :: (sign cs).1) (sign cs).2 :=
  if_pos he

theorem sign_local {cs s rest : List Char} (h : sign cs = (s, rest)) :
    cs = s ++ rest ∧ Local sign s rest fun r => (s, r) := by
  unfold sign at h
  split at h
  · cases h; exact ⟨rfl, fun r _ => rfl⟩
  · cases h; exact ⟨rfl, fun r _ => rfl⟩
  · rename_i hplus hminus
    cases h
    refine ⟨rfl, fun r hr => ?_⟩
    obtain ⟨more, rfl⟩ := hr
    rw [List.nil_append]
    unfold sign
    split
    · exact absurd rfl (hplus _)
    · exact absurd rfl (hminus _)
    · rfl

theorem sign_append {c : Char} {cs : List Char} (more : List Char) :
    sign (c :: cs ++ more) = ((sign (c :: cs)).1, (sign (c :: cs)).2 ++ more) := by
  by_cases hplus : c = '+'
  · subst hplus
    rfl
  by_cases hminus : c = '-'
  · subst hminus
    rfl
  simp [sign, hplus, hminus]

theorem exponent_local {cs mark ds rest : List Char} (h : exponent cs = some (mark, ds, rest)) :
    cs = mark ++ ds ++ rest ∧ Local exponent (mark ++ ds) rest fun r => some (mark, ds, r) := by
  cases cs with
  | nil => cases h
  | cons e cs =>
    cases he : (e == 'e' || e == 'E') with
    | false =>
      simp only [exponent, he] at h
      cases h
    | true =>
      rw [exponent_eq he] at h
      obtain ⟨rfl, hds, hdigits⟩ := exponentDigits_local h
      have hparts : sign cs = ((sign cs).1, (sign cs).2) := rfl
      obtain ⟨hcs, hsign⟩ := sign_local hparts
      rw [hds] at hsign
      refine ⟨?_, fun r hr => ?_⟩
      · rw [List.cons_append, List.cons_append, List.append_assoc, ← hds, ← hcs]
      · rw [List.cons_append, List.cons_append, List.append_assoc, exponent_eq he,
          hsign _ (prefix_after ds hr)]
        exact hdigits r hr

/-- A text with no exponent at its start has none either when it ends earlier. -/
theorem exponent_none_local {cs : List Char} (h : exponent cs = none) :
    Local exponent [] cs fun _ => none := by
  rintro r ⟨more, rfl⟩
  rw [List.nil_append]
  by_contra hr
  cases r with
  | nil => exact hr rfl
  | cons e r =>
    cases he : (e == 'e' || e == 'E') with
    | false =>
      refine hr ?_
      simp only [exponent, he]
      rfl
    | true =>
      rw [exponent_eq he] at hr
      rw [List.cons_append, exponent_eq he] at h
      cases r with
      | nil => exact hr rfl
      | cons c r =>
        rw [sign_append] at h
        exact exponentDigits_ne_none hr _ h

theorem startsWithLetter_local {cs : List Char} (h : startsWithLetter cs = false) :
    Local startsWithLetter [] cs fun _ => false := by
  intro r hr
  cases r with
  | nil => rfl
  | cons c r =>
    obtain ⟨more, rfl⟩ := hr
    exact h

/-- A duration has a unit, which is not empty. -/
theorem duration_local {text cs text' rest : List Char} {whole : Option (List Char)}
    {k : Token.Kind} (h : duration text whole cs = .token k text' rest) :
    ∃ c unit, text' = text ++ c :: unit ∧ cs = c :: unit ++ rest ∧
      Local (duration text whole) (c :: unit) rest fun r => .token k text' r := by
  obtain ⟨letters, cs', hletters⟩ : ∃ a b, cs.span Char.isAlpha = (a, b) := ⟨_, _, rfl⟩
  obtain ⟨glued, rest', hglued⟩ : ∃ a b, cs'.span isNameChar = (a, b) := ⟨_, _, rfl⟩
  simp only [duration, hletters, hglued] at h
  obtain ⟨rfl, hlettersLocal⟩ := span_local hletters
  obtain ⟨rfl, hgluedLocal⟩ := span_local hglued
  cases whole with
  | none => cases h
  | some digits =>
    dsimp only at h
    split at h
    · cases h
    · rename_i unit hunit
      split at h
      · cases h
      · rename_i amount hamount
        cases h
        have hlocal : Local (duration text (some digits)) (letters ++ glued) rest fun r =>
            .token (.duration ⟨amount, unit⟩) (text ++ (letters ++ glued)) r := by
          intro r hr
          simp only [duration, List.append_assoc, hlettersLocal _ (prefix_after glued hr),
            hgluedLocal r hr, hunit, hamount]
        cases hsuffix : letters ++ glued with
        | nil => rw [hsuffix] at hunit; cases hunit
        | cons c cs =>
          rw [hsuffix] at hlocal
          exact ⟨c, cs, rfl, by rw [← List.append_assoc, hsuffix], hlocal⟩

theorem double_local {text cs text' rest : List Char} {x : Float} {k : Token.Kind}
    (h : number.double text x cs = .token k text' rest) :
    text' = text ∧ cs = rest ∧ Local (number.double text x) [] rest fun r => .token k text r := by
  unfold number.double at h
  split at h
  · cases h
  · rename_i hletter
    split at h
    · rename_i hfinite
      cases h
      refine ⟨rfl, rfl, fun r hr => ?_⟩
      have hletter := startsWithLetter_local (Bool.eq_false_iff.mpr hletter) r hr
      simp only [List.nil_append] at hletter ⊢
      simp only [number.double, hletter, hfinite, Bool.false_eq_true, if_true, if_false]
    · cases h

/-- What a number with these digits comes to when `cs` follows, which starts with no exponent. -/
def unscaled (whole digits cs : List Char) : Step :=
  let text := whole ++ point digits
  if !digits.isEmpty then number.double text (Decimal.ofParts whole digits 0) cs
  else if startsWithLetter cs then duration text (some whole) cs
  else
    match int64OfInt? (Decimal.digitsValue whole) with
    | none => .fault (.integerRange (String.ofList text)) 0 text
    | some n => .token (.integer n) text cs

/-- What a number with these digits comes to when `cs` follows. -/
def afterDigits (whole digits cs : List Char) : Step :=
  match exponent cs with
  | some (mark, ds, rest) => number.double (whole ++ point digits ++ mark ++ ds)
      (Decimal.ofParts whole digits (exponentValue mark ds)) rest
  | none => unscaled whole digits cs

theorem number_eq {cs whole cs₁ digits cs₂ : List Char}
    (hwhole : cs.span Char.isDigit = (whole, cs₁)) (hdigits : fraction cs₁ = (digits, cs₂)) :
    number cs = afterDigits whole digits cs₂ := by
  have htext : (if digits.isEmpty then whole else whole ++ '.' :: digits) =
      whole ++ point digits := by
    cases digits <;> simp [point]
  simp only [number, hwhole, hdigits, htext]
  rfl

theorem unscaled_local {whole digits cs text rest : List Char} {k : Token.Kind}
    (h : unscaled whole digits cs = .token k text rest) :
    ∃ taken, text = whole ++ point digits ++ taken ∧ cs = taken ++ rest ∧
      Local (unscaled whole digits) taken rest fun r => .token k text r := by
  unfold unscaled at h
  dsimp only at h
  split at h
  · rename_i hpoint
    obtain ⟨rfl, rfl, hdouble⟩ := double_local h
    exact ⟨[], (List.append_nil _).symm, rfl, fun r hr => (if_pos hpoint).trans (hdouble r hr)⟩
  rename_i hpoint
  split at h
  · rename_i hletter
    obtain ⟨c, unit, rfl, rfl, hduration⟩ := duration_local h
    refine ⟨c :: unit, rfl, rfl, fun r hr => ?_⟩
    exact (if_neg hpoint).trans ((if_pos hletter).trans (hduration r hr))
  · rename_i hletter
    split at h
    · cases h
    · rename_i n hn
      cases h
      refine ⟨[], (List.append_nil _).symm, rfl, fun r hr => ?_⟩
      have hletter := startsWithLetter_local (Bool.eq_false_iff.mpr hletter) r hr
      rw [List.nil_append] at hletter ⊢
      simp only [unscaled, hpoint, hletter, hn, Bool.false_eq_true, if_false]

theorem afterDigits_local {whole digits cs text rest : List Char} {k : Token.Kind}
    (h : afterDigits whole digits cs = .token k text rest) :
    ∃ taken, text = whole ++ point digits ++ taken ∧ cs = taken ++ rest ∧
      Local (afterDigits whole digits) taken rest fun r => .token k text r := by
  unfold afterDigits at h
  split at h
  · rename_i mark ds cs₃ hexponent
    obtain ⟨rfl, hlocal⟩ := exponent_local hexponent
    obtain ⟨rfl, rfl, hdouble⟩ := double_local h
    refine ⟨mark ++ ds, List.append_assoc .., rfl, fun r hr => ?_⟩
    simp only [afterDigits, hlocal r hr]
    exact hdouble r hr
  · rename_i hexponent
    obtain ⟨taken, rfl, rfl, hlocal⟩ := unscaled_local h
    refine ⟨taken, rfl, rfl, fun r hr => ?_⟩
    have hnone : exponent (taken ++ r) = none :=
      exponent_none_local hexponent _ (prefix_after taken hr)
    simp only [afterDigits, hnone]
    exact hlocal r hr

/-- A number takes the digits that the text starts with. -/
theorem number_local {cs text rest : List Char} {k : Token.Kind}
    (h : number cs = .token k text rest) :
    cs.takeWhile Char.isDigit <+: text ∧ cs = text ++ rest ∧
      Local number text rest fun r => .token k text r := by
  obtain ⟨whole, cs₁, hwhole⟩ : ∃ a b, cs.span Char.isDigit = (a, b) := ⟨_, _, rfl⟩
  obtain ⟨digits, cs₂, hdigits⟩ : ∃ a b, fraction cs₁ = (a, b) := ⟨_, _, rfl⟩
  rw [number_eq hwhole hdigits] at h
  have htake : cs.takeWhile Char.isDigit = whole := by
    rw [List.span_eq_takeWhile_dropWhile] at hwhole
    exact congrArg Prod.fst hwhole
  rw [htake]
  obtain ⟨rfl, hwholeLocal⟩ := span_local hwhole
  obtain ⟨rfl, hdigitsLocal⟩ := fraction_local hdigits
  obtain ⟨taken, rfl, rfl, hlocal⟩ := afterDigits_local h
  refine ⟨⟨_, (List.append_assoc ..).symm⟩, by simp only [List.append_assoc], fun r hr => ?_⟩
  have htaken := prefix_after taken hr
  simp only [List.append_assoc]
  rw [number_eq (hwholeLocal _ (prefix_after _ htaken)) (hdigitsLocal _ htaken), hlocal r hr]
  simp only [List.append_assoc]

/-! ## Strings, words and symbols -/

/-- A quoted text is the same whatever follows it. -/
theorem body_local {u : Char → Option (List Char)} {quote : Char} (hquote : quote ≠ '\\') :
    (cs : List Char) → {value text rest : List Char} →
    body u quote cs = .closed value text rest →
    cs = text ++ rest ∧ ∀ r, body u quote (text ++ r) = .closed value text r
  | [], _, _, _, h => by
    rw [body] at h
    cases h
  | c :: cs, value, text, rest, h => by
    by_cases hc : c = quote
    · subst hc
      rw [body_close] at h
      cases h
      exact ⟨rfl, fun r => body_close r⟩
    by_cases hbackslash : c = '\\'
    · subst hbackslash
      cases cs with
      | nil => rw [body, if_neg hc, if_pos rfl] at h; cases h
      | cons e cs =>
        cases he : u e with
        | none =>
          rw [body, if_neg hc, if_pos rfl] at h
          simp only [he] at h
          cases h
        | some w =>
          rw [body_escape hquote he] at h
          obtain ⟨v, t, hv, rfl, rfl⟩ := Body.closed_of_cons h
          obtain ⟨rfl, hlocal⟩ := body_local hquote cs hv
          refine ⟨rfl, fun r => ?_⟩
          simp only [List.cons_append, List.nil_append]
          rw [body_escape hquote he, hlocal]
          rfl
    · rw [body_plain hc hbackslash] at h
      obtain ⟨v, t, hv, rfl, rfl⟩ := Body.closed_of_cons h
      obtain ⟨rfl, hlocal⟩ := body_local hquote cs hv
      refine ⟨rfl, fun r => ?_⟩
      simp only [List.cons_append, List.nil_append]
      rw [body_plain hc hbackslash, hlocal]
      rfl

/-- A stretch that starts with the text takes its first character. -/
theorem span_cons {p : Char → Bool} {c : Char} {cs text rest : List Char} (hc : p c = true)
    (h : (c :: cs).span p = (text, rest)) : ∃ t, text = c :: t ∧ cs = t ++ rest := by
  rw [List.span_eq_takeWhile_dropWhile, List.takeWhile_cons_of_pos hc,
    List.dropWhile_cons_of_pos hc, Prod.mk.injEq] at h
  obtain ⟨rfl, rfl⟩ := h
  exact ⟨_, rfl, List.takeWhile_append_dropWhile.symm⟩

theorem head_ne_of_isPrefix {c d : Char} {r rest : List Char} (hr : c :: r <+: rest)
    (h : ∀ cs, rest = d :: cs → False) : c ≠ d := by
  rintro rfl
  obtain ⟨more, rfl⟩ := hr
  exact h _ rfl

/-- A symbol is taken as it is written, and what follows does not make it a longer one. -/
theorem symbol?_local {c : Char} {cs text rest : List Char} {s : Symbol}
    (h : symbol? (c :: cs) = some (s, text, rest)) :
    ∃ t, text = c :: t ∧ cs = t ++ rest ∧ text = s.text.toList ∧
      Local symbol? text rest fun r => some (s, text, r) := by
  unfold symbol? at h
  split at h
  all_goals simp only [Option.some.injEq, Prod.mk.injEq, reduceCtorEq] at h
  all_goals
    obtain ⟨rfl, rfl, rfl⟩ := h
    rename_i heq
    obtain ⟨rfl, rfl⟩ := List.cons.inj heq
    refine ⟨_, rfl, rfl, rfl, fun r hr => ?_⟩
  -- A symbol that is the start of a longer one stands before something else.
  case h_5 =>
    rename_i hequal hmatch
    cases r with
    | nil => rfl
    | cons c r => simp [symbol?, head_ne_of_isPrefix hr hequal, head_ne_of_isPrefix hr hmatch]
  case h_2 | h_7 | h_9 =>
    rename_i hequal
    cases r with
    | nil => rfl
    | cons c r => simp [symbol?, head_ne_of_isPrefix hr hequal]
  all_goals rfl

/-- A token is scanned from its text alone, if it ends there, and before every start of what
follows it in the text. -/
theorem scan_local [PatternEngine] {c : Char} {cs text rest : List Char} {k : Token.Kind}
    (h : scan c cs = .token k text rest) :
    ∃ t, text = c :: t ∧ cs = t ++ rest ∧ Local (scan c) t rest fun r => .token k text r := by
  cases scanned_of_scan h with
  | number hdigit h =>
    obtain ⟨⟨t, rfl⟩, hcs, hlocal⟩ := number_local h
    rw [List.takeWhile_cons_of_pos hdigit] at hcs hlocal ⊢
    exact ⟨_, rfl, (List.cons.inj hcs).2, fun r hr => (scan_digit hdigit _).trans (hlocal r hr)⟩
  | string hquote hbody =>
    obtain ⟨rfl, hlocal⟩ := body_local (by rcases hquote with rfl | rfl <;> decide) _ hbody
    exact ⟨_, rfl, rfl, fun r _ => (Scanned.string hquote (hlocal r)).scan⟩
  | regex hbody hp =>
    obtain ⟨rfl, hlocal⟩ := body_local (by decide) _ hbody
    exact ⟨_, rfl, rfl, fun r _ => (Scanned.regex (hlocal r) hp).scan⟩
  | word hname hregex hspan =>
    obtain ⟨t, rfl, rfl⟩ := span_cons (isNameChar_of_isNameStart hname) hspan
    refine ⟨t, rfl, rfl, fun r hr => (Scanned.word hname ?_ ((span_local hspan).2 r hr)).scan⟩
    exact fun hc c' hc' => hregex hc c' (mem_head?_of_isPrefix (prefix_after t hr) hc')
  | symbol hsymbol =>
    obtain ⟨t, rfl, rfl, -, hlocal⟩ := symbol?_local hsymbol
    exact ⟨t, rfl, rfl, fun r hr => (Scanned.symbol (hlocal r hr)).scan⟩

/-! ## Words and symbols as they are written -/

theorem not_fixed_of_duration {text cs text' rest : List Char} {whole : Option (List Char)}
    {k : Token.Kind} (h : duration text whole cs = .token k text' rest) : k.fixed = false := by
  unfold duration at h
  dsimp only at h
  split at h
  · cases h
  · split at h
    · cases h
    · split at h <;> cases h
      rfl

theorem not_fixed_of_double {text cs text' rest : List Char} {x : Float} {k : Token.Kind}
    (h : number.double text x cs = .token k text' rest) : k.fixed = false := by
  unfold number.double at h
  split at h
  · exact not_fixed_of_duration h
  · split at h <;> cases h
    rfl

theorem not_fixed_of_number {cs text rest : List Char} {k : Token.Kind}
    (h : number cs = .token k text rest) : k.fixed = false := by
  unfold number at h
  dsimp only at h
  split at h
  · exact not_fixed_of_double h
  · split at h
    · exact not_fixed_of_double h
    · split at h
      · exact not_fixed_of_duration h
      · split at h <;> cases h
        rfl

/-- The text of a word or a symbol is the one it is written with. -/
theorem text_of_scan [PatternEngine] {c : Char} {cs text rest : List Char} {k : Token.Kind}
    (h : scan c cs = .token k text rest) (hk : k.fixed = true) : text = k.spelling := by
  cases scanned_of_scan h with
  | number _ h =>
    rw [not_fixed_of_number h] at hk
    cases hk
  | string | regex => cases hk
  | word => exact String.toList_ofList.symm
  | symbol hsymbol =>
    obtain ⟨_, -, -, htext, -⟩ := symbol?_local hsymbol
    exact htext

end Scan

end SeriesQuery
