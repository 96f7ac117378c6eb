/-
Tokens as they are written, and reading them back. `spelling` is the text a
token of each kind has in a printed query; the scanner takes it as that
token whenever the text goes on at a break (`scan_spelling`). It holds for
every token that the scanner itself gives (`writable_of_scan`), apart from
doubles: that the digits of a double read back as it is asked of each.
`Scanned` says once how a token comes about, case by case.
-/
import SeriesQuery.Expr.Text
import SeriesQuery.Proofs.Token.Break
import SeriesQuery.Proofs.Word

namespace SeriesQuery

open Scan

/-- The symbols that are the start of longer ones. -/
def Symbol.grows : Symbol → Bool
  | bang | assign | less | greater => true
  | _ => false

/-- How a pattern is written between its quotes. -/
def patternChars (cs : List Char) : List Char :=
  cs.flatMap fun c => if c = '"' then ['\\', '"'] else [c]

/-- The text of a token. -/
def Token.Kind.spelling : Token.Kind → List Char
  | integer n => (toString n.toInt).toList
  | double x => (Decimal.text Decimal.query x).toList
  | duration d => d.text.toList
  | string s => quoteChars s.toList
  | regex p => 'r' :: '"' :: (patternChars p.toList ++ ['"'])
  | word w => w.toList
  | symbol s => s.text.toList
  | stop => []

/-- Every backslash of a pattern goes with a character after it, which is no quote. -/
inductive Escaped : List Char → Prop
  | nil : Escaped []
  | plain {c : Char} {cs : List Char} : c ≠ '\\' → Escaped cs → Escaped (c :: cs)
  | pair {c : Char} {cs : List Char} : c ≠ '"' → Escaped cs → Escaped ('\\' :: c :: cs)

/-- The characters are a word of the language. -/
def IsWord (cs : List Char) : Prop :=
  ∃ c rest, cs = c :: rest ∧ isNameStart c = true ∧ rest.all isNameChar = true

namespace Scan

/-! ## Numbers -/

theorem digitsValue_toDigits (n : Nat) : Decimal.digitsValue (Nat.toDigits 10 n) = n := by
  have h := Nat.ofDigitChars_ten_toDigits (n := n)
  rw [Nat.ofDigitChars_eq_foldl] at h
  exact h

theorem toList_toString_of_nonneg {n : Int} (h : 0 ≤ n) :
    (toString n).toList = Nat.toDigits 10 n.toNat := by
  obtain ⟨m, rfl⟩ := Int.eq_ofNat_of_zero_le h
  exact Nat.toList_repr

theorem isDigit_of_mem_toDigits (n : Nat) : ∀ c ∈ Nat.toDigits 10 n, c.isDigit = true :=
  fun _ hc => Nat.isDigit_of_mem_toDigits (by decide) (by decide) hc

theorem toDigits_eq_cons (n : Nat) :
    ∃ c cs, Nat.toDigits 10 n = c :: cs ∧ c.isDigit = true := by
  obtain ⟨c, cs, h⟩ := List.exists_cons_of_ne_nil (Nat.toDigits_ne_nil (n := n) (b := 10))
  exact ⟨c, cs, h, isDigit_of_mem_toDigits n c (by simp [h])⟩

theorem number_digits {n : Int64} (h : 0 ≤ n.toInt) :
    number (Nat.toDigits 10 n.toInt.toNat) =
      .token (.integer n) (Nat.toDigits 10 n.toInt.toNat) [] := by
  have hspan : (Nat.toDigits 10 n.toInt.toNat).span Char.isDigit =
      (Nat.toDigits 10 n.toInt.toNat, []) := by
    simpa using span_eq (isDigit_of_mem_toDigits n.toInt.toNat) (atBreak_nil.noDigit)
  have hvalue : int64OfInt? (Decimal.digitsValue (Nat.toDigits 10 n.toInt.toNat)) = some n := by
    rw [int64OfInt?_eq_some, digitsValue_toDigits]
    omega
  simp only [number, hspan, fraction, exponent, List.isEmpty_nil, if_true, Bool.not_true,
    Bool.false_eq_true, if_false, startsWithLetter, hvalue]

theorem number_duration {d : Duration} (h : 0 ≤ d.amount.toInt) :
    number (Nat.toDigits 10 d.amount.toInt.toNat ++ d.unit.suffix.toList) =
      .token (.duration d) (Nat.toDigits 10 d.amount.toInt.toNat ++ d.unit.suffix.toList) [] := by
  obtain ⟨n, unit⟩ := d
  replace h : 0 ≤ n.toInt := h
  have hhead : ∀ c ∈ unit.suffix.toList.head?, c.isDigit = false := by
    cases unit <;> (rintro _ ⟨⟩; rfl)
  have hspan : (Nat.toDigits 10 n.toInt.toNat ++ unit.suffix.toList).span Char.isDigit =
      (Nat.toDigits 10 n.toInt.toNat, unit.suffix.toList) :=
    span_eq (isDigit_of_mem_toDigits n.toInt.toNat) hhead
  have hvalue : int64OfInt? (Decimal.digitsValue (Nat.toDigits 10 n.toInt.toNat)) = some n := by
    rw [int64OfInt?_eq_some, digitsValue_toDigits]
    omega
  have hfraction : fraction unit.suffix.toList = ([], unit.suffix.toList) := by
    cases unit <;> rfl
  have hexponent : exponent unit.suffix.toList = none := by
    cases unit <;> rfl
  have hletter : startsWithLetter unit.suffix.toList = true := by
    cases unit <;> rfl
  have hletters : unit.suffix.toList.span Char.isAlpha = (unit.suffix.toList, []) := by
    cases unit <;> rfl
  have hglued : ([] : List Char).span isNameChar = ([], []) := rfl
  have hunit : TimeUnit.ofSuffix? (String.ofList unit.suffix.toList) = some unit := by
    rw [String.ofList_toList]
    cases unit <;> rfl
  simp only [number, hspan, hfraction, hexponent, List.isEmpty_nil, if_true, Bool.not_true,
    Bool.false_eq_true, if_false, hletter, duration, hletters, hglued, List.append_nil, hunit,
    hvalue]

theorem nonneg_of_int64OfInt? {ds : List Char} {n : Int64}
    (h : int64OfInt? (Decimal.digitsValue ds) = some n) : 0 ≤ n.toInt := by
  rw [int64OfInt?_eq_some.mp h]
  exact Int.natCast_nonneg _

/-! ## Strings and patterns -/

section Body

variable {u : Char → Option (List Char)} {quote : Char}

theorem body_close (cs : List Char) : body u quote (quote :: cs) = .closed [] [quote] cs := by
  cases cs <;> simp [body]

theorem body_plain {c : Char} (hquote : c ≠ quote) (hbackslash : c ≠ '\\') (cs : List Char) :
    body u quote (c :: cs) = (body u quote cs).cons [c] [c] := by
  cases cs <;> simp [body, hquote, hbackslash]

theorem body_escape (hquote : quote ≠ '\\') {e : Char} {value : List Char} (hu : u e = some value)
    (cs : List Char) : body u quote ('\\' :: e :: cs) = (body u quote cs).cons value ['\\', e] := by
  simp [body, hquote.symm, hu]

end Body

theorem body_quoteChar (c : Char) (cs : List Char) :
    body unescape '"' (quoteChar c ++ cs) = (body unescape '"' cs).cons [c] (quoteChar c) := by
  unfold quoteChar
  split
  case h_7 hquote hbackslash _ _ _ _ => exact body_plain hquote hbackslash cs
  all_goals exact body_escape (by decide) rfl cs

theorem body_quoted (s more : List Char) :
    body unescape '"' (s.flatMap quoteChar ++ '"' :: more) =
      .closed s (s.flatMap quoteChar ++ ['"']) more := by
  induction s with
  | nil => exact body_close more
  | cons c s ih =>
    rw [List.flatMap_cons, List.append_assoc, body_quoteChar, ih, List.append_assoc]
    rfl

theorem body_pattern {p : List Char} (h : Escaped p) (more : List Char) :
    body unescapeRegex '"' (patternChars p ++ '"' :: more) =
      .closed p (patternChars p ++ ['"']) more := by
  induction h with
  | nil => exact body_close more
  | @plain c cs hc _ ih =>
    by_cases hquote : c = '"'
    · subst hquote
      have hcons (t : List Char) : patternChars ('"' :: cs) ++ t = '\\' :: '"' :: (patternChars cs ++ t) :=
        rfl
      have hu : unescapeRegex '"' = some ['"'] := rfl
      rw [hcons, hcons, body_escape (by decide) hu, ih]
      rfl
    · have hcons (t : List Char) : patternChars (c :: cs) ++ t = c :: (patternChars cs ++ t) := by
        simp [patternChars, hquote]
      rw [hcons, hcons, body_plain hquote hc, ih]
      rfl
  | @pair c cs hquote _ ih =>
    have hcons (t : List Char) :
        patternChars ('\\' :: c :: cs) ++ t = '\\' :: c :: (patternChars cs ++ t) := by
      simp [patternChars, hquote]
    have hu : unescapeRegex c = some ['\\', c] := if_neg hquote
    rw [hcons, hcons, body_escape (by decide) hu, ih]
    rfl

theorem Body.closed_of_cons {value text : List Char} {b : Body} {value' text' rest : List Char}
    (h : b.cons value text = .closed value' text' rest) :
    ∃ v t, b = .closed v t rest ∧ value' = value ++ v ∧ text' = text ++ t := by
  cases b with
  | closed v t r => cases h; exact ⟨v, t, rfl, rfl, rfl⟩
  | unterminated t => cases h
  | badEscape t c => cases h

/-- What stands between the quotes of a pattern has its backslashes in pairs. -/
theorem escaped_of_body : (cs : List Char) → {value text rest : List Char} →
    body unescapeRegex '"' cs = .closed value text rest → Escaped value
  | [], _, _, _, h => by
    rw [body] at h
    cases h
  | c :: cs, value, text, rest, h => by
    by_cases hquote : c = '"'
    · subst hquote
      rw [body_close] at h
      cases h
      exact .nil
    by_cases hbackslash : c = '\\'
    · subst hbackslash
      match cs, h with
      | [], h => rw [body, if_neg hquote, if_pos rfl] at h; cases h
      | e :: cs, h =>
        by_cases he : e = '"'
        · rw [body_escape (by decide) (if_pos he)] at h
          obtain ⟨v, t, hv, rfl, -⟩ := Body.closed_of_cons h
          exact .plain (by decide) (escaped_of_body cs hv)
        · rw [body_escape (by decide) (if_neg he)] at h
          obtain ⟨v, t, hv, rfl, -⟩ := Body.closed_of_cons h
          exact .pair he (escaped_of_body cs hv)
    · rw [body_plain hquote hbackslash] at h
      obtain ⟨v, t, hv, rfl, -⟩ := Body.closed_of_cons h
      exact .plain hbackslash (escaped_of_body cs hv)

/-! ## Words -/

theorem not_isDigit_of_isNameStart {c : Char} (h : isNameStart c = true) :
    c.isDigit = false := by
  have habove : '9'.val < c.val := by
    obtain halpha | hunderscore := (Bool.or_eq_true _ _).mp h
    · obtain hupper | hlower := (Bool.or_eq_true _ _).mp halpha
      · have hA : 'A'.val ≤ c.val := (of_decide_eq_true hupper).1
        exact UInt32.lt_of_lt_of_le (by decide) hA
      · have ha : 'a'.val ≤ c.val := of_decide_eq_true ((Bool.and_eq_true _ _).mp hlower).1
        exact UInt32.lt_of_lt_of_le (by decide) ha
    · rw [beq_iff_eq.mp hunderscore]
      decide
  have h9 : decide (c.val ≤ '9'.val) = false := decide_eq_false (UInt32.not_le.mpr habove)
  exact Bool.and_eq_false_iff.mpr (.inr h9)

theorem isNameChar_of_isNameStart {c : Char} (h : isNameStart c = true) : isNameChar c = true := by
  simp only [isNameStart, isNameChar, Char.isAlphanum, Bool.or_eq_true] at h ⊢
  tauto

theorem word_of_isWord {cs : List Char} (h : IsWord cs) :
    word cs = .token (.word (String.ofList cs)) cs [] := by
  obtain ⟨c, rest, rfl, hc, hrest⟩ := h
  have hall : ∀ c' ∈ c :: rest, isNameChar c' = true := by
    rintro c' (_ | ⟨_, hc'⟩)
    · exact isNameChar_of_isNameStart hc
    · exact List.all_eq_true.mp hrest c' hc'
  have hspan : (c :: rest).span isNameChar = (c :: rest, []) := by
    simpa using span_eq hall atBreak_nil.noNameChar
  rw [word, hspan]

theorem isWord_of_span {c : Char} {cs : List Char} (h : isNameStart c = true) :
    IsWord ((c :: cs).span isNameChar).1 := by
  refine ⟨c, (cs.takeWhile isNameChar), ?_, h, ?_⟩
  · rw [List.span_eq_takeWhile_dropWhile, List.takeWhile_cons_of_pos (isNameChar_of_isNameStart h)]
  · exact List.all_takeWhile

end Scan

variable [PatternEngine]

/-- The text is scanned as one token when `rest` follows. -/
def ScansAs (k : Token.Kind) (text rest : List Char) : Prop :=
  ∃ c cs, text = c :: cs ∧ scan c (cs ++ rest) = .token k text rest

/-- The digits of the double are scanned as that double. -/
def ReadsBack (x : Float) : Prop := ScansAs (.double x) (Decimal.text Decimal.query x).toList []

/-- The tokens that printed queries are made of. -/
def Token.Kind.Writable : Token.Kind → Prop
  | integer n => 0 ≤ n.toInt
  | double x => ReadsBack x
  | duration d => 0 ≤ d.amount.toInt
  | string _ => True
  | regex p => Escaped p.toList ∧ PatternEngine.accepts p = true
  | word w => IsWord w.toList
  | symbol _ => True
  | stop => False

namespace Scan

/-! ## First characters -/

theorem scan_digit {c : Char} (h : c.isDigit = true) (cs : List Char) :
    scan c cs = number (c :: cs) := by
  unfold scan
  rw [if_pos h]

theorem scan_word {c : Char} {cs : List Char} (h : isNameStart c = true)
    (hcs : c = 'r' → ∀ c ∈ cs.head?, c ≠ '"') : scan c cs = word (c :: cs) := by
  have hquote : ¬ (c = '"' ∨ c = '\'') := by
    rintro (rfl | rfl) <;> cases h
  unfold scan
  rw [if_neg (by simp [not_isDigit_of_isNameStart h]), if_neg hquote]
  split
  · exact absurd rfl (hcs rfl '"' rfl)
  · rw [if_pos h]

/-- How a token is scanned: the first characters tell what reads it. -/
inductive Scanned : Char → List Char → Token.Kind → List Char → List Char → Prop
  | number {c : Char} {cs text rest : List Char} {k : Token.Kind} : c.isDigit = true →
      number (c :: cs) = .token k text rest → Scanned c cs k text rest
  | string {c : Char} {cs value text rest : List Char} : (c = '"' ∨ c = '\'') →
      body unescape c cs = .closed value text rest →
      Scanned c cs (.string (String.ofList value)) (c :: text) rest
  | regex {cs value text rest : List Char} :
      body unescapeRegex '"' cs = .closed value text rest →
      PatternEngine.accepts (String.ofList value) = true →
      Scanned 'r' ('"' :: cs) (.regex (String.ofList value)) ('r' :: '"' :: text) rest
  | word {c : Char} {cs text rest : List Char} : isNameStart c = true →
      (c = 'r' → ∀ c ∈ cs.head?, c ≠ '"') → (c :: cs).span isNameChar = (text, rest) →
      Scanned c cs (.word (String.ofList text)) text rest
  | symbol {c : Char} {cs text rest : List Char} {s : Symbol} :
      symbol? (c :: cs) = some (s, text, rest) → Scanned c cs (.symbol s) text rest

theorem scanned_of_scan {c : Char} {cs text rest : List Char} {k : Token.Kind}
    (h : scan c cs = .token k text rest) : Scanned c cs k text rest := by
  unfold scan at h
  split at h
  · rename_i hdigit
    exact .number hdigit h
  split at h
  · rename_i hquote
    unfold string at h
    split at h <;> cases h
    rename_i hbody
    exact .string hquote hbody
  split at h
  · unfold regex at h
    split at h
    · rename_i hbody
      dsimp only at h
      split at h
      · rename_i program hp
        cases h
        exact .regex hbody (PatternEngine.accepts_iff.mpr ⟨program, hp⟩)
      · cases h
    · cases h
    · cases h
  · rename_i hregex
    split at h
    · rename_i hname
      cases h
      refine .word hname (fun hc c' hc' heq => ?_) rfl
      obtain ⟨cs', rfl⟩ := List.head?_eq_some_iff.mp hc'
      exact hregex cs' hc (heq ▸ rfl)
    · unfold symbol at h
      split at h
      · rename_i hsymbol
        cases h
        exact .symbol hsymbol
      · cases h

theorem Scanned.scan {c : Char} {cs text rest : List Char} {k : Token.Kind}
    (h : Scanned c cs k text rest) : scan c cs = .token k text rest := by
  cases h with
  | number hdigit h => exact (scan_digit hdigit cs).trans h
  | string hquote hbody =>
    have hstring : Scan.scan c cs = Scan.string c cs := by rcases hquote with rfl | rfl <;> rfl
    rw [hstring, Scan.string, hbody]
  | @regex cs _ _ _ hbody hp =>
    have hregex : Scan.scan 'r' ('"' :: cs) = Scan.regex cs := rfl
    obtain ⟨program, hprogram⟩ := PatternEngine.accepts_iff.mp hp
    rw [hregex, Scan.regex, hbody]
    simp only [hprogram]
  | word hname hregex hspan => rw [scan_word hname hregex, Scan.word, hspan]
  | symbol hsymbol =>
    have hscan : Scan.scan c cs = Scan.symbol c cs := by
      unfold symbol? at hsymbol
      split at hsymbol
      case h_23 => cases hsymbol
      all_goals
        rename_i heq
        obtain ⟨rfl, rfl⟩ := List.cons.inj heq
        rfl
    rw [hscan, Scan.symbol, hsymbol]

/-! ## Tokens of each kind -/

theorem scan_quoted (s : String) (more : List Char) :
    ScansAs (.string s) (quoteChars s.toList) more := by
  refine ⟨'"', s.toList.flatMap quoteChar ++ ['"'], rfl, ?_⟩
  show string '"' _ = _
  rw [string, List.append_assoc, List.singleton_append, body_quoted]
  simp only [String.ofList_toList, quoteChars, List.cons_append]

theorem scan_pattern {p : String} (h : Escaped p.toList) (hp : PatternEngine.accepts p = true)
    (more : List Char) :
    ScansAs (.regex p) ('r' :: '"' :: (patternChars p.toList ++ ['"'])) more := by
  refine ⟨'r', '"' :: (patternChars p.toList ++ ['"']), rfl, ?_⟩
  show regex ((patternChars p.toList ++ ['"']) ++ more) = _
  obtain ⟨program, hprogram⟩ := PatternEngine.accepts_iff.mp hp
  rw [regex, List.append_assoc, List.singleton_append, body_pattern h]
  simp only [String.ofList_toList, hprogram]

theorem scan_isWord {w : String} (h : IsWord w.toList) {more : List Char} (hmore : AtBreak more) :
    ScansAs (.word w) w.toList more := by
  have hword := word_of_isWord h
  obtain ⟨c, cs, hw, hc, hcs⟩ := h
  refine ⟨c, cs, hw, ?_⟩
  rw [scan_word hc, ← List.cons_append, word_append hmore, ← hw, hword, String.ofList_toList]
  · rfl
  · rintro - c' hc' rfl
    cases cs with
    | nil => exact absurd (hmore _ hc') (by decide)
    | cons c cs =>
      obtain rfl : c = '"' := Option.some.inj hc'
      simp only [List.all_cons, Bool.and_eq_true] at hcs
      exact absurd hcs.1 (by decide)

/-- A symbol is taken whole unless what follows makes it a longer one. -/
theorem scan_symbol (s : Symbol) {more : List Char}
    (h : s.grows = true → ∀ c ∈ more.head?, c ≠ '=' ∧ c ≠ '~') :
    ScansAs (.symbol s) s.text.toList more := by
  cases more with
  | nil => cases s <;> exact ⟨_, _, rfl, rfl⟩
  | cons c more =>
    cases s
    case bang =>
      obtain ⟨hequal, _⟩ := h rfl c rfl
      refine ⟨'!', [], rfl, ?_⟩
      simp [scan, isNameStart, Scan.symbol, symbol?, hequal]
      rfl
    case assign =>
      obtain ⟨hequal, hmatch⟩ := h rfl c rfl
      refine ⟨'=', [], rfl, ?_⟩
      simp [scan, isNameStart, Scan.symbol, symbol?, hequal, hmatch]
      rfl
    case less =>
      obtain ⟨hequal, _⟩ := h rfl c rfl
      refine ⟨'<', [], rfl, ?_⟩
      simp [scan, isNameStart, Scan.symbol, symbol?, hequal]
      rfl
    case greater =>
      obtain ⟨hequal, _⟩ := h rfl c rfl
      refine ⟨'>', [], rfl, ?_⟩
      simp [scan, isNameStart, Scan.symbol, symbol?, hequal]
      rfl
    all_goals exact ⟨_, _, rfl, rfl⟩

/-- Only a text that starts with a digit is scanned as a double. -/
theorem number_of_scan_double {c : Char} {cs text rest : List Char} {x : Float}
    (h : scan c cs = .token (.double x) text rest) :
    c.isDigit = true ∧ number (c :: cs) = .token (.double x) text rest := by
  cases scanned_of_scan h with
  | number hdigit h => exact ⟨hdigit, h⟩

/-- A number that is read whole is read so wherever a break follows. -/
theorem scansAs_of_number {k : Token.Kind} {text more : List Char}
    (h : number text = .token k text []) (htext : ∃ c cs, text = c :: cs ∧ c.isDigit = true)
    (hmore : AtBreak more) : ScansAs k text more := by
  obtain ⟨c, cs, rfl, hc⟩ := htext
  refine ⟨c, cs, rfl, ?_⟩
  rw [scan_digit hc, ← List.cons_append, number_append hmore, h]
  rfl

theorem scan_double {x : Float} (h : ReadsBack x) {more : List Char} (hmore : AtBreak more) :
    ScansAs (.double x) (Decimal.text Decimal.query x).toList more := by
  obtain ⟨c, cs, htext, hscan⟩ := h
  obtain ⟨hc, hnumber⟩ := number_of_scan_double hscan
  rw [List.append_nil, ← htext] at hnumber
  exact scansAs_of_number hnumber ⟨c, cs, htext, hc⟩ hmore

/-! ## All tokens -/

/-- A token is scanned from the text it is written with, up to a break. -/
theorem scan_spelling {k : Token.Kind} (hk : k.Writable) {more : List Char}
    (hmore : AtBreak more) : ScansAs k k.spelling more := by
  cases k with
  | integer n =>
    rw [Token.Kind.spelling, toList_toString_of_nonneg hk]
    exact scansAs_of_number (number_digits hk) (toDigits_eq_cons _) hmore
  | double x => exact scan_double hk hmore
  | duration d =>
    have htext : d.text.toList = Nat.toDigits 10 d.amount.toInt.toNat ++ d.unit.suffix.toList := by
      rw [← toList_toString_of_nonneg hk, ← String.toList_append]
      rfl
    rw [Token.Kind.spelling, htext]
    obtain ⟨c, cs, hdigits, hc⟩ := toDigits_eq_cons d.amount.toInt.toNat
    exact scansAs_of_number (number_duration hk)
      ⟨c, cs ++ d.unit.suffix.toList, by rw [hdigits, List.cons_append], hc⟩ hmore
  | string s => exact scan_quoted s more
  | regex p => exact scan_pattern hk.1 hk.2 more
  | word w => exact scan_isWord hk hmore
  | symbol s =>
    refine scan_symbol s fun _ c hc => ?_
    have := hmore c hc
    constructor <;> rintro rfl <;> exact absurd this (by decide)
  | stop => exact hk.elim

/-! ## Tokens that are scanned -/

theorem writable_of_duration {text cs text' rest : List Char} {whole : Option (List Char)}
    {k : Token.Kind} (h : duration text whole cs = .token k text' rest) : k.Writable := by
  unfold duration at h
  dsimp only at h
  split at h
  · cases h
  · split at h
    · cases h
    · split at h
      · cases h
      · rename_i hamount
        cases h
        exact nonneg_of_int64OfInt? hamount

theorem writable_of_double {text cs text' rest : List Char} {x : Float} {k : Token.Kind}
    (h : number.double text x cs = .token k text' rest) : k.Writable ∨ ∃ x, k = .double x := by
  unfold number.double at h
  split at h
  · exact .inl (writable_of_duration h)
  · split at h
    · cases h
      exact .inr ⟨x, rfl⟩
    · cases h

theorem writable_of_number {cs text rest : List Char} {k : Token.Kind}
    (h : number cs = .token k text rest) : k.Writable ∨ ∃ x, k = .double x := by
  unfold number at h
  dsimp only at h
  split at h
  · exact writable_of_double h
  · split at h
    · exact writable_of_double h
    · split at h
      · exact .inl (writable_of_duration h)
      · split at h
        · cases h
        · rename_i hn
          cases h
          exact .inl (nonneg_of_int64OfInt? hn)

/-- Every token that is scanned can be written, if a double can. -/
theorem writable_of_scan {c : Char} {cs text rest : List Char} {k : Token.Kind}
    (h : scan c cs = .token k text rest) : k.Writable ∨ ∃ x, k = .double x := by
  cases scanned_of_scan h with
  | number _ h => exact writable_of_number h
  | string => exact .inl trivial
  | regex hbody hp =>
    rw [Token.Kind.Writable, String.toList_ofList]
    exact .inl ⟨escaped_of_body _ hbody, hp⟩
  | word hname _ hspan =>
    have hword : IsWord ((c :: cs).span isNameChar).1 := isWord_of_span hname
    rw [hspan] at hword
    rw [Token.Kind.Writable, String.toList_ofList]
    exact .inl hword
  | symbol => exact .inl trivial

end Scan

end SeriesQuery
