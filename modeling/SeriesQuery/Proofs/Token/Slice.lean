/-
Tokens and the text they were read from. `Lexes` relates a text at an offset
to the tokens read from its start, with their places, and the text left.
Consecutive tokens stand in order (`Row`), and the range from the first to
the last of them slices a text that is read as the same tokens, counted from
its own start (`Lexes.slice`).
-/
import SeriesQuery.Proofs.Text.Span
import SeriesQuery.Proofs.Token.Local

namespace SeriesQuery

open Scan

/-! ## Tokens in order -/

/-- The token moved right by `n` bytes. -/
def Token.shift (n : Nat) (t : Token) : Token := ⟨t.kind, t.span.shift n⟩

/-- The tokens stand one after the other, none of them empty, from the start of the range to its
end. -/
inductive Row : List Token → Span → Prop
  | one {t : Token} : t.span.start < t.span.stop → Row [t] t.span
  | cons {t : Token} {ts : List Token} {s : Span} : t.span.start < t.span.stop →
      t.span.stop ≤ s.start → Row ts s → Row (t :: ts) ⟨t.span.start, s.stop⟩

namespace Row

variable {ts ts' : List Token} {s : Span}

theorem lt (h : Row ts s) : s.start < s.stop := by
  induction h with
  | one ht => exact ht
  | cons ht hle _ ih => exact Nat.lt_trans ht (Nat.lt_of_le_of_lt hle ih)

/-- A row is divided into two rows wherever there are tokens on both sides. -/
theorem split (h : Row (ts ++ ts') s) (hts : ts ≠ []) (hts' : ts' ≠ []) :
    ∃ a b, Row ts a ∧ Row ts' b ∧ a.stop ≤ b.start ∧ s = ⟨a.start, b.stop⟩ := by
  induction ts generalizing s with
  | nil => exact absurd rfl hts
  | cons t ts ih =>
    cases ts with
    | nil =>
      cases h with
      | one => exact absurd rfl hts'
      | @cons _ _ b ht hle h => exact ⟨t.span, b, .one ht, h, hle, rfl⟩
    | cons t' ts =>
      cases h with
      | cons ht hle h =>
        obtain ⟨a, b, ha, hb, hab, rfl⟩ := ih h (List.cons_ne_nil t' ts)
        exact ⟨⟨t.span.start, a.stop⟩, b, .cons ht hle ha, hb, hab, rfl⟩

theorem span_eq_of_singleton {t : Token} (h : Row [t] s) : s = t.span := by
  cases h with
  | one => rfl
  | cons _ _ h => cases h

end Row

/-- The tokens before the first end are known from the stream. -/
theorem tokens_eq_of_ends {ts ts' : List Token} {last : Except Failure Token}
    {rest : List (Except Failure Token)} (hts : ∀ t ∈ ts, t.kind ≠ .stop)
    (hts' : ∀ t ∈ ts', t.kind ≠ .stop) (hlast : ∀ t, last = .ok t → t.kind = .stop)
    (hrest : rest = [] ∨ ∃ t rest', t.kind = .stop ∧ rest = .ok t :: rest')
    (h : ts.map .ok ++ [last] = ts'.map .ok ++ rest) : ts' = ts := by
  induction ts generalizing ts' with
  | nil =>
    cases ts' with
    | nil => rfl
    | cons t' ts' =>
      exact absurd (hlast t' (List.cons.inj h).1) (hts' t' (List.mem_cons_self ..))
  | cons t ts ih =>
    obtain ⟨ht, hts⟩ := List.forall_mem_cons.mp hts
    cases ts' with
    | nil =>
      obtain rfl | ⟨t', rest', ht', rfl⟩ := hrest
      · cases h
      · cases (List.cons.inj h).1
        exact absurd ht' ht
    | cons t' ts' =>
      obtain ⟨hhead, htail⟩ := List.cons.inj h
      cases hhead
      rw [ih hts (List.forall_mem_cons.mp hts').2 htail]

/-! ## Tokens of a text -/

variable [PatternEngine]

/-- From the start of the text, which stands at the offset, these tokens are read, with layout
before and between them and perhaps after them. -/
inductive Lexes : Nat → List Char → List Token → List Char → Prop
  | done (offset : Nat) (cs : List Char) : Lexes offset cs [] cs
  | layout {offset : Nat} {c : Char} {cs rest : List Char} {ts : List Token} :
      isLayout c = true → Lexes (offset + c.utf8Size) cs ts rest → Lexes offset (c :: cs) ts rest
  | token {offset : Nat} {c : Char} {cs text cs' rest : List Char} {k : Token.Kind}
      {ts : List Token} : scan c cs = .token k text cs' →
      Lexes (offset + byteLength text) cs' ts rest →
      Lexes offset (c :: cs) (⟨k, ⟨offset, offset + byteLength text⟩⟩ :: ts) rest

/-- No token starts with layout. -/
theorem not_isLayout_of_scan {c : Char} {cs text rest : List Char} {k : Token.Kind}
    (h : scan c cs = .token k text rest) : isLayout c = false := by
  cases hc : isLayout c with
  | false => rfl
  | true =>
    simp only [isLayout, Bool.or_eq_true, beq_iff_eq] at hc
    obtain ((rfl | rfl) | rfl) | rfl := hc <;> cases h

theorem tokensFrom_layout {c : Char} (hc : isLayout c = true) (fuel offset : Nat)
    (cs : List Char) :
    tokensFrom (fuel + 1) offset (c :: cs) = tokensFrom (fuel + 1) (offset + c.utf8Size) cs := by
  have hspan : (c :: cs).span isLayout = (c :: (cs.span isLayout).1, (cs.span isLayout).2) := by
    simp [List.span_eq_takeWhile_dropWhile, hc]
  simp only [tokensFrom, hspan, byteLength, Nat.add_assoc]

theorem tokensFrom_token {c : Char} {cs text rest : List Char} {k : Token.Kind}
    (h : scan c cs = .token k text rest) (fuel offset : Nat) :
    tokensFrom (fuel + 1) offset (c :: cs) =
      .ok ⟨k, ⟨offset, offset + byteLength text⟩⟩ ::
        tokensFrom fuel (offset + byteLength text) rest := by
  have hspan : (c :: cs).span isLayout = ([], c :: cs) := by
    simp [List.span_eq_takeWhile_dropWhile, not_isLayout_of_scan h]
  simp only [tokensFrom, hspan, byteLength, Nat.add_zero, h]

theorem kind_ne_stop_of_scan {c : Char} {cs text rest : List Char} {k : Token.Kind}
    (h : scan c cs = .token k text rest) : k ≠ .stop := by
  rintro rfl
  obtain h | ⟨x, h⟩ := writable_of_scan h
  · exact h
  · cases h

/-- The item that ends the tokens when this text, which stands at the offset, is left: the end token
if there is none, or the fault of a text that starts with no token. -/
inductive Halts : Nat → List Char → Except Failure Token → Prop
  | stop (offset : Nat) : Halts offset [] (.ok ⟨.stop, .point offset⟩)
  | fault {offset skipped : Nat} {c : Char} {cs text : List Char} {f : LexFault} :
      scan c cs = .fault f skipped text → Halts offset (c :: cs)
        (.error ⟨⟨offset + skipped, offset + skipped + byteLength text⟩, .lex f⟩)

/-- Every text is read as tokens up to its end, or up to a fault. -/
theorem exists_lexes : (fuel offset : Nat) → (cs : List Char) → cs.length < fuel →
    ∃ taken rest ts last, cs = taken ++ rest ∧ Lexes offset cs ts rest ∧
      Halts (offset + byteLength taken) rest last ∧
      tokensFrom fuel offset cs = ts.map .ok ++ [last]
  | 0, _, _, hfuel => absurd hfuel (Nat.not_lt_zero _)
  | fuel + 1, offset, [], _ => ⟨[], [], [], _, rfl, .done offset [], .stop offset, rfl⟩
  | fuel + 1, offset, c :: cs, hfuel => by
    cases hc : isLayout c with
    | true =>
      obtain ⟨taken, rest, ts, last, rfl, hlexes, hlast, htokens⟩ :=
        exists_lexes (fuel + 1) (offset + c.utf8Size) cs
          (Nat.lt_trans (Nat.lt_succ_self _) hfuel)
      rw [Nat.add_assoc, ← byteLength] at hlast
      exact ⟨c :: taken, rest, ts, last, rfl, .layout hc hlexes, hlast,
        (tokensFrom_layout hc ..).trans htokens⟩
    | false =>
      cases hscan : scan c cs with
      | token k text cs' =>
        obtain ⟨t, rfl, rfl, -⟩ := scan_local hscan
        simp only [List.length_cons, List.length_append] at hfuel
        obtain ⟨taken, rest, ts, last, rfl, hlexes, hlast, htokens⟩ :=
          exists_lexes fuel (offset + byteLength (c :: t)) cs' (by omega)
        rw [Nat.add_assoc, ← byteLength_append] at hlast
        refine ⟨c :: t ++ taken, rest, _, last, ?_, .token hscan hlexes, hlast, ?_⟩
        · rw [List.cons_append, List.cons_append, List.append_assoc]
        · rw [tokensFrom_token hscan, htokens, List.map_cons, List.cons_append]
      | fault f skipped text =>
        have hspan : (c :: cs).span isLayout = ([], c :: cs) := by
          simp [List.span_eq_takeWhile_dropWhile, hc]
        refine ⟨[], c :: cs, [], _, rfl, .done offset _, .fault hscan, ?_⟩
        simp only [tokensFrom, hspan, hscan]
        rfl

theorem Halts.eq_stop {offset : Nat} {rest : List Char} {t : Token}
    (h : Halts offset rest (.ok t)) : rest = [] ∧ t = ⟨.stop, .point offset⟩ := by
  cases h
  exact ⟨rfl, rfl⟩

namespace Lexes

variable {offset n : Nat} {cs rest : List Char} {ts ts' : List Token}

/-- The tokens of the whole text, then the end after it. -/
theorem tokensFrom_eq (h : Lexes offset cs ts []) : ∀ fuel, cs.length < fuel →
    tokensFrom fuel offset cs =
      ts.map .ok ++ [.ok ⟨.stop, .point (offset + byteLength cs)⟩] := by
  generalize hrest : ([] : List Char) = rest at h
  induction h with
  | done offset cs =>
    subst hrest
    intro fuel hfuel
    obtain ⟨fuel, rfl⟩ : ∃ f, fuel = f + 1 := ⟨fuel - 1, by omega⟩
    rfl
  | layout hc _ ih =>
    intro fuel hfuel
    obtain ⟨fuel, rfl⟩ : ∃ f, fuel = f + 1 := ⟨fuel - 1, by omega⟩
    rw [tokensFrom_layout hc, ih hrest _ (Nat.lt_of_succ_lt hfuel), byteLength, Nat.add_assoc]
  | @token offset c _ _ cs' _ _ _ hscan _ ih =>
    intro fuel hfuel
    obtain ⟨fuel, rfl⟩ : ∃ f, fuel = f + 1 := ⟨fuel - 1, by omega⟩
    obtain ⟨taken, rfl, rfl, _⟩ := scan_local hscan
    simp only [List.length_cons, List.length_append] at hfuel
    have hend : offset + byteLength (c :: (taken ++ cs')) =
        offset + byteLength (c :: taken) + byteLength cs' := by
      rw [← List.cons_append, byteLength_append, Nat.add_assoc]
    rw [tokensFrom_token hscan, ih hrest fuel (by omega), hend, List.map_cons, List.cons_append]

/-- Where the tokens are divided, the text is. -/
theorem split (h : Lexes offset cs (ts ++ ts') rest) :
    ∃ taken mid, cs = taken ++ mid ∧ Lexes offset cs ts mid ∧
      Lexes (offset + byteLength taken) mid ts' rest := by
  generalize hall : ts ++ ts' = all at h
  induction h generalizing ts with
  | done offset cs =>
    obtain ⟨rfl, rfl⟩ := List.append_eq_nil_iff.mp hall
    exact ⟨[], cs, rfl, .done offset cs, .done _ cs⟩
  | @layout offset c cs _ _ hc _ ih =>
    obtain ⟨taken, mid, rfl, hfirst, hlast⟩ := ih hall
    refine ⟨c :: taken, mid, rfl, .layout hc hfirst, ?_⟩
    rwa [byteLength, ← Nat.add_assoc]
  | @token offset c cs text cs' _ k us hscan h ih =>
    cases ts with
    | nil =>
      rw [List.nil_append] at hall
      subst hall
      exact ⟨[], c :: cs, rfl, .done _ _, .token hscan h⟩
    | cons t ts =>
      obtain ⟨rfl, htail⟩ := List.cons.inj hall
      obtain ⟨taken, mid, rfl, hfirst, hlast⟩ := ih htail
      obtain ⟨t, rfl, rfl, _⟩ := scan_local hscan
      refine ⟨c :: t ++ taken, mid, by simp, .token hscan hfirst, ?_⟩
      rwa [byteLength_append, ← Nat.add_assoc]

theorem after_layout {blank : List Char} (hblank : ∀ c ∈ blank, isLayout c = true)
    (h : Lexes (offset + byteLength blank) cs ts rest) : Lexes offset (blank ++ cs) ts rest := by
  induction blank generalizing offset with
  | nil => exact h
  | cons c blank ih =>
    rw [byteLength, ← Nat.add_assoc] at h
    exact .layout (hblank c (List.mem_cons_self ..))
      (ih (fun c hc => hblank c (List.mem_cons_of_mem _ hc)) h)

/-- The range of the tokens covers a text of its own: leaving out the layout before it and whatever
comes after it changes no token. -/
theorem trim (h : Lexes offset cs ts rest) (hts : ts ≠ []) :
    ∃ blank text after, cs = blank ++ text ++ after ∧ (∀ c ∈ blank, isLayout c = true) ∧
      Lexes (offset + byteLength blank) text ts [] ∧
      Row ts ⟨offset + byteLength blank, offset + byteLength blank + byteLength text⟩ := by
  induction h with
  | done => exact absurd rfl hts
  | @layout offset c cs _ _ hc _ ih =>
    obtain ⟨blank, text, after, rfl, hblank, hlexes, hrow⟩ := ih hts
    rw [Nat.add_assoc, ← byteLength] at hlexes hrow
    refine ⟨c :: blank, text, after, rfl, ?_, hlexes, hrow⟩
    rintro c' (_ | ⟨_, hc'⟩)
    · exact hc
    · exact hblank c' hc'
  | @token offset c cs text cs' rest k ts hscan h ih =>
    obtain ⟨t, rfl, rfl, hlocal⟩ := scan_local hscan
    have hlt : offset < offset + byteLength (c :: t) :=
      Nat.lt_add_of_pos_right (byteLength_pos (List.cons_ne_nil c t))
    cases ts with
    | nil =>
      have halone := hlocal [] List.nil_prefix
      rw [List.append_nil] at halone
      exact ⟨[], c :: t, cs', rfl, List.forall_mem_nil _, .token halone (.done _ []), .one hlt⟩
    | cons u us =>
      obtain ⟨blank, text, after, rfl, hblank, hlexes, hrow⟩ := ih (List.cons_ne_nil u us)
      refine ⟨[], c :: t ++ (blank ++ text), after, by simp, List.forall_mem_nil _, ?_, ?_⟩
      · exact .token (hlocal _ (List.prefix_append _ after)) (after_layout hblank hlexes)
      · have hlen : offset + byteLength (c :: t ++ (blank ++ text)) =
            offset + byteLength (c :: t) + byteLength blank + byteLength text := by
          simp only [byteLength_append]
          omega
        have hnext : offset + byteLength (c :: t) ≤
          offset + byteLength (c :: t) + byteLength blank := Nat.le_add_right ..
        have := Row.cons (t := ⟨k, ⟨offset, offset + byteLength (c :: t)⟩⟩) hlt hnext hrow
        rwa [← hlen] at this

/-- Tokens are the same at another offset, apart from their places. -/
theorem unshift (h : Lexes (offset + n) cs ts rest) :
    ∃ us, Lexes offset cs us rest ∧ ts = us.map (Token.shift n) := by
  generalize hm : offset + n = m at h
  induction h generalizing offset with
  | done _ cs => exact ⟨[], .done offset cs, rfl⟩
  | @layout _ c _ _ _ hc _ ih =>
    subst hm
    obtain ⟨us, h, rfl⟩ := ih (Nat.add_right_comm offset c.utf8Size n)
    exact ⟨us, .layout hc h, rfl⟩
  | @token _ _ _ text _ _ k _ hscan _ ih =>
    subst hm
    obtain ⟨us, h, rfl⟩ := ih (Nat.add_right_comm offset (byteLength text) n)
    refine ⟨_, .token hscan h, ?_⟩
    rw [List.map_cons, Token.shift, Span.shift, Nat.add_right_comm]

/-- A run of the tokens of a text covers a slice, from which the same tokens are read, counted from
its start. -/
theorem slice {before after : List Token} (h : Lexes 0 cs (before ++ (ts ++ after)) [])
    (hts : ts ≠ []) :
    ∃ s pre text post us, cs = pre ++ text ++ post ∧ s.sliceChars cs = some text ∧ Row ts s ∧
      Lexes 0 text us [] ∧ ts = us.map (Token.shift s.start) := by
  obtain ⟨pre, _, rfl, _, h⟩ := h.split
  obtain ⟨_, _, _, h, _⟩ := h.split
  obtain ⟨blank, text, post, rfl, _, hlexes, hrow⟩ := h.trim hts
  rw [Nat.zero_add, ← byteLength_append] at hlexes hrow
  have hmoved : Lexes (0 + byteLength (pre ++ blank)) text ts [] := by rwa [Nat.zero_add]
  obtain ⟨us, hus, htokens⟩ := hmoved.unshift
  refine ⟨_, pre ++ blank, text, post, us, by simp, ?_, hrow, hus, htokens⟩
  rw [← Span.sliceChars_append (pre ++ blank) text post]
  simp

/-- Every token covers the text it was scanned from. -/
theorem exists_scan {t : Token} (h : Lexes offset cs ts rest) (ht : t ∈ ts) :
    ∃ pre text post, cs = pre ++ text ++ post ∧
      t.span = ⟨offset + byteLength pre, offset + byteLength pre + byteLength text⟩ ∧
      ∃ c cs' rest', scan c cs' = .token t.kind text rest' := by
  induction h with
  | done => cases ht
  | @layout _ c _ _ _ _ _ ih =>
    obtain ⟨pre, text, post, rfl, hspan, hscan⟩ := ih ht
    rw [Nat.add_assoc, ← byteLength] at hspan
    exact ⟨c :: pre, text, post, rfl, hspan, hscan⟩
  | @token _ c _ text _ _ _ _ hscan _ ih =>
    obtain ⟨u, rfl, rfl, _⟩ := scan_local hscan
    obtain rfl | ht := List.mem_cons.mp ht
    · exact ⟨[], c :: u, _, rfl, rfl, _, _, _, hscan⟩
    · obtain ⟨pre, text, post, rfl, hspan, hscan'⟩ := ih ht
      refine ⟨c :: u ++ pre, text, post, by simp, ?_, hscan'⟩
      rw [hspan, byteLength_append, ← Nat.add_assoc]

theorem kind_ne_stop {t : Token} (h : Lexes offset cs ts rest) (ht : t ∈ ts) : t.kind ≠ .stop := by
  obtain ⟨_, _, _, _, _, _, _, _, hscan⟩ := h.exists_scan ht
  exact kind_ne_stop_of_scan hscan

theorem exists_scan_of_mem_kinds {k : Token.Kind} (h : Lexes offset cs ts rest)
    (hk : k ∈ ts.map Token.kind) : ∃ c cs text rest, scan c cs = .token k text rest := by
  obtain ⟨t, ht, rfl⟩ := List.mem_map.mp hk
  obtain ⟨_, text, _, _, _, c, cs, rest, hscan⟩ := h.exists_scan ht
  exact ⟨c, cs, text, rest, hscan⟩

/-- The place of a word or a symbol slices its text. -/
theorem slice_fixed {t : Token} (h : Lexes 0 cs ts rest) (ht : t ∈ ts)
    (hfixed : t.kind.fixed = true) : t.span.sliceChars cs = some t.kind.spelling := by
  obtain ⟨pre, text, post, rfl, hspan, _, _, _, hscan⟩ := h.exists_scan ht
  rw [Nat.zero_add] at hspan
  rw [hspan, Span.sliceChars_append, text_of_scan hscan hfixed]

end Lexes

theorem exists_lexes_tokenize (source : String) :
    ∃ taken rest ts last, source.toList = taken ++ rest ∧ Lexes 0 source.toList ts rest ∧
      Halts (byteLength taken) rest last ∧ tokenize source = ts.map .ok ++ [last] := by
  obtain ⟨taken, rest, ts, last, hsource, hlexes, hlast, htokens⟩ :=
    exists_lexes _ 0 source.toList (Nat.lt_succ_self _)
  rw [Nat.zero_add] at hlast
  exact ⟨taken, rest, ts, last, hsource, hlexes, hlast, htokens⟩

/-- The tokens before the end token, or before the stream runs out, are read from the whole text. -/
theorem lexes_of_tokenize {source : String} {ts : List Token} {rest : List (Except Failure Token)}
    (hts : ∀ t ∈ ts, t.kind ≠ .stop)
    (hrest : rest = [] ∨ ∃ t rest', t.kind = .stop ∧ rest = .ok t :: rest')
    (h : tokenize source = ts.map .ok ++ rest) : Lexes 0 source.toList ts [] := by
  obtain ⟨_, left, us, last, -, hlexes, hlast, htokens⟩ := exists_lexes_tokenize source
  have hends : ∀ t, last = .ok t → left = [] ∧ t.kind = .stop := by
    rintro t rfl
    obtain ⟨hleft, rfl⟩ := hlast.eq_stop
    exact ⟨hleft, rfl⟩
  have heq : us.map .ok ++ [last] = ts.map .ok ++ rest := htokens.symm.trans h
  obtain rfl := tokens_eq_of_ends (fun _ => hlexes.kind_ne_stop) hts
    (fun t ht => (hends t ht).2) hrest heq
  replace heq : [last] = rest := List.append_cancel_left heq
  obtain rfl | ⟨stop, rest, -, rfl⟩ := hrest
  · cases heq
  · rwa [(hends stop (List.cons.inj heq).1).1] at hlexes

theorem tokenize_of_lexes {cs : List Char} {ts : List Token} (h : Lexes 0 cs ts []) :
    ∃ stop : Token, stop.kind = .stop ∧
      tokenize (String.ofList cs) = ts.map .ok ++ [.ok stop] := by
  have htokens := h.tokensFrom_eq (cs.length + 1) (Nat.lt_succ_self _)
  exact ⟨_, rfl, by rw [tokenize, String.toList_ofList, htokens]⟩

end SeriesQuery
