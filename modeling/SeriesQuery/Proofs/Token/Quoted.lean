/-
String literals in a text. What `quote` writes is read as one token with the
value it was written for, and no character that follows is taken with it
(`quote_read_back`). So every literal is that of one text only.
-/
import SeriesQuery.Proofs.Token.Slice

namespace SeriesQuery

variable [PatternEngine]

/-- A text that is scanned as a token before others is the first token of them all. -/
theorem head?_tokenize_of_scansAs {k : Token.Kind} {text more : String}
    (h : ScansAs k text.toList more.toList) :
    (tokenize (text ++ more)).head? = some (.ok ⟨k, ⟨0, text.utf8ByteSize⟩⟩) := by
  obtain ⟨c, cs, htext, hscan⟩ := h
  rw [tokenize, String.toList_append, htext, List.cons_append, tokensFrom_token hscan,
    List.head?_cons, byteLength_toList, Nat.zero_add]

theorem head?_tokenize_quote (s more : String) :
    (tokenize (quote s ++ more)).head? =
      some (.ok ⟨.string s, ⟨0, (quote s).utf8ByteSize⟩⟩) := by
  refine head?_tokenize_of_scansAs ?_
  rw [quote, String.toList_ofList]
  exact Scan.scan_quoted s more.toList

/-- A quoted text is read back before any other, over just the bytes of the literal, so that texts
with the same literal are one. -/
theorem quote_read_back :
    (∀ s more : String, (tokenize (quote s ++ more)).head? =
      some (.ok ⟨.string s, ⟨0, (quote s).utf8ByteSize⟩⟩)) ∧
    Function.Injective quote := by
  refine ⟨head?_tokenize_quote, fun s t hquote => ?_⟩
  have hs := head?_tokenize_quote s ""
  rw [hquote, head?_tokenize_quote t ""] at hs
  cases hs
  rfl

end SeriesQuery
