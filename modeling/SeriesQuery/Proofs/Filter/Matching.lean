/-
Filters by pattern. They mean what the pattern means by itself, matched
against a whole value. Which texts make one is not the same as which texts
are patterns, since the text is compiled between anchors only
(`matching?_whole`).
-/
import SeriesQuery.Filter
import SeriesQuery.Proofs.Pattern.Language
import SeriesQuery.Proofs.Regex.Language
import SeriesQuery.Proofs.Result

namespace SeriesQuery.Filter

section Language

variable [PatternEngine] {tag pattern : String}

/-- A text makes a filter just when it compiles between the anchors. -/
theorem matching?_ok_iff : (∃ filter, matching? tag pattern = .ok filter) ↔
    ∃ program, PatternEngine.compile (anchored pattern) = .ok program := by
  constructor
  · rintro ⟨filter, hfilter⟩
    obtain ⟨p, hp, -⟩ := map_eq_ok.mp hfilter
    exact ⟨p.program, Pattern.text_of_ofText? hp ▸ p.compiled⟩
  · rintro ⟨program, hprogram⟩
    exact ⟨_, matching?_text tag ⟨pattern, program, hprogram⟩⟩

theorem holds_matching {s : Series} {p : Pattern} :
    (matching tag p).holds s = true ↔ ∃ value, s.tag? tag = some value ∧ p.accepts value = true := by
  rw [holds, Option.any_eq_true]

/-- What becomes of a text by itself and in a filter, whatever engine implements the language of the
patterns. What is read as a pattern is accepted by itself when it keeps the limits; it makes a filter
when no comment at its end takes the anchor and it keeps them between the anchors too. Then the filter
holds for a series just when the pattern matches the whole value of the tag. Any other text makes a
filter only when it closes the group between the anchors. -/
theorem matching?_whole {L : PatternLanguage} (h : PatternEngine.Implements L)
    (tag pattern : String) :
    (∀ tree, L.Reads pattern.toList tree →
      (PatternEngine.accepts pattern = true ↔ L.Fits tree) ∧
      ((∃ filter, matching? tag pattern = .ok filter) ↔
        ¬L.OpenComment pattern.toList ∧ L.Fits (L.anchored tree)) ∧
      ∀ filter, matching? tag pattern = .ok filter → ∀ s, filter.holds s = true ↔
        ∃ value, s.tag? tag = some value ∧ L.Matches tree [] value.toList []) ∧
    ∀ filter, matching? tag pattern = .ok filter →
      (∃ tree, L.Reads pattern.toList tree) ∨ L.ClosesEarly pattern.toList := by
  refine ⟨fun tree hread => ⟨h.accepts_iff hread, ?_, fun filter hfilter s => ?_⟩,
    fun filter hfilter => ?_⟩
  · rw [matching?_ok_iff]
    exact h.compiles_anchored_iff hread
  · obtain ⟨p, hp, rfl⟩ := map_eq_ok.mp hfilter
    obtain rfl := Pattern.text_of_ofText? hp
    simp only [holds_matching, Pattern.accepts, h.found_anchored_iff p.compiled hread]
  · obtain ⟨program, hprogram⟩ := matching?_ok_iff.mp ⟨filter, hfilter⟩
    exact h.reads_or_closesEarly hprogram

end Language

open Regex

/-- Two letters, of which one is the whole value, and a text that is no pattern and makes a filter. -/
theorem matching?_whole_choice :
    (∃ filter, matching? "t" "a|b" = .ok filter ∧ ∀ s, filter.holds s = true ↔
      ∃ value, s.tag? "t" = some value ∧
        (Node.alt (.one (.single 'a')) (.one (.single 'b'))).Matches [] value.toList []) ∧
    (∃ filter, matching? "t" "a)|(?:b" = .ok filter) ∧ language.ClosesEarly "a)|(?:b".toList := by
  have hread : language.Reads "a|b".toList
      ⟨.alt (.one (.single 'a')) (.one (.single 'b')), 1⟩ := rfl
  have hclose : upTo? ("a|b".toList ++ [')']) =
      some ((⟨.alt (.one (.single 'a')) (.one (.single 'b')), 1⟩, .initial, []), [')']) := rfl
  have hopen : ¬language.OpenComment "a|b".toList := not_openComment_of_close hclose
  have hfits : language.Fits (language.anchored ⟨.alt (.one (.single 'a')) (.one (.single 'b')), 1⟩) :=
    show _ ≤ maxDepth by decide
  obtain ⟨-, hmakes, hholds⟩ := (matching?_whole implements "t" "a|b").1 _ hread
  obtain ⟨filter, hfilter⟩ := hmakes.mpr ⟨hopen, hfits⟩
  refine ⟨⟨filter, hfilter, hholds filter hfilter⟩, ?_⟩
  have hmade : matching? "t" "a)|(?:b" = .ok _ := rfl
  refine ⟨⟨_, hmade⟩, ?_⟩
  refine ((matching?_whole implements "t" "a)|(?:b").2 _ hmade).resolve_left ?_
  rintro ⟨tree, htree⟩
  have hrest : (language.readUpTo? "a)|(?:b".toList).map (·.2) = some ")|(?:b".toList := rfl
  rw [htree] at hrest
  cases hrest

/-- Neither way round: a text that is no pattern makes a filter, and it holds for a value that
starts with the letter before its parenthesis; and a pattern makes none. -/
theorem matching?_not_readable :
    PatternEngine.accepts "a)|(?:b" = false ∧
    (∃ filter, matching? "t" "a)|(?:b" = .ok filter ∧
      filter.holds ⟨"k", .ofList [("t", "ax")]⟩ = true) ∧
    PatternEngine.accepts "(?x)a # b" = true ∧
    ∃ reason, matching? "t" "(?x)a # b" = .error reason :=
  ⟨by decide +kernel, ⟨_, rfl, by decide +kernel⟩, by decide +kernel, _, rfl⟩

end SeriesQuery.Filter
