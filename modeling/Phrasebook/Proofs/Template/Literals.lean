import Mathlib
import Phrasebook.Proofs.Template.Matching
import Phrasebook.Proofs.Template.Spacing
import Phrasebook.Proofs.Text.Fold

/-!
# The literals of a pattern

A pattern keeps the literals of its template that are not blank, in folded form.  Cut at the spaces
they are the words of the literals in lower case, one by one or joined to a skeleton.
-/

namespace Phrasebook

namespace Template

open Text (AllBlank fold)

variable {segments : List Segment}

/-- A literal is folded if it is not blank. -/
theorem foldedLiteral?_eq_map (segment : Segment) :
    segment.foldedLiteral? = segment.wordedText?.map fold := by
  cases segment with
  | slot name => rfl
  | literal text =>
      rw [Segment.foldedLiteral?, Segment.wordedText?]
      by_cases hblank : AllBlank text
      · rw [if_pos (List.all_eq_true.mpr hblank), Text.fold_eq_nil_iff.mpr hblank]
        rfl
      · rw [if_neg (mt List.all_eq_true.mp hblank)]
        split
        · rename_i hnil
          exact absurd (Text.fold_eq_nil_iff.mp hnil) hblank
        · rfl

theorem foldedLiteral?_eq_some_iff {segment : Segment} {folded : List Char} :
    segment.foldedLiteral? = some folded ↔
      ∃ text, segment = .literal text ∧ ¬ AllBlank text ∧ fold text = folded := by
  rw [foldedLiteral?_eq_map]
  cases segment with
  | slot name => simp [Segment.wordedText?]
  | literal text => simp [Segment.wordedText?, AllBlank]

/-- Literals with the same words are folded to the same text. -/
theorem foldedLiteral?_congr {text other : List Char}
    (hwords : Text.words text = Text.words other) :
    (Segment.literal text).foldedLiteral? = (Segment.literal other).foldedLiteral? := by
  rw [Segment.foldedLiteral?, Segment.foldedLiteral?, Text.fold_eq, Text.fold_eq, hwords]

theorem foldedLiterals_cons (segment : Segment) (segments : List Segment) :
    foldedLiterals (segment :: segments) =
      segment.foldedLiteral?.toList ++ foldedLiterals segments := by
  rw [foldedLiterals, List.filterMap_cons]
  cases segment.foldedLiteral? <;> rfl

theorem mem_foldedLiterals_iff {folded : List Char} :
    folded ∈ foldedLiterals segments ↔
      ∃ text, .literal text ∈ segments ∧ ¬ AllBlank text ∧ fold text = folded := by
  simp only [foldedLiterals, List.mem_filterMap, foldedLiteral?_eq_some_iff]
  constructor
  · rintro ⟨_, hmem, text, rfl, hfold⟩
    exact ⟨text, hmem, hfold⟩
  · rintro ⟨text, hmem, hfold⟩
    exact ⟨_, hmem, text, rfl, hfold⟩

theorem foldedLiterals_ne_nil_iff :
    foldedLiterals segments ≠ [] ↔ ∃ text, .literal text ∈ segments ∧ ¬ AllBlank text := by
  constructor
  · intro hne
    obtain ⟨folded, hfolded⟩ := List.exists_mem_of_ne_nil _ hne
    obtain ⟨text, hmem, hblank, -⟩ := mem_foldedLiterals_iff.mp hfolded
    exact ⟨text, hmem, hblank⟩
  · rintro ⟨text, hmem, hblank⟩
    exact List.ne_nil_of_mem (mem_foldedLiterals_iff.mpr ⟨text, hmem, hblank, rfl⟩)

theorem ne_nil_of_mem_foldedLiterals {folded : List Char}
    (hmem : folded ∈ foldedLiterals segments) : folded ≠ [] := by
  obtain ⟨text, -, hblank, rfl⟩ := mem_foldedLiterals_iff.mp hmem
  exact mt Text.fold_eq_nil_iff.mp hblank

/-- The words that a pattern is scored by are those of its literals in lower case. -/
theorem flatMap_foldedLiterals (segments : List Segment) :
    (foldedLiterals segments).flatMap Text.splitAtSpaces =
      (literalWords segments).map Text.lower := by
  induction segments with
  | nil => rfl
  | cons segment segments ih =>
      have hwords : literalWords (segment :: segments) =
          segment.words ++ literalWords segments := List.flatMap_cons
      rw [foldedLiterals_cons, List.flatMap_append, ih, hwords, List.map_append]
      cases segment with
      | slot name => rfl
      | literal text =>
          rw [Segment.words, ← Text.tokens_eq, Text.tokens, Segment.foldedLiteral?]
          cases fold text with
          | nil => rfl
          | cons c folded => simp

/-! ## Skeletons -/

/-- The literals that are not blank are those that are not empty when they are folded. -/
theorem skeleton_eq (segments : List Segment) :
    skeleton segments = Text.unwords (foldedLiterals segments) := by
  rw [skeleton, foldedLiterals, List.map_filterMap]
  simp only [foldedLiteral?_eq_map]

/-- The words between the spaces of a skeleton are those of its literals. -/
theorem splitAtSpaces_skeleton (hne : skeleton segments ≠ []) :
    Text.splitAtSpaces (skeleton segments) =
      (foldedLiterals segments).flatMap Text.splitAtSpaces := by
  rw [skeleton_eq] at hne ⊢
  refine Text.splitAtSpaces_unwords fun hnil => hne ?_
  rw [hnil]
  rfl

end Template

namespace Pattern

/-- The words of a pattern are words in lower case. -/
theorem isWord_of_mem_literalWords {template : String} {pattern : Pattern}
    (hpattern : ofTemplate template = .ok pattern) {word : List Char}
    (hword : word ∈ pattern.literalWords) :
    word ≠ [] ∧ (∀ c ∈ word, Text.isBlank c = false) ∧ Text.lower word = word := by
  obtain ⟨-, segments, -, rfl⟩ := ofTemplate_eq_ok_iff.mp hpattern
  rw [literalWords, ofSegments, Template.flatMap_foldedLiterals] at hword
  obtain ⟨spelled, hspelled, rfl⟩ := List.mem_map.mp hword
  obtain ⟨segment, -, hmem⟩ := List.mem_flatMap.mp hspelled
  cases segment with
  | slot name => cases hmem
  | literal text =>
      obtain ⟨hne, hchars⟩ := Text.isWord_lower hmem
      exact ⟨hne, hchars, Text.lower_lower spelled⟩

end Pattern

end Phrasebook
