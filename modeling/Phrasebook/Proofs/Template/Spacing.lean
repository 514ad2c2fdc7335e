import Mathlib
import Phrasebook.Proofs.Template.Cut
import Phrasebook.Proofs.Template.Grammar
import Phrasebook.Proofs.Text.Letters

/-!
# Well-spaced templates

A template is well spaced when its slots are held apart by words with blanks around them.  A cut
along such a template divides the text between words, so the words of the literals stand among the
words of the text.  When no word that a slot takes is one of them, there is one place for each.
-/

namespace Phrasebook.Template

open Text (AllBlank Apart isBlank sameUpToCase words)

/-- No two slots touch, between two slots there is a word, and a literal has a blank wherever it
meets a slot. -/
structure WellSpaced (segments : List Segment) : Prop where
  slotsApart : ∀ a b, ¬ [.slot a, .slot b] <:+: segments
  wordBetween : ∀ a text b, [.slot a, .literal text, .slot b] <:+: segments →
    ∃ c ∈ text, isBlank c = false
  blankBefore : ∀ text name, [.literal text, .slot name] <:+: segments →
    ∃ c ∈ text.getLast?, isBlank c = true
  blankAfter : ∀ name text, [.slot name, .literal text] <:+: segments →
    ∃ c ∈ text.head?, isBlank c = true

/-- A word is matched by a word of as many characters, each the same up to case. -/
def SameWord (word token : List Char) : Prop :=
  List.Forall₂ (fun c d => sameUpToCase c d = true) word token

instance (word token : List Char) : Decidable (SameWord word token) :=
  inferInstanceAs (Decidable (List.Forall₂ _ word token))

def Segment.words : Segment → List (List Char)
  | .literal text => Text.words text
  | .slot _ => []

/-- The words of a template's literals. -/
def literalWords (segments : List Segment) : List (List Char) := segments.flatMap Segment.words

/-- How neighbouring segments of a well-spaced template meet. -/
def Spaced : Segment → Segment → Prop
  | .literal text, .slot _ => ∃ c ∈ text.getLast?, isBlank c = true
  | .slot _, .literal text => ∃ c ∈ text.head?, isBlank c = true
  | _, _ => False

theorem isChain_of_adjacent {α : Type} {r : α → α → Prop} {items : List α}
    (hadjacent : ∀ a b, [a, b] <:+: items → r a b) : items.IsChain r := by
  induction items with
  | nil => exact .nil
  | cons a items ih =>
      cases items with
      | nil => exact .singleton a
      | cons b items =>
          refine List.isChain_cons_cons.mpr ⟨hadjacent a b ⟨[], items, rfl⟩, ih ?_⟩
          exact fun c d hcd => hadjacent c d (List.infix_cons hcd)

theorem WellSpaced.isChain {segments : List Segment} {template : List Char}
    (hspaced : WellSpaced segments) (hwritten : Written segments template) :
    segments.IsChain Spaced := by
  refine isChain_of_adjacent fun first second hadjacent => ?_
  match first, second with
  | .literal text, .literal other => exact hwritten.not_adjacent_literals text other hadjacent
  | .literal text, .slot name => exact hspaced.blankBefore text name hadjacent
  | .slot name, .literal text => exact hspaced.blankAfter name text hadjacent
  | .slot name, .slot other => exact hspaced.slotsApart name other hadjacent

/-- Every literal of a well-spaced template without outer blanks has a word: one between slots by
assumption, and one at an end because the template has no blank there. -/
theorem WellSpaced.words_ne_nil {segments : List Segment} {template text : List Char}
    (hspaced : WellSpaced segments) (hwritten : Written segments template)
    (htrim : Text.trim template = template) (hmem : .literal text ∈ segments) :
    words text ≠ [] := by
  rw [Ne, Text.words_eq_nil_iff]
  intro hblank
  obtain ⟨before, after, rfl⟩ := List.append_of_mem hmem
  obtain ⟨hhead, hlast⟩ := Text.trim_eq_self_iff.mp htrim
  have hne : text ≠ [] := hwritten.literal_ne_nil text hmem
  rcases List.eq_nil_or_concat before with rfl | ⟨earlier, left, rfl⟩
  · have hfirst : text.head hne ∈ template.head? := by
      rw [hwritten.head?_eq]
      exact List.head?_eq_some_head hne
    have := hhead _ hfirst
    rw [hblank _ (List.head_mem hne)] at this
    exact Bool.noConfusion this
  cases after with
  | nil =>
      have hend : text.getLast hne ∈ template.getLast? := by
        rw [hwritten.getLast?_eq]
        exact List.getLast?_eq_some_getLast hne
      have := hlast _ hend
      rw [hblank _ (List.getLast_mem hne)] at this
      exact Bool.noConfusion this
  | cons right later =>
      have hsplit : earlier ++ [left] ++ .literal text :: right :: later =
          earlier ++ [left, .literal text, right] ++ later := by simp
      rw [List.concat_eq_append, hsplit] at hwritten hspaced
      match left, right with
      | .literal other, right =>
          exact hwritten.not_adjacent_literals other text ⟨earlier, right :: later, by simp⟩
      | .slot name, .literal other =>
          exact hwritten.not_adjacent_literals text other ⟨earlier ++ [.slot name], later, by simp⟩
      | .slot a, .slot b =>
          obtain ⟨c, hc, hword⟩ := hspaced.wordBetween a text b ⟨earlier, later, by simp⟩
          rw [hblank c hc] at hword
          exact Bool.noConfusion hword

/-! ## What a share has of its literal -/

theorem Spells.head?_isBlank {literal share : List Char} {choices : List Choice}
    (hspells : Spells literal share choices) :
    share.head?.map isBlank = literal.head?.map isBlank := by
  cases hspells with
  | nil => rfl
  | char _ hsame _ => simp [Text.isBlank_eq_of_sameUpToCase hsame]
  | @blanks run taken literal share _ hrun htaken _ _ =>
      obtain ⟨c, run, rfl⟩ := List.exists_cons_of_ne_nil hrun.1
      obtain ⟨d, taken, rfl⟩ := List.exists_cons_of_ne_nil htaken.1
      simp [hrun.2 c List.mem_cons_self, htaken.2 d List.mem_cons_self]

theorem IsRun.getLast?_isBlank {run : List Char} (hrun : IsRun run) :
    run.getLast?.map isBlank = some true := by
  rw [List.getLast?_eq_some_getLast hrun.1, Option.map_some, hrun.2 _ (List.getLast_mem hrun.1)]

theorem Spells.eq_nil_iff {literal share : List Char} {choices : List Choice}
    (hspells : Spells literal share choices) : share = [] ↔ literal = [] := by
  cases hspells with
  | nil => rfl
  | char _ _ _ => simp
  | blanks hrun htaken _ _ => simp [hrun.1, htaken.1]

theorem Spells.getLast?_isBlank {literal share : List Char} {choices : List Choice}
    (hspells : Spells literal share choices) :
    share.getLast?.map isBlank = literal.getLast?.map isBlank := by
  induction hspells with
  | nil => rfl
  | @char c d literal share _ _ hsame htail ih =>
      by_cases hempty : literal = []
      · simp [hempty, htail.eq_nil_iff.mpr hempty, Text.isBlank_eq_of_sameUpToCase hsame]
      · rw [List.getLast?_cons_of_ne_nil hempty,
          List.getLast?_cons_of_ne_nil (mt htail.eq_nil_iff.mp hempty), ih]
  | @blanks run taken literal share _ hrun htaken _ htail ih =>
      by_cases hempty : literal = []
      · rw [hempty, htail.eq_nil_iff.mpr hempty, List.append_nil, List.append_nil,
          hrun.getLast?_isBlank, htaken.getLast?_isBlank]
      · rw [List.getLast?_append_of_ne_nil _ hempty,
          List.getLast?_append_of_ne_nil _ (mt htail.eq_nil_iff.mp hempty), ih]

/-- No word runs out of the share of a literal that ends with a blank. -/
theorem Spells.apart {literal share : List Char} {choices : List Choice}
    (hspells : Spells literal share choices) (hlast : ∃ c ∈ literal.getLast?, isBlank c = true)
    (rest : List Char) : Apart share rest := by
  obtain ⟨c, hc, hblank⟩ := hlast
  intro d hd _ _
  have hends := hspells.getLast?_isBlank
  rw [Option.mem_def.mp hc, Option.mem_def.mp hd] at hends
  simp only [Option.map_some, Option.some.injEq] at hends
  exact .inl (hends.trans hblank)

/-- No word runs into the share of a literal that starts with a blank. -/
theorem Spells.apart_append {literal share : List Char} {choices : List Choice}
    (hspells : Spells literal share choices) (hfirst : ∃ c ∈ literal.head?, isBlank c = true)
    (before rest : List Char) : Apart before (share ++ rest) := by
  obtain ⟨c, hc, hblank⟩ := hfirst
  have hne : share ≠ [] := by
    rw [Ne, hspells.eq_nil_iff]
    rintro rfl
    simp at hc
  intro _ _ d hd
  have hstarts := hspells.head?_isBlank
  rw [List.head?_append_of_ne_nil _ hne] at hd
  rw [Option.mem_def.mp hc, Option.mem_def.mp hd] at hstarts
  simp only [Option.map_some, Option.some.injEq] at hstarts
  exact .inr (hstarts.trans hblank)

/-- The words of a share are those of its literal up to case. -/
theorem Spells.sameWords {literal share : List Char} {choices : List Choice}
    (hspells : Spells literal share choices) :
    List.Forall₂ SameWord (words literal) (words share) := by
  induction hspells with
  | nil => exact .nil
  | @char c d literal share _ hc hsame htail ih =>
      have hd : isBlank d = false := by rw [Text.isBlank_eq_of_sameUpToCase hsame, hc]
      have hnext := htail.head?_isBlank
      cases literal with
      | nil =>
          rw [htail.eq_nil_iff.mpr rfl, Text.words_cons_of_blank_next hc (by simp),
            Text.words_cons_of_blank_next hd (by simp)]
          exact .cons (.cons hsame .nil) .nil
      | cons c' literal =>
          obtain ⟨d', share, rfl⟩ :=
            List.exists_cons_of_ne_nil (mt htail.eq_nil_iff.mp (List.cons_ne_nil c' literal))
          simp only [List.head?_cons, Option.map_some, Option.some.injEq] at hnext
          by_cases hblank : isBlank c' = true
          · rw [Text.words_cons_of_blank_next hc (by simp [hblank]),
              Text.words_cons_of_blank_next hd (by simp [hnext, hblank])]
            exact .cons (.cons hsame .nil) ih
          · -- the first words of both rests grow by one character each
            rw [Bool.not_eq_true] at hblank
            obtain ⟨word, others, hwords⟩ := Text.exists_words_cons hblank literal
            obtain ⟨token, tokens, htokens⟩ :=
              Text.exists_words_cons (hnext.trans hblank) share
            rw [Text.words_cons_of_word_next hc hblank hwords,
              Text.words_cons_of_word_next hd (hnext.trans hblank) htokens]
            rw [hwords, htokens, List.forall₂_cons] at ih
            exact .cons (.cons hsame ih.1) ih.2
  | blanks hrun htaken _ _ ih =>
      rwa [Text.words_append_of_allBlank hrun.2, Text.words_append_of_allBlank htaken.2]

end Phrasebook.Template
