import Mathlib
import Phrasebook.Template.Search

/-!
# Cutting a text along a template

A text matches a template when it can be cut into shares, one for each segment: a literal is spelled
by its share and a slot takes any share that is not empty.  Wherever a template leaves a choice, a
cut records what was taken, and choices are compared from left to right.  Nothing here refers to how
a cut is searched for.
-/

namespace Phrasebook.Template

/-- A text of blanks, at least one. -/
def IsRun (text : List Char) : Prop := text ≠ [] ∧ ∀ c ∈ text, Text.isBlank c = true

/-- What a run of blanks or a slot takes of a text. -/
inductive Choice where
  | blanks (taken : List Char)
  | slot (share : List Char)

namespace Choice

/-- A run of blanks had better take more, and a slot less. -/
inductive Better : Choice → Choice → Prop
  | blanks {taken other : List Char} :
      other.length < taken.length → Better (.blanks taken) (.blanks other)
  | slot {share other : List Char} :
      share.length < other.length → Better (.slot share) (.slot other)

def slotShare? : Choice → Option (List Char)
  | .blanks _ => none
  | .slot share => some share

end Choice

/-- A text spells a literal when every character is matched up to case and every maximal run of
blanks by some run of blanks. -/
inductive Spells : (literal share : List Char) → List Choice → Prop
  | nil : Spells [] [] []
  | char {c d : Char} {literal share : List Char} {choices : List Choice} :
      Text.isBlank c = false → Text.sameUpToCase c d = true →
      Spells literal share choices → Spells (c :: literal) (d :: share) choices
  | blanks {run taken literal share : List Char} {choices : List Choice} :
      IsRun run → IsRun taken → (∀ c ∈ literal.head?, Text.isBlank c = false) →
      Spells literal share choices →
      Spells (run ++ literal) (taken ++ share) (.blanks taken :: choices)

/-- The shares that segments take in turn, with the choices made. -/
inductive Cut : List Segment → List (List Char) → List Choice → Prop
  | nil : Cut [] [] []
  | literal {text share : List Char} {segments : List Segment} {shares : List (List Char)}
      {choices others : List Choice} :
      Spells text share choices → Cut segments shares others →
      Cut (.literal text :: segments) (share :: shares) (choices ++ others)
  | slot {name : String} {share : List Char} {segments : List Segment}
      {shares : List (List Char)} {choices : List Choice} :
      share ≠ [] → Cut segments shares choices →
      Cut (.slot name :: segments) (share :: shares) (.slot share :: choices)

/-- The shares of the slots alone. -/
def slotShares : List Segment → List (List Char) → List (List Char)
  | .slot _ :: segments, share :: shares => share :: slotShares segments shares
  | .literal _ :: segments, _ :: shares => slotShares segments shares
  | _, _ => []

/-- Cutting the whole of a text. -/
def Cuts (segments : List Segment) (text : List Char) (shares : List (List Char))
    (choices : List Choice) : Prop :=
  Cut segments shares choices ∧ shares.flatten = text

/-- The cut whose choices come first among all cuts of the text: at the leftmost place where another
cut differs, this one has more blanks or a shorter share.  A slot at the end of the template has no
choice left to make; it takes what the others leave. -/
def Preferred (segments : List Segment) (text : List Char) (shares : List (List Char))
    (choices : List Choice) : Prop :=
  Cuts segments text shares choices ∧
    ∀ shares' choices', Cuts segments text shares' choices' →
      choices' = choices ∨ List.Lex Choice.Better choices choices'

theorem Cut.filterMap_slotShare?_eq {segments : List Segment} {shares : List (List Char)}
    {choices : List Choice} (hcut : Cut segments shares choices) :
    choices.filterMap Choice.slotShare? = slotShares segments shares := by
  have hspells : ∀ {text share : List Char} {choices : List Choice},
      Spells text share choices → choices.filterMap Choice.slotShare? = [] := by
    intro text share choices h
    induction h with
    | nil => rfl
    | char _ _ _ ih => exact ih
    | blanks _ _ _ _ ih => simpa [Choice.slotShare?] using ih
  induction hcut with
  | nil => rfl
  | literal hspell _ ih =>
      rw [List.filterMap_append, hspells hspell, List.nil_append, ih, slotShares]
  | slot _ _ ih => simp [Choice.slotShare?, ih, slotShares]

/-! ## Cutting along pieces -/

/-- The same cut along the pieces in which a template is laid out. -/
inductive Along : List Piece → List Char → List Choice → Prop
  | nil : Along [] [] []
  | char {c d : Char} {pieces : List Piece} {text : List Char} {choices : List Choice} :
      Text.sameUpToCase c d = true → Along pieces text choices →
      Along (.char c :: pieces) (d :: text) choices
  | blanks {taken : List Char} {pieces : List Piece} {text : List Char} {choices : List Choice} :
      IsRun taken → Along pieces text choices →
      Along (.blanks :: pieces) (taken ++ text) (.blanks taken :: choices)
  | slot {share : List Char} {pieces : List Piece} {text : List Char} {choices : List Choice} :
      share ≠ [] → Along pieces text choices →
      Along (.slot :: pieces) (share ++ text) (.slot share :: choices)

theorem Along.append {first second : List Piece} {text rest : List Char}
    {choices others : List Choice} (hfirst : Along first text choices)
    (hsecond : Along second rest others) :
    Along (first ++ second) (text ++ rest) (choices ++ others) := by
  induction hfirst with
  | nil => exact hsecond
  | char hsame _ ih => exact .char hsame ih
  | blanks hrun _ ih =>
      rw [List.append_assoc]
      exact .blanks hrun ih
  | slot hshare _ ih =>
      rw [List.append_assoc]
      exact .slot hshare ih

theorem Along.of_append {first second : List Piece} {text : List Char} {choices : List Choice}
    (halong : Along (first ++ second) text choices) :
    ∃ front back chosen others, text = front ++ back ∧ choices = chosen ++ others ∧
      Along first front chosen ∧ Along second back others := by
  induction first generalizing text choices with
  | nil => exact ⟨[], text, [], choices, rfl, rfl, .nil, halong⟩
  | cons piece first ih =>
      rw [List.cons_append] at halong
      cases halong with
      | char hsame htail =>
          obtain ⟨front, back, chosen, others, rfl, rfl, hfront, hback⟩ := ih htail
          exact ⟨_, back, chosen, others, rfl, rfl, .char hsame hfront, hback⟩
      | blanks hrun htail =>
          obtain ⟨front, back, chosen, others, rfl, rfl, hfront, hback⟩ := ih htail
          exact ⟨_, back, _, others, (List.append_assoc ..).symm, rfl, .blanks hrun hfront, hback⟩
      | slot hshare htail =>
          obtain ⟨front, back, chosen, others, rfl, rfl, hfront, hback⟩ := ih htail
          exact ⟨_, back, _, others, (List.append_assoc ..).symm, rfl, .slot hshare hfront, hback⟩

/-- A run of blanks in a literal is laid out as one piece. -/
theorem literalPieces_run_append {run literal : List Char} (hrun : IsRun run)
    (hhead : ∀ c ∈ literal.head?, Text.isBlank c = false) :
    literalPieces (run ++ literal) = .blanks :: literalPieces literal := by
  have hliteral : ∀ pieces, literalPieces literal ≠ .blanks :: pieces := by
    intro pieces
    cases literal with
    | nil => simp [literalPieces]
    | cons c rest => simp [literalPieces, hhead c rfl]
  obtain ⟨hne, hblank⟩ := hrun
  induction run with
  | nil => exact absurd rfl hne
  | cons c run ih =>
      have hc : Text.isBlank c = true := hblank c List.mem_cons_self
      rw [List.cons_append, literalPieces, if_pos hc]
      cases run with
      | nil =>
          -- `hliteral` rules out that the rest begins with the same piece
          simp only [List.nil_append]
      | cons next run =>
          rw [ih (List.cons_ne_nil next run) fun d hd => hblank d (List.mem_cons_of_mem c hd)]

theorem Spells.along {literal share : List Char} {choices : List Choice}
    (hspells : Spells literal share choices) : Along (literalPieces literal) share choices := by
  induction hspells with
  | nil => exact .nil
  | char hblank hsame _ ih =>
      rw [literalPieces, if_neg (by simp [hblank])]
      exact .char hsame ih
  | blanks hrun htaken hhead _ ih =>
      rw [literalPieces_run_append hrun hhead]
      exact .blanks htaken ih

/-- A literal that starts with a blank is a run of blanks and a literal that does not. -/
theorem exists_run_append {c : Char} (rest : List Char) (hc : Text.isBlank c = true) :
    ∃ run literal, c :: rest = run ++ literal ∧ IsRun run ∧
      ∀ d ∈ literal.head?, Text.isBlank d = false := by
  refine ⟨(c :: rest).takeWhile Text.isBlank, (c :: rest).dropWhile Text.isBlank,
    List.takeWhile_append_dropWhile.symm, ⟨by simp [hc], ?_⟩, ?_⟩
  · intro d hd
    exact List.mem_takeWhile_imp hd
  · intro d hd
    have hnot := List.head?_dropWhile_not Text.isBlank (c :: rest)
    rw [Option.mem_def.mp hd] at hnot
    exact hnot

theorem spells_of_along {literal share : List Char} {choices : List Choice}
    (halong : Along (literalPieces literal) share choices) : Spells literal share choices := by
  induction hlength : literal.length using Nat.strong_induction_on
    generalizing literal share choices with
  | _ length ih =>
      cases literal with
      | nil =>
          cases halong
          exact .nil
      | cons c rest =>
          by_cases hc : Text.isBlank c = true
          · obtain ⟨run, literal, heq, hrun, hhead⟩ := exists_run_append rest hc
            rw [heq, literalPieces_run_append hrun hhead] at halong
            rw [heq]
            cases halong with
            | blanks htaken htail =>
                have hshorter : literal.length < length := by
                  have hsum := congrArg List.length heq
                  have hpos := List.length_pos_iff.mpr hrun.1
                  rw [List.length_append] at hsum
                  omega
                exact .blanks hrun htaken hhead (ih _ hshorter htail rfl)
          · rw [literalPieces, if_neg hc] at halong
            cases halong with
            | char hsame htail =>
                have hshorter : rest.length < length := by
                  rw [← hlength, List.length_cons]
                  omega
                exact .char (by simpa using hc) hsame (ih _ hshorter htail rfl)

/-- Cutting along segments is cutting along their pieces. -/
theorem exists_cuts_iff_along {segments : List Segment} {text : List Char}
    {choices : List Choice} :
    (∃ shares, Cuts segments text shares choices) ↔
      Along (segments.flatMap Segment.pieces) text choices := by
  constructor
  · rintro ⟨shares, hcut, rfl⟩
    induction hcut with
    | nil => exact .nil
    | literal hspells _ ih => exact hspells.along.append ih
    | slot hshare _ ih => exact .slot hshare ih
  · intro halong
    induction segments generalizing text choices with
    | nil =>
        cases halong
        exact ⟨[], .nil, rfl⟩
    | cons segment segments ih =>
        obtain ⟨front, back, chosen, others, rfl, rfl, hfront, hback⟩ := halong.of_append
        obtain ⟨shares, hcut, rfl⟩ := ih hback
        cases segment with
        | literal literal =>
            exact ⟨front :: shares, .literal (spells_of_along hfront) hcut, rfl⟩
        | slot name =>
            cases hfront with
            | slot hshare hnil =>
                cases hnil
                exact ⟨_ :: shares, .slot hshare hcut, by simp⟩

end Phrasebook.Template
