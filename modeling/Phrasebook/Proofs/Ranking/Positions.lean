import Mathlib
import Phrasebook.Proofs.Ranking.Coincidence

/-!
# Positions of literals

A way of placing texts one after another is a list of positions, one for each text, none of which
lies before the end of the text placed before it.  The search for the leftmost places succeeds if
and only if there are such positions: it never takes a place that spoils all later ones.
-/

namespace Phrasebook.Ranking

/-- The part stands in the text at a position. -/
def StandsAt (text part : List Char) (position : Nat) : Prop :=
  ∃ before rest, text = before ++ part ++ rest ∧ before.length = position

/-- Positions in a text at which the parts stand, each at or behind the end of the one before. -/
structure ArePositions (text : List Char) (parts : List (List Char)) (positions : List Nat) :
    Prop where
  stand : List.Forall₂ (StandsAt text) parts positions
  ordered : (parts.zip positions).IsChain fun left right => left.2 + left.1.length ≤ right.2

variable {text part : List Char} {parts : List (List Char)} {position : Nat}
  {positions : List Nat}

theorem arePositions_cons_iff :
    ArePositions text (part :: parts) (position :: positions) ↔
      StandsAt text part position ∧ ArePositions text parts positions ∧
        ∀ next ∈ positions.head?, position + part.length ≤ next := by
  constructor
  · rintro ⟨hstand, hordered⟩
    obtain ⟨hfirst, hrest⟩ := List.forall₂_cons.mp hstand
    rw [List.zip_cons_cons] at hordered
    refine ⟨hfirst, ⟨hrest, hordered.tail⟩, fun next hnext => ?_⟩
    cases hrest with
    | nil => cases hnext
    | cons _ _ =>
        cases hnext
        exact (List.isChain_cons_cons.mp hordered).1
  · rintro ⟨hfirst, ⟨hrest, hordered⟩, hnext⟩
    refine ⟨.cons hfirst hrest, ?_⟩
    cases hrest with
    | nil => exact List.isChain_singleton _
    | cons _ _ => exact List.isChain_cons_cons.mpr ⟨hnext _ rfl, hordered⟩

/-- Places behind a front are positions behind it. -/
theorem Placed.exists_positions (hplaced : Placed parts text) (front : List Char) :
    ∃ positions, ArePositions (front ++ text) parts positions ∧
      ∀ first ∈ positions.head?, front.length ≤ first := by
  induction hplaced generalizing front with
  | nil text => exact ⟨[], ⟨.nil, .nil⟩, nofun⟩
  | @cons part rest parts before _ ih =>
      obtain ⟨positions, hpositions, hbehind⟩ := ih (front ++ before ++ part)
      have htext : front ++ (before ++ part ++ rest) = front ++ before ++ part ++ rest := by
        simp only [List.append_assoc]
      refine ⟨(front ++ before).length :: positions, ?_, fun first hfirst => ?_⟩
      · rw [htext, arePositions_cons_iff, ← List.length_append]
        exact ⟨⟨_, _, rfl, rfl⟩, hpositions, hbehind⟩
      · cases hfirst
        rw [List.length_append]
        exact Nat.le_add_right _ _

/-- Positions from some start on are places in what the text has from there on. -/
theorem ArePositions.placed (hpositions : ArePositions text parts positions) (start : Nat)
    (hstart : ∀ first ∈ positions.head?, start ≤ first) : Placed parts (text.drop start) := by
  induction parts generalizing positions start with
  | nil => exact .nil _
  | cons part parts ih =>
      cases positions with
      | nil => cases hpositions.stand
      | cons position positions =>
          obtain ⟨⟨before, rest, rfl, rfl⟩, hlater, hnext⟩ := arePositions_cons_iff.mp hpositions
          have hrest := ih hlater _ hnext
          rw [← List.length_append, List.drop_left] at hrest
          rw [List.append_assoc, List.drop_append_of_le_length (hstart _ rfl), ← List.append_assoc]
          exact .cons _ hrest

theorem placed_iff_exists_positions :
    Placed parts text ↔ ∃ positions, ArePositions text parts positions :=
  ⟨fun hplaced => (hplaced.exists_positions []).imp fun _ => And.left,
    fun ⟨_, hpositions⟩ => hpositions.placed 0 fun _ _ => Nat.zero_le _⟩

/-- A pattern with literals coincides with a text if and only if there are positions in the folded
text at which its literals stand, each at or behind the end of the one before it. -/
theorem coincides_iff_exists_positions (text : String) (pattern : Pattern) :
    coincides text pattern = true ↔ pattern.literals ≠ [] ∧
      ∃ positions, ArePositions (Text.fold text.toList) pattern.literals positions := by
  rw [coincides, occursIn, Bool.and_eq_true, Bool.not_eq_true', List.isEmpty_eq_false_iff,
    occurInOrder_iff_placed, placed_iff_exists_positions]

-- Occurrences that overlap are no two places: the second one needs an end of the text to itself.
example : occurInOrder ["ana".toList, "ana".toList] "banana".toList = false := by decide

example : occurInOrder ["ana".toList, "ana".toList] "bananana".toList = true := by decide

end Phrasebook.Ranking
