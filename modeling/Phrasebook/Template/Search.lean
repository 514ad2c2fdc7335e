import Phrasebook.Text.CaseFold
import Phrasebook.Template.Segment

/-!
# Matching a text against a template

A template is laid out as pieces: a character up to case, a run of blanks, or a slot.  `search`
cuts a whole text along the pieces from left to right and gives the slots' shares.  A run of blanks
takes as many as it can and a slot as few as it can, always so that the rest of the text can still
be cut along the rest of the pieces.
-/

namespace Phrasebook.Template

inductive Piece where
  | char (c : Char)
  | blanks
  | slot
  deriving DecidableEq, Repr

/-- One piece for a run of blanks and one for every other character. -/
def literalPieces : List Char → List Piece
  | [] => []
  | c :: rest =>
      if Text.isBlank c then
        match literalPieces rest with
        | .blanks :: pieces => .blanks :: pieces
        | pieces => .blanks :: pieces
      else .char c :: literalPieces rest

def Segment.pieces : Segment → List Piece
  | .literal text => literalPieces text
  | .slot _ => [.slot]

/-- The answer after the longest non-empty run of leading blanks that `next` can follow. -/
def afterBlanks {α : Type} (next : List Char → Option α) : List Char → Option α
  | [] => none
  | c :: rest =>
      if Text.isBlank c then
        match afterBlanks next rest with
        | some answer => some answer
        | none => next rest
      else none

/-- The shortest non-empty start of the text that `next` can follow, with the answer after it. -/
def shortestStart {α : Type} (next : List Char → Option α) :
    List Char → Option (List Char × α)
  | [] => none
  | c :: rest =>
      match next rest with
      | some answer => some ([c], answer)
      | none => (shortestStart next rest).map fun found => (c :: found.1, found.2)

/-- The shares of the slots, if the whole text can be cut along the pieces. -/
def search : List Piece → List Char → Option (List (List Char))
  | [], [] => some []
  | [], _ :: _ => none
  | .char _ :: _, [] => none
  | .char c :: pieces, d :: text => if Text.sameUpToCase c d then search pieces text else none
  | .blanks :: pieces, text => afterBlanks (search pieces) text
  | .slot :: pieces, text =>
      (shortestStart (search pieces) text).map fun found => found.1 :: found.2

end Phrasebook.Template
