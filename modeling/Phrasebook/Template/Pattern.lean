import Phrasebook.Text.Fold
import Phrasebook.Template.Search

/-!
# Patterns

A pattern is a template made ready for use: its pieces for exact matching, the names of its slots
in order, and its literal texts in folded form for ranking.
-/

namespace Phrasebook

/-- A usable template.  `source` is the template as declared; `slotNames` keeps repeated names;
`literals` are folded and never empty; `ambiguous` says that two slots touch. -/
structure Pattern where
  source : String
  pieces : List Template.Piece
  slotNames : List String
  literals : List (List Char)
  ambiguous : Bool
  deriving DecidableEq, Repr

namespace Template

/-- The folded text of a literal with a word in it. -/
def Segment.foldedLiteral? : Segment → Option (List Char)
  | .slot _ => none
  | .literal text =>
      match Text.fold text with
      | [] => none
      | folded => some folded

def foldedLiterals (segments : List Segment) : List (List Char) :=
  segments.filterMap Segment.foldedLiteral?

/-- The text of a literal that is not blank. -/
def Segment.wordedText? : Segment → Option (List Char)
  | .slot _ => none
  | .literal text => if text.all Text.isBlank then none else some text

/-- The literal words of a template in order, without its slots. -/
def skeleton (segments : List Segment) : List Char :=
  Text.unwords ((segments.filterMap Segment.wordedText?).map Text.fold)

end Template

namespace Pattern

def ofSegments (source : String) (segments : List Template.Segment) : Pattern where
  source := source
  pieces := segments.flatMap Template.Segment.pieces
  slotNames := Template.slotNames segments
  literals := Template.foldedLiterals segments
  ambiguous := Template.hasTouchingSlots segments

/-- The pattern of a template; flaws are reported for its text without outer blanks. -/
def ofTemplate (template : String) : Except Template.Malformed Pattern :=
  match Text.trim template.toList with
  | [] => .error ⟨template, .empty⟩
  | text =>
      match Template.segments text with
      | .error flaw => .error ⟨String.ofList text, flaw⟩
      | .ok segments => .ok (ofSegments template segments)

def hasSlots (pattern : Pattern) : Bool := !pattern.slotNames.isEmpty

/-- The slots' shares of a text without its outer blanks, in order and with their own blanks. -/
def captures? (pattern : Pattern) (text : String) : Option (List String) :=
  (Template.search pattern.pieces (Text.trim text.toList)).map (·.map String.ofList)

def accepts (pattern : Pattern) (text : String) : Bool := (pattern.captures? text).isSome

/-- The literal words that a text is scored by, in order and with repetitions. -/
def literalWords (pattern : Pattern) : List (List Char) :=
  pattern.literals.flatMap Text.splitAtSpaces

end Pattern

end Phrasebook
