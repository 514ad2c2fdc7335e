import Phrasebook.Text.Blank
import Phrasebook.Text.Quoted
import Phrasebook.Text.Word

/-!
# Template segments

A template is literal text with slots written as a name in braces.  `split` reads the segments of a
template and reports the first flaw; `render` writes segments back.
-/

namespace Phrasebook.Template

def openBrace : Char := '\x7b'

def closeBrace : Char := '\x7d'

inductive Segment where
  | literal (text : List Char)
  | slot (name : String)
  deriving DecidableEq, Repr

/-- What can be wrong with a template; positions count characters from zero. -/
inductive Flaw where
  | empty
  | unmatchedClose (position : Nat)
  | unclosedOpen (position : Nat)
  | nestedOpen (position : Nat)
  | invalidName (written : List Char)
  deriving DecidableEq, Repr

/-- A template that cannot be used, and why. -/
structure Malformed where
  template : String
  flaw : Flaw
  deriving DecidableEq, Repr

def Flaw.message : Flaw → String
  | .empty => "template is empty"
  | .unmatchedClose position => "unmatched '\x7d' at " ++ toString position
  | .unclosedOpen position => "unclosed '\x7b' at " ++ toString position
  | .nestedOpen position => "nested '\x7b' at " ++ toString position
  | .invalidName written => "invalid slot name " ++ quoted (String.ofList written)

def Malformed.message (malformed : Malformed) : String :=
  "Invalid pattern " ++ quoted malformed.template ++ ": " ++ malformed.flaw.message

/-- The segments with one more literal character in front. -/
def consLiteral (c : Char) : List Segment → List Segment
  | .literal text :: rest => .literal (c :: text) :: rest
  | rest => .literal [c] :: rest

/-- Where a reader of templates stands: in literal text, or in the braces opened at `start` with
the characters `seen` since then in reverse. -/
inductive Place where
  | outside
  | inside (start : Nat) (seen : List Char)

def scan : Place → (position : Nat) → List Char → Except Flaw (List Segment)
  | .outside, _, [] => .ok []
  | .inside start _, _, [] => .error (.unclosedOpen start)
  | .outside, position, c :: rest =>
      if c = closeBrace then .error (.unmatchedClose position)
      else if c = openBrace then scan (.inside position []) (position + 1) rest
      else (scan .outside (position + 1) rest).map (consLiteral c)
  | .inside start seen, position, c :: rest =>
      if c = closeBrace then
        let name := Text.trim seen.reverse
        if seen.contains openBrace then .error (.nestedOpen start)
        else if Text.isIdentifier name then
          (scan .outside (position + 1) rest).map (.slot (String.ofList name) :: ·)
        else .error (.invalidName (openBrace :: seen.reverse ++ [closeBrace]))
      else scan (.inside start (c :: seen)) (position + 1) rest

def segments (template : List Char) : Except Flaw (List Segment) := scan .outside 0 template

/-- The segments of a template as it is written, outer blanks included. -/
def split (template : String) : Except Malformed (List Segment) :=
  (segments template.toList).mapError fun flaw => ⟨template, flaw⟩

def Segment.render : Segment → List Char
  | .literal text => text
  | .slot name => openBrace :: name.toList ++ [closeBrace]

def render (segments : List Segment) : List Char := segments.flatMap Segment.render

def Segment.slotName? : Segment → Option String
  | .literal _ => none
  | .slot name => some name

def slotNames (segments : List Segment) : List String := segments.filterMap Segment.slotName?

/-- Two slots with nothing between them: where one ends and the other begins is not determined. -/
def hasTouchingSlots : List Segment → Bool
  | .slot _ :: .slot _ :: _ => true
  | _ :: rest => hasTouchingSlots rest
  | [] => false

end Phrasebook.Template
