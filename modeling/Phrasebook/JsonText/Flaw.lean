/-!
# Flaws of a JSON text

A text that is not JSON has a first flaw, at a position counted in characters from zero.  The
message also gives the line and the column, both counted from one.
-/

namespace Phrasebook.JsonText

inductive Flaw where
  | noValue
  | noName
  | noColon
  | noComma
  | unterminated
  | controlCharacter
  | badEscape
  | badCodeEscape
  | extraData
  deriving DecidableEq, Repr

def Flaw.message : Flaw → String
  | .noValue => "Expecting value"
  | .noName => "Expecting property name enclosed in double quotes"
  | .noColon => "Expecting ':' delimiter"
  | .noComma => "Expecting ',' delimiter"
  | .unterminated => "Unterminated string starting at"
  | .controlCharacter => "Invalid control character at"
  | .badEscape => "Invalid \\escape"
  | .badCodeEscape => "Invalid \\uXXXX escape"
  | .extraData => "Extra data"

/-- The values that hold other values. -/
inductive Container where
  | mapping
  | list
  deriving DecidableEq, Repr

/-- The format's own name of a container. -/
def Container.name : Container → String
  | .mapping => "object"
  | .list => "array"

/-- Why a text is not read: it has a flaw, a whole number with too many digits, or a container with
too many others around it. -/
inductive Refusal where
  | flaw (flaw : Flaw) (position : Nat)
  | tooManyDigits (count : Nat)
  | tooDeep (container : Container)
  deriving DecidableEq, Repr

def lineOf (before : List Char) : Nat := before.count '\n' + 1

def columnOf (before : List Char) : Nat := (before.reverse.takeWhile (· != '\n')).length + 1

/-- The message of a flaw in a text. -/
def flawMessage (text : List Char) (flaw : Flaw) (position : Nat) : String :=
  let before := text.take position
  flaw.message ++ ": line " ++ toString (lineOf before) ++ " column "
    ++ toString (columnOf before) ++ " (char " ++ toString position ++ ")"

end Phrasebook.JsonText
