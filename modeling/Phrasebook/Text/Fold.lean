import Phrasebook.Text.Blank
import Phrasebook.Text.CaseMap

/-!
# Folded text and tokens

Texts are compared in folded form: blanks collapsed and letters in lower case.  The tokens of a
text are the pieces of its folded form between spaces.
-/

namespace Phrasebook.Text

def fold (text : List Char) : List Char := lower (collapse text)

def tokens (text : List Char) : List (List Char) :=
  match fold text with
  | [] => []
  | folded => splitAtSpaces folded

end Phrasebook.Text
