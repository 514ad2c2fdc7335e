import Phrasebook.Text.CaseMap

/-!
# Characters that are equal up to case

Templates are matched character by character, so this equality is one to one: two characters are
equal up to case when their lower cases have the same letter key.
-/

namespace Phrasebook.Text

/-- The letter that stands for all lower-case letters that count as the same one. -/
def kinKey (c : Char) : Char :=
  if c.toNat < 128 then c
  else
    match kinPairs.find? fun pair => pair.1 == c.toNat with
    | some pair => Char.ofNat pair.2
    | none => c

def caseKey (c : Char) : Char := kinKey (lowerChar c)

def sameUpToCase (c d : Char) : Bool := c == d || caseKey c == caseKey d

end Phrasebook.Text
