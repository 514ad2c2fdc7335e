import Phrasebook.Text.CaseTable

/-!
# Lower, upper and title case

The full case mappings: a character may become several, and a capital sigma takes its final form
when the nearest letter that counts before it has case and the nearest one after it has not.
-/

namespace Phrasebook.Text

/-- The lower case of a character where it is one character, else the character itself. -/
def lowerChar (c : Char) : Char :=
  let code := c.toNat
  if code < 128 then
    if 65 ≤ code && code ≤ 90 then Char.ofNat (code + 32) else c
  else
    match shifted? lowerShifts code with
    | some image => Char.ofNat image
    | none => c

/-- The capital I with a dot keeps its dot as a combining mark. -/
def lowerExpansion (c : Char) : List Char :=
  if c = 'İ' then ['i', '\u0307'] else [lowerChar c]

def isCased (c : Char) : Bool :=
  let code := c.toNat
  if code < 128 then (65 ≤ code && code ≤ 90) || (97 ≤ code && code ≤ 122)
  else inRanges casedRanges code

def isCaseIgnorable (c : Char) : Bool := inRanges ignorableRanges c.toNat

/-- Whether the first character that is not passed over has case. -/
def startsCased (text : List Char) : Bool :=
  match text.dropWhile isCaseIgnorable with
  | [] => false
  | c :: _ => isCased c

/-- The small sigma for a place between the reversed text `before` and the text `after`. -/
def smallSigma (before after : List Char) : Char :=
  if startsCased before && !startsCased after then 'ς' else 'σ'

/-- Lower case of a text that follows the reversed text `before`. -/
def lowerAfter (before : List Char) : List Char → List Char
  | [] => []
  | c :: rest =>
      (if c = 'Σ' then [smallSigma before rest] else lowerExpansion c)
        ++ lowerAfter (c :: before) rest

def lower (text : List Char) : List Char := lowerAfter [] text

/-- The characters that a table of one-to-many changes gives for a code point. -/
def expanded? (table : List (Nat × List Nat)) (code : Nat) : Option (List Char) :=
  (table.find? fun row => row.1 == code).map fun row => row.2.map Char.ofNat

def upperExpansion (c : Char) : List Char :=
  let code := c.toNat
  if code < 128 then
    if 97 ≤ code && code ≤ 122 then [Char.ofNat (code - 32)] else [c]
  else
    match expanded? upperExpansions code with
    | some image => image
    | none =>
        match shifted? upperShifts code with
        | some image => [Char.ofNat image]
        | none => [c]

def upper (text : List Char) : List Char := text.flatMap upperExpansion

def titleExpansion (c : Char) : List Char :=
  if c.toNat < 128 then upperExpansion c
  else
    match expanded? titleExpansions c.toNat with
    | some image => image
    | none =>
        match shifted? titleShifts c.toNat with
        | some image => [Char.ofNat image]
        | none => upperExpansion c

/-- The first character in title case and the others in lower case. -/
def capitalize : List Char → List Char
  | [] => []
  | c :: rest => titleExpansion c ++ lowerAfter [c] rest

end Phrasebook.Text

namespace Phrasebook

def lowered (text : String) : String := String.ofList (Text.lower text.toList)

def uppered (text : String) : String := String.ofList (Text.upper text.toList)

end Phrasebook
