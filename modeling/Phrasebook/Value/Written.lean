import Phrasebook.Numeral
import Phrasebook.Text.Quoted
import Phrasebook.Value.Basic

/-!
# Written form of a value

Inside a list or a mapping a text is quoted; on its own it is written as it is.
-/

namespace Phrasebook

namespace Key

def quoted : Key → String
  | .null => "None"
  | .bool value => if value then "True" else "False"
  | .number value => value.text
  | .text value => Phrasebook.quoted value

/-- The form of a key on its own. -/
def written : Key → String
  | .text value => value
  | key => key.quoted

/-- The name of an entry where only texts can be names. -/
def name : Key → String
  | .null => "null"
  | .bool value => if value then "true" else "false"
  | .number value => value.text
  | .text value => value

end Key

namespace Value

mutual

/-- The form in which a value stands inside another one. -/
def quoted : Value → String
  | .null => "None"
  | .bool value => if value then "True" else "False"
  | .number value => value.text
  | .text value => Phrasebook.quoted value
  | .list items => "[" ++ quotedItems items ++ "]"
  | .mapping entries => "\x7b" ++ quotedEntries entries ++ "\x7d"

def quotedItems : List Value → String
  | [] => ""
  | [item] => item.quoted
  | item :: rest => item.quoted ++ ", " ++ quotedItems rest

def quotedEntries : List (Key × Value) → String
  | [] => ""
  | [(key, value)] => key.quoted ++ ": " ++ value.quoted
  | (key, value) :: rest => key.quoted ++ ": " ++ value.quoted ++ ", " ++ quotedEntries rest

end

/-- The form of a value on its own. -/
def written : Value → String
  | .text value => value
  | value => value.quoted

/-- Whole numbers with more digits than whole numerals may have are not written out. -/
def isWritable : Value → Bool
  | .number (.int value) => value.natAbs < Nat.pow 10 Numeral.longest
  | _ => true

end Value

end Phrasebook
