import Phrasebook.Text.Quoted
import Phrasebook.Value.Written

/-!
# Writing JSON

Values are written without space, and only quotes, backslashes and control characters are escaped.
-/

namespace Phrasebook.JsonText

def escaped (c : Char) : List Char :=
  if c = Text.doubleQuote || c = Text.backslash then [Text.backslash, c]
  else if c.toNat < 32 then Text.backslash :: 'u' :: Text.hexDigits 4 c.toNat
  else [c]

def writeText (text : String) : List Char :=
  Text.doubleQuote :: text.toList.flatMap escaped ++ [Text.doubleQuote]

def writeReal : Real64 → String
  | .nan => "NaN"
  | .infinite negative => if negative then "-Infinity" else "Infinity"
  | value => value.text

def writeNumber : Number → List Char
  | .int value => (toString value).toList
  | .real value => (writeReal value).toList

mutual

def write : Value → List Char
  | .null => "null".toList
  | .bool value => (if value then "true" else "false").toList
  | .number value => writeNumber value
  | .text value => writeText value
  | .list items => '[' :: writeItems items ++ [']']
  | .mapping entries => '\x7b' :: writeEntries entries ++ ['\x7d']

def writeItems : List Value → List Char
  | [] => []
  | [item] => write item
  | item :: rest => write item ++ ',' :: writeItems rest

def writeEntries : List (Key × Value) → List Char
  | [] => []
  | [(key, value)] => writeText key.name ++ ':' :: write value
  | (key, value) :: rest => writeText key.name ++ ':' :: write value ++ ',' :: writeEntries rest

end

end Phrasebook.JsonText
