import Phrasebook.Numeral
import Phrasebook.Value.Order

/-!
# Values as numbers, texts and mappings

Conversions say what a value amounts to where a number or a mapping is wanted, and fail where it
amounts to nothing of the kind.
-/

namespace Phrasebook

def invalid {α : Type} (cause : Invalid) : Except Fault α := .error (.invalid cause)

namespace Number

/-- The nearest number of the 64-bit format. -/
def toReal : Number → Except Fault Real64
  | .real value => .ok value
  | .int value => (Real64.ofInt? value).elim (.error (.overflow .integerTooLarge)) .ok

/-- The whole part, toward zero. -/
def toWhole : Number → Except Fault Int
  | .int value => .ok value
  | .real .nan => invalid .undefinedWhole
  | .real (.infinite _) => .error (.overflow .infiniteWhole)
  | .real (.finite negative steps) => .ok (Real64.truncated negative steps)

end Number

namespace Value

/-- The text of a value that is one. -/
def toText : Value → Except Fault String
  | .text value => .ok value
  | _ => .error .lacking

def toReal : Value → Except Fault Real64
  | .text written =>
      match Numeral.real? written with
      | some value => .ok value
      | none => invalid (.unreadableReal written)
  | value =>
      match value.number? with
      | some counted => counted.toReal
      | none => .error .unsuitable

def toWhole : Value → Except Fault Int
  | .text written =>
      match Numeral.whole written with
      | .ok value => .ok value
      | .error .malformed => invalid (.unreadableWhole written)
      | .error (.tooLong digits) => invalid (.tooManyDigits digits)
  | value =>
      match value.number? with
      | some counted => counted.toWhole
      | none => .error .unsuitable

/-- The single values that can be keys. -/
def toKey : Value → Except Fault Key
  | .null => .ok .null
  | .bool value => .ok (.bool value)
  | .number value => .ok (.number value)
  | .text value => .ok (.text value)
  | _ => .error .unsuitable

/-- The members of a value that has some: characters, items or keys. -/
def members : Value → Except Fault (List Value)
  | .text value => .ok (value.toList.map fun c => .text (String.singleton c))
  | .list items => .ok items
  | .mapping entries => .ok (entries.map fun entry => ofKey entry.1)
  | _ => .error .unsuitable

/-- One entry of a mapping given as a list; `position` is its place in the list. -/
def toEntry (position : Nat) (value : Value) : Except Fault (Key × Value) := do
  match ← value.members with
  | [key, content] => return (← key.toKey, content)
  | members => invalid (.pairLength position members.length)

def toEntriesFrom (position : Nat) (written : List (Key × Value)) :
    List Value → Except Fault (List (Key × Value))
  | [] => .ok written
  | value :: rest => do
      let (key, content) ← value.toEntry position
      toEntriesFrom (position + 1) (OrderedMap.insert key content written) rest

/-- The entries of a mapping, or of a list of pairs read in order. -/
def toEntries : Value → Except Fault (List (Key × Value))
  | .mapping entries => .ok entries
  | value => do toEntriesFrom 0 [] (← value.members)

/-- The entry of a mapping under a name. -/
def field? (name : String) (entries : List (Key × Value)) : Option Value :=
  OrderedMap.get? (.text name) entries

/-- The entry under a name, or a value in place of a missing one. -/
def fieldOr (name : String) (other : Value) (entries : List (Key × Value)) : Value :=
  (field? name entries).getD other

def fieldOrNull (name : String) (entries : List (Key × Value)) : Value :=
  fieldOr name .null entries

end Value

end Phrasebook
