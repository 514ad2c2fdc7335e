import Phrasebook.Number
import Phrasebook.OrderedMap

/-!
# Configuration values

Catalogs, request bodies and classifier answers come as values whose kind is known only at run time.
A mapping keeps the order of its entries; its keys are texts, as a rule, but any single value may
be one.
-/

namespace Phrasebook

inductive Key where
  | null
  | bool (value : Bool)
  | number (value : Number)
  | text (value : String)
  deriving DecidableEq, Repr

namespace Key

/-- The number that a key counts as: truth values count as one and zero. -/
def number? : Key → Option Number
  | .bool value => some (.int (if value then 1 else 0))
  | .number value => some value
  | _ => none

/-- Keys that stand for the same entry: equal texts, or numbers of one value. -/
def same : Key → Key → Bool
  | .null, .null => true
  | .text left, .text right => left == right
  | left, right =>
      match left.number?, right.number? with
      | some low, some high => low.same high
      | _, _ => false

instance : BEq Key := ⟨Key.same⟩

/-- Whether the keys can be put in order: all of them texts, or all of them numbers. -/
def sortable (keys : List Key) : Bool :=
  keys.length ≤ 1 || keys.all (fun key => key matches .text _) || keys.all (·.number?.isSome)

end Key

inductive Value where
  | null
  | bool (value : Bool)
  | number (value : Number)
  | text (value : String)
  | list (items : List Value)
  | mapping (entries : List (Key × Value))
  deriving Inhabited, Repr

namespace Value

def int (value : Int) : Value := .number (.int value)

def real (value : Real64) : Value := .number (.real value)

def texts (values : List String) : Value := .list (values.map .text)

/-- A mapping whose keys are texts. -/
def record (fields : List (String × Value)) : Value :=
  .mapping (fields.map fun field => (.text field.1, field.2))

/-- Nothing, falsehood, zero and what is empty do not hold. -/
def holds : Value → Bool
  | .null => false
  | .bool value => value
  | .number value => !value.isZero
  | .text value => !value.isEmpty
  | .list items => !items.isEmpty
  | .mapping entries => !entries.isEmpty

/-- The value, or another one in place of a value that does not hold. -/
def orElse (value other : Value) : Value := if value.holds then value else other

def isNull : Value → Bool
  | .null => true
  | _ => false

def ofKey : Key → Value
  | .null => .null
  | .bool value => .bool value
  | .number value => .number value
  | .text value => .text value

end Value

end Phrasebook
