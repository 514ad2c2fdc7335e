import Phrasebook.Fault
import Phrasebook.Value.Basic

/-!
# Comparing values

Numbers and truth values compare as numbers, texts by code points, lists entry by entry.  Values of
different kinds have no order.
-/

namespace Phrasebook.Value

/-- The number that a value counts as. -/
def number? : Value → Option Number
  | .bool value => some (.int (if value then 1 else 0))
  | .number value => some value
  | _ => none

mutual

/-- Equal as values: numbers by value, mappings without regard to order. -/
def same : Value → Value → Bool
  | .null, .null => true
  | .text left, .text right => left == right
  | .list left, .list right => sameItems left right
  | .mapping left, .mapping right => left.length == right.length && sameEntries left right
  | left, right =>
      match left.number?, right.number? with
      | some low, some high => low.same high
      | _, _ => false

def sameItems : List Value → List Value → Bool
  | [], [] => true
  | left :: lefts, right :: rights => left.same right && sameItems lefts rights
  | _, _ => false

def sameEntries : List (Key × Value) → List (Key × Value) → Bool
  | [], _ => true
  | (key, left) :: lefts, rights =>
      match OrderedMap.get? key rights with
      | some right => left.same right && sameEntries lefts rights
      | none => false

end

/-- Whether one text comes before another, by the code points of the first difference. -/
def textBefore : List Char → List Char → Bool
  | _, [] => false
  | [], _ :: _ => true
  | left :: lefts, right :: rights =>
      if left = right then textBefore lefts rights else left.toNat < right.toNat

mutual

/-- Smaller, or equal too where `orSame` says so, for values that have an order. -/
def precedes (orSame : Bool) : Value → Value → Except Fault Bool
  | .text left, .text right =>
      .ok (textBefore left.toList right.toList || (orSame && left == right))
  | .list left, .list right => listPrecedes orSame left right
  | left, right =>
      match left.number?, right.number? with
      | some low, some high => .ok (if orSame then low.le high else low.lt high)
      | _, _ => .error .unsuitable

/-- Lists are compared at the first items that differ, or else by length. -/
def listPrecedes (orSame : Bool) : List Value → List Value → Except Fault Bool
  | [], [] => .ok orSame
  | [], _ :: _ => .ok true
  | _ :: _, [] => .ok false
  | left :: lefts, right :: rights =>
      if left.same right then listPrecedes orSame lefts rights else left.precedes orSame right

end

/-- Strictly smaller, for values that have an order. -/
def lessThan (left right : Value) : Except Fault Bool := left.precedes false right

/-- Strictly greater, for values that have an order. -/
def greaterThan (left right : Value) : Except Fault Bool := right.precedes false left

/-- Greater or equal, for values that have an order. -/
def atLeast (left right : Value) : Except Fault Bool := right.precedes true left

end Phrasebook.Value
