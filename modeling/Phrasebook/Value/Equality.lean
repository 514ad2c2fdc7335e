import Phrasebook.Value.Basic

/-!
# Equality of values is decidable

Values are trees, so two of them are compared branch by branch.
-/

namespace Phrasebook.Value

mutual

def decideEq : (left right : Value) → Decidable (left = right)
  | .null, .null => .isTrue rfl
  | .bool left, .bool right => decidable_of_iff (left = right) (by simp)
  | .number left, .number right => decidable_of_iff (left = right) (by simp)
  | .text left, .text right => decidable_of_iff (left = right) (by simp)
  | .list left, .list right =>
      have := decideItemsEq left right
      decidable_of_iff (left = right) (by simp)
  | .mapping left, .mapping right =>
      have := decideEntriesEq left right
      decidable_of_iff (left = right) (by simp)
  | .null, .bool _ | .null, .number _ | .null, .text _ | .null, .list _ | .null, .mapping _
  | .bool _, .null | .bool _, .number _ | .bool _, .text _ | .bool _, .list _ | .bool _, .mapping _
  | .number _, .null | .number _, .bool _ | .number _, .text _ | .number _, .list _
  | .number _, .mapping _ | .text _, .null | .text _, .bool _ | .text _, .number _
  | .text _, .list _ | .text _, .mapping _ | .list _, .null | .list _, .bool _
  | .list _, .number _ | .list _, .text _ | .list _, .mapping _ | .mapping _, .null
  | .mapping _, .bool _ | .mapping _, .number _ | .mapping _, .text _ | .mapping _, .list _ =>
      .isFalse (by simp)

def decideItemsEq : (left right : List Value) → Decidable (left = right)
  | [], [] => .isTrue rfl
  | [], _ :: _ => .isFalse (by simp)
  | _ :: _, [] => .isFalse (by simp)
  | left :: lefts, right :: rights =>
      have := decideEq left right
      have := decideItemsEq lefts rights
      decidable_of_iff (left = right ∧ lefts = rights) (by simp)

def decideEntriesEq : (left right : List (Key × Value)) → Decidable (left = right)
  | [], [] => .isTrue rfl
  | [], _ :: _ => .isFalse (by simp)
  | _ :: _, [] => .isFalse (by simp)
  | (leftKey, left) :: lefts, (rightKey, right) :: rights =>
      have := decideEq left right
      have := decideEntriesEq lefts rights
      decidable_of_iff (leftKey = rightKey ∧ left = right ∧ lefts = rights)
        (by simp [and_assoc])

end

instance : DecidableEq Value := decideEq

end Phrasebook.Value
