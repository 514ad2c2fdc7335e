import Mathlib
import Phrasebook.Proofs.Slot.Reread

/-!
# Nested limits

Limits may be declared in a mapping of their own.  They are then read as if they had been written
over the other entries, wherever that mapping stands among them, and a slot that was read declares
its limits beside the other entries again.
-/

namespace Phrasebook

namespace OrderedMap

variable {κ α : Type} [BEq κ] {key : κ} {entries others : OrderedMap κ α}

theorem hasKey_append :
    hasKey key (entries ++ others) = (hasKey key entries || hasKey key others) := List.any_append

theorem hasKey_merge_eq_false (hentries : hasKey key entries = false)
    (hothers : hasKey key others = false) : hasKey key (merge entries others) = false := by
  rw [hasKey, List.any_eq_false] at hentries hothers ⊢
  have hmerged := forall_mem_merge (P := fun other => ¬(other == key) = true)
    (Q := fun _ : α => True) (fun entry hentry => ⟨hothers entry hentry, trivial⟩)
    fun entry hentry => ⟨hentries entry hentry, trivial⟩
  exact fun entry hentry => (hmerged entry hentry).1

theorem erase_append : erase key (entries ++ others) = erase key entries ++ erase key others :=
  List.filter_append ..

end OrderedMap

namespace Slot

variable {before limits after : List (Key × Value)}

/-- Nested limits are written over the entries around them. -/
theorem flattened_nested
    (hentries : OrderedMap.hasKey (.text "validation") (before ++ after) = false) :
    flattened (.mapping (before ++ (.text "validation", .mapping limits) :: after)) =
      .ok (OrderedMap.merge (before ++ after) limits) := by
  rw [OrderedMap.hasKey_append, Bool.or_eq_false_iff] at hentries
  have hbefore := OrderedMap.get?_eq_none_of_hasKey_eq_false hentries.1
  have hafter := OrderedMap.get?_eq_none_of_hasKey_eq_false hentries.2
  have hfield : Value.fieldOrNull "validation"
      (before ++ (.text "validation", .mapping limits) :: after) = .mapping limits := by
    rw [Value.fieldOrNull, Value.fieldOr, Value.field?, OrderedMap.get?_append, hbefore]
    rfl
  have herase : OrderedMap.erase (.text "validation")
      (before ++ (.text "validation", .mapping limits) :: after) = before ++ after := by
    rw [OrderedMap.erase_append, OrderedMap.erase_eq_self hbefore]
    exact congrArg (before ++ ·) (OrderedMap.erase_eq_self hafter)
  -- No limits at all do not hold, and an empty mapping stands in for them: no limits again.
  have hlimits : (Value.mapping limits).orElse (.mapping []) = .mapping limits := by
    cases limits <;> rfl
  rw [flattened, Value.toEntries, bind_eq_ok_iff]
  refine ⟨_, rfl, ?_⟩
  rw [hfield, hlimits, herase]
  rfl

theorem ofValue_nested
    (hentries : OrderedMap.hasKey (.text "validation") (before ++ after) = false)
    (hlimits : OrderedMap.hasKey (.text "validation") limits = false) :
    ofValue (.mapping (before ++ (.text "validation", .mapping limits) :: after)) =
      ofValue (.mapping (OrderedMap.merge (before ++ after) limits)) := by
  have hflat := flattened_eq_self (OrderedMap.get?_eq_none_of_hasKey_eq_false
    (OrderedMap.hasKey_merge_eq_false hentries hlimits))
  rw [ofValue, ofValue, flattened_nested hentries, hflat]

/-- What a slot declares of itself is read as the slot, and limits are read the same, or are as
unusable, whether they are nested or written over the other entries. -/
theorem ofValue_toValue_and_nested :
    (∀ data slot, ofValue data = .ok slot → ofValue slot.toValue = .ok slot) ∧
      ∀ before limits after : List (Key × Value),
        OrderedMap.hasKey (.text "validation") (before ++ after) = false →
          OrderedMap.hasKey (.text "validation") limits = false →
            ofValue (.mapping (before ++ (.text "validation", .mapping limits) :: after)) =
              ofValue (.mapping (OrderedMap.merge (before ++ after) limits)) :=
  ⟨fun _ _ hslot => ofValue_toValue (isConsistent_of_ofValue hslot),
    fun _ _ _ hentries hlimits => ofValue_nested hentries hlimits⟩

/-- A declaration that spells its type in capitals, has a default that does not hold and a length
under the second spelling, between which a length of zero is nested under the first one. -/
def looselyWritten : List (Key × Value) × List (Key × Value) × List (Key × Value) :=
  ([(.text "type", .text "STRING"), (.text "min_length", .int 5)],
    [(.text "minLength", .int 0), (.text "transform", .text "Uppercase")],
    [(.text "default", .bool false), (.text "description", .text "")])

/-- The slot of the loose declaration. -/
def looselyWrittenSlot : Slot where
  required := false
  description := .text ""
  fallback := .bool false
  kind := .string (.int 0) .null (some .uppercase)

theorem ofValue_looselyWritten :
    let (before, limits, after) := looselyWritten
    ofValue (.mapping (before ++ (.text "validation", .mapping limits) :: after)) =
        .ok looselyWrittenSlot ∧
      ofValue (.mapping (OrderedMap.merge (before ++ after) limits)) = .ok looselyWrittenSlot ∧
        ofValue looselyWrittenSlot.toValue = .ok looselyWrittenSlot := by
  have hread : ofValue (.mapping (OrderedMap.merge (looselyWritten.1 ++ looselyWritten.2.2)
      looselyWritten.2.1)) = .ok looselyWrittenSlot := eq_ok_of_toOption (by decide +kernel)
  have hnested := ofValue_toValue_and_nested.2 looselyWritten.1 looselyWritten.2.1
    looselyWritten.2.2 (by decide) (by decide)
  exact ⟨hnested.trans hread, hread, ofValue_toValue_and_nested.1 _ _ hread⟩

end Slot

end Phrasebook
