import Mathlib
import Phrasebook.Proofs.Numeral
import Phrasebook.Proofs.Parameters
import Phrasebook.Proofs.Template.Uncased

/-!
# Coercion looks past plain case

Whether a text is a value of a slot does not depend on the case of its plain letters, unless the
slot is a date.  So captured texts that differ in nothing else fail with the same fault, or amount
to parameters alike.
-/

namespace Phrasebook

/-! ## Slots -/

namespace Slot

theorem apply_uncase (change : CaseChange) (text : List Char) :
    change.apply (Text.uncase text) = change.apply text := by
  cases change with
  | lowercase => exact Text.lower_uncase text
  | uppercase => exact Text.upper_uncase text
  | capitalize => exact Text.capitalize_uncase text

theorem length_changed_uncase (change : Option CaseChange) (text : List Char) :
    (changed change (Text.uncase text)).length = (changed change text).length := by
  cases change with
  | none => exact List.length_map _
  | some change => rw [changed, changed, apply_uncase]

/-- Cutting looks at nothing but the length of a text. -/
theorem sameEnd_cutTo (maxLength : Value) {text other : List Char}
    (hlength : text.length = other.length) :
    SameEnd (cutTo maxLength text) (cutTo maxLength other) := by
  rw [cutTo, cutTo, hlength]
  split
  · exact sameEnd_ok _ _
  · refine .after _ fun above => ?_
    split
    · exact .after _ fun count => sameEnd_ok _ _
    · exact sameEnd_ok _ _

theorem sameEnd_readString_uncased (minLength maxLength : Value) (change : Option CaseChange)
    (raw : String) :
    SameEnd (readString minLength maxLength change (uncased raw))
      (readString minLength maxLength change raw) := by
  have hlength := length_changed_uncase change (Text.trim raw.toList)
  rw [readString, readString, toList_uncased, Text.trim_uncase, hlength]
  exact .after _ fun _ => (sameEnd_cutTo maxLength hlength).bind fun _ _ => sameEnd_ok _ _

theorem sameEnd_orMissing {first second : Except Fault Value} (hsame : SameEnd first second) :
    SameEnd (orMissing first) (orMissing second) := by
  cases first with
  | error fault =>
      cases second with
      | error _ =>
          cases hsame
          exact .refl _
      | ok _ => cases hsame
  | ok value =>
      cases second with
      | error _ => cases hsame
      | ok _ => exact sameEnd_ok _ _

theorem orMissing_readNumber_uncased (least greatest : Value) (raw : String) :
    orMissing (do return .real (← readNumber least greatest (uncased raw))) =
      orMissing (do return .real (← readNumber least greatest raw)) := by
  rw [readNumber, readNumber, trimmed_uncased, Numeral.real?_uncased]
  cases Numeral.real? (trimmed raw) with
  | none => rfl
  | some number =>
      dsimp only
      split <;> rfl

theorem orMissing_readBoolean_uncased (raw : String) :
    orMissing (do return .bool (← readBoolean (uncased raw))) =
      orMissing (do return .bool (← readBoolean raw)) := by
  rw [readBoolean, readBoolean, trimmed_uncased, lowered_uncased]
  split
  · rfl
  split <;> rfl

variable {slot : Slot} (htimeless : ∀ earliest latest, slot.kind ≠ .date earliest latest)

include htimeless

/-- Plain case does not tell whether a slot takes a text. -/
theorem sameEnd_coerceText_uncased (raw : String) :
    SameEnd (slot.coerceText (uncased raw)) (slot.coerceText raw) := by
  rw [coerceText, coerceText, isBlankText_uncased]
  split
  · exact .refl _
  unfold read
  cases hkind : slot.kind with
  | string minLength maxLength change =>
      -- without a change of case the values differ, but not in whether there is one
      exact sameEnd_orMissing
        ((sameEnd_readString_uncased minLength maxLength change raw).bind fun _ _ => sameEnd_ok _ _)
  | number least greatest =>
      dsimp only
      rw [orMissing_readNumber_uncased]
      exact .refl _
  | boolean =>
      dsimp only
      rw [orMissing_readBoolean_uncased]
      exact .refl _
  | date earliest latest => exact absurd hkind (htimeless earliest latest)

theorem sameEnd_deliver_uncased (raw : String) :
    SameEnd (slot.deliver (.text (uncased raw))) (slot.deliver (.text raw)) := by
  rw [deliver, deliver, coerce_text, coerce_text]
  refine (sameEnd_coerceText_uncased htimeless raw).bind fun value result => ?_
  cases value <;> cases result <;> exact sameEnd_ok _ _

end Slot

/-! ## Parameters -/

namespace Parameters

section

variable {schema : Schema}
  (htimeless : ∀ entry ∈ schema, ∀ earliest latest, entry.2.kind ≠ .date earliest latest)

include htimeless

theorem sameEnd_declared_uncased (captures : Captures) :
    SameEnd (declared (.ofCaptures captures.uncased) schema)
      (declared (.ofCaptures captures) schema) := by
  induction schema with
  | nil => exact .refl _
  | cons entry schema ih =>
      obtain ⟨name, slot⟩ := entry
      rw [List.forall_mem_cons] at htimeless
      rw [declared, declared, captured_ofCaptures_eq, captured_ofCaptures_eq, Captures.uncased,
        OrderedMap.mapValues, List.find?_map, Function.comp_def]
      dsimp only
      refine SameEnd.bind ?_ fun value result => (ih htimeless.2).bind fun others _ => ?_
      · cases captures.find? fun entry => Key.text entry.1 == name with
        | none => exact .refl _
        | some capture => exact Slot.sameEnd_deliver_uncased htimeless.1 capture.2
      · cases value <;> cases result <;> exact sameEnd_ok _ _

theorem sameEnd_ofCaptures_uncased (captures : Captures) :
    SameEnd (ofCaptures captures.uncased schema) (ofCaptures captures schema) := by
  refine (sameEnd_declared_uncased htimeless captures).bind fun known other => ?_
  obtain ⟨first, hfirst⟩ := exists_undeclared captures.uncased schema
  obtain ⟨second, hsecond⟩ := exists_undeclared captures schema
  rw [hfirst, hsecond]
  exact sameEnd_ok _ _

end

end Parameters

end Phrasebook
