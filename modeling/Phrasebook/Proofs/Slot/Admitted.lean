import Mathlib
import Phrasebook.Proofs.Slot.Dates
import Phrasebook.Proofs.Slot.Strings

/-!
# Values that slots make of texts

A value that a slot makes of a text is of the kind of the slot and within its limits.  The limits of
numbers and dates need not be of the declared kinds: a text that gets to another one is not coerced.
-/

namespace Phrasebook

/-! ## Within limits -/

/-- The number is neither below the one limit nor above the other.  An absent limit excludes no
number, and neither does the undefined one. -/
structure Number.IsWithin (least greatest : Value) (number : Number) : Prop where
  notBelow : ∀ bound, least.number? = some bound → number.lt bound = false
  notAbove : ∀ bound, greatest.number? = some bound → bound.lt number = false

/-- The instant is neither before the one limit nor after the other, as the instants that these
denote; an absent limit excludes none. -/
structure Instant.IsWithin (earliest latest : Value) (instant : Instant) : Prop where
  notBefore : ∀ text, earliest = .text text → ∃ first, ofText text = .ok first ∧
    first.microseconds ≤ instant.microseconds
  notAfter : ∀ text, latest = .text text → ∃ last, ofText text = .ok last ∧
    instant.microseconds ≤ last.microseconds

namespace SlotKind

/-- Limits of a number of characters are whole numbers. -/
def HasWholeLengths : SlotKind → Prop
  | .string minLength maxLength _ => minLength.IsLength ∧ maxLength.IsLength
  | _ => True

theorem IsWellTyped.hasWholeLengths {kind : SlotKind} (htyped : kind.IsWellTyped) :
    kind.HasWholeLengths := by
  cases kind with
  | string minLength maxLength change => exact htyped
  | _ => trivial

/-- A value of the kind, within its limits, that the text stands for. -/
def Admits (raw : String) (value : Value) : SlotKind → Prop
  | .string minLength maxLength _ =>
      ∃ text, value = .text text ∧ Slot.Keeps minLength maxLength text.toList
  | .number least greatest => ∃ number : Real64, value = .real number ∧
      Numeral.real? (trimmed raw) = some number ∧ number.isFinite = true ∧
        (Number.real number).IsWithin least greatest
  | .boolean => ∃ one, value = .bool one
  | .date earliest latest => ∃ instant : Instant, value = .text instant.text ∧
      Instant.ofText raw = .ok instant ∧ instant.IsWithin earliest latest

end SlotKind

namespace Slot

/-! ## Limits that let a value past -/

section

variable {limit : Value} {reason : String → Rejection} {test : Value → Except Fault Bool}
  {answer : Unit}

theorem test_eq_false_of_reject (hkept : reject reason limit test = .ok answer)
    (hpresent : limit.isNull = false) : test limit = .ok false := by
  obtain hnull | hfalse := reject_eq_ok_iff.mp hkept
  · exact absurd (hnull.symm.trans hpresent) nofun
  · exact hfalse

theorem isWithin_of_reject {least greatest : Value} {number : Number}
    {below above : String → Rejection}
    (hbelow : reject below least (Value.number number).lessThan = .ok answer)
    (habove : reject above greatest (Value.number number).greaterThan = .ok answer) :
    number.IsWithin least greatest where
  notBelow bound hbound := by
    have htest := test_eq_false_of_reject hbelow (Value.isNull_of_number? hbound)
    rw [Value.lessThan, Value.precedes_of_number? rfl hbound] at htest
    exact Except.ok.inj htest
  notAbove bound hbound := by
    have htest := test_eq_false_of_reject habove (Value.isNull_of_number? hbound)
    rw [Value.greaterThan, Value.precedes_of_number? hbound rfl] at htest
    exact Except.ok.inj htest

/-- A limit that lets an instant past is absent, or a text of another instant. -/
theorem reject_dateLimit_iff {excludes : Instant → Bool} :
    reject reason limit (fun limit => do return excludes (← dateLimit limit)) = .ok () ↔
      limit.IsDateText ∧ ∀ text, limit = .text text →
        ∃ bound, Instant.ofText text = .ok bound ∧ excludes bound = false := by
  constructor
  · intro hkept
    have hlimit : limit.IsDateText := by
      obtain hnull | htest := reject_eq_ok_iff.mp hkept
      · exact .inl hnull
      · obtain ⟨bound, hbound, -⟩ := bind_eq_ok_iff.mp htest
        obtain ⟨text, htext, -⟩ := bind_eq_ok_iff.mp hbound
        exact .inr (Value.exists_toText_iff.mp ⟨text, htext⟩)
    exact ⟨hlimit, (reject_dateLimit_eq_ok_iff hlimit).mp hkept⟩
  · rintro ⟨hlimit, hkept⟩
    exact (reject_dateLimit_eq_ok_iff hlimit).mpr hkept

variable {instant : Instant}

theorem reject_before_iff :
    reject reason limit (fun limit => do
        return instant.microseconds < (← dateLimit limit).microseconds) = .ok () ↔
      limit.IsDateText ∧ ∀ text, limit = .text text →
        ∃ first, Instant.ofText text = .ok first ∧ first.microseconds ≤ instant.microseconds := by
  rw [reject_dateLimit_iff]
  simp only [decide_eq_false_iff_not, not_lt]

theorem reject_after_iff :
    reject reason limit (fun limit => do
        return (← dateLimit limit).microseconds < instant.microseconds) = .ok () ↔
      limit.IsDateText ∧ ∀ text, limit = .text text →
        ∃ last, Instant.ofText text = .ok last ∧ instant.microseconds ≤ last.microseconds := by
  rw [reject_dateLimit_iff]
  simp only [decide_eq_false_iff_not, not_lt]

end

/-! ## One kind of slot after another -/

variable {slot : Slot} {raw : String} {value : Value}

theorem admits_of_readString {minLength maxLength : Value} {change : Option CaseChange}
    {text : String} (htyped : (SlotKind.string minLength maxLength change).HasWholeLengths)
    (hconsistent : (SlotKind.string minLength maxLength change).IsConsistent)
    (hraw : isBlankText raw = false)
    (hread : readString minLength maxLength change raw = .ok text) :
    (SlotKind.string minLength maxLength change).Admits raw (.text text) :=
  ⟨text, rfl, keeps_of_readString htyped.1 htyped.2 hconsistent hraw hread⟩

theorem readNumber_eq_ok_iff {least greatest : Value} {number : Real64} :
    readNumber least greatest raw = .ok number ↔
      Numeral.real? (trimmed raw) = some number ∧ number.isFinite = true ∧
        reject (.below number.text) least (Value.real number).lessThan = .ok () ∧
        reject (.above number.text) greatest (Value.real number).greaterThan = .ok () := by
  rw [readNumber]
  cases Numeral.real? (trimmed raw) with
  | none => simp [invalid]
  | some found =>
      rw [Option.some.injEq]
      cases hfinite : found.isFinite with
      | false =>
          simp only [hfinite, Bool.false_eq_true, if_false]
          constructor
          · intro hread
            cases hread
          · rintro ⟨rfl, htrue, -⟩
            exact absurd (hfinite.symm.trans htrue) Bool.false_ne_true
      | true =>
          simp only [hfinite, if_true]
          constructor
          · intro hread
            obtain ⟨_, hbelow, hrest⟩ := bind_eq_ok_iff.mp hread
            obtain ⟨_, habove, hresult⟩ := bind_eq_ok_iff.mp hrest
            cases hresult
            exact ⟨rfl, hfinite, hbelow, habove⟩
          · rintro ⟨rfl, -, hbelow, habove⟩
            exact bind_eq_ok_iff.mpr ⟨(), hbelow, bind_eq_ok_iff.mpr ⟨(), habove, rfl⟩⟩

theorem admits_of_readNumber {least greatest : Value} {number : Real64}
    (hread : readNumber least greatest raw = .ok number) :
    (SlotKind.number least greatest).Admits raw (.real number) := by
  obtain ⟨hnumber, hfinite, hbelow, habove⟩ := readNumber_eq_ok_iff.mp hread
  exact ⟨number, rfl, hnumber, hfinite, isWithin_of_reject hbelow habove⟩

theorem admits_of_readDate {earliest latest : Value} {rendered : String}
    (hread : readDate earliest latest raw = .ok rendered) :
    (SlotKind.date earliest latest).Admits raw (.text rendered) := by
  obtain ⟨instant, hinstant, hbefore, hafter, rfl⟩ := readDate_eq_ok_iff.mp hread
  exact ⟨instant, rfl, hinstant, (reject_before_iff.mp hbefore).2, (reject_after_iff.mp hafter).2⟩

/-- What a slot makes of a text is a value of its kind within its limits. -/
theorem admits_of_coerce (htyped : slot.kind.HasWholeLengths)
    (hconsistent : slot.kind.IsConsistent) (hvalue : slot.coerce (.text raw) = .ok (some value)) :
    slot.kind.Admits raw value := by
  obtain ⟨hraw, hread⟩ := coerce_text_eq_some_iff.mp hvalue
  rw [read] at hread
  cases hkind : slot.kind with
  | string minLength maxLength change =>
      rw [hkind] at hread htyped hconsistent
      obtain ⟨text, htext, rfl⟩ := bind_pure_eq_ok_iff.mp hread
      exact admits_of_readString htyped hconsistent hraw htext
  | number least greatest =>
      rw [hkind] at hread
      obtain ⟨number, hnumber, rfl⟩ := bind_pure_eq_ok_iff.mp hread
      exact admits_of_readNumber hnumber
  | boolean =>
      rw [hkind] at hread
      obtain ⟨one, -, rfl⟩ := bind_pure_eq_ok_iff.mp hread
      exact ⟨one, rfl⟩
  | date earliest latest =>
      rw [hkind] at hread
      obtain ⟨rendered, hrendered, rfl⟩ := bind_pure_eq_ok_iff.mp hread
      exact admits_of_readDate hrendered

end Slot

end Phrasebook
