import Mathlib
import Phrasebook.Proofs.Calendar.Canonical
import Phrasebook.Proofs.Slot.Admitted

/-!
# Delivering what was delivered

A delivered text is read again as the same text, with four exceptions.  A greatest length may cut a
text behind a blank, the capital behind an apostrophe becomes a small letter, the milliseconds of a
date may come before an earliest date that is more precise, and a year before 1000 is written with
too few digits.
-/

namespace Phrasebook.Slot

variable {slot : Slot} {raw : String} {value : Value}

/-! ## Strings -/

section

variable {minLength maxLength : Value} {change : Option CaseChange}
  (hkind : slot.kind = .string minLength maxLength change)

include hkind

theorem coerce_string_eq_some_iff :
    slot.coerce (.text raw) = .ok (some value) ↔ isBlankText raw = false ∧
      ∃ text, readString minLength maxLength change raw = .ok text ∧ .text text = value := by
  rw [coerce_text_eq_some_iff, read, hkind]
  exact and_congr_right fun _ => bind_pure_eq_ok_iff

theorem coerce_string_again_iff (htyped : slot.kind.HasWholeLengths)
    (hconsistent : slot.kind.IsConsistent) {text : String}
    (htext : slot.coerce (.text raw) = .ok (some (.text text))) :
    slot.coerce (.text text) = .ok (some (.text text)) ↔
      Text.trim text.toList = text.toList ∧ ¬ Undoes change text.toList := by
  obtain ⟨hraw, found, hread, hfound⟩ := (coerce_string_eq_some_iff hkind).mp htext
  cases hfound
  rw [hkind] at htyped hconsistent
  have hagain := readString_again_iff htyped.1 htyped.2 hconsistent hraw hread
  have hkeeps := keeps_of_readString htyped.1 htyped.2 hconsistent hraw hread
  rw [coerce_string_eq_some_iff hkind, ← hagain]
  constructor
  · rintro ⟨-, found, hread, hfound⟩
    cases hfound
    exact hread
  · intro hread
    refine ⟨?_, text, hread, rfl⟩
    rw [← Bool.not_eq_true, ← trimmed_eq_empty_iff, trimmed, (hagain.mp hread).1]
    exact fun hempty => hkeeps.ne_nil (String.ofList_eq_empty_iff.mp hempty)

end

/-! ## Dates -/

section

variable {earliest latest : Value} (hkind : slot.kind = .date earliest latest)

include hkind

theorem coerce_date_eq_some_iff :
    slot.coerce (.text raw) = .ok (some value) ↔ isBlankText raw = false ∧
      ∃ rendered, readDate earliest latest raw = .ok rendered ∧ .text rendered = value := by
  rw [coerce_text_eq_some_iff, read, hkind]
  exact and_congr_right fun _ => bind_pure_eq_ok_iff

/-- An instant that was not after the latest date is not after it without its microseconds, so only
the earliest date can reject it now. -/
theorem coerce_date_again_iff {instant : Instant} (hinstant : Instant.ofText raw = .ok instant)
    (hyear : instant.HasFullYear)
    (hvalue : slot.coerce (.text raw) = .ok (some (.text instant.text))) :
    slot.coerce (.text instant.text) = .ok (some (.text instant.text)) ↔
      ∀ text, earliest = .text text →
        ∃ first, Instant.ofText text = .ok first ∧
          first.microseconds ≤ instant.cut.microseconds := by
  obtain ⟨-, rendered, hread, -⟩ := (coerce_date_eq_some_iff hkind).mp hvalue
  obtain ⟨found, hfound, hbefore, hafter, -⟩ := readDate_eq_ok_iff.mp hread
  cases hinstant.symm.trans hfound
  obtain ⟨hlast, hlater⟩ := reject_after_iff.mp hafter
  have hcut : Instant.ofText instant.text = .ok instant.cut := hyear.ofText_text
  rw [coerce_date_eq_some_iff hkind]
  constructor
  · rintro ⟨-, again, hagain, -⟩
    obtain ⟨found, hfound, hkept, -, -⟩ := readDate_eq_ok_iff.mp hagain
    cases hcut.symm.trans hfound
    exact (reject_before_iff.mp hkept).2
  · intro hkept
    refine ⟨hyear.isWritten.isBlankText_eq_false, instant.text, readDate_eq_ok_iff.mpr ?_, rfl⟩
    refine ⟨instant.cut, hcut, ?_, ?_, instant.text_cut.symm⟩
    · exact reject_before_iff.mpr ⟨(reject_before_iff.mp hbefore).1, hkept⟩
    · apply reject_after_iff.mpr
      refine ⟨hlast, fun text htext => ?_⟩
      obtain ⟨last, hbound, hle⟩ := hlater text htext
      exact ⟨last, hbound, instant.microseconds_cut_le.trans hle⟩

end

/-! ## Both kinds -/

/-- A slot of at most five characters. -/
def fiveCharacters : Slot where
  required := false
  description := .null
  fallback := .null
  kind := .string .null (.int 5) none

theorem isWellTyped_fiveCharacters : fiveCharacters.kind.IsWellTyped :=
  ⟨.inl rfl, .inr ⟨5, rfl⟩⟩

theorem isConsistent_fiveCharacters : fiveCharacters.kind.IsConsistent :=
  show checkLengths .null (.int 5) = .ok () by decide +kernel

end Phrasebook.Slot
