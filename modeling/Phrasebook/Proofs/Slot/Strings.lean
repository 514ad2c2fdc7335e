import Mathlib
import Phrasebook.Proofs.Number
import Phrasebook.Proofs.Slot.Usable
import Phrasebook.Proofs.Text.Cased

/-!
# Texts that string slots deliver

A string slot trims a text, changes its case, holds it against the least length and cuts it to the
greatest.  The least length is never above the greatest, so that a cut text still has it.
-/

namespace Phrasebook

/-! ## Lengths -/

/-- The count of characters that a limit states, none if it is absent. -/
def Value.count? (limit : Value) : Option Nat :=
  match limit.number? with
  | some (.int count) => some count.toNat
  | _ => none

theorem Value.count?_of_isNull {limit : Value} (hnull : limit.isNull = true) :
    limit.count? = none := by
  cases limit with
  | null => rfl
  | _ => cases hnull

theorem Value.count?_eq_some_iff {limit : Value} (hlimit : limit.IsLength) {length : Nat} :
    limit.count? = some length ↔
      ∃ count : Int, limit.number? = some (.int count) ∧ count.toNat = length := by
  obtain hnull | ⟨count, hcount⟩ := hlimit
  · rw [count?_of_isNull hnull]
    refine iff_of_false nofun ?_
    rintro ⟨count, hcount, -⟩
    exact absurd (hnull.symm.trans (isNull_of_number? hcount)) nofun
  · rw [count?, hcount]
    simp

namespace Slot

variable {limit minLength maxLength : Value}

theorem reject_tooShort_eq_ok_iff (hlimit : limit.IsLength) (length : Nat) {answer : Unit} :
    reject .tooShort limit (Value.int length).lessThan = .ok answer ↔
      ∀ least, limit.count? = some least → least ≤ length := by
  rw [reject_eq_ok_iff]
  obtain hnull | ⟨count, hcount⟩ := hlimit
  · rw [Value.count?_of_isNull hnull]
    exact iff_of_true (.inl hnull) nofun
  · have htest : (Value.int length).lessThan limit = .ok (decide ((length : Int) < count)) := by
      rw [Value.lessThan, Value.precedes_of_number? rfl hcount, ← Number.int_lt_int]
      rfl
    rw [Value.isNull_of_number? hcount, htest, Value.count?, hcount]
    simp

theorem countOf_eq {count : Int} (hcount : limit.number? = some (.int count)) :
    countOf limit = .ok count.toNat := by
  cases limit with
  | bool one =>
      cases hcount
      cases one <;> rfl
  | number number =>
      cases hcount
      rfl
  | _ => cases hcount

/-- A text is cut after so many characters as its greatest length has. -/
theorem cutTo_eq (hlimit : limit.IsLength) (text : List Char) :
    cutTo limit text = .ok (limit.count?.elim text text.take) := by
  obtain hnull | ⟨count, hcount⟩ := hlimit
  · rw [cutTo, if_pos hnull, Value.count?_of_isNull hnull]
    rfl
  · have htest : (Value.int text.length).greaterThan limit =
        .ok (decide (count < (text.length : Int))) := by
      rw [Value.greaterThan, Value.precedes_of_number? hcount rfl, ← Number.int_lt_int]
      rfl
    have hpresent : ¬ limit.isNull = true := by
      rw [Value.isNull_of_number? hcount]
      exact Bool.false_ne_true
    rw [cutTo, if_neg hpresent, htest, countOf_eq hcount, Value.count?, hcount, Option.elim_some]
    by_cases hlong : count < text.length
    · simp only [hlong, decide_true]
      rfl
    · rw [List.take_of_length_le (by omega)]
      simp only [hlong, decide_false]
      rfl

/-- Lengths that were let through are in order, and the greatest leaves at least one character. -/
theorem counts_of_checkLengths (hmin : minLength.IsLength) (hmax : maxLength.IsLength)
    (hlengths : checkLengths minLength maxLength = .ok ()) {greatest : Nat}
    (hgreatest : maxLength.count? = some greatest) :
    1 ≤ greatest ∧ ∀ least, minLength.count? = some least → least ≤ greatest := by
  obtain ⟨-, hlarge, hordered⟩ := lengths_of_checkLengths hlengths
  obtain ⟨most, hmost, rfl⟩ := (Value.count?_eq_some_iff hmax).mp hgreatest
  have hone : 1 ≤ most := by
    obtain hnull | ⟨number, hnumber, hkept⟩ := hlarge
    · exact absurd (hnull.symm.trans (Value.isNull_of_number? hmost)) nofun
    · rw [hmost, Option.some.injEq] at hnumber
      rw [← hnumber, Number.int_lt_int, decide_eq_false_iff_not] at hkept
      exact not_lt.mp hkept
  refine ⟨by omega, fun least hleast => ?_⟩
  obtain ⟨fewest, hfewest, rfl⟩ := (Value.count?_eq_some_iff hmin).mp hleast
  have hkept := hordered _ _ hfewest hmost
  rw [Number.int_lt_int, decide_eq_false_iff_not, not_lt] at hkept
  omega

/-! ## Delivered texts -/

theorem readString_eq_ok_iff (hmin : minLength.IsLength) (hmax : maxLength.IsLength)
    {change : Option CaseChange} {raw text : String} :
    readString minLength maxLength change raw = .ok text ↔
      (∀ least, minLength.count? = some least →
        least ≤ (changed change (Text.trim raw.toList)).length) ∧
      text.toList = maxLength.count?.elim (changed change (Text.trim raw.toList))
        (changed change (Text.trim raw.toList)).take := by
  rw [readString, bind_eq_ok_iff, cutTo_eq hmax]
  constructor
  · rintro ⟨_, hkept, hcut⟩
    refine ⟨(reject_tooShort_eq_ok_iff hmin _).mp hkept, ?_⟩
    rw [← Except.ok.inj hcut, String.toList_ofList]
  · rintro ⟨hkept, hcut⟩
    refine ⟨(), (reject_tooShort_eq_ok_iff hmin _).mpr hkept, ?_⟩
    rw [← String.ofList_toList (s := text), hcut]
    rfl

theorem expands_changed (change : Option CaseChange) (text : List Char) :
    Text.Expands text (changed change text) := by
  cases change with
  | none => exact .refl text
  | some change =>
      cases change with
      | lowercase => exact Text.expands_lowerAfter [] text
      | uppercase => exact Text.expands_upper text
      | capitalize => exact Text.expands_capitalize text

/-- A delivered text keeps both lengths and is not empty. -/
structure Keeps (minLength maxLength : Value) (text : List Char) : Prop where
  ne_nil : text ≠ []
  least : ∀ least, minLength.count? = some least → least ≤ text.length
  greatest : ∀ greatest, maxLength.count? = some greatest → text.length ≤ greatest

section

variable {change : Option CaseChange} {raw text : String} (hmin : minLength.IsLength)
  (hmax : maxLength.IsLength) (hlengths : checkLengths minLength maxLength = .ok ())
  (hraw : isBlankText raw = false)
  (hread : readString minLength maxLength change raw = .ok text)

include hmin hmax hread

theorem prefix_of_readString : text.toList <+: changed change (Text.trim raw.toList) := by
  rw [((readString_eq_ok_iff hmin hmax).mp hread).2]
  cases maxLength.count? with
  | none => exact List.prefix_refl _
  | some greatest => exact List.take_prefix _ _

include hlengths hraw

theorem keeps_of_readString : Keeps minLength maxLength text.toList := by
  obtain ⟨hkept, hcut⟩ := (readString_eq_ok_iff hmin hmax).mp hread
  have hpresent : changed change (Text.trim raw.toList) ≠ [] :=
    (expands_changed change _).ne_nil (isBlankText_eq_false_iff.mp hraw)
  cases hcount : maxLength.count? with
  | none =>
      rw [hcount, Option.elim_none] at hcut
      rw [hcut]
      exact ⟨hpresent, hkept, fun _ hgreatest => absurd (hcount.symm.trans hgreatest) nofun⟩
  | some greatest =>
      obtain ⟨hone, hordered⟩ := counts_of_checkLengths hmin hmax hlengths hcount
      rw [hcount, Option.elim_some] at hcut
      have hlength : text.toList.length =
          min greatest (changed change (Text.trim raw.toList)).length := by
        rw [hcut, List.length_take]
      refine ⟨?_, fun least hleast => ?_, fun _ hgreatest => ?_⟩
      · rw [hcut, ne_eq, List.take_eq_nil_iff]
        exact not_or.mpr ⟨Nat.one_le_iff_ne_zero.mp hone, hpresent⟩
      · rw [hlength]
        exact le_min (hordered least hleast) (hkept least hleast)
      · rw [← Option.some.inj (hcount.symm.trans hgreatest), hlength]
        exact min_le_left _ _

end

/-! ## Reading a delivered text again -/

theorem elim_take_eq_self {text : List Char} {count : Option Nat}
    (hshort : ∀ greatest, count = some greatest → text.length ≤ greatest) :
    count.elim text text.take = text := by
  cases count with
  | none => rfl
  | some greatest => exact List.take_of_length_le (hshort greatest rfl)

/-- The change of case would undo itself: the capital behind an apostrophe becomes a small
letter. -/
def Undoes (change : Option CaseChange) (text : List Char) : Prop :=
  change = some .capitalize ∧ ['ʼ', 'N'] <+: text

/-- Without its blanks, what a changed text begins with keeps its length when it is changed again,
and changes only where the change undoes itself. -/
theorem changed_trim_of_prefix {change : Option CaseChange} {text start : List Char}
    (htext : ∀ c ∈ text.head?, Text.isBlank c = false) (hstart : start <+: changed change text) :
    (changed change (Text.trim start)).length = (Text.trim start).length ∧
      (changed change (Text.trim start) = Text.trim start ↔
        ¬ Undoes change (Text.trim start)) := by
  have hmem : ∀ c ∈ Text.trim start, c ∈ changed change text := fun c hc =>
    hstart.subset ((Text.trim_infix start).subset hc)
  have hsame : changed change (Text.trim start) = Text.trim start → change ≠ some .capitalize →
      (changed change (Text.trim start)).length = (Text.trim start).length ∧
        (changed change (Text.trim start) = Text.trim start ↔
          ¬ Undoes change (Text.trim start)) :=
    fun heq hchange => ⟨congrArg List.length heq, iff_of_true heq fun hundoes => hchange hundoes.1⟩
  cases change with
  | none => exact hsame rfl nofun
  | some change =>
      cases change with
      | lowercase =>
          exact hsame (Text.lowerAfter_eq_self
            (fun c hc => Text.lowerChar_of_mem_lower (hmem c hc)) []) nofun
      | uppercase =>
          exact hsame (Text.upper_eq_self
            fun c hc => Text.upperExpansion_of_mem_upper (hmem c hc)) nofun
      | capitalize =>
          have hhead : ∀ c ∈ start.head?, Text.isBlank c = false := by
            obtain ⟨rest, heq⟩ := hstart
            intro c hc
            refine (Text.expands_capitalize text).isBlank_head? htext c ?_
            rw [← show start ++ rest = Text.capitalize text from heq]
            exact List.mem_head?_append_of_mem_head? hc
          have hprefix : Text.trim start <+: Text.capitalize text :=
            (Text.trim_prefix hhead).trans hstart
          have hundoes : Undoes (some .capitalize) (Text.trim start) ↔
              ['ʼ', 'N'] <+: Text.trim start := and_iff_right rfl
          rw [hundoes]
          exact Text.capitalize_of_prefix hprefix

/-- A delivered text is delivered again just as it is if it has no outer blanks, which cutting may
leave, and its change of case does not undo itself. -/
theorem readString_again_iff {change : Option CaseChange} {raw text : String}
    (hmin : minLength.IsLength) (hmax : maxLength.IsLength)
    (hlengths : checkLengths minLength maxLength = .ok ()) (hraw : isBlankText raw = false)
    (hread : readString minLength maxLength change raw = .ok text) :
    readString minLength maxLength change text = .ok text ↔
      Text.trim text.toList = text.toList ∧ ¬ Undoes change text.toList := by
  have hkeeps := keeps_of_readString hmin hmax hlengths hraw hread
  obtain ⟨hlength, hchange⟩ := changed_trim_of_prefix (Text.head?_trim raw.toList)
    (prefix_of_readString hmin hmax hread)
  have hshort : ∀ greatest, maxLength.count? = some greatest →
      (changed change (Text.trim text.toList)).length ≤ greatest := fun greatest hgreatest =>
    hlength.le.trans ((Text.trim_infix _).length_le.trans (hkeeps.greatest greatest hgreatest))
  rw [readString_eq_ok_iff hmin hmax, elim_take_eq_self hshort]
  constructor
  · rintro ⟨-, hagain⟩
    have htrim : Text.trim text.toList = text.toList := by
      apply (Text.trim_infix text.toList).eq_of_length_le
      rw [← hlength, ← hagain]
    rw [htrim] at hchange hagain
    exact ⟨htrim, hchange.mp hagain.symm⟩
  · rintro ⟨htrim, hundoes⟩
    rw [htrim] at hchange ⊢
    rw [hchange.mpr hundoes]
    exact ⟨hkeeps.least, rfl⟩

end Slot

end Phrasebook
