import Mathlib
import Phrasebook.Proofs.Number
import Phrasebook.Proofs.Real64.Round
import Phrasebook.Proofs.Slot.Breaks
import Phrasebook.Proofs.Slot.Faults
import Phrasebook.Proofs.Slot.Reread
import Phrasebook.Proofs.Text.Lowered
import Phrasebook.Proofs.Text.Words

/-!
# Which declared slots can be used

A slot is declared with limits that are looked at only when they are held against each other.  A
limit that stands alone, or that has an order but no use, is found to be of a wrong kind by the first
text that reaches it.
-/

namespace Phrasebook

/-- Faults other than those of a value that is not of the kind that was needed. -/
@[simp]
def Fault.IsFitting : Fault → Prop
  | .unsuitable | .lacking => False
  | _ => True

/-- A computation meets no value of a wrong kind. -/
abbrev Fits {α : Type} (result : Except Fault α) : Prop := FailsOnly Fault.IsFitting result

theorem Value.isNull_of_number? {value : Value} {number : Number}
    (hnumber : value.number? = some number) : value.isNull = false := by
  cases value <;> first | rfl | cases hnumber

/-- A limit of a date that can be read: absent or a text. -/
def Value.IsDateText (limit : Value) : Prop := limit.isNull = true ∨ limit.IsText

namespace SlotKind

/-- A text gets to a limit of a wrong kind: it is longer than a length that is no whole number, it is
a number and has a bound that is none, or it is an instant and has a bound that is no text.  A text
that the earliest instant excludes is not held against the latest one. -/
def Misfits (raw : String) : SlotKind → Prop
  | .string _ maxLength change => ∃ greatest : Real64, maxLength = .real greatest ∧
      (Number.real greatest).lt (.int (Slot.changed change (Text.trim raw.toList)).length) = true
  | .number least greatest =>
      (∃ number, Numeral.real? (trimmed raw) = some number ∧ number.isFinite = true) ∧
        ¬ (least.IsBound ∧ greatest.IsBound)
  | .boolean => False
  | .date earliest latest => ∃ instant, Instant.ofText raw = .ok instant ∧
      (¬ earliest.IsDateText ∨ ¬ latest.IsDateText ∧ ∀ text, earliest = .text text →
        ∃ first, Instant.ofText text = .ok first ∧ first.microseconds ≤ instant.microseconds)

/-- The limits are of kinds that every text can be held against.  A latest instant of a wrong kind
does no harm behind a text that is no instant and lets nothing past. -/
def IsUsable : SlotKind → Prop
  | .string _ maxLength _ =>
      ∀ greatest, maxLength = .real greatest → greatest = .nan ∨ greatest = .infinite false
  | .number least greatest => least.IsBound ∧ greatest.IsBound
  | .boolean => True
  | .date earliest latest => earliest.IsDateText ∧ (latest.IsDateText ∨
      ∃ text, earliest = .text text ∧ ∀ instant, Instant.ofText text ≠ .ok instant)

end SlotKind

namespace Slot

/-- A captured text gets to a limit of a wrong kind; a blank one gets nowhere. -/
def Misfits (slot : Slot) (raw : String) : Prop :=
  isBlankText raw = false ∧ slot.kind.Misfits raw

section

variable {limit : Value} {reason : String → Rejection} {test : Value → Except Fault Bool}

theorem fits_reject_iff :
    Fits (reject reason limit test) ↔ limit.isNull = true ∨ Fits (test limit) :=
  failsOnly_reject_iff.trans (or_congr_right (and_iff_left fun _ => trivial))

end

/-! ## Lengths -/

theorem isBound_of_passesLimit {least : Int} {limit : Value} (hpasses : PassesLimit least limit) :
    limit.IsBound :=
  hpasses.imp_right fun ⟨number, hnumber, _⟩ => ⟨number, hnumber⟩

theorem forbid_eq_ok_iff {cause : Invalid} {limit : Value} {test : Value → Except Fault Bool}
    {passed : Unit} :
    forbid cause limit test = .ok passed ↔ limit.isNull = true ∨ test limit = .ok false := by
  have hexists : (∃ passed, forbid cause limit test = .ok passed) ↔
      limit.isNull = true ∨ test limit = .ok false := exists_forbid_iff
  rw [← hexists]
  exact ⟨fun hpassed => ⟨passed, hpassed⟩, fun ⟨_, hpassed⟩ => hpassed⟩

/-- Lengths that were let through are numbers that are large enough, and not the other way round. -/
theorem lengths_of_checkLengths {minLength maxLength : Value}
    (hlengths : checkLengths minLength maxLength = .ok ()) :
    PassesLimit 0 minLength ∧ PassesLimit 1 maxLength ∧
      ∀ least greatest, minLength.number? = some least → maxLength.number? = some greatest →
        greatest.lt least = false := by
  rw [checkLengths] at hlengths
  obtain ⟨_, hmin, hrest⟩ := bind_eq_ok_iff.mp hlengths
  obtain ⟨_, hmax, hboth⟩ := bind_eq_ok_iff.mp hrest
  rw [forbid_eq_ok_iff, Value.lessThan_int_eq_ok_false_iff] at hmin hmax
  refine ⟨hmin, hmax, ?_⟩
  intro least greatest hleast hgreatest
  have hpresent : minLength.isNull = false ∧ maxLength.isNull = false :=
    ⟨Value.isNull_of_number? hleast, Value.isNull_of_number? hgreatest⟩
  rw [hpresent.1, Bool.not_false, if_pos rfl, forbid_eq_ok_iff, hpresent.2, Value.greaterThan,
    Value.precedes_of_number? hgreatest hleast] at hboth
  simpa using hboth

theorem fits_cutTo_real_iff (greatest : Real64) (text : List Char) :
    Fits (cutTo (.real greatest) text) ↔
      (Number.real greatest).lt (.int text.length) = false := by
  have habove : (Value.int text.length).greaterThan (.real greatest) =
      .ok ((Number.real greatest).lt (.int text.length)) := rfl
  simp only [cutTo, Value.real, Value.isNull, Bool.false_eq_true, if_false] at habove ⊢
  rw [habove]
  cases (Number.real greatest).lt (.int text.length) <;>
    simp [FailsOnly.bind_iff, countOf, pure, Except.pure]

theorem fits_cutTo_iff {maxLength : Value} (hbound : maxLength.IsBound) (text : List Char) :
    Fits (cutTo maxLength text) ↔ ¬ ∃ greatest : Real64, maxLength = .real greatest ∧
      (Number.real greatest).lt (.int text.length) = true := by
  by_cases hreal : ∃ greatest : Real64, maxLength = .real greatest
  · obtain ⟨greatest, rfl⟩ := hreal
    rw [fits_cutTo_real_iff]
    simp [Value.real]
  · have hlength : maxLength.IsLength := by
      refine hbound.imp_right fun ⟨number, hnumber⟩ => ?_
      cases number with
      | int count => exact ⟨count, hnumber⟩
      | real greatest =>
          refine absurd ⟨greatest, ?_⟩ hreal
          cases maxLength <;> simp_all [Value.number?, Value.real]
    refine iff_of_true (.of_exists (exists_cutTo hlength text)) ?_
    rintro ⟨greatest, hmax, -⟩
    exact hreal ⟨greatest, hmax⟩

theorem fits_readString_iff {minLength maxLength : Value} {change : Option CaseChange}
    (hlengths : checkLengths minLength maxLength = .ok ()) (raw : String) :
    Fits (readString minLength maxLength change raw) ↔
      ¬ (SlotKind.string minLength maxLength change).Misfits raw := by
  obtain ⟨hminPasses, hmaxPasses, hordered⟩ := lengths_of_checkLengths hlengths
  have hmin := isBound_of_passesLimit hminPasses
  have hmax := isBound_of_passesLimit hmaxPasses
  let text := changed change (Text.trim raw.toList)
  have hreject : Fits (reject .tooShort minLength (Value.int text.length).lessThan) := by
    rw [fits_reject_iff]
    refine hmin.imp_right fun ⟨least, hleast⟩ => ?_
    rw [Value.lessThan, Value.precedes_of_number? rfl hleast]
    exact .ok _
  have hcut : Fits (do return String.ofList (← cutTo maxLength text)) ↔
      ¬ (SlotKind.string minLength maxLength change).Misfits raw :=
    FailsOnly.bind_pure_iff.trans (fits_cutTo_iff hmax text)
  apply FailsOnly.bind_iff.trans
  rw [and_iff_right hreject]
  constructor
  · rintro hfits ⟨greatest, rfl, hlonger⟩
    -- A text that is longer than the greatest length is not shorter than the least one.
    have hkept : reject .tooShort minLength (Value.int text.length).lessThan = .ok () := by
      rw [reject_eq_ok_iff]
      refine hmin.imp_right fun ⟨least, hleast⟩ => ?_
      rw [Value.lessThan, Value.precedes_of_number? rfl hleast]
      have hlong : (Number.int text.length).lt least = false := by
        by_contra hshorter
        rw [Bool.not_eq_false] at hshorter
        exact absurd (hordered least (.real greatest) hleast rfl)
          (ne_true_of_eq_false · (Number.lt_trans hlonger hshorter))
      exact congrArg Except.ok hlong
    exact hcut.mp (hfits () hkept) ⟨greatest, rfl, hlonger⟩
  · exact fun hfits _ _ => hcut.mpr hfits

/-! ## Numbers -/

theorem fits_precedes_real_iff {limit : Value} (number : Real64) :
    (Fits ((Value.real number).lessThan limit) ↔ ∃ bound, limit.number? = some bound) ∧
      (Fits ((Value.real number).greaterThan limit) ↔ ∃ bound, limit.number? = some bound) := by
  cases limit <;>
    simp [Value.real, Value.lessThan, Value.greaterThan, Value.precedes, Value.number?]

/-- A least number that is one has been held against the greatest. -/
theorem isBound_greatest {least greatest : Value}
    (hconsistent : (SlotKind.number least greatest).IsConsistent) {number : Number}
    (hleast : least.number? = some number) : greatest.IsBound := by
  have hrange := hconsistent (Value.isNull_of_number? hleast)
  rw [forbid_eq_ok_iff] at hrange
  refine hrange.imp_right fun hkept => ?_
  cases greatest <;> cases least <;>
    simp_all [Value.greaterThan, Value.precedes, Value.number?]

theorem fits_readNumber_iff {least greatest : Value}
    (hconsistent : (SlotKind.number least greatest).IsConsistent) (raw : String) :
    Fits (readNumber least greatest raw) ↔ ¬ (SlotKind.number least greatest).Misfits raw := by
  rw [readNumber]
  cases hnumber : Numeral.real? (trimmed raw) with
  | none => simp [SlotKind.Misfits, hnumber]
  | some number =>
      cases hfinite : number.isFinite with
      | false => simp [SlotKind.Misfits, hnumber, hfinite]
      | true =>
          have hmisfits : ¬ (SlotKind.number least greatest).Misfits raw ↔
              least.IsBound ∧ greatest.IsBound := by
            simp [SlotKind.Misfits, hnumber, hfinite]
          rw [hmisfits]
          simp only [hfinite, if_true]
          have hbelow : Fits (reject (.below number.text) least (Value.real number).lessThan) ↔
              least.IsBound :=
            fits_reject_iff.trans (or_congr_right (fits_precedes_real_iff number).1)
          have habove : Fits (do
              reject (.above number.text) greatest (Value.real number).greaterThan
              return number) ↔ greatest.IsBound :=
            FailsOnly.bind_pure_iff.trans
              (fits_reject_iff.trans (or_congr_right (fits_precedes_real_iff number).2))
          apply FailsOnly.bind_iff.trans
          apply (and_congr hbelow Iff.rfl).trans
          refine and_congr_right fun hleast => ?_
          constructor
          · intro hfits
            rcases hleast with hnull | ⟨bound, hbound⟩
            · exact habove.mp (hfits () (reject_eq_ok_iff.mpr (.inl hnull)))
            · exact isBound_greatest hconsistent hbound
          · exact fun hgreatest _ _ => habove.mpr hgreatest

/-! ## Dates -/

theorem fits_ofText (text : String) : Fits (Instant.ofText text) :=
  Instant.failsOnly_ofText (fun _ => trivial) (fun _ => trivial) text

section

variable {limit : Value} {reason : String → Rejection} {excludes : Instant → Bool}

theorem fits_reject_dateLimit_iff :
    Fits (reject reason limit fun limit => do return excludes (← dateLimit limit)) ↔
      limit.IsDateText := by
  rw [fits_reject_iff]
  refine or_congr_right (FailsOnly.bind_pure_iff.trans ?_)
  cases limit with
  | text text =>
      rw [dateLimit_text]
      exact iff_of_true (fits_ofText text) ⟨text, rfl⟩
  | null | bool _ | number _ | list _ | mapping _ =>
      refine iff_of_false (fun hfits => hfits .lacking rfl) ?_
      rintro ⟨text, ⟨⟩⟩

/-- An instant is not rejected by a limit that is absent, or an instant that does not exclude it. -/
theorem reject_dateLimit_eq_ok_iff (hlimit : limit.IsDateText) :
    reject reason limit (fun limit => do return excludes (← dateLimit limit)) = .ok () ↔
      ∀ text, limit = .text text → ∃ bound, Instant.ofText text = .ok bound ∧
        excludes bound = false := by
  rw [reject_eq_ok_iff]
  cases hlimit with
  | inl hnull =>
      refine iff_of_true (.inl hnull) ?_
      rintro text rfl
      cases hnull
  | inr htext =>
      obtain ⟨text, rfl⟩ := htext
      constructor
      · rintro (⟨⟨⟩⟩ | hkept) _ ⟨⟩
        obtain ⟨bound, hbound, hexcludes⟩ := bind_eq_ok_iff.mp hkept
        rw [dateLimit_text] at hbound
        exact ⟨bound, hbound, Except.ok.inj hexcludes⟩
      · intro hkept
        obtain ⟨bound, hbound, hexcludes⟩ := hkept text rfl
        rw [← dateLimit_text] at hbound
        exact .inr (bind_eq_ok_iff.mpr ⟨bound, hbound, congrArg Except.ok hexcludes⟩)

end

theorem fits_readDate_iff (earliest latest : Value) (raw : String) :
    Fits (readDate earliest latest raw) ↔ ¬ (SlotKind.date earliest latest).Misfits raw := by
  apply FailsOnly.bind_iff.trans
  apply (and_iff_right (fits_ofText raw)).trans
  rw [SlotKind.Misfits, not_exists]
  refine forall_congr' fun instant => ?_
  rw [not_and]
  refine imp_congr_right fun _ => ?_
  have hkept (hearliest : earliest.IsDateText) :
      reject (.before raw) earliest (fun limit => do
        return instant.microseconds < (← dateLimit limit).microseconds) = .ok () ↔
      ∀ text, earliest = .text text →
        ∃ first, Instant.ofText text = .ok first ∧ first.microseconds ≤ instant.microseconds := by
    rw [reject_dateLimit_eq_ok_iff hearliest]
    simp only [decide_eq_false_iff_not, not_lt]
  have hafter : Fits (do
      reject (.after raw) latest fun limit => do
        return (← dateLimit limit).microseconds < instant.microseconds
      return instant.text) ↔ latest.IsDateText :=
    FailsOnly.bind_pure_iff.trans fits_reject_dateLimit_iff
  apply FailsOnly.bind_iff.trans
  apply (and_congr fits_reject_dateLimit_iff Iff.rfl).trans
  rw [not_or, not_not, not_and', not_not]
  refine and_congr_right fun hearliest => ?_
  rw [← hkept hearliest]
  exact ⟨fun hfits hpast => hafter.mp (hfits () hpast),
    fun hlatest _ hpast => hafter.mpr (hlatest hpast)⟩

/-! ## All slots -/

theorem fits_read_iff {slot : Slot} (hconsistent : slot.kind.IsConsistent) (raw : String) :
    Fits (slot.read raw) ↔ ¬ slot.kind.Misfits raw := by
  rw [read]
  cases hkind : slot.kind with
  | string minLength maxLength change =>
      rw [hkind] at hconsistent
      exact FailsOnly.bind_pure_iff.trans (fits_readString_iff hconsistent raw)
  | number least greatest =>
      rw [hkind] at hconsistent
      exact FailsOnly.bind_pure_iff.trans (fits_readNumber_iff hconsistent raw)
  | boolean =>
      have hboolean : Fits (readBoolean raw) := failsOnly_readBoolean (fun _ => trivial) raw
      exact iff_of_true (FailsOnly.bind_pure_iff.mpr hboolean) id
  | date earliest latest =>
      exact FailsOnly.bind_pure_iff.trans (fits_readDate_iff earliest latest raw)

theorem fits_orMissing_iff {result : Except Fault Value} :
    Fits (orMissing result) ↔ Fits result := by
  unfold orMissing
  split <;> simp_all

theorem fits_coerce_iff {slot : Slot} (hconsistent : slot.kind.IsConsistent) (raw : String) :
    Fits (slot.coerce (.text raw)) ↔ ¬ slot.Misfits raw := by
  rw [coerce_text, coerceText, Misfits]
  cases isBlankText raw with
  | true => simp
  | false => simpa using fits_orMissing_iff.trans (fits_read_iff hconsistent raw)

/-! ## Texts that get to a limit -/

/-- Zeros are no blanks and have no case. -/
theorem changed_zeros (change : Option CaseChange) (count : Nat) :
    changed change (Text.trim (List.replicate (count + 1) '0')) =
      List.replicate (count + 1) '0' := by
  have hzero : ∀ c ∈ List.replicate (count + 1) '0', c = '0' := fun _ => List.eq_of_mem_replicate
  have htrim : Text.trim (List.replicate (count + 1) '0') = List.replicate (count + 1) '0' := by
    refine Text.trim_eq_self_iff.mpr ⟨fun c hc => ?_, fun c hc => ?_⟩
    · rw [hzero c (List.mem_of_mem_head? hc)]
      decide
    · rw [hzero c (List.mem_of_mem_getLast? hc)]
      decide
  rw [htrim]
  cases change with
  | none => rfl
  | some change =>
      cases change with
      | lowercase =>
          refine Text.lowerAfter_eq_self (fun c hc => ?_) []
          rw [hzero c hc]
          decide
      | uppercase =>
          refine (List.flatMap_congr fun c hc => ?_).trans (List.flatMap_singleton' _)
          rw [hzero c hc]
          rfl
      | capitalize =>
          have hrest : Text.lowerAfter ['0'] (List.replicate count '0') =
              List.replicate count '0' := by
            refine Text.lowerAfter_eq_self (fun c hc => ?_) _
            rw [List.eq_of_mem_replicate hc]
            decide
          rw [List.replicate_succ, changed, CaseChange.apply, Text.capitalize, hrest]
          rfl

theorem lt_int_eq_false {greatest : Real64}
    (hgreatest : greatest = .nan ∨ greatest = .infinite false) (count : Int) :
    (Number.real greatest).lt (.int count) = false := by
  rcases hgreatest with rfl | rfl <;> rfl

/-- A number of the 64-bit format is below some count unless it is undefined or above all. -/
theorem exists_lt_count {greatest : Real64}
    (hgreatest : ¬ (greatest = .nan ∨ greatest = .infinite false)) :
    ∃ count : Nat, (Number.real greatest).lt (.int (count + 1 : Nat)) = true := by
  cases greatest with
  | nan => exact absurd (.inl rfl) hgreatest
  | infinite negative =>
      cases negative with
      | false => exact absurd (.inr rfl) hgreatest
      | true => exact ⟨0, rfl⟩
  | finite negative steps =>
      have hone : (1 : Int) ≤ Real64.one := by
        obtain ⟨power, hpower⟩ := Real64.exists_one_eq_pow
        rw [hpower]
        exact_mod_cast Nat.one_le_two_pow
      have hsigned : Real64.signed negative steps ≤ steps := by
        rw [Real64.signed]
        split <;> omega
      refine ⟨steps, decide_eq_true ?_⟩
      calc Real64.signed negative steps ≤ steps := hsigned
        _ < ((steps + 1 : Nat) : Int) := by omega
        _ ≤ ((steps + 1 : Nat) : Int) * Real64.one := le_mul_of_one_le_right (by omega) hone

theorem isBlankText_of_ofText {text : String} {instant : Instant}
    (hinstant : Instant.ofText text = .ok instant) : isBlankText text = false := by
  by_contra hblank
  have htrim : Text.trim text.toList = [] :=
    Text.trim_eq_nil_iff.mpr (isBlankText_iff.mp (Bool.not_eq_false _ ▸ hblank))
  have hiso : IsoDate.read? [] = none := rfl
  have hwritten : WrittenDate.read? [] = none := by decide
  simp only [Instant.ofText, htrim, hiso, hwritten, WrittenDate.overlong?] at hinstant
  cases hinstant

theorem exists_misfits_string_iff (minLength maxLength : Value) (change : Option CaseChange) :
    (∃ raw, isBlankText raw = false ∧ (SlotKind.string minLength maxLength change).Misfits raw) ↔
      ¬ (SlotKind.string minLength maxLength change).IsUsable := by
  constructor
  · rintro ⟨raw, -, greatest, hmax, hlonger⟩ husable
    exact absurd hlonger (ne_true_of_eq_false (lt_int_eq_false (husable greatest hmax) _))
  · intro hunusable
    simp only [SlotKind.IsUsable, not_forall] at hunusable
    obtain ⟨greatest, hmax, hgreatest⟩ := hunusable
    obtain ⟨count, hcount⟩ := exists_lt_count hgreatest
    refine ⟨String.ofList (List.replicate (count + 1) '0'), ?_, greatest, hmax, ?_⟩
    · rw [isBlankText, String.toList_ofList, List.replicate_succ, List.all_cons]
      rfl
    · rw [String.toList_ofList, changed_zeros, List.length_replicate]
      exact hcount

theorem exists_misfits_number_iff (least greatest : Value) :
    (∃ raw, isBlankText raw = false ∧ (SlotKind.number least greatest).Misfits raw) ↔
      ¬ (SlotKind.number least greatest).IsUsable := by
  have hzero : Numeral.real? (trimmed "0") = some .zero := by decide
  exact ⟨fun ⟨_, _, _, hbounds⟩ => hbounds,
    fun hbounds => ⟨"0", by decide, ⟨.zero, hzero, rfl⟩, hbounds⟩⟩

/-- The earliest instant lets itself past, so it is a text that gets to the latest one. -/
theorem exists_misfits_date_iff (earliest latest : Value) :
    (∃ raw, isBlankText raw = false ∧ (SlotKind.date earliest latest).Misfits raw) ↔
      ¬ (SlotKind.date earliest latest).IsUsable := by
  have hinstant : Instant.ofText "2000-01-01" = .ok ⟨63082281600000000⟩ := by decide
  constructor
  · rintro ⟨raw, -, instant, -, hearliest | ⟨hlatest, hpast⟩⟩ ⟨hfirst, hlast⟩
    · exact hearliest hfirst
    · rcases hlast with hlast | ⟨text, rfl, hnone⟩
      · exact hlatest hlast
      · obtain ⟨first, hfirst, -⟩ := hpast text rfl
        exact hnone first hfirst
  · intro hunusable
    by_cases hearliest : earliest.IsDateText
    · rw [SlotKind.IsUsable, and_iff_right hearliest, not_or] at hunusable
      obtain ⟨hlatest, hpast⟩ := hunusable
      rcases hearliest with hnull | ⟨text, rfl⟩
      · refine ⟨"2000-01-01", by decide, _, hinstant, .inr ⟨hlatest, ?_⟩⟩
        rintro text rfl
        cases hnull
      · obtain ⟨instant, hfirst⟩ : ∃ instant, Instant.ofText text = .ok instant := by
          by_contra hnone
          exact hpast ⟨text, rfl, not_exists.mp hnone⟩
        refine ⟨text, isBlankText_of_ofText hfirst, instant, hfirst, .inr ⟨hlatest, ?_⟩⟩
        rintro _ ⟨⟩
        exact ⟨instant, hfirst, le_rfl⟩
    · exact ⟨"2000-01-01", by decide, _, hinstant, .inl hearliest⟩

theorem exists_misfits_iff (slot : Slot) : (∃ raw, slot.Misfits raw) ↔ ¬ slot.kind.IsUsable := by
  simp only [Misfits]
  cases slot.kind with
  | string minLength maxLength change => exact exists_misfits_string_iff minLength maxLength change
  | number least greatest => exact exists_misfits_number_iff least greatest
  | boolean => exact ⟨fun ⟨_, _, hmisfits⟩ => hmisfits.elim, fun hunusable => hunusable.elim trivial⟩
  | date earliest latest => exact exists_misfits_date_iff earliest latest

/-! ## Slots that are let through -/

/-- A number that is declared with a text for its least value. -/
def misbounded : Value := .record [("type", .text "number"), ("min", .text "5")]

def misboundedSlot : Slot where
  required := false
  description := .null
  fallback := .null
  kind := .number (.text "5") .null

theorem ofValue_misbounded : ofValue misbounded = .ok misboundedSlot := by decide

end Slot

end Phrasebook
