import Mathlib
import Phrasebook.Parameters
import Phrasebook.Proofs.Fault

/-!
# What coercing a text fails with

Held against a slot whose limits are of the declared kinds, a text is read as a value or rejected,
with two exceptions.  An instant may lie outside the years 1 to 9999, and the limit that a text
breaks may have too many digits to be shown in the reason.
-/

namespace Phrasebook

/-- Reading a text of a slot says that it is not one of its values. -/
@[simp]
def Fault.IsRejection : Fault → Prop
  | .invalid (.rejected _) => True
  | _ => False

theorem Fault.IsRejection.exists_eq {fault : Fault} (hfault : fault.IsRejection) :
    ∃ rejection, fault = .invalid (.rejected rejection) := by
  cases fault with
  | invalid cause =>
      cases cause with
      | rejected rejection => exact ⟨rejection, rfl⟩
      | _ => exact hfault.elim
  | _ => exact hfault.elim

/-- A computation returns a value or rejects a text. -/
abbrev Settles {α : Type} (result : Except Fault α) : Prop := FailsOnly Fault.IsRejection result

/-! ## Limits -/

namespace Value

/-- A limit of a number of characters: absent or a whole number. -/
def IsLength (limit : Value) : Prop :=
  limit.isNull = true ∨ ∃ count, limit.number? = some (.int count)

/-- A limit of a number: absent or a number. -/
def IsBound (limit : Value) : Prop :=
  limit.isNull = true ∨ ∃ number, limit.number? = some number

/-- A limit of a date: absent or a text in the international format. -/
def IsDateBound (limit : Value) : Prop :=
  limit.isNull = true ∨ ∃ text, limit = .text text ∧
    (IsoDate.read? (Text.trim text.toList)).isSome = true

theorem IsLength.isBound {limit : Value} (hlimit : limit.IsLength) : limit.IsBound :=
  hlimit.imp_right fun ⟨count, hcount⟩ => ⟨.int count, hcount⟩

theorem precedes_of_number? {left right : Value} {low high : Number}
    (hleft : left.number? = some low) (hright : right.number? = some high) (orSame : Bool) :
    left.precedes orSame right = .ok (if orSame then low.le high else low.lt high) := by
  cases left <;> cases right <;> simp_all [number?, precedes]

/-- A test that has an answer for a limit that is present, and for no other. -/
def IsDecidedBy (limit : Value) (test : Value → Except Fault Bool) : Prop :=
  (limit.isNull = true ∧ test limit = .error .unsuitable) ∨
    (limit.isNull = false ∧ ∃ answer, test limit = .ok answer)

theorem IsBound.isDecidedBy {limit : Value} (hlimit : limit.IsBound) (number : Number) :
    limit.IsDecidedBy (Value.number number).lessThan ∧
      limit.IsDecidedBy (Value.number number).greaterThan := by
  cases hpresent : limit.isNull with
  | true =>
      cases limit <;>
        simp_all [IsDecidedBy, isNull, lessThan, greaterThan, precedes, number?]
  | false =>
      obtain hnull | ⟨bound, hbound⟩ := hlimit
      · cases hnull.symm.trans hpresent
      · exact ⟨.inr ⟨hpresent, _, precedes_of_number? rfl hbound false⟩,
          .inr ⟨hpresent, _, precedes_of_number? hbound rfl false⟩⟩

end Value

namespace Slot

/-- A limit that is present fails with its test, or where the test succeeds. -/
theorem failsOnly_reject_iff {kind : Fault → Prop} {reason : String → Rejection} {limit : Value}
    {test : Value → Except Fault Bool} :
    FailsOnly kind (reject reason limit test) ↔ limit.isNull = true ∨
      FailsOnly kind (test limit) ∧ (test limit = .ok true → kind (.invalid
        (if limit.isWritable then .rejected (reason limit.written) else .unwritableWhole))) := by
  cases hnull : limit.isNull with
  | true => simp [reject, hnull]
  | false =>
      simp only [reject, hnull, Bool.false_eq_true, if_false, false_or, FailsOnly.bind_iff]
      refine and_congr_right fun _ => ?_
      rw [shown]
      cases limit.isWritable <;>
        simp [FailsOnly.bind_iff, Bool.forall_bool, pure, Except.pure, invalid]

theorem settles_reject_iff {reason : String → Rejection} {limit : Value}
    {test : Value → Except Fault Bool} :
    Settles (reject reason limit test) ↔ limit.isNull = true ∨
      Settles (test limit) ∧ (test limit = .ok true → limit.isWritable = true) := by
  refine failsOnly_reject_iff.trans ?_
  cases limit.isWritable <;> simp

theorem failsOnly_readBoolean {kind : Fault → Prop}
    (hrejected : ∀ rejection, kind (.invalid (.rejected rejection))) (raw : String) :
    FailsOnly kind (readBoolean raw) := by
  unfold readBoolean
  dsimp only
  split
  · exact .ok true
  split
  · exact .ok false
  · exact FailsOnly.invalid_iff.mpr (hrejected _)

theorem coerce_text (slot : Slot) (raw : String) :
    slot.coerce (.text raw) = slot.coerceText raw := rfl

theorem orMissing_eq_some_iff {result : Except Fault Value} {value : Value} :
    orMissing result = .ok (some value) ↔ result = .ok value := by
  unfold orMissing
  split <;> simp

/-- A slot makes a value of a text that is not blank and that it reads. -/
theorem coerce_text_eq_some_iff {slot : Slot} {raw : String} {value : Value} :
    slot.coerce (.text raw) = .ok (some value) ↔
      isBlankText raw = false ∧ slot.read raw = .ok value := by
  rw [coerce_text, coerceText]
  cases isBlankText raw with
  | true => simp
  | false => simpa using orMissing_eq_some_iff

theorem dateLimit_text (text : String) : dateLimit (.text text) = Instant.ofText text := rfl

theorem reject_eq_ok_iff {reason : String → Rejection} {limit : Value}
    {test : Value → Except Fault Bool} {answer : Unit} :
    reject reason limit test = .ok answer ↔ limit.isNull = true ∨ test limit = .ok false := by
  cases hnull : limit.isNull with
  | true => simp [reject, hnull]
  | false =>
      simp only [reject, hnull, Bool.false_eq_true, if_false, false_or, bind_eq_ok_iff]
      constructor
      · rintro ⟨excluded, hexcluded, hrest⟩
        cases excluded with
        | false => exact hexcluded
        | true =>
            simp only [if_true, bind_eq_ok_iff, invalid] at hrest
            obtain ⟨-, -, ⟨⟩⟩ := hrest
      · exact fun hexcluded => ⟨false, hexcluded, rfl⟩

end Slot

/-! ## Instants -/

/-- A moment that denotes an instant. -/
def Moment.IsInRange (moment : Moment) : Prop :=
  0 ≤ moment.microseconds ∧ moment.microseconds < Instant.limit

theorem Moment.toInstant_cases (moment : Moment) :
    (moment.IsInRange ∧ moment.toInstant = .ok ⟨moment.microseconds.toNat⟩) ∨
      (¬ moment.IsInRange ∧ moment.toInstant = .error .dateOutOfRange) := by
  by_cases hrange : moment.IsInRange
  · have hboth := hrange
    rw [IsInRange] at hboth
    exact .inl ⟨hrange, by simp [toInstant, hboth]⟩
  · have hnot := hrange
    rw [IsInRange] at hnot
    exact .inr ⟨hrange, by simpa [toInstant] using hnot⟩

namespace Instant

/-- The moment that a text denotes, in the international format or as people write dates. -/
def momentOf? (text : String) : Option Moment :=
  (IsoDate.read? (Text.trim text.toList)).or (WrittenDate.read? (Text.trim text.toList))

/-- A text in the international format, or without a number that is too long to be read. -/
def IsReadable (text : String) : Prop :=
  IsoDate.read? (Text.trim text.toList) = none →
    WrittenDate.overlong? 0 (Text.trim text.toList) = none

theorem ofText_eq {text : String} (hreadable : IsReadable text) :
    ofText text = (momentOf? text).elim (invalid (.rejected (.notDate text)))
      fun moment => moment.toInstant.mapError .overflow := by
  rw [ofText, momentOf?]
  cases hiso : IsoDate.read? (Text.trim text.toList) with
  | some moment => rfl
  | none =>
      rw [hreadable hiso]
      cases WrittenDate.read? (Text.trim text.toList) <;> rfl

end Instant

/-- The moment that a limit denotes. -/
def Value.moment? : Value → Option Moment
  | .text written => Instant.momentOf? written
  | _ => none

theorem Value.IsDateBound.dateLimit_eq {limit : Value} (hlimit : limit.IsDateBound)
    (hpresent : limit.isNull = false) :
    ∃ moment, limit.moment? = some moment ∧
      Slot.dateLimit limit = moment.toInstant.mapError .overflow := by
  obtain hnull | ⟨text, rfl, hiso⟩ := hlimit
  · exact absurd (hnull.symm.trans hpresent) nofun
  · obtain ⟨moment, hmoment⟩ := Option.isSome_iff_exists.mp hiso
    have hreadable : Instant.IsReadable text := by
      intro hnone
      exact absurd (hmoment.symm.trans hnone) nofun
    have hdenotes : Instant.momentOf? text = some moment := by
      rw [Instant.momentOf?, hmoment, Option.some_or]
    refine ⟨moment, hdenotes, ?_⟩
    calc Slot.dateLimit (.text text) = Instant.ofText text := rfl
      _ = moment.toInstant.mapError .overflow := by
        rw [Instant.ofText_eq hreadable, hdenotes, Option.elim_some]

/-! ## Texts that fail otherwise -/

/-- The limits are of the kinds that they are declared by. -/
def SlotKind.IsWellTyped : SlotKind → Prop
  | .string minLength maxLength _ => minLength.IsLength ∧ maxLength.IsLength
  | .number least greatest => least.IsBound ∧ greatest.IsBound
  | .boolean => True
  | .date earliest latest => earliest.IsDateBound ∧ latest.IsDateBound

/-- A text is neither read nor rejected: it breaks a limit that cannot be shown, or an instant that
has to be known is out of range. -/
def SlotKind.Escapes (raw : String) : SlotKind → Prop
  | .string minLength _ change =>
      minLength.isWritable = false ∧
        (Value.int (Slot.changed change (Text.trim raw.toList)).length).lessThan minLength =
          .ok true
  | .number least greatest => ∃ number,
      Numeral.real? (trimmed raw) = some number ∧ number.isFinite = true ∧
        (least.isWritable = false ∧ (Value.real number).lessThan least = .ok true ∨
          (Value.real number).lessThan least ≠ .ok true ∧
            greatest.isWritable = false ∧ (Value.real number).greaterThan greatest = .ok true)
  | .boolean => False
  | .date earliest latest => ∃ moment, Instant.momentOf? raw = some moment ∧
      (¬ moment.IsInRange ∨ (∃ first, earliest.moment? = some first ∧ ¬ first.IsInRange) ∨
        (∀ first, earliest.moment? = some first → first.microseconds ≤ moment.microseconds) ∧
          ∃ last, latest.moment? = some last ∧ ¬ last.IsInRange)

/-- The limits are well typed and can be shown, and they do not limit dates. -/
structure SlotKind.IsPlain (kind : SlotKind) : Prop where
  wellTyped : kind.IsWellTyped
  showable : ∀ limit ∈ kind.limits, limit.2.isWritable = true
  timeless : ∀ earliest latest, kind ≠ .date earliest latest

theorem SlotKind.isPlain_of_limits_eq_nil {kind : SlotKind} (hlimits : kind.limits = [])
    (hname : kind.name ≠ "date") : kind.IsPlain := by
  have hnull : ∀ {name : String} {limit : Value},
      (if limit.isNull then [] else [(name, limit)]) = [] → limit.isNull = true := by
    intro name limit hlimit
    split at hlimit
    · assumption
    · cases hlimit
  refine ⟨?_, by simp [hlimits], fun _ _ hdate => hname (by rw [hdate, name])⟩
  cases kind with
  | string minLength maxLength change =>
      rw [limits, List.append_eq_nil_iff, List.append_eq_nil_iff] at hlimits
      exact ⟨.inl (hnull hlimits.1.1), .inl (hnull hlimits.1.2)⟩
  | number least greatest =>
      rw [limits, List.append_eq_nil_iff] at hlimits
      exact ⟨.inl (hnull hlimits.1), .inl (hnull hlimits.2)⟩
  | boolean => trivial
  | date earliest latest => exact absurd rfl hname

theorem SlotKind.IsPlain.not_escapes {kind : SlotKind} (hplain : kind.IsPlain) (raw : String) :
    ¬ kind.Escapes raw := by
  have hshowable : ∀ {limit : Value}, limit.isWritable = false →
      ∀ name, (name, limit) ∈ kind.limits → False := by
    intro limit hlimit name hmem
    exact absurd ((hplain.showable _ hmem).symm.trans hlimit) nofun
  have hpresent : ∀ {limit : Value}, limit.isWritable = false → limit.isNull = false := by
    intro limit hlimit
    cases limit <;> simp_all [Value.isWritable, Value.isNull]
  cases kind with
  | string minLength maxLength change =>
      rintro ⟨hlimit, -⟩
      exact hshowable hlimit "minLength" (by simp [limits, hpresent hlimit])
  | number least greatest =>
      rintro ⟨number, -, -, ⟨hlimit, -⟩ | ⟨-, hlimit, -⟩⟩
      · exact hshowable hlimit "min" (by simp [limits, hpresent hlimit])
      · exact hshowable hlimit "max" (by simp [limits, hpresent hlimit])
  | boolean => exact id
  | date earliest latest => exact absurd rfl (hplain.timeless earliest latest)

namespace Slot

/-! ### Lengths and numbers -/

/-- Holding a text against a limit settles unless the text breaks it and it cannot be shown. -/
theorem settles_reject_decided_iff {limit : Value} {test : Value → Except Fault Bool}
    (hdecided : limit.IsDecidedBy test) {reason : String → Rejection} :
    Settles (reject reason limit test) ↔
      ¬ (limit.isWritable = false ∧ test limit = .ok true) := by
  rw [settles_reject_iff]
  obtain ⟨hnull, htest⟩ | ⟨hpresent, answer, htest⟩ := hdecided
  · simp [hnull, htest]
  · cases answer <;> cases limit.isWritable <;> simp [hpresent, htest]

theorem reject_decided_eq_ok_iff {limit : Value} {test : Value → Except Fault Bool}
    (hdecided : limit.IsDecidedBy test) {reason : String → Rejection} {answer : Unit} :
    reject reason limit test = .ok answer ↔ test limit ≠ .ok true := by
  rw [reject_eq_ok_iff]
  obtain ⟨hnull, htest⟩ | ⟨hpresent, answer, htest⟩ := hdecided
  · simp [hnull, htest]
  · cases answer <;> simp [hpresent, htest]

theorem exists_cutTo {maxLength : Value} (hmaxLength : maxLength.IsLength) (text : List Char) :
    ∃ cut, cutTo maxLength text = .ok cut := by
  obtain ⟨hnull, -⟩ | ⟨hpresent, above, habove⟩ :=
    (hmaxLength.isBound.isDecidedBy (.int text.length)).2
  · exact ⟨text, by rw [cutTo, if_pos hnull]⟩
  · obtain ⟨length, hlength⟩ : ∃ length, countOf maxLength = .ok length := by
      obtain hnull | ⟨count, hcount⟩ := hmaxLength
      · exact absurd (hnull.symm.trans hpresent) nofun
      · cases maxLength with
        | bool one => exact ⟨_, rfl⟩
        | number number =>
            cases hcount
            exact ⟨_, rfl⟩
        | _ => cases hcount
    simp only [cutTo, hpresent, Value.int, habove, hlength]
    cases above <;> exact ⟨_, rfl⟩

theorem settles_readString_iff {minLength maxLength : Value} (hminLength : minLength.IsLength)
    (hmaxLength : maxLength.IsLength) (change : Option CaseChange) (raw : String) :
    Settles (readString minLength maxLength change raw) ↔
      ¬ (SlotKind.string minLength maxLength change).Escapes raw := by
  have hcut : ∀ text, Settles (do return String.ofList (← cutTo maxLength text)) := by
    intro text
    obtain ⟨cut, heq⟩ := exists_cutTo hmaxLength text
    rw [heq]
    exact .ok _
  apply FailsOnly.bind_iff.trans
  apply (and_iff_left fun _ _ => hcut _).trans
  exact settles_reject_decided_iff (hminLength.isBound.isDecidedBy _).1

theorem settles_readNumber_iff {least greatest : Value} (hleast : least.IsBound)
    (hgreatest : greatest.IsBound) (raw : String) :
    Settles (readNumber least greatest raw) ↔ ¬ (SlotKind.number least greatest).Escapes raw := by
  rw [readNumber]
  cases hnumber : Numeral.real? (trimmed raw) with
  | none => simp [SlotKind.Escapes, hnumber]
  | some number =>
      cases hfinite : number.isFinite with
      | false => simp [SlotKind.Escapes, hnumber, hfinite]
      | true =>
          have hescapes : (SlotKind.number least greatest).Escapes raw ↔
              (least.isWritable = false ∧ (Value.real number).lessThan least = .ok true) ∨
                (Value.real number).lessThan least ≠ .ok true ∧ greatest.isWritable = false ∧
                  (Value.real number).greaterThan greatest = .ok true := by
            simp [SlotKind.Escapes, hnumber, hfinite]
          have hbelow := (hleast.isDecidedBy (.real number)).1
          have habove := (hgreatest.isDecidedBy (.real number)).2
          rw [hescapes, not_or]
          simp only [hfinite, if_true]
          apply FailsOnly.bind_iff.trans
          apply and_congr (settles_reject_decided_iff hbelow)
          rw [not_and]
          constructor
          · intro hrest hkept
            have hreject := hrest () ((reject_decided_eq_ok_iff hbelow).mpr hkept)
            exact (settles_reject_decided_iff habove).mp (FailsOnly.bind_iff.mp hreject).1
          · intro hgreatest answer hkept
            have hreject := hgreatest ((reject_decided_eq_ok_iff hbelow).mp hkept)
            exact .bind ((settles_reject_decided_iff habove).mpr hreject) fun _ _ => .ok _

/-! ### Dates -/

section

variable {limit : Value} (hlimit : limit.IsDateBound) {reason : String → Rejection}
  {excludes : Instant → Bool}

include hlimit

theorem settles_reject_date_iff :
    Settles (reject reason limit fun limit => do return excludes (← dateLimit limit)) ↔
      ∀ moment, limit.moment? = some moment → moment.IsInRange := by
  rw [settles_reject_iff]
  cases hpresent : limit.isNull with
  | true => cases limit <;> simp_all [Value.isNull, Value.moment?]
  | false =>
      obtain ⟨moment, hmoment, hdate⟩ := hlimit.dateLimit_eq hpresent
      have hwritable : limit.isWritable = true := by
        cases limit <;> simp_all [Value.moment?, Value.isWritable]
      rcases moment.toInstant_cases with ⟨hrange, heq⟩ | ⟨hrange, heq⟩ <;>
        simp [hdate, heq, hmoment, hrange, hwritable, Except.mapError, FailsOnly.bind_iff, pure,
          Except.pure]

theorem reject_date_eq_ok_iff {answer : Unit} :
    reject reason limit (fun limit => do return excludes (← dateLimit limit)) = .ok answer ↔
      ∀ moment, limit.moment? = some moment →
        moment.IsInRange ∧ excludes ⟨moment.microseconds.toNat⟩ = false := by
  rw [reject_eq_ok_iff]
  cases hpresent : limit.isNull with
  | true => cases limit <;> simp_all [Value.isNull, Value.moment?]
  | false =>
      obtain ⟨moment, hmoment, hdate⟩ := hlimit.dateLimit_eq hpresent
      rcases moment.toInstant_cases with ⟨hrange, heq⟩ | ⟨hrange, heq⟩ <;>
        simp [hdate, heq, hmoment, hrange, Except.mapError, bind_eq_ok_iff, pure, Except.pure]

end

/-- An instant is held against the earliest bound first, and against the latest if it keeps it. -/
theorem settles_limits_iff {earliest latest : Value} (hearliest : earliest.IsDateBound)
    (hlatest : latest.IsDateBound) (raw : String) {moment : Moment} (hrange : moment.IsInRange)
    (rendered : String) :
    Settles (do
      reject (.before raw) earliest fun limit => do
        return moment.microseconds.toNat < (← dateLimit limit).microseconds
      reject (.after raw) latest fun limit => do
        return (← dateLimit limit).microseconds < moment.microseconds.toNat
      return rendered) ↔
      (∀ first, earliest.moment? = some first → first.IsInRange) ∧
        ((∀ first, earliest.moment? = some first → first.microseconds ≤ moment.microseconds) →
          ∀ last, latest.moment? = some last → last.IsInRange) := by
  apply FailsOnly.bind_iff.trans
  rw [and_congr (settles_reject_date_iff hearliest) Iff.rfl]
  refine and_congr_right fun hfirst => ?_
  have hkept : reject (.before raw) earliest (fun limit => do
        return moment.microseconds.toNat < (← dateLimit limit).microseconds) = .ok () ↔
      ∀ first, earliest.moment? = some first → first.microseconds ≤ moment.microseconds := by
    rw [reject_date_eq_ok_iff hearliest]
    refine forall₂_congr fun first hmoment => ?_
    have hnonneg : 0 ≤ moment.microseconds := hrange.1
    simp only [hfirst first hmoment, true_and, decide_eq_false_iff_not, not_lt]
    omega
  have hafter : Settles (do
      reject (.after raw) latest fun limit => do
        return (← dateLimit limit).microseconds < moment.microseconds.toNat
      return rendered) ↔ ∀ last, latest.moment? = some last → last.IsInRange :=
    FailsOnly.bind_pure_iff.trans (settles_reject_date_iff hlatest)
  constructor
  · exact fun hrest hbefore => hafter.mp (hrest () (hkept.mpr hbefore))
  · exact fun hlast _ hbefore => hafter.mpr (hlast (hkept.mp hbefore))

theorem settles_readDate_iff {earliest latest : Value} (hearliest : earliest.IsDateBound)
    (hlatest : latest.IsDateBound) {raw : String} (hreadable : Instant.IsReadable raw) :
    Settles (readDate earliest latest raw) ↔ ¬ (SlotKind.date earliest latest).Escapes raw := by
  rw [readDate, Instant.ofText_eq hreadable]
  cases hmoment : Instant.momentOf? raw with
  | none => simp [SlotKind.Escapes, hmoment, FailsOnly.bind_iff, invalid]
  | some moment =>
      rcases moment.toInstant_cases with ⟨hrange, heq⟩ | ⟨hrange, heq⟩
      · have hlimits := settles_limits_iff hearliest hlatest raw hrange
        rw [Option.elim_some, heq]
        apply (hlimits _).trans
        simp only [SlotKind.Escapes, hmoment, Option.some.injEq, exists_eq_left', hrange]
        push Not
        exact ⟨fun h => ⟨trivial, h⟩, fun h => h.2⟩
      · simp [SlotKind.Escapes, hmoment, hrange, heq, Except.mapError, FailsOnly.bind_iff]

/-! ### All slots -/

theorem settles_read_iff {slot : Slot} (htyped : slot.kind.IsWellTyped) {raw : String}
    (hreadable : ∀ earliest latest, slot.kind = .date earliest latest → Instant.IsReadable raw) :
    Settles (slot.read raw) ↔ ¬ slot.kind.Escapes raw := by
  rw [read]
  cases hkind : slot.kind with
  | string minLength maxLength change =>
      rw [hkind] at htyped
      exact FailsOnly.bind_pure_iff.trans (settles_readString_iff htyped.1 htyped.2 change raw)
  | number least greatest =>
      rw [hkind] at htyped
      exact FailsOnly.bind_pure_iff.trans (settles_readNumber_iff htyped.1 htyped.2 raw)
  | boolean =>
      have hboolean : Settles (readBoolean raw) := failsOnly_readBoolean (fun _ => trivial) raw
      exact iff_of_true (FailsOnly.bind_pure_iff.mpr hboolean) id
  | date earliest latest =>
      rw [hkind] at htyped
      exact FailsOnly.bind_pure_iff.trans
        (settles_readDate_iff htyped.1 htyped.2 (hreadable _ _ hkind))

/-- A captured text that is neither left out nor delivered nor rejected. -/
def Escapes (slot : Slot) (raw : String) : Prop :=
  isBlankText raw = false ∧ slot.kind.Escapes raw

theorem exists_orMissing_iff {result : Except Fault Value} :
    (∃ value, orMissing result = .ok value) ↔ Settles result := by
  unfold orMissing
  split <;> simp_all

theorem exists_deliver_iff {slot : Slot} {captured : Value} :
    (∃ value, slot.deliver captured = .ok value) ↔ ∃ value, slot.coerce captured = .ok value := by
  rw [deliver, exists_bind_iff]
  refine exists_congr fun value => and_iff_left ?_
  cases value <;> exact ⟨_, rfl⟩

/-- Delivering a captured text fails exactly if it escapes. -/
theorem exists_deliver_text_iff {slot : Slot} (htyped : slot.kind.IsWellTyped) {raw : String}
    (hreadable : ∀ earliest latest, slot.kind = .date earliest latest → Instant.IsReadable raw) :
    (∃ value, slot.deliver (.text raw) = .ok value) ↔ ¬ slot.Escapes raw := by
  rw [exists_deliver_iff, coerce_text, coerceText, Escapes]
  cases isBlankText raw with
  | true => simp
  | false => simpa using exists_orMissing_iff.trans (settles_read_iff htyped hreadable)

theorem exists_deliver_null (slot : Slot) : ∃ value, slot.deliver .null = .ok value :=
  exists_deliver_iff.mpr ⟨none, rfl⟩

end Slot

end Phrasebook
