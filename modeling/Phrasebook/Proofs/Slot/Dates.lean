import Mathlib
import Phrasebook.Proofs.Calendar.Instants

/-!
# Dates with offsets

A date slot holds the instant that a text denotes against those that its bounds denote.  How each of
the three is written, and with which offset, makes no difference.
-/

namespace Phrasebook

/-- A bound is absent or written in the extended format. -/
def Value.IsWrittenBound (limit : Value) : Prop :=
  limit = .null ∨ ∃ text moment, limit = .text text ∧ Moment.IsWritten moment text

/-- Neither bound excludes the moment; an absent one excludes none. -/
def Moment.KeepsBounds (moment : Moment) (earliest latest : Value) : Prop :=
  (∀ first, earliest.moment? = some first → first.microseconds ≤ moment.microseconds) ∧
    ∀ last, latest.moment? = some last → moment.microseconds ≤ last.microseconds

theorem Value.IsWrittenBound.isDateBound {limit : Value} (hlimit : limit.IsWrittenBound) :
    limit.IsDateBound := by
  obtain rfl | ⟨text, moment, rfl, hwritten⟩ := hlimit
  · exact .inl rfl
  · exact hwritten.isDateBound

theorem Value.IsWrittenBound.isInRange {limit : Value} (hlimit : limit.IsWrittenBound)
    {moment : Moment} (hmoment : limit.moment? = some moment) : moment.IsInRange := by
  obtain rfl | ⟨text, written, rfl, hwritten⟩ := hlimit
  · cases hmoment
  · rw [moment?, hwritten.momentOf?_eq, Option.some.injEq] at hmoment
    exact hmoment ▸ hwritten.range

namespace Slot

/-- A text is read as the canonical text of its instant if neither bound excludes it. -/
theorem readDate_eq_ok_iff {earliest latest : Value} {raw rendered : String} :
    readDate earliest latest raw = .ok rendered ↔
      ∃ instant, Instant.ofText raw = .ok instant ∧
        reject (.before raw) earliest (fun limit => do
          return instant.microseconds < (← dateLimit limit).microseconds) = .ok () ∧
        reject (.after raw) latest (fun limit => do
          return (← dateLimit limit).microseconds < instant.microseconds) = .ok () ∧
        rendered = instant.text := by
  rw [readDate, bind_eq_ok_iff]
  refine exists_congr fun instant => and_congr_right fun _ => ?_
  constructor
  · intro hread
    obtain ⟨_, hbefore, hrest⟩ := bind_eq_ok_iff.mp hread
    obtain ⟨_, hafter, hresult⟩ := bind_eq_ok_iff.mp hrest
    exact ⟨hbefore, hafter, (Except.ok.inj hresult).symm⟩
  · rintro ⟨hbefore, hafter, rfl⟩
    exact bind_eq_ok_iff.mpr ⟨(), hbefore, bind_eq_ok_iff.mpr ⟨(), hafter, rfl⟩⟩

/-! ## One instant, several texts -/

/-- Rejections with different reasons are the same to a slot. -/
theorem orMissing_reject_bind (reason other : String → Rejection) (limit : Value)
    (test : Value → Except Fault Bool) {rest others : Unit → Except Fault Value}
    (hrest : orMissing (rest ()) = orMissing (others ())) :
    orMissing (reject reason limit test >>= rest) =
      orMissing (reject other limit test >>= others) := by
  rw [reject, reject]
  cases limit.isNull with
  | true => exact hrest
  | false =>
      cases test limit with
      | error fault => rfl
      | ok excluded =>
          cases excluded with
          | false => exact hrest
          | true =>
              cases hshown : shown limit with
              | error fault => rfl
              | ok written => rfl

section

variable {text other : String} {instant : Instant} (htext : Instant.ofText text = .ok instant)
  (hother : Instant.ofText other = .ok instant) (earliest latest : Value)

include htext hother

/-- A rejection names the text, so only what is read is the same for all texts of an instant. -/
theorem readDate_eq_ok_congr (rendered : String) :
    readDate earliest latest text = .ok rendered ↔
      readDate earliest latest other = .ok rendered := by
  simp only [readDate_eq_ok_iff, htext, hother, reject_eq_ok_iff]

theorem orMissing_readDate_congr :
    orMissing (do return .text (← readDate earliest latest text)) =
      orMissing (do return .text (← readDate earliest latest other)) := by
  simp only [readDate, htext, hother, bind_assoc]
  exact orMissing_reject_bind _ _ _ _ (orMissing_reject_bind _ _ _ _ rfl)

end

/-! ## Bounds -/

variable {moment : Moment} {text : String} {earliest latest : Value}

theorem reject_before_eq_ok_iff (hrange : moment.IsInRange) (hearliest : earliest.IsWrittenBound)
    (raw : String) {answer : Unit} :
    reject (.before raw) earliest (fun limit => do
        return moment.instant.microseconds < (← dateLimit limit).microseconds) = .ok answer ↔
      ∀ first, earliest.moment? = some first → first.microseconds ≤ moment.microseconds := by
  rw [reject_date_eq_ok_iff hearliest.isDateBound]
  refine forall₂_congr fun first hfirst => ?_
  have hinstant := hrange.microseconds_instant
  rw [and_iff_right (hearliest.isInRange hfirst), decide_eq_false_iff_not]
  dsimp only
  omega

theorem reject_after_eq_ok_iff (hrange : moment.IsInRange) (hlatest : latest.IsWrittenBound)
    (raw : String) {answer : Unit} :
    reject (.after raw) latest (fun limit => do
        return (← dateLimit limit).microseconds < moment.instant.microseconds) = .ok answer ↔
      ∀ last, latest.moment? = some last → moment.microseconds ≤ last.microseconds := by
  rw [reject_date_eq_ok_iff hlatest.isDateBound]
  refine forall₂_congr fun last hlast => ?_
  have hinstant := hrange.microseconds_instant
  have hnonneg : 0 ≤ last.microseconds := (hlatest.isInRange hlast).1
  rw [and_iff_right (hlatest.isInRange hlast), decide_eq_false_iff_not]
  dsimp only
  omega

theorem readDate_eq_ok_iff_keepsBounds (hwritten : moment.IsWritten text)
    (hearliest : earliest.IsWrittenBound) (hlatest : latest.IsWrittenBound) (rendered : String) :
    readDate earliest latest text = .ok rendered ↔
      moment.KeepsBounds earliest latest ∧ rendered = moment.instant.text := by
  rw [readDate_eq_ok_iff, Moment.KeepsBounds,
    ← reject_before_eq_ok_iff hwritten.range hearliest text,
    ← reject_after_eq_ok_iff hwritten.range hlatest text, and_assoc]
  constructor
  · rintro ⟨instant, hinstant, hkept⟩
    cases hwritten.ofText_eq.symm.trans hinstant
    exact hkept
  · exact fun hkept => ⟨moment.instant, hwritten.ofText_eq, hkept⟩

/-- Held against bounds that are instants, a date is rejected if it is not delivered. -/
theorem settles_readDate_written (hwritten : moment.IsWritten text)
    (hearliest : earliest.IsWrittenBound) (hlatest : latest.IsWrittenBound) :
    Settles (readDate earliest latest text) := by
  have hreadable : Instant.IsReadable text := fun hnone =>
    absurd (hwritten.read?_eq.symm.trans hnone) nofun
  rw [settles_readDate_iff hearliest.isDateBound hlatest.isDateBound hreadable]
  rintro ⟨found, hfound, hescapes⟩
  rw [hwritten.momentOf?_eq, Option.some.injEq] at hfound
  subst hfound
  obtain hout | ⟨first, hfirst, hout⟩ | ⟨-, last, hlast, hout⟩ := hescapes
  · exact hout hwritten.range
  · exact hout (hearliest.isInRange hfirst)
  · exact hout (hlatest.isInRange hlast)

/-- A date with an offset is the instant that it denotes, on the calendar of universal time.  All
texts of an instant are one to every slot, and bounds are compared with it as instants. -/
theorem readDate_written {moment : Moment} {text : String} (hwritten : moment.IsWritten text) :
    (Instant.ofText text = .ok moment.instant ∧
      (moment.instant.microseconds : Int) = (moment.date.dayNumber * Instant.dayLength : Nat) +
        moment.time.microseconds - moment.offset ∧
      moment.instant.date.isValid = true ∧ moment.instant.time.isValid = true ∧
      moment.instant.date.dayNumber * Instant.dayLength + moment.instant.time.microseconds =
        moment.instant.microseconds) ∧
    (∀ (other : Moment) (otherText : String), other.IsWritten otherText →
      other.microseconds = moment.microseconds → ∀ earliest latest : Value,
        (∀ rendered, readDate earliest latest text = .ok rendered ↔
          readDate earliest latest otherText = .ok rendered) ∧
        ∀ slot : Slot, slot.kind = .date earliest latest →
          slot.coerce (.text text) = slot.coerce (.text otherText)) ∧
    ∀ earliest latest : Value, earliest.IsWrittenBound → latest.IsWrittenBound →
      (∀ rendered, readDate earliest latest text = .ok rendered ↔
        moment.KeepsBounds earliest latest ∧ rendered = moment.instant.text) ∧
      (¬ moment.KeepsBounds earliest latest →
        ∃ rejection, readDate earliest latest text = invalid (.rejected rejection)) := by
  refine ⟨⟨hwritten.ofText_eq, ?_, hwritten.range.isValid_date, Instant.isValid_time _, ?_⟩,
    fun other otherText hother hsame earliest latest => ?_,
    fun earliest latest hearliest hlatest => ⟨?_, fun hout => ?_⟩⟩
  · rw [hwritten.range.microseconds_instant, Moment.microseconds, Nat.cast_add]
  · rw [Instant.dayNumber_date, Instant.microseconds_time, Nat.div_add_mod']
  · have hinstant : Instant.ofText otherText = .ok moment.instant := by
      rw [hother.ofText_eq, Moment.instant, hsame, ← Moment.instant]
    refine ⟨readDate_eq_ok_congr hwritten.ofText_eq hinstant earliest latest, ?_⟩
    intro slot hkind
    rw [coerce_text, coerce_text, coerceText, coerceText, hwritten.isBlankText_eq_false,
      hother.isBlankText_eq_false, read, read, hkind]
    exact orMissing_readDate_congr hwritten.ofText_eq hinstant earliest latest
  · exact readDate_eq_ok_iff_keepsBounds hwritten hearliest hlatest
  · have hread := readDate_eq_ok_iff_keepsBounds hwritten hearliest hlatest
    have hsettles := settles_readDate_written hwritten hearliest hlatest
    cases hresult : readDate earliest latest text with
    | ok rendered => exact absurd ((hread rendered).mp hresult).1 hout
    | error fault =>
        obtain ⟨rejection, rfl⟩ := (hsettles fault hresult).exists_eq
        exact ⟨rejection, rfl⟩

theorem isWritten_march :
    Moment.IsWritten ⟨⟨2024, 3, 1⟩, ⟨0, 30, 0, 0⟩, 60 * 60000000⟩ "2024-03-01T00:30:00+01:00" where
  writes := .moment ⟨2024, 3, 1⟩ (.seconds 0 30 0) (.ahead (by decide : 60 < 1440))
  date := by decide
  time := by decide
  range := ⟨by decide, by decide⟩

theorem isWritten_february :
    Moment.IsWritten ⟨⟨2024, 2, 29⟩, ⟨18, 30, 0, 0⟩, -300 * 60000000⟩ "2024-02-29T18:30-05:00" where
  writes := .moment ⟨2024, 2, 29⟩ (.minutes 18 30) (.behind (by decide : 300 < 1440))
  date := by decide
  time := by decide
  range := ⟨by decide, by decide⟩

/-- An hour ahead of universal time the first of March begins on the leap day before it. -/
theorem readDate_written_march :
    Moment.IsWritten ⟨⟨2024, 3, 1⟩, ⟨0, 30, 0, 0⟩, 60 * 60000000⟩ "2024-03-01T00:30:00+01:00" ∧
      readDate (.text "2024-02-29T18:30-05:00") .null "2024-03-01T00:30:00+01:00" =
        .ok "2024-02-29T23:30:00.000Z" := by
  obtain ⟨-, -, hbounds⟩ := readDate_written isWritten_march
  have hearliest : (Value.text "2024-02-29T18:30-05:00").IsWrittenBound :=
    .inr ⟨_, _, rfl, isWritten_february⟩
  refine ⟨isWritten_march, ((hbounds _ _ hearliest (.inl rfl)).1 _).mpr ⟨⟨?_, nofun⟩, ?_⟩⟩
  · intro first hfirst
    rw [Value.moment?, isWritten_february.momentOf?_eq, Option.some.injEq] at hfirst
    subst hfirst
    decide
  · decide

end Slot

end Phrasebook
