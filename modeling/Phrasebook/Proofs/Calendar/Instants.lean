import Mathlib
import Phrasebook.Proofs.Calendar.Extended
import Phrasebook.Proofs.Slot.Coercion

/-!
# Instants by their dates and times

An instant is the day and the time of day that it falls on, and the order of instants is that of
these.  A text in the extended format is read as the instant that it denotes, whatever offset it is
written with.
-/

namespace Phrasebook

/-! ## Times of day -/

namespace TimeOfDay

variable {time : TimeOfDay}

theorem isValid_iff : time.isValid = true ↔
    time.hour < 24 ∧ time.minute < 60 ∧ time.second < 60 ∧ time.microsecond < 1000000 := by
  simp only [isValid, Bool.and_eq_true, decide_eq_true_eq, and_assoc]

theorem microseconds_lt (hvalid : time.isValid = true) : time.microseconds < Instant.dayLength := by
  rw [isValid_iff] at hvalid
  rw [microseconds, Instant.dayLength]
  omega

theorem ofMicroseconds_microseconds (hvalid : time.isValid = true) :
    ofMicroseconds time.microseconds = time := by
  rw [isValid_iff] at hvalid
  rw [ofMicroseconds, microseconds]
  congr 1 <;> omega

theorem isValid_ofMicroseconds {count : Nat} (hcount : count < Instant.dayLength) :
    (ofMicroseconds count).isValid = true := by
  rw [Instant.dayLength] at hcount
  rw [isValid_iff]
  dsimp only [ofMicroseconds]
  omega

theorem microseconds_ofMicroseconds (count : Nat) :
    (ofMicroseconds count).microseconds = count := by
  dsimp only [ofMicroseconds, microseconds]
  omega

/-- The milliseconds of a day count hours, minutes, seconds and milliseconds. -/
theorem milliseconds_lt_iff {time other : TimeOfDay} (htime : time.isValid = true)
    (hother : other.isValid = true) :
    time.microseconds / 1000 < other.microseconds / 1000 ↔
      time.hour < other.hour ∨ time.hour = other.hour ∧
        (time.minute < other.minute ∨ time.minute = other.minute ∧
          (time.second < other.second ∨ time.second = other.second ∧
            time.microsecond / 1000 < other.microsecond / 1000)) := by
  rw [isValid_iff] at htime hother
  rw [microseconds, microseconds]
  omega

end TimeOfDay

/-! ## Days and times -/

namespace Instant

theorem dayLength_pos : 0 < dayLength := by decide

theorem isDay_date (instant : Instant) : instant.date.IsDay :=
  (Date.isDay_ofDayNumber _).1

theorem isValid_time (instant : Instant) : instant.time.isValid = true :=
  TimeOfDay.isValid_ofMicroseconds (Nat.mod_lt _ dayLength_pos)

theorem dayNumber_date (instant : Instant) :
    instant.date.dayNumber = instant.microseconds / dayLength :=
  (Date.isDay_ofDayNumber _).2

theorem microseconds_time (instant : Instant) :
    instant.time.microseconds = instant.microseconds % dayLength :=
  TimeOfDay.microseconds_ofMicroseconds _

/-- A day and a time of day are those of one instant. -/
theorem date_time_of_microseconds_eq {instant : Instant} {date : Date} {time : TimeOfDay}
    (hdate : date.IsDay) (htime : time.isValid = true)
    (heq : instant.microseconds = date.dayNumber * dayLength + time.microseconds) :
    instant.date = date ∧ instant.time = time := by
  have hlt := TimeOfDay.microseconds_lt htime
  constructor
  · rw [Instant.date, heq, Nat.mul_comm, Nat.mul_add_div dayLength_pos, Nat.div_eq_of_lt hlt,
      Nat.add_zero, hdate.ofDayNumber_dayNumber]
  · rw [Instant.time, heq, Nat.mul_add_mod_self_right, Nat.mod_eq_of_lt hlt,
      TimeOfDay.ofMicroseconds_microseconds htime]

/-- The years of the calendar end with the last instant. -/
theorem isValid_date_iff {instant : Instant} :
    instant.date.isValid = true ↔ instant.microseconds < limit := by
  have hday : instant.date.IsDay := instant.isDay_date
  rw [Date.isValid_iff, and_iff_right hday, limit, ← Nat.div_lt_iff_lt_mul dayLength_pos]
  exact Date.year_ofDayNumber_le_iff

/-- No text is read as an instant after the last one. -/
theorem lt_limit_of_ofText {text : String} {instant : Instant}
    (hinstant : ofText text = .ok instant) : instant.microseconds < limit := by
  have hmoment : ∀ moment : Moment, moment.toInstant.mapError .overflow =
      (.ok instant : Except Fault Instant) → instant.microseconds < limit := by
    intro moment heq
    obtain ⟨hrange, hdenotes⟩ | ⟨-, hout⟩ := moment.toInstant_cases
    · rw [hdenotes] at heq
      rw [← Except.ok.inj heq, ← Int.ofNat_lt, Int.toNat_of_nonneg hrange.1]
      exact hrange.2
    · rw [hout] at heq
      cases heq
  rw [ofText] at hinstant
  split at hinstant
  · exact hmoment _ hinstant
  · split at hinstant
    · cases hinstant
    · split at hinstant
      · exact hmoment _ hinstant
      · cases hinstant

end Instant

/-! ## Texts in the extended format -/

/-- A text in the extended format writes a moment of the calendar, which denotes an instant. -/
structure Moment.IsWritten (moment : Moment) (text : String) : Prop where
  writes : IsoDate.Writes text.toList moment
  date : moment.date.isValid = true
  time : moment.time.isValid = true
  range : moment.IsInRange

/-- The instant that a moment denotes; `moment.IsInRange` says that there is one. -/
def Moment.instant (moment : Moment) : Instant := ⟨moment.microseconds.toNat⟩

theorem Moment.IsInRange.microseconds_instant {moment : Moment} (hrange : moment.IsInRange) :
    (moment.instant.microseconds : Int) = moment.microseconds :=
  Int.toNat_of_nonneg hrange.1

theorem Moment.IsInRange.isValid_date {moment : Moment} (hrange : moment.IsInRange) :
    moment.instant.date.isValid = true := by
  rw [Instant.isValid_date_iff, ← Int.ofNat_lt, hrange.microseconds_instant]
  exact hrange.2

namespace Moment.IsWritten

variable {moment : Moment} {text : String} (hwritten : moment.IsWritten text)

include hwritten

theorem read?_eq : IsoDate.read? (Text.trim text.toList) = some moment := by
  rw [hwritten.writes.trim_eq]
  exact hwritten.writes.read?_eq hwritten.date hwritten.time

theorem momentOf?_eq : Instant.momentOf? text = some moment := by
  rw [Instant.momentOf?, hwritten.read?_eq, Option.some_or]

theorem ofText_eq : Instant.ofText text = .ok moment.instant := by
  have hreadable : Instant.IsReadable text := fun hnone =>
    absurd (hwritten.read?_eq.symm.trans hnone) nofun
  rw [Instant.ofText_eq hreadable, hwritten.momentOf?_eq, Option.elim_some]
  obtain ⟨-, heq⟩ | ⟨hout, -⟩ := moment.toInstant_cases
  · rw [heq]
    rfl
  · exact absurd hwritten.range hout

theorem isDateBound : (Value.text text).IsDateBound :=
  .inr ⟨text, rfl, by rw [hwritten.read?_eq]; rfl⟩

theorem isBlankText_eq_false : isBlankText text = false := by
  rw [isBlankText, List.all_eq_false]
  have hpresent : text.toList ≠ [] := by
    intro hempty
    have hnone : IsoDate.read? (Text.trim text.toList) = none := by
      rw [hempty]
      rfl
    exact absurd (hwritten.read?_eq.symm.trans hnone) nofun
  obtain ⟨c, rest, htext⟩ := List.exists_cons_of_ne_nil hpresent
  have hc : c ∈ text.toList := htext ▸ List.mem_cons_self
  exact ⟨c, hc, ne_true_of_eq_false (hwritten.writes.isBlank_eq_false hc)⟩

end Moment.IsWritten

end Phrasebook
