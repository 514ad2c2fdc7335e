import Mathlib
import Phrasebook.Proofs.Calendar.Date
import Phrasebook.Proofs.Calendar.Digits
import Phrasebook.Proofs.Text.Letters
import Phrasebook.Proofs.Text.Words

/-!
# Dates in the extended format

The extended format writes a date with hyphens and a time with colons, and an offset from universal
time in hours and minutes.  Every text of that format is read as the moment that it writes.
-/

namespace Phrasebook.IsoDate

def dateText (date : Date) : List Char :=
  lastDigits 4 date.year ++ '-' :: lastDigits 2 date.month ++ '-' :: lastDigits 2 date.day

def clockText (hour minute : Nat) : List Char := lastDigits 2 hour ++ ':' :: lastDigits 2 minute

/-- A time of day: to the minute, to the second, or with a fraction of at most six digits. -/
inductive WritesTime : List Char → TimeOfDay → Prop
  | minutes (hour minute : Nat) : WritesTime (clockText hour minute) ⟨hour, minute, 0, 0⟩
  | seconds (hour minute second : Nat) :
      WritesTime (clockText hour minute ++ ':' :: lastDigits 2 second) ⟨hour, minute, second, 0⟩
  | fraction (hour minute second : Nat) {mark : Char} (hmark : mark = '.' ∨ mark = ',')
      {width value : Nat} (hwidth : width < 6) (hvalue : value < 10 ^ (width + 1)) :
      WritesTime
        (clockText hour minute ++ ':' :: lastDigits 2 second ++
          mark :: lastDigits (width + 1) value)
        ⟨hour, minute, second, value * 10 ^ (5 - width)⟩

/-- Minutes ahead of universal time, fewer than those of a day; none if nothing is written. -/
inductive WritesOffset : List Char → Int → Prop
  | absent : WritesOffset [] 0
  | universal : WritesOffset ['Z'] 0
  | ahead {minutes : Nat} (hday : minutes < 1440) :
      WritesOffset ('+' :: clockText (minutes / 60) (minutes % 60)) minutes
  | behind {minutes : Nat} (hday : minutes < 1440) :
      WritesOffset ('-' :: clockText (minutes / 60) (minutes % 60)) (-minutes)

/-- A date alone is the start of the day in universal time. -/
inductive Writes : List Char → Moment → Prop
  | day (date : Date) : Writes (dateText date) ⟨date, .midnight, 0⟩
  | moment (date : Date) {clock zone : List Char} {time : TimeOfDay} {minutes : Int}
      (hclock : WritesTime clock time) (hzone : WritesOffset zone minutes) :
      Writes (dateText date ++ 'T' :: clock ++ zone) ⟨date, time, minutes * 60000000⟩

/-- Every time of day can be written with its microseconds, and every offset with its sign. -/
theorem exists_writes (date : Date) {time : TimeOfDay} (htime : time.isValid = true)
    {minutes : Int} (hminutes : minutes.natAbs < 1440) :
    ∃ text, Writes text ⟨date, time, minutes * 60000000⟩ := by
  have hmicrosecond : time.microsecond < 10 ^ (5 + 1) := by
    simp only [TimeOfDay.isValid, Bool.and_eq_true, decide_eq_true_eq] at htime
    exact htime.2
  have hclock := WritesTime.fraction time.hour time.minute time.second (.inl rfl) (by decide)
    hmicrosecond
  have hoffset : ∃ zone, WritesOffset zone minutes := by
    obtain hahead | hbehind := minutes.natAbs_eq
    · exact hahead ▸ ⟨_, .ahead hminutes⟩
    · exact hbehind ▸ ⟨_, .behind hminutes⟩
  obtain ⟨zone, hzone⟩ := hoffset
  rw [Nat.sub_self, pow_zero, Nat.mul_one] at hclock
  exact ⟨_, .moment date hclock hzone⟩

/-! ## Clocks -/

section

variable {value : Nat} (hvalue : value < 100) (left : Nat) {more : List Char}

include hvalue

theorem fixedDigits_two (rest : List Char) :
    fixedDigits 2 (lastDigits 2 value ++ rest) = some (value, rest) := by
  rw [fixedDigits_lastDigits, Nat.mod_eq_of_lt (show value < 10 ^ 2 from hvalue)]

theorem readFields_colon (colons : Option Bool) (hcolons : colons ≠ some false)
    (hmore : more ≠ []) :
    readFields (left + 1) colons (lastDigits 2 value ++ ':' :: more) =
      (readFields left (some true) more).map fun read => (value :: read.1, read.2) := by
  have hseparated : colons.getD (':' == ':') = true := by
    cases colons with
    | none => rfl
    | some separated => cases separated <;> simp_all
  rw [readFields, fixedDigits_two hvalue]
  cases more with
  | nil => exact absurd rfl hmore
  | cons c more =>
      simp only [hseparated]
      rfl

theorem readFields_last (colons : Option Bool) :
    readFields (left + 1) colons (lastDigits 2 value) = some ([value], .done false) := by
  rw [readFields, ← List.append_nil (lastDigits 2 value), fixedDigits_two hvalue]

theorem readFields_mark {mark : Char} (hmark : mark = '.' ∨ mark = ',') (hmore : more ≠ []) :
    readFields (left + 1) (some true) (lastDigits 2 value ++ mark :: more) =
      some ([value], .fraction more) := by
  rw [readFields, fixedDigits_two hvalue]
  cases more with
  | nil => exact absurd rfl hmore
  | cons c more => rcases hmark with rfl | rfl <;> rfl

end

theorem lastDigits_ne_nil (width value : Nat) : lastDigits (width + 1) value ≠ [] :=
  List.cons_ne_nil _ _

theorem readFraction_lastDigits {width value : Nat} (hwidth : width < 6)
    (hvalue : value < 10 ^ (width + 1)) :
    readFraction (lastDigits (width + 1) value) = some (value * 10 ^ (5 - width), false) := by
  have hcount : min 6 (width + 1) = width + 1 := min_eq_right hwidth
  rw [readFraction, length_lastDigits, hcount, ← List.append_nil (lastDigits (width + 1) value),
    fixedDigits_lastDigits, Nat.mod_eq_of_lt hvalue]
  simp

theorem WritesTime.readClock_eq {text : List Char} {time : TimeOfDay}
    (hwrites : WritesTime text time) (hvalid : time.isValid = true) :
    readClock text = some (time, false) := by
  simp only [TimeOfDay.isValid, Bool.and_eq_true, decide_eq_true_eq] at hvalid
  obtain ⟨hhour, hminute, hsecond⟩ : time.hour < 100 ∧ time.minute < 100 ∧ time.second < 100 := by
    omega
  cases hwrites with
  | minutes hour minute =>
      have hfields : readFields 3 none (clockText hour minute) =
          some ([hour, minute], .done false) := by
        rw [clockText, readFields_colon hhour 2 none nofun (lastDigits_ne_nil 1 minute),
          readFields_last hminute]
        rfl
      rw [readClock, hfields]
      rfl
  | seconds hour minute second =>
      have hfields : readFields 3 none (clockText hour minute ++ ':' :: lastDigits 2 second) =
          some ([hour, minute, second], .done false) := by
        rw [clockText, List.append_assoc, List.cons_append,
          readFields_colon hhour 2 none nofun (by simp),
          readFields_colon hminute 1 (some true) nofun (lastDigits_ne_nil 1 second),
          readFields_last hsecond]
        rfl
      rw [readClock, hfields]
      rfl
  | @fraction hour minute second mark hmark width value hwidth hvalue =>
      have hfields : readFields 3 none
          (clockText hour minute ++ ':' :: lastDigits 2 second ++
            mark :: lastDigits (width + 1) value) =
          some ([hour, minute, second], .fraction (lastDigits (width + 1) value)) := by
        rw [clockText, List.append_assoc, List.append_assoc, List.cons_append, List.cons_append,
          readFields_colon hhour 2 none nofun (by simp),
          readFields_colon hminute 1 (some true) nofun (by simp),
          readFields_mark hsecond 0 hmark (lastDigits_ne_nil width value)]
        rfl
      rw [readClock, hfields]
      simp [readFraction_lastDigits hwidth hvalue]

/-! ## Offsets -/

theorem readClock_clockText {hour minute : Nat} (hhour : hour < 24) (hminute : minute < 60) :
    readClock (clockText hour minute) = some (⟨hour, minute, 0, 0⟩, false) :=
  (WritesTime.minutes hour minute).readClock_eq (by simp [TimeOfDay.isValid, hhour, hminute])

/-- A whole number of minutes is an offset if it is less than a day. -/
theorem offsetOf_minutes (negative : Bool) {minutes : Nat} (hday : minutes < 1440) :
    offsetOf negative ⟨minutes / 60, minutes % 60, 0, 0⟩ =
      some ((if negative then -minutes else minutes : Int) * 60000000) := by
  have hcount : TimeOfDay.microseconds ⟨minutes / 60, minutes % 60, 0, 0⟩ = minutes * 60000000 := by
    rw [TimeOfDay.microseconds]
    dsimp only
    omega
  rw [offsetOf, hcount]
  generalize hmicroseconds : minutes * 60000000 = microseconds
  by_cases hzero : minutes = 0
  · subst hzero
    rw [if_pos (by omega)]
    cases negative <;> rfl
  · rw [if_neg (by omega), if_neg (by rw [Instant.dayLength]; omega)]
    congr 1
    cases negative
    · rw [if_neg Bool.false_ne_true, if_neg Bool.false_ne_true]
      omega
    · rw [if_pos rfl, if_pos rfl]
      omega

/-- Behind its sign an offset is read as a clock.  Stated for any text, since a goal that names the
clock makes the kernel count its microseconds. -/
theorem readOffset_cons {sign : Char} (hsign : sign ≠ 'Z') (rest : List Char) :
    readOffset (sign :: rest) = (readClock rest).bind fun read =>
      if read.2 then none else offsetOf (sign == '-') read.1 := by
  rw [readOffset]
  · rfl
  · rintro rfl
    exact hsign rfl

theorem readOffset_clockText {sign : Char} (hsign : sign ≠ 'Z') {minutes : Nat}
    (hday : minutes < 1440) :
    readOffset (sign :: clockText (minutes / 60) (minutes % 60)) =
      some ((if sign == '-' then -minutes else minutes : Int) * 60000000) := by
  have hclock : readClock (clockText (minutes / 60) (minutes % 60)) =
      some (⟨minutes / 60, minutes % 60, 0, 0⟩, false) :=
    readClock_clockText (by omega) (Nat.mod_lt _ (by decide))
  rw [readOffset_cons hsign, hclock, Option.bind_some, ← offsetOf_minutes _ hday]
  simp only [Bool.false_eq_true, if_false]

theorem WritesOffset.readOffset_eq {text : List Char} {minutes : Int}
    (hwrites : WritesOffset text minutes) (hpresent : text ≠ []) :
    readOffset text = some (minutes * 60000000) := by
  cases hwrites with
  | absent => exact absurd rfl hpresent
  | universal => rfl
  | ahead hday => exact readOffset_clockText (by decide) hday
  | behind hday => exact readOffset_clockText (by decide) hday

/-! ## Times -/

theorem isOffsetMark_of_isDigit {c : Char} (hc : c.isDigit = true) : isOffsetMark c = false := by
  rw [← Bool.not_eq_true, isOffsetMark, Bool.or_eq_true, Bool.or_eq_true, beq_iff_eq, beq_iff_eq,
    beq_iff_eq]
  rintro ((rfl | rfl) | rfl) <;> exact absurd hc (by decide)

theorem WritesOffset.isOffsetMark_of_head? {text : List Char} {minutes : Int}
    (hwrites : WritesOffset text minutes) {c : Char} (hc : text.head? = some c) :
    isOffsetMark c = true := by
  cases hwrites <;> cases hc <;> rfl

/-- The characters of a time of day. -/
theorem WritesTime.mem {text : List Char} {time : TimeOfDay} (hwrites : WritesTime text time)
    {c : Char} (hc : c ∈ text) : c.isDigit = true ∨ c = ':' ∨ c = '.' ∨ c = ',' := by
  cases hwrites <;> simp only [clockText, List.mem_append, List.mem_cons] at hc <;>
    grind [isDigit_of_mem_lastDigits]

theorem WritesTime.isOffsetMark_eq_false {text : List Char} {time : TimeOfDay}
    (hwrites : WritesTime text time) {c : Char} (hc : c ∈ text) : isOffsetMark c = false := by
  obtain hdigit | rfl | rfl | rfl := hwrites.mem hc
  · exact isOffsetMark_of_isDigit hdigit
  all_goals rfl

/-- The text of a time up to its offset is the time of day. -/
theorem readTime_append {clock zone : List Char} {time : TimeOfDay} {minutes : Int}
    (hclock : WritesTime clock time) (hvalid : time.isValid = true)
    (hzone : WritesOffset zone minutes) :
    ∃ offset, readTime (clock ++ zone) = some (time, offset) ∧
      offset.getD 0 = minutes * 60000000 := by
  have hmarks : ∀ c ∈ clock, (!isOffsetMark c) = true := fun c hc => by
    rw [hclock.isOffsetMark_eq_false hc]
    rfl
  have hstart : zone.takeWhile (fun c => !isOffsetMark c) = [] ∧
      zone.dropWhile (fun c => !isOffsetMark c) = zone := by
    cases zone with
    | nil => exact ⟨rfl, rfl⟩
    | cons c rest =>
        have hmark : isOffsetMark c = true := hzone.isOffsetMark_of_head? rfl
        exact ⟨by simp [hmark], by simp [hmark]⟩
  have htake : (clock ++ zone).takeWhile (fun c => !isOffsetMark c) = clock := by
    rw [List.takeWhile_append_of_pos hmarks, hstart.1, List.append_nil]
  have hdrop : (clock ++ zone).dropWhile (fun c => !isOffsetMark c) = zone := by
    rw [List.dropWhile_append_of_pos hmarks, hstart.2]
  rw [readTime]
  simp only [htake, hdrop, hclock.readClock_eq hvalid, Option.bind_eq_bind, Option.bind_some]
  by_cases hempty : zone = []
  · subst hempty
    cases hzone
    exact ⟨none, rfl, rfl⟩
  · refine ⟨some (minutes * 60000000), ?_, rfl⟩
    rw [if_neg (by simpa using hempty), hzone.readOffset_eq hempty]
    rfl

/-! ## Dates -/

theorem readMonthDate_lastDigits (year : Nat) {month day : Nat} (hmonth : month < 100)
    (hday : day < 100) :
    readMonthDate year true (lastDigits 2 month ++ '-' :: lastDigits 2 day) =
      some ⟨year, month, day⟩ := by
  have hlast := fixedDigits_two hday []
  rw [List.append_nil] at hlast
  rw [readMonthDate, fixedDigits_two hmonth]
  simp only [Option.bind_eq_bind, Option.bind_some, afterHyphen, if_true, hlast]
  rfl

theorem lastDigits_append_ne {c : Char} (hc : c.isDigit = false) (width value : Nat)
    (rest others : List Char) : lastDigits (width + 1) value ++ rest ≠ c :: others := by
  intro heq
  have hfirst : c ∈ lastDigits (width + 1) value := by
    rw [lastDigits, List.cons_append, List.cons.injEq] at heq
    exact heq.1 ▸ List.mem_cons_self
  exact absurd (isDigit_of_mem_lastDigits hfirst) (ne_true_of_eq_false hc)

/-- The fields of a date fit their widths. -/
theorem fields_lt {date : Date} (hvalid : date.isValid = true) :
    date.year < 10 ^ 4 ∧ date.month < 100 ∧ date.day < 100 := by
  obtain ⟨hdate, hyear⟩ := Date.isValid_iff.mp hvalid
  have hmonth := hdate.month_le
  have hday := hdate.day_le.trans (Date.daysInMonth_le hdate.month hmonth)
  omega

theorem readDate_dateText {date : Date} (hvalid : date.isValid = true) :
    readDate (dateText date) = some date := by
  obtain ⟨hyear, hmonth, hday⟩ := fields_lt hvalid
  have hread := readMonthDate_lastDigits date.year hmonth hday
  rw [readDate, dateText, List.append_assoc, List.cons_append, fixedDigits_lastDigits,
    Nat.mod_eq_of_lt hyear]
  simp only [Option.bind_eq_bind, Option.bind_some]
  split
  · rename_i others hweek
    exact absurd hweek (lastDigits_append_ne (by decide) 1 date.month _ others)
  · exact hread

theorem length_dateText (date : Date) : (dateText date).length = 10 := by
  simp [dateText]

theorem separatorPlace_append (date : Date) (rest : List Char) :
    separatorPlace (dateText date ++ rest) = 10 := by
  have hlength : ((dateText date ++ rest).length == 7) = false := by
    rw [List.length_append, length_dateText, beq_eq_false_iff_ne]
    omega
  have hhyphen : (dateText date ++ rest)[4]? = some '-' := by simp [dateText, lastDigits]
  have hmonth : (dateText date ++ rest)[5]? ≠ some 'W' := by
    have hdigit : (dateText date ++ rest)[5]? = (lastDigits 2 date.month)[0]? := by
      simp [dateText, lastDigits]
    intro hweek
    exact absurd (isDigit_of_mem_lastDigits (List.mem_of_getElem? (hdigit ▸ hweek))) (by decide)
  rw [separatorPlace, hlength, hhyphen, if_neg Bool.false_ne_true, if_pos (beq_self_eq_true _),
    if_neg (by simpa using hmonth)]

/-- A text in the extended format is read as the moment that it writes. -/
theorem Writes.read?_eq {text : List Char} {moment : Moment} (hwrites : Writes text moment)
    (hdate : moment.date.isValid = true) (htime : moment.time.isValid = true) :
    read? text = some moment := by
  cases hwrites with
  | day date =>
      have hplace : separatorPlace (dateText date) = 10 := by
        simpa using separatorPlace_append date []
      have hlength := length_dateText date
      have htake : (dateText date).take 10 = dateText date :=
        List.take_of_length_le hlength.le
      rw [read?, hlength, if_neg (by decide), hplace]
      simp only [htake, readDate_dateText hdate, Option.bind_eq_bind, Option.bind_some, le_refl,
        if_true]
      rw [if_pos (by rw [hdate, htime]; rfl), Option.getD_none]
  | @moment date clock zone time minutes hclock hzone =>
      obtain ⟨offset, hread, hoffset⟩ := readTime_append hclock htime hzone
      have hsplit : dateText date ++ 'T' :: clock ++ zone =
          dateText date ++ 'T' :: (clock ++ zone) := by
        rw [List.append_assoc, List.cons_append]
      have hlength : (dateText date ++ 'T' :: (clock ++ zone)).length =
          11 + (clock ++ zone).length := by
        rw [List.length_append, length_dateText, List.length_cons]
        omega
      have htake : (dateText date ++ 'T' :: (clock ++ zone)).take 10 = dateText date :=
        List.take_left' (length_dateText date)
      have hdrop : (dateText date ++ 'T' :: (clock ++ zone)).drop (10 + 1) = clock ++ zone := by
        rw [← List.drop_drop, List.drop_left' (length_dateText date)]
        rfl
      have hlonger : ¬ 11 + (clock ++ zone).length ≤ 10 := by omega
      rw [hsplit, read?, hlength, if_neg (by omega), separatorPlace_append]
      simp only [htake, hdrop, readDate_dateText hdate, hread, hoffset, Option.bind_eq_bind,
        Option.bind_some, if_neg hlonger]
      rw [if_pos (by rw [hdate, htime]; rfl)]

/-! ## Texts around nothing else -/

theorem isBlank_of_isDigit {c : Char} (hc : c.isDigit = true) : Text.isBlank c = false := by
  rw [Char.isDigit_iff_toNat] at hc
  exact Text.isBlank_eq_false_of_clear 48 57 (by decide) hc.1 hc.2

theorem isBlank_of_mem_dateText {date : Date} {c : Char} (hc : c ∈ dateText date) :
    Text.isBlank c = false := by
  simp only [dateText, List.mem_append, List.mem_cons] at hc
  obtain (hc | rfl | hc) | rfl | hc := hc
  · exact isBlank_of_isDigit (isDigit_of_mem_lastDigits hc)
  · decide
  · exact isBlank_of_isDigit (isDigit_of_mem_lastDigits hc)
  · decide
  · exact isBlank_of_isDigit (isDigit_of_mem_lastDigits hc)

theorem WritesTime.isBlank_eq_false {text : List Char} {time : TimeOfDay}
    (hwrites : WritesTime text time) {c : Char} (hc : c ∈ text) : Text.isBlank c = false := by
  obtain hdigit | rfl | rfl | rfl := hwrites.mem hc
  · exact isBlank_of_isDigit hdigit
  all_goals decide

theorem WritesOffset.isBlank_eq_false {text : List Char} {minutes : Int}
    (hwrites : WritesOffset text minutes) {c : Char} (hc : c ∈ text) : Text.isBlank c = false := by
  have hclock : ∀ {hour minute : Nat}, c ∈ clockText hour minute → Text.isBlank c = false :=
    fun hmem => (WritesTime.minutes _ _).isBlank_eq_false hmem
  cases hwrites with
  | absent => cases hc
  | universal =>
      rw [List.mem_singleton.mp hc]
      decide
  | ahead hday =>
      rcases List.mem_cons.mp hc with rfl | hc
      · decide
      · exact hclock hc
  | behind hday =>
      rcases List.mem_cons.mp hc with rfl | hc
      · decide
      · exact hclock hc

theorem Writes.isBlank_eq_false {text : List Char} {moment : Moment} (hwrites : Writes text moment)
    {c : Char} (hc : c ∈ text) : Text.isBlank c = false := by
  cases hwrites with
  | day date => exact isBlank_of_mem_dateText hc
  | moment date hclock hzone =>
      simp only [List.mem_append, List.mem_cons] at hc
      obtain (hc | rfl | hc) | hc := hc
      · exact isBlank_of_mem_dateText hc
      · decide
      · exact hclock.isBlank_eq_false hc
      · exact hzone.isBlank_eq_false hc

theorem Writes.trim_eq {text : List Char} {moment : Moment} (hwrites : Writes text moment) :
    Text.trim text = text :=
  Text.trim_eq_self_iff.mpr ⟨fun _ hc => hwrites.isBlank_eq_false (List.mem_of_mem_head? hc),
    fun _ hc => hwrites.isBlank_eq_false (List.mem_of_mem_getLast? hc)⟩

end Phrasebook.IsoDate
