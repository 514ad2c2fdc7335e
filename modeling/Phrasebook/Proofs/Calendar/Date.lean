import Mathlib
import Phrasebook.Calendar.Date

/-!
# Days and their numbers

Every day from the first of January of year 1 on has one number, and the day after it has the next
one.  Numbers go up with the year, within a year with the month, and within a month with the day.
-/

namespace Phrasebook.Date

/-- A date of the calendar in any year from 1 on. -/
structure IsDay (date : Date) : Prop where
  year : 1 ≤ date.year
  month : 1 ≤ date.month
  month_le : date.month ≤ 12
  day : 1 ≤ date.day
  day_le : date.day ≤ daysInMonth date.year date.month

theorem isValid_iff {date : Date} : date.isValid = true ↔ date.IsDay ∧ date.year ≤ 9999 := by
  simp only [isValid, Bool.and_eq_true, decide_eq_true_eq]
  constructor
  · rintro ⟨⟨⟨⟨⟨hyear, hlast⟩, hmonth⟩, htwelve⟩, hday⟩, hlength⟩
    exact ⟨⟨hyear, hmonth, htwelve, hday, hlength⟩, hlast⟩
  · rintro ⟨⟨hyear, hmonth, htwelve, hday, hlength⟩, hlast⟩
    exact ⟨⟨⟨⟨⟨hyear, hlast⟩, hmonth⟩, htwelve⟩, hday⟩, hlength⟩

/-! ## Years -/

def yearLength (year : Nat) : Nat := if isLeap year then 366 else 365

theorem isLeap_iff (year : Nat) : isLeap year = true ↔ 4 ∣ year ∧ (100 ∣ year → 400 ∣ year) := by
  simp only [isLeap, Bool.and_eq_true, Bool.or_eq_true, beq_iff_eq, bne_iff_ne,
    Nat.dvd_iff_mod_eq_zero]
  tauto

theorem daysBeforeYear_succ {year : Nat} (hyear : 1 ≤ year) :
    daysBeforeYear (year + 1) = daysBeforeYear year + yearLength year := by
  obtain ⟨past, rfl⟩ := Nat.exists_eq_add_of_le' hyear
  have hcentury : 100 ∣ past + 1 → 4 ∣ past + 1 := (Dvd.dvd.trans (by decide) ·)
  have hcycle : 400 ∣ past + 1 → 100 ∣ past + 1 := (Dvd.dvd.trans (by decide) ·)
  have hleap := isLeap_iff (past + 1)
  have hcenturies : past / 100 ≤ past / 4 := by omega
  simp only [daysBeforeYear, yearLength, Nat.add_sub_cancel, Nat.succ_div]
  by_cases hfour : 4 ∣ past + 1 <;> by_cases hhundred : 100 ∣ past + 1 <;>
    by_cases hfourHundred : 400 ∣ past + 1 <;> simp_all <;> omega

theorem daysBeforeYear_mono : Monotone daysBeforeYear := by
  refine monotone_nat_of_le_succ fun year => ?_
  cases year with
  | zero => exact le_rfl
  | succ past =>
      rw [daysBeforeYear_succ (Nat.le_add_left 1 past)]
      exact Nat.le_add_right _ _

theorem daysBeforeYear_cycles (cycles : Nat) {centuries fours years : Nat}
    (hcenturies : centuries ≤ 3) (hfours : fours ≤ 24) (hyears : years ≤ 3) :
    daysBeforeYear (400 * cycles + 100 * centuries + 4 * fours + years + 1) =
      146097 * cycles + 36524 * centuries + 1461 * fours + 365 * years := by
  have hfour : (400 * cycles + 100 * centuries + 4 * fours + years) / 4 =
      100 * cycles + 25 * centuries + fours := by omega
  have hhundred : (400 * cycles + 100 * centuries + 4 * fours + years) / 100 =
      4 * cycles + centuries := by omega
  have hfourHundred : (400 * cycles + 100 * centuries + 4 * fours + years) / 400 = cycles := by
    omega
  rw [daysBeforeYear]
  simp only [Nat.add_sub_cancel, hfour, hhundred, hfourHundred]
  omega

/-- Four parts of one size, of which the last may be longer by one: the part that a count falls
into, and its place there. -/
theorem exists_quarter (part count : Nat) (hpart : 0 < part) (hcount : count < 4 * part + 1) :
    min 3 (count / part) ≤ 3 ∧ ∃ rest, count = part * min 3 (count / part) + rest ∧
      (rest < part ∨ rest = part ∧ min 3 (count / part) = 3) := by
  have hdiv : part * (count / part) + count % part = count := Nat.div_add_mod count part
  have hmod : count % part < part := Nat.mod_lt count hpart
  refine ⟨min_le_left _ _, ?_⟩
  rcases Nat.lt_or_ge (count / part) 4 with hfew | hmany
  · rw [min_eq_right (by omega)]
    exact ⟨count % part, hdiv.symm, .inl hmod⟩
  · have hfour : part * 4 ≤ part * (count / part) := Nat.mul_le_mul_left part hmany
    rw [min_eq_left (by omega)]
    exact ⟨part, by omega, .inr ⟨rfl, rfl⟩⟩

/-- A day by its place in shorter and shorter cycles.  Only the last year of a cycle of four can
have one day more, and at the end of a century only where four of those end too. -/
theorem exists_cycles (number : Nat) : ∃ cycles centuries fours years rest,
    centuries ≤ 3 ∧ fours ≤ 24 ∧ years ≤ 3 ∧
      yearOfDay number = 400 * cycles + 100 * centuries + 4 * fours + years + 1 ∧
        number = 146097 * cycles + 36524 * centuries + 1461 * fours + 365 * years + rest ∧
          (rest < 365 ∨ rest = 365 ∧ years = 3 ∧ (fours < 24 ∨ centuries = 3)) := by
  obtain ⟨hcenturies, inCentury, hinFourHundred, hinCentury⟩ :=
    exists_quarter 36524 (number % 146097) (by decide) (by omega)
  obtain ⟨hyears, rest, hinFour, hrest⟩ :=
    exists_quarter 365 (inCentury % 1461) (by decide) (by omega)
  have hrestOfCentury : number % 146097 - min 3 (number % 146097 / 36524) * 36524 = inCentury := by
    omega
  refine ⟨number / 146097, min 3 (number % 146097 / 36524), inCentury / 1461,
    min 3 (inCentury % 1461 / 365), rest, hcenturies, ?_, hyears, ?_, ?_, ?_⟩
  · omega
  · rw [yearOfDay]
    simp only [hrestOfCentury]
  · omega
  · omega

theorem daysBeforeYear_yearOfDay (number : Nat) :
    daysBeforeYear (yearOfDay number) ≤ number ∧
      number < daysBeforeYear (yearOfDay number + 1) := by
  obtain ⟨cycles, centuries, fours, years, rest, hcenturies, hfours, hyears, hyear, hnumber,
    hrest⟩ := exists_cycles number
  have hfirst := daysBeforeYear_cycles cycles hcenturies hfours hyears
  rw [daysBeforeYear_succ (by omega), hyear, hfirst, yearLength]
  refine ⟨by omega, ?_⟩
  rcases hrest with hrest | ⟨hrest, rfl, hshort⟩
  · split <;> omega
  · have hleap : isLeap (400 * cycles + 100 * centuries + 4 * fours + 3 + 1) = true := by
      rw [isLeap_iff]
      refine ⟨by omega, fun hcentury => ?_⟩
      have hlast : fours = 24 := by omega
      have hcycle : centuries = 3 := hshort.resolve_left (by omega)
      exact ⟨cycles + 1, by omega⟩
    rw [if_pos hleap]
    omega

theorem yearOfDay_eq {year number : Nat} (hfirst : daysBeforeYear year ≤ number)
    (hlast : number < daysBeforeYear (year + 1)) : yearOfDay number = year := by
  obtain ⟨hbefore, hafter⟩ := daysBeforeYear_yearOfDay number
  by_contra hne
  rcases Nat.lt_or_gt_of_ne hne with hlt | hgt
  · exact absurd (hafter.trans_le (daysBeforeYear_mono hlt)) (not_lt.mpr hfirst)
  · exact absurd (hlast.trans_le (daysBeforeYear_mono hgt)) (not_lt.mpr hbefore)

theorem year_ofDayNumber_le_iff {number year : Nat} :
    (ofDayNumber number).year ≤ year ↔ number < daysBeforeYear (year + 1) := by
  obtain ⟨hfirst, hlast⟩ := daysBeforeYear_yearOfDay number
  have hyear : (ofDayNumber number).year = yearOfDay number := rfl
  rw [hyear]
  constructor
  · exact fun hle => hlast.trans_le (daysBeforeYear_mono (Nat.succ_le_succ hle))
  · intro hlt
    by_contra hgt
    have hafter := daysBeforeYear_mono (show year + 1 ≤ yearOfDay number from Nat.lt_of_not_le hgt)
    exact absurd (hfirst.trans_lt hlt) (not_lt.mpr hafter)

/-! ## Months -/

theorem daysBeforeMonth_eq (year month : Nat) :
    daysBeforeMonth year month = ((monthLengths (isLeap year)).take (month - 1)).sum :=
  List.sum_eq_foldl.symm

theorem sum_monthLengths (year : Nat) : (monthLengths (isLeap year)).sum = yearLength year := by
  rw [yearLength]
  cases isLeap year <;> rfl

theorem length_monthLengths (leap : Bool) : (monthLengths leap).length = 12 := rfl

theorem daysBeforeMonth_succ (year : Nat) {month : Nat} (hmonth : 1 ≤ month) (hlast : month ≤ 12) :
    daysBeforeMonth year (month + 1) = daysBeforeMonth year month + daysInMonth year month := by
  rw [daysBeforeMonth_eq, daysBeforeMonth_eq, daysInMonth]
  cases isLeap year <;> interval_cases month <;> rfl

theorem daysBeforeMonth_mono (year : Nat) {month other : Nat} (hle : month ≤ other) :
    daysBeforeMonth year month ≤ daysBeforeMonth year other := by
  have hplaces : month - 1 ≤ other - 1 := Nat.sub_le_sub_right hle 1
  rw [daysBeforeMonth_eq, daysBeforeMonth_eq]
  exact (List.take_sublist_take_left hplaces).sum_le_sum fun _ _ => Nat.zero_le _

theorem daysInMonth_pos {year month : Nat} (hmonth : 1 ≤ month) (hlast : month ≤ 12) :
    1 ≤ daysInMonth year month := by
  rw [daysInMonth]
  cases isLeap year <;> interval_cases month <;> decide

theorem daysInMonth_le {year month : Nat} (hmonth : 1 ≤ month) (hlast : month ≤ 12) :
    daysInMonth year month ≤ 31 := by
  rw [daysInMonth]
  cases isLeap year <;> interval_cases month <;> decide

section

variable {lengths : List Nat} {place rest : Nat}

theorem sum_take_add_lt (hrest : rest < lengths.getD place 0) :
    (lengths.take place).sum + rest < lengths.sum := by
  induction lengths generalizing place with
  | nil => exact absurd hrest (Nat.not_lt_zero rest)
  | cons length lengths ih =>
      cases place with
      | zero =>
          have hlength : rest < length := hrest
          rw [List.take_zero, List.sum_nil, List.sum_cons]
          omega
      | succ place =>
          have hlater := ih (show rest < lengths.getD place 0 from hrest)
          rw [List.take_succ_cons, List.sum_cons, List.sum_cons]
          omega

theorem placeInMonths_sum_take (hrest : rest < lengths.getD place 0) (month : Nat) :
    placeInMonths month lengths ((lengths.take place).sum + rest) = (month + place, rest + 1) := by
  induction lengths generalizing place month with
  | nil => exact absurd hrest (Nat.not_lt_zero rest)
  | cons length lengths ih =>
      cases place with
      | zero =>
          have hlength : rest < length := hrest
          simp [placeInMonths, hlength]
      | succ place =>
          have hlater := ih (show rest < lengths.getD place 0 from hrest) (month + 1)
          have hpast : length + (lengths.take place).sum + rest - length =
              (lengths.take place).sum + rest := by omega
          rw [List.take_succ_cons, List.sum_cons, placeInMonths, if_neg (by omega), hpast, hlater,
            Nat.add_assoc month, Nat.add_comm 1 place]

theorem exists_sum_take (hrest : rest < lengths.sum) :
    ∃ place day, place < lengths.length ∧ day < lengths.getD place 0 ∧
      rest = (lengths.take place).sum + day := by
  induction lengths generalizing rest with
  | nil => exact absurd hrest (Nat.not_lt_zero rest)
  | cons length lengths ih =>
      rw [List.sum_cons] at hrest
      by_cases hlength : rest < length
      · exact ⟨0, rest, Nat.succ_pos _, hlength, (Nat.zero_add rest).symm⟩
      · have hothers : rest - length < lengths.sum := by omega
        obtain ⟨place, day, hplace, hday, hlater⟩ := ih hothers
        refine ⟨place + 1, day, Nat.succ_lt_succ hplace, hday, ?_⟩
        rw [List.take_succ_cons, List.sum_cons]
        omega

end

/-! ## Days -/

/-- The date of a number is a day of the calendar and has that number. -/
theorem isDay_ofDayNumber (number : Nat) :
    (ofDayNumber number).IsDay ∧ (ofDayNumber number).dayNumber = number := by
  obtain ⟨hfirst, hlast⟩ := daysBeforeYear_yearOfDay number
  have hyear : 1 ≤ yearOfDay number := Nat.le_add_left 1 _
  have hrest : number - daysBeforeYear (yearOfDay number) <
      (monthLengths (isLeap (yearOfDay number))).sum := by
    rw [daysBeforeYear_succ hyear] at hlast
    rw [sum_monthLengths]
    omega
  obtain ⟨place, day, hplace, hday, hsum⟩ := exists_sum_take hrest
  have hdate : ofDayNumber number = ⟨yearOfDay number, 1 + place, day + 1⟩ := by
    rw [ofDayNumber]
    simp only [hsum, placeInMonths_sum_take hday]
  have hmonth : 1 + place - 1 = place := Nat.add_sub_cancel_left 1 place
  have htwelve : 1 + place ≤ 12 := by
    rw [length_monthLengths] at hplace
    omega
  rw [hdate]
  constructor
  · refine ⟨hyear, Nat.le_add_right 1 place, htwelve, Nat.le_add_left 1 day, ?_⟩
    rw [daysInMonth, hmonth]
    exact hday
  · rw [dayNumber, daysBeforeMonth_eq]
    simp only [hmonth, Nat.add_sub_cancel]
    omega

variable {date first second : Date}

theorem IsDay.dayNumber_bounds (hday : date.IsDay) :
    daysBeforeYear date.year ≤ date.dayNumber ∧
      date.dayNumber < daysBeforeYear (date.year + 1) := by
  have hinMonth : date.day - 1 < daysInMonth date.year date.month := by
    have hlow := hday.day
    have hhigh := hday.day_le
    omega
  have hinYear : daysBeforeMonth date.year date.month + (date.day - 1) < yearLength date.year := by
    rw [daysBeforeMonth_eq, ← sum_monthLengths]
    exact sum_take_add_lt hinMonth
  have hyear := daysBeforeYear_succ hday.year
  rw [dayNumber]
  omega

theorem IsDay.ofDayNumber_dayNumber (hday : date.IsDay) : ofDayNumber date.dayNumber = date := by
  obtain ⟨hfirst, hlast⟩ := hday.dayNumber_bounds
  have hyear : yearOfDay date.dayNumber = date.year := yearOfDay_eq hfirst hlast
  have hrest : date.dayNumber - daysBeforeYear date.year =
      ((monthLengths (isLeap date.year)).take (date.month - 1)).sum + (date.day - 1) := by
    rw [dayNumber, daysBeforeMonth_eq]
    omega
  have hinMonth : date.day - 1 < (monthLengths (isLeap date.year)).getD (date.month - 1) 0 :=
    Nat.sub_one_lt_of_le hday.day hday.day_le
  have hmonth : 1 + (date.month - 1) = date.month := Nat.add_sub_cancel' hday.month
  have hdayOfMonth : date.day - 1 + 1 = date.day := Nat.sub_add_cancel hday.day
  rw [ofDayNumber]
  simp only [hyear, hrest, placeInMonths_sum_take hinMonth, hmonth, hdayOfMonth]

/-! ## The order of days -/

theorem IsDay.dayNumber_lt_of_year_lt (hfirst : first.IsDay) (hsecond : second.IsDay)
    (hlt : first.year < second.year) : first.dayNumber < second.dayNumber :=
  calc first.dayNumber < daysBeforeYear (first.year + 1) := hfirst.dayNumber_bounds.2
    _ ≤ daysBeforeYear second.year := daysBeforeYear_mono hlt
    _ ≤ second.dayNumber := hsecond.dayNumber_bounds.1

theorem IsDay.dayNumber_lt_of_month_lt (hfirst : first.IsDay) (hyear : first.year = second.year)
    (hlt : first.month < second.month) : first.dayNumber < second.dayNumber := by
  have hmonth := daysBeforeMonth_succ first.year hfirst.month hfirst.month_le
  have hmono := daysBeforeMonth_mono first.year (show first.month + 1 ≤ second.month from hlt)
  have hlow := hfirst.day
  have hhigh := hfirst.day_le
  rw [dayNumber, dayNumber, ← hyear]
  omega

/-- Days have the order of their years, months and days of the month. -/
theorem IsDay.dayNumber_lt_iff (hfirst : first.IsDay) (hsecond : second.IsDay) :
    first.dayNumber < second.dayNumber ↔ first.year < second.year ∨ first.year = second.year ∧
      (first.month < second.month ∨ first.month = second.month ∧ first.day < second.day) := by
  have hlow := hfirst.day
  have hlow' := hsecond.day
  rcases lt_trichotomy first.year second.year with hyear | hyear | hyear
  · have hlt := hfirst.dayNumber_lt_of_year_lt hsecond hyear
    omega
  · rcases lt_trichotomy first.month second.month with hmonth | hmonth | hmonth
    · have hlt := hfirst.dayNumber_lt_of_month_lt hyear hmonth
      omega
    · rw [dayNumber, dayNumber, hyear, hmonth]
      omega
    · have hlt := hsecond.dayNumber_lt_of_month_lt hyear.symm hmonth
      omega
  · have hlt := hsecond.dayNumber_lt_of_year_lt hfirst hyear
    omega

/-- The day after a day, on the calendar. -/
def next (date : Date) : Date :=
  if date.day < daysInMonth date.year date.month then { date with day := date.day + 1 }
  else if date.month < 12 then ⟨date.year, date.month + 1, 1⟩
  else ⟨date.year + 1, 1, 1⟩

theorem IsDay.next (hday : date.IsDay) :
    date.next.IsDay ∧ date.next.dayNumber = date.dayNumber + 1 := by
  have hlow := hday.day
  have hhigh := hday.day_le
  have hmonth := daysBeforeMonth_succ date.year hday.month hday.month_le
  rw [Date.next]
  split
  · rename_i hinMonth
    refine ⟨⟨hday.year, hday.month, hday.month_le, Nat.le_add_left 1 _, hinMonth⟩, ?_⟩
    simp only [dayNumber]
    omega
  · split
    · rename_i hlast hinYear
      refine ⟨⟨hday.year, Nat.le_add_left 1 _, hinYear, le_rfl, ?_⟩, ?_⟩
      · exact daysInMonth_pos (Nat.le_add_left 1 _) hinYear
      · simp only [dayNumber, hmonth]
        omega
    · rename_i hlast hinYear
      have htwelve : 1 ≤ 12 := by decide
      have hdecember : date.month = 12 := le_antisymm hday.month_le (not_lt.mp hinYear)
      refine ⟨⟨Nat.le_add_left 1 _, le_rfl, htwelve, le_rfl, daysInMonth_pos le_rfl htwelve⟩, ?_⟩
      have hyear := daysBeforeYear_succ hday.year
      have htotal : daysBeforeMonth date.year (12 + 1) = yearLength date.year := by
        rw [daysBeforeMonth_eq, ← sum_monthLengths]
        rfl
      have hzero : daysBeforeMonth (date.year + 1) 1 = 0 := rfl
      simp only [dayNumber, hyear, hzero]
      rw [hdecember] at hmonth hlast hhigh ⊢
      omega

/-- The number after the number of a day is the number of the day after it. -/
theorem ofDayNumber_succ (number : Nat) : ofDayNumber (number + 1) = (ofDayNumber number).next := by
  obtain ⟨hday, hnumber⟩ := isDay_ofDayNumber number
  obtain ⟨hnext, hsucc⟩ := hday.next
  rw [← hnext.ofDayNumber_dayNumber, hsucc, hnumber]

end Phrasebook.Date
