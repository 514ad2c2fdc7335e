import Mathlib
import Phrasebook.Proofs.Calendar.Instants

/-!
# Canonical texts

The canonical text of an instant writes its date and time with milliseconds in universal time.  In
years of four digits it is a text in the extended format, so it can be read again, and such texts
have the order of their instants.
-/

namespace Phrasebook.Instant

/-- The year of the instant is written with four digits. -/
def HasFullYear (instant : Instant) : Prop :=
  1000 ≤ instant.date.year ∧ instant.date.year ≤ 9999

/-- The instant without the microseconds behind its milliseconds. -/
def cut (instant : Instant) : Instant := ⟨instant.microseconds / 1000 * 1000⟩

/-- The form of canonical texts, with zeros for digits. -/
def canonicalForm : List Char := "0000-00-00T00:00:00.000Z".toList

def FitsForm (form c : Char) : Prop := if form = '0' then c.isDigit = true else c = form

/-- The time of day of the instant that its canonical text writes. -/
def cutTime (instant : Instant) : TimeOfDay :=
  { instant.time with microsecond := instant.time.microsecond / 1000 * 10 ^ (5 - 2) }

variable {instant first second : Instant}

theorem HasFullYear.isValid_date (hyear : instant.HasFullYear) : instant.date.isValid = true :=
  Date.isValid_iff.mpr ⟨instant.isDay_date, hyear.2⟩

/-- The fields of a text and what stands between them, one after another. -/
theorem render_eq_append (instant : Instant) :
    instant.render =
      padded 1 instant.date.year ++ '-' :: (lastDigits 2 instant.date.month ++
        '-' :: (lastDigits 2 instant.date.day ++ 'T' :: (lastDigits 2 instant.time.hour ++
          ':' :: (lastDigits 2 instant.time.minute ++ ':' :: (lastDigits 2 instant.time.second ++
            '.' :: (lastDigits 3 (instant.time.microsecond / 1000) ++ ['Z'])))))) := by
  have hmonth := instant.isDay_date.month_le
  have hday := instant.isDay_date.day_le.trans
    (Date.daysInMonth_le instant.isDay_date.month hmonth)
  obtain ⟨hhour, hminute, hsecond, hmicrosecond⟩ := TimeOfDay.isValid_iff.mp instant.isValid_time
  have htwo : ∀ {value}, value < 100 → padded 2 value = lastDigits 2 value :=
    fun hvalue => padded_eq_lastDigits hvalue
  have hthree : padded 3 (instant.time.microsecond / 1000) =
      lastDigits 3 (instant.time.microsecond / 1000) :=
    padded_eq_lastDigits (by omega)
  rw [render, htwo (by omega), htwo (by omega), htwo (by omega), htwo (by omega), htwo (by omega),
    hthree]
  simp only [List.append_assoc, List.cons_append]

/-- The year of three digits at most is not filled up. -/
theorem length_text_lt (hyear : instant.date.year < 1000) : instant.text.length < 24 := by
  have hdigits : (Nat.toDigits 10 instant.date.year).length ≤ 3 :=
    (Nat.length_toDigits_le_iff (by decide) (by decide)).mpr hyear
  have hpadded : (padded 1 instant.date.year).length ≤ 3 := by
    rw [padded, List.length_append, List.length_replicate]
    omega
  rw [text, String.length_ofList, render_eq_append]
  simp only [List.length_append, List.length_cons, length_lastDigits, List.length_nil]
  omega

theorem HasFullYear.render_eq_append (hyear : instant.HasFullYear) :
    instant.render =
      lastDigits 4 instant.date.year ++ '-' :: (lastDigits 2 instant.date.month ++
        '-' :: (lastDigits 2 instant.date.day ++ 'T' :: (lastDigits 2 instant.time.hour ++
          ':' :: (lastDigits 2 instant.time.minute ++ ':' :: (lastDigits 2 instant.time.second ++
            '.' :: (lastDigits 3 (instant.time.microsecond / 1000) ++ ['Z'])))))) := by
  have hfull : instant.date.year < 10 ^ (3 + 1) := Nat.lt_succ_of_le hyear.2
  rw [Instant.render_eq_append, padded_one hyear.1 hfull]

/-! ## Reading again -/

theorem HasFullYear.writes (hyear : instant.HasFullYear) :
    IsoDate.Writes instant.render ⟨instant.date, instant.cutTime, 0⟩ := by
  have hmilliseconds : instant.time.microsecond / 1000 < 10 ^ (2 + 1) := by
    have hlt := (TimeOfDay.isValid_iff.mp instant.isValid_time).2.2.2
    omega
  have hclock := IsoDate.WritesTime.fraction instant.time.hour instant.time.minute
    instant.time.second (.inl rfl) (by decide) hmilliseconds
  have htext : instant.render = IsoDate.dateText instant.date ++
      'T' :: (IsoDate.clockText instant.time.hour instant.time.minute ++
        ':' :: lastDigits 2 instant.time.second ++
          '.' :: lastDigits 3 (instant.time.microsecond / 1000)) ++ ['Z'] := by
    rw [hyear.render_eq_append]
    simp only [IsoDate.dateText, IsoDate.clockText, List.append_assoc, List.cons_append]
  rw [htext]
  exact .moment instant.date hclock .universal

theorem isValid_cutTime (instant : Instant) : instant.cutTime.isValid = true := by
  have hvalid := TimeOfDay.isValid_iff.mp instant.isValid_time
  rw [TimeOfDay.isValid_iff]
  dsimp only [cutTime]
  omega

/-- Days begin with whole milliseconds, and so do seconds. -/
theorem microseconds_cutTime (instant : Instant) :
    instant.date.dayNumber * dayLength + instant.cutTime.microseconds =
      instant.cut.microseconds := by
  have hcount := Nat.div_add_mod' instant.microseconds dayLength
  rw [← dayNumber_date, ← microseconds_time] at hcount
  rw [cut]
  dsimp only
  rw [← hcount]
  dsimp only [cutTime, TimeOfDay.microseconds, dayLength]
  omega

theorem date_time_cut (instant : Instant) :
    instant.cut.date = instant.date ∧ instant.cut.time = instant.cutTime :=
  date_time_of_microseconds_eq instant.isDay_date instant.isValid_cutTime
    (microseconds_cutTime instant).symm

/-- The canonical text does not tell an instant from its milliseconds. -/
theorem text_cut (instant : Instant) : instant.cut.text = instant.text := by
  obtain ⟨hdate, htime⟩ := date_time_cut instant
  have hmilliseconds : instant.cutTime.microsecond / 1000 = instant.time.microsecond / 1000 :=
    Nat.mul_div_cancel _ (by decide)
  rw [text, text, render, render, hdate, htime, hmilliseconds]
  rfl

theorem microseconds_cut_le (instant : Instant) :
    instant.cut.microseconds ≤ instant.microseconds := Nat.div_mul_le_self _ _

theorem HasFullYear.isWritten (hyear : instant.HasFullYear) :
    Moment.IsWritten ⟨instant.date, instant.cutTime, 0⟩ instant.text where
  writes := by
    rw [text, String.toList_ofList]
    exact hyear.writes
  date := hyear.isValid_date
  time := instant.isValid_cutTime
  range := by
    have hlimit := isValid_date_iff.mp hyear.isValid_date
    rw [Moment.IsInRange, Moment.microseconds]
    dsimp only
    rw [microseconds_cutTime, sub_zero]
    exact ⟨Int.natCast_nonneg _, Int.ofNat_lt.mpr (instant.microseconds_cut_le.trans_lt hlimit)⟩

theorem HasFullYear.ofText_text (hyear : instant.HasFullYear) :
    ofText instant.text = .ok instant.cut := by
  rw [hyear.isWritten.ofText_eq, Moment.instant, Moment.microseconds]
  dsimp only
  rw [microseconds_cutTime, sub_zero, Int.toNat_natCast]

/-! ## Form -/

section

variable {form text : List Char} (hrest : List.Forall₂ FitsForm form text)

include hrest

theorem forall₂_fitsForm_lastDigits (width value : Nat) :
    List.Forall₂ FitsForm (List.replicate width '0' ++ form) (lastDigits width value ++ text) := by
  induction width generalizing value with
  | zero => exact hrest
  | succ width ih =>
      rw [lastDigits, List.replicate_succ, List.cons_append, List.cons_append]
      refine .cons ?_ (ih _)
      rw [FitsForm, if_pos rfl, Nat.isDigit_digitChar, decide_eq_true_eq]
      exact Nat.mod_lt _ (by decide)

theorem forall₂_fitsForm_mark {mark : Char} (hmark : mark ≠ '0') :
    List.Forall₂ FitsForm (mark :: form) (mark :: text) := by
  refine .cons ?_ hrest
  rw [FitsForm, if_neg hmark]

end

theorem HasFullYear.forall₂_fitsForm (hyear : instant.HasFullYear) :
    List.Forall₂ FitsForm canonicalForm instant.render := by
  have hform : canonicalForm = List.replicate 4 '0' ++ '-' :: (List.replicate 2 '0' ++
      '-' :: (List.replicate 2 '0' ++ 'T' :: (List.replicate 2 '0' ++
        ':' :: (List.replicate 2 '0' ++ ':' :: (List.replicate 2 '0' ++
          '.' :: (List.replicate 3 '0' ++ ['Z'])))))) := by decide
  rw [hform, hyear.render_eq_append]
  iterate 7
    apply forall₂_fitsForm_lastDigits
    apply forall₂_fitsForm_mark _ (by decide)
  exact .nil

/-! ## Order -/

/-- Field by field, from the year on. -/
theorem render_lt_iff_fields (hfirst : first.HasFullYear) (hsecond : second.HasFullYear) :
    first.render < second.render ↔
      first.date.year < second.date.year ∨ first.date.year = second.date.year ∧
        (first.date.month < second.date.month ∨ first.date.month = second.date.month ∧
          (first.date.day < second.date.day ∨ first.date.day = second.date.day ∧
            (first.time.hour < second.time.hour ∨ first.time.hour = second.time.hour ∧
              (first.time.minute < second.time.minute ∨
                first.time.minute = second.time.minute ∧
                  (first.time.second < second.time.second ∨
                    first.time.second = second.time.second ∧
                      first.time.microsecond / 1000 < second.time.microsecond / 1000))))) := by
  obtain ⟨hyear, hmonth, hday⟩ := IsoDate.fields_lt hfirst.isValid_date
  obtain ⟨hyear', hmonth', hday'⟩ := IsoDate.fields_lt hsecond.isValid_date
  obtain ⟨hhour, hminute, hsec, hmicro⟩ := TimeOfDay.isValid_iff.mp first.isValid_time
  obtain ⟨hhour', hminute', hsec', hmicro'⟩ := TimeOfDay.isValid_iff.mp second.isValid_time
  rw [hfirst.render_eq_append, hsecond.render_eq_append,
    lastDigits_append_lt_iff hyear hyear', List.cons_lt_cons_self,
    lastDigits_append_lt_iff hmonth hmonth', List.cons_lt_cons_self,
    lastDigits_append_lt_iff hday hday', List.cons_lt_cons_self,
    lastDigits_append_lt_iff (by omega) (by omega), List.cons_lt_cons_self,
    lastDigits_append_lt_iff (by omega) (by omega), List.cons_lt_cons_self,
    lastDigits_append_lt_iff (by omega) (by omega), List.cons_lt_cons_self,
    lastDigits_append_lt_iff (by omega) (by omega)]
  simp only [List.lt_irrefl, and_false, or_false]

theorem milliseconds_lt_iff :
    first.microseconds / 1000 < second.microseconds / 1000 ↔
      first.date.dayNumber < second.date.dayNumber ∨
        first.date.dayNumber = second.date.dayNumber ∧
          first.time.microseconds / 1000 < second.time.microseconds / 1000 := by
  have hfirst := Nat.div_add_mod' first.microseconds dayLength
  have hsecond := Nat.div_add_mod' second.microseconds dayLength
  have hday := TimeOfDay.microseconds_lt first.isValid_time
  have hday' := TimeOfDay.microseconds_lt second.isValid_time
  rw [← dayNumber_date, ← microseconds_time] at hfirst hsecond
  rw [← hfirst, ← hsecond]
  rw [dayLength] at *
  omega

theorem render_lt_iff (hfirst : first.HasFullYear) (hsecond : second.HasFullYear) :
    first.render < second.render ↔ first.microseconds / 1000 < second.microseconds / 1000 := by
  have hdays := first.isDay_date.dayNumber_lt_iff second.isDay_date
  have hdays' := second.isDay_date.dayNumber_lt_iff first.isDay_date
  rw [render_lt_iff_fields hfirst hsecond, milliseconds_lt_iff,
    TimeOfDay.milliseconds_lt_iff first.isValid_time second.isValid_time]
  generalize first.date.dayNumber = number, second.date.dayNumber = number' at *
  omega

theorem text_lt_iff (hfirst : first.HasFullYear) (hsecond : second.HasFullYear) :
    first.text < second.text ↔ first.microseconds / 1000 < second.microseconds / 1000 := by
  rw [String.lt_iff_toList_lt, text, text, String.toList_ofList, String.toList_ofList]
  exact render_lt_iff hfirst hsecond

/-- Canonical texts have one form, are read as their instants cut to milliseconds, and have the
order of these. -/
theorem text_canonical (hfirst : first.HasFullYear) (hsecond : second.HasFullYear) :
    (first.text.length = 24 ∧ List.Forall₂ FitsForm canonicalForm first.text.toList) ∧
      ofText first.text = .ok first.cut ∧
      (first.microseconds ≤ second.microseconds → first.text ≤ second.text) ∧
      (first.text = second.text ↔ first.microseconds / 1000 = second.microseconds / 1000) := by
  have hform : List.Forall₂ FitsForm canonicalForm first.text.toList := by
    rw [text, String.toList_ofList]
    exact hfirst.forall₂_fitsForm
  have hbefore := text_lt_iff hfirst hsecond
  have hafter := text_lt_iff hsecond hfirst
  refine ⟨⟨?_, hform⟩, hfirst.ofText_text, fun hle => ?_, ?_⟩
  · rw [← String.length_toList, ← hform.length_eq]
    rfl
  · rw [← String.not_lt, hafter, not_lt]
    exact Nat.div_le_div_right hle
  · constructor
    · intro heq
      rw [heq] at hbefore hafter
      have hirrefl := String.lt_irrefl second.text
      exact le_antisymm (not_lt.mp (mt hafter.mpr hirrefl)) (not_lt.mp (mt hbefore.mpr hirrefl))
    · intro heq
      refine String.le_antisymm ?_ ?_
      · rw [← String.not_lt, hafter, heq]
        exact lt_irrefl _
      · rw [← String.not_lt, hbefore, heq]
        exact lt_irrefl _

/-- The last microsecond of a leap day and the first of the next month. -/
theorem text_canonical_leap_day :
    ((Instant.mk 63844847999999999).HasFullYear ∧ (Instant.mk 63844848000000000).HasFullYear) ∧
      ofText "2024-02-29T23:59:59.999Z" = .ok ⟨63844847999999000⟩ ∧
      "2024-02-29T23:59:59.999Z" ≤ "2024-03-01T00:00:00.000Z" := by
  have hfirst : (Instant.mk 63844847999999999).HasFullYear :=
    ⟨by decide, by decide⟩
  have hsecond : (Instant.mk 63844848000000000).HasFullYear :=
    ⟨by decide, by decide⟩
  have htext : (Instant.mk 63844847999999999).text = "2024-02-29T23:59:59.999Z" := by decide
  have htext' : (Instant.mk 63844848000000000).text = "2024-03-01T00:00:00.000Z" := by
    decide
  obtain ⟨-, hread, horder, -⟩ := text_canonical hfirst hsecond
  rw [htext] at hread horder
  rw [htext'] at horder
  exact ⟨⟨hfirst, hsecond⟩, hread, horder (by decide)⟩

end Phrasebook.Instant
