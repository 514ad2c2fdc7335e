import Mathlib
import Phrasebook.Calendar.Iso

/-!
# Numbers with a fixed count of digits

The fields of a date have a fixed width.  Written so they are read back, and their texts have the
order of the numbers whatever follows them.
-/

namespace Phrasebook

/-- The last decimal digits of a number, so many as `width` says. -/
def lastDigits : (width value : Nat) → List Char
  | 0, _ => []
  | width + 1, value =>
      Nat.digitChar (value / 10 ^ width % 10) :: lastDigits width (value % 10 ^ width)

@[simp]
theorem length_lastDigits (width value : Nat) : (lastDigits width value).length = width := by
  induction width generalizing value with
  | zero => rfl
  | succ width ih => rw [lastDigits, List.length_cons, ih]

theorem isDigit_of_mem_lastDigits {width value : Nat} {c : Char}
    (hc : c ∈ lastDigits width value) : c.isDigit = true := by
  induction width generalizing value with
  | zero => cases hc
  | succ width ih =>
      rw [lastDigits, List.mem_cons] at hc
      rcases hc with rfl | hc
      · rw [Nat.isDigit_digitChar, decide_eq_true_eq]
        exact Nat.mod_lt _ (by decide)
      · exact ih hc

/-- The recursion of `lastDigits` goes by the first digit, that of `Nat.toDigits` by the last. -/
theorem lastDigits_eq_append (width value : Nat) :
    lastDigits (width + 1) value =
      lastDigits width (value / 10) ++ [Nat.digitChar (value % 10)] := by
  induction width generalizing value with
  | zero => simp [lastDigits]
  | succ width ih =>
      have hfirst : value / 10 ^ (width + 1) = value / 10 / 10 ^ width := by
        rw [pow_succ', Nat.div_div_eq_div_mul]
      have hrest : value % 10 ^ (width + 1) / 10 = value / 10 % 10 ^ width := by
        rw [pow_succ', Nat.mod_mul_right_div_self]
      have hlast : value % 10 ^ (width + 1) % 10 = value % 10 :=
        Nat.mod_mod_of_dvd value (dvd_pow_self 10 (Nat.succ_ne_zero width))
      rw [lastDigits, ih, hfirst, hrest, hlast, lastDigits, List.cons_append]

theorem padded_eq_lastDigits {width value : Nat} (hvalue : value < 10 ^ (width + 1)) :
    Instant.padded (width + 1) value = lastDigits (width + 1) value := by
  induction width generalizing value with
  | zero =>
      rw [zero_add, pow_one] at hvalue
      simp [Instant.padded, Nat.toDigits_of_lt_base hvalue, lastDigits, Nat.mod_eq_of_lt hvalue]
  | succ width ih =>
      have htail : value / 10 < 10 ^ (width + 1) := by
        rw [pow_succ'] at hvalue
        exact Nat.div_lt_of_lt_mul hvalue
      rw [lastDigits_eq_append, ← ih htail, Instant.padded, Instant.padded]
      rcases Nat.lt_or_ge value 10 with hsmall | hlarge
      · have hzero : value / 10 = 0 := Nat.div_eq_of_lt hsmall
        simp [Nat.toDigits_of_lt_base hsmall, hzero, Nat.mod_eq_of_lt hsmall, List.replicate_succ']
      · rw [Nat.toDigits_of_base_le (by decide) hlarge]
        simp

/-- A number that has all its digits is not filled up. -/
theorem padded_one {width value : Nat} (hlow : 10 ^ width ≤ value)
    (hvalue : value < 10 ^ (width + 1)) :
    Instant.padded 1 value = lastDigits (width + 1) value := by
  have hfits : ∀ count, 0 < count →
      ((Nat.toDigits 10 value).length ≤ count ↔ value < 10 ^ count) :=
    fun count hcount => Nat.length_toDigits_le_iff (by decide) hcount
  have hlength : (Nat.toDigits 10 value).length = width + 1 := by
    refine le_antisymm ((hfits _ (Nat.succ_pos _)).mpr hvalue) ?_
    cases width with
    | zero => exact Nat.length_toDigits_pos
    | succ width =>
        by_contra hshort
        have hsmall := (hfits _ (Nat.succ_pos width)).mp (Nat.le_of_lt_succ (not_le.mp hshort))
        exact absurd hlow (not_le.mpr hsmall)
  rw [← padded_eq_lastDigits hvalue]
  simp [Instant.padded, hlength]

/-! ## Reading -/

theorem digitOf_digitChar {digit : Nat} (hdigit : digit < 10) :
    IsoDate.digitOf (Nat.digitChar digit) = digit :=
  Nat.toNat_digitChar_sub_48_of_lt_ten hdigit

theorem fixedDigits_lastDigits (width value : Nat) (rest : List Char) :
    IsoDate.fixedDigits width (lastDigits width value ++ rest) =
      some (value % 10 ^ width, rest) := by
  induction width generalizing value with
  | zero => simp [lastDigits, IsoDate.fixedDigits, Nat.mod_one]
  | succ width ih =>
      have hdigit : value / 10 ^ width % 10 < 10 := Nat.mod_lt _ (by decide)
      have hvalue : value / 10 ^ width % 10 * 10 ^ width + value % 10 ^ width =
          value % 10 ^ (width + 1) := by
        rw [Nat.mod_pow_succ, Nat.add_comm, Nat.mul_comm]
      rw [lastDigits, List.cons_append, IsoDate.fixedDigits, Nat.isDigit_digitChar,
        if_pos (decide_eq_true hdigit), ih, Option.map_some, digitOf_digitChar hdigit, Nat.mod_mod,
        Nat.pow_eq, hvalue]

/-! ## Order -/

theorem digitChar_lt_iff {digit other : Nat} (hdigit : digit < 10) (hother : other < 10) :
    Nat.digitChar digit < Nat.digitChar other ↔ digit < other := by
  have hcode : ∀ c d : Char, c < d ↔ c.toNat < d.toNat := fun _ _ => Iff.rfl
  rw [hcode, Nat.toNat_digitChar_of_lt_ten hdigit, Nat.toNat_digitChar_of_lt_ten hother]
  omega

theorem digitChar_inj {digit other : Nat} (hdigit : digit < 10) (hother : other < 10) :
    Nat.digitChar digit = Nat.digitChar other ↔ digit = other := by
  rw [← Char.toNat_inj, Nat.toNat_digitChar_of_lt_ten hdigit,
    Nat.toNat_digitChar_of_lt_ten hother]
  omega

theorem lt_iff_div_mod (part value other : Nat) :
    value < other ↔ value / part < other / part ∨
      value / part = other / part ∧ value % part < other % part := by
  have hvalue := Nat.div_add_mod value part
  have hother := Nat.div_add_mod other part
  constructor
  · intro hlt
    rcases (Nat.div_le_div_right hlt.le).lt_or_eq with hdiv | hdiv
    · exact .inl hdiv
    · rw [hdiv] at hvalue
      exact .inr ⟨hdiv, by omega⟩
  · rintro (hdiv | ⟨hdiv, hmod⟩)
    · exact Nat.lt_of_div_lt_div hdiv
    · rw [hdiv] at hvalue
      omega

theorem eq_iff_div_mod (part value other : Nat) :
    value = other ↔ value / part = other / part ∧ value % part = other % part := by
  constructor
  · rintro rfl
    exact ⟨rfl, rfl⟩
  · rintro ⟨hdiv, hmod⟩
    rw [← Nat.div_add_mod value part, hdiv, hmod, Nat.div_add_mod]

/-- Digits of one width have the order of the numbers they write. -/
theorem lastDigits_append_lt_iff {width value other : Nat} (hvalue : value < 10 ^ width)
    (hother : other < 10 ^ width) (rest rest' : List Char) :
    lastDigits width value ++ rest < lastDigits width other ++ rest' ↔
      value < other ∨ value = other ∧ rest < rest' := by
  induction width generalizing value other with
  | zero =>
      rw [pow_zero, Nat.lt_one_iff] at hvalue hother
      simp [lastDigits, hvalue, hother]
  | succ width ih =>
      have hpos : 0 < 10 ^ width := Nat.pow_pos (by decide)
      have hfirst : value / 10 ^ width < 10 := Nat.div_lt_of_lt_mul hvalue
      have hfirst' : other / 10 ^ width < 10 := Nat.div_lt_of_lt_mul hother
      rw [lastDigits, lastDigits, List.cons_append, List.cons_append, List.cons_lt_cons_iff,
        Nat.mod_eq_of_lt hfirst, Nat.mod_eq_of_lt hfirst', digitChar_lt_iff hfirst hfirst',
        digitChar_inj hfirst hfirst', ih (Nat.mod_lt _ hpos) (Nat.mod_lt _ hpos),
        lt_iff_div_mod (10 ^ width) value other, eq_iff_div_mod (10 ^ width) value other]
      tauto

end Phrasebook
