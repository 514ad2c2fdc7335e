import Mathlib
import Phrasebook.Number

/-!
# Rounding

Rounding keeps the order of ratios: those of one binary order of magnitude are rounded to multiples
of one unit, and others are kept apart by a power of two, which rounding does not reach across.  A
power of two is reached from the middle below it on.  This says when the share of a part in a whole
is one, and how large an integer has to be to be out of range.
-/

namespace Phrasebook.Real64

/-! ## Quotients -/

theorem roundDiv_le {num den bound : Nat} (hbound : num ≤ bound * den) :
    roundDiv num den ≤ bound := by
  rcases Nat.eq_zero_or_pos den with rfl | hden
  · simp_all [roundDiv]
  have hquotient : num / den ≤ bound := Nat.div_le_of_le_mul (by rwa [Nat.mul_comm])
  rcases hquotient.eq_or_lt with heq | hlt
  · -- the bound is reached only by a quotient without a rest
    have hrest : num % den = 0 := by
      have hdivision := Nat.div_add_mod num den
      rw [heq, Nat.mul_comm] at hdivision
      omega
    simp [roundDiv, hrest, heq, hden]
  · unfold roundDiv
    dsimp only
    split
    · omega
    · split
      · omega
      · split <;> omega

theorem le_roundDiv (num den : Nat) : num / den ≤ roundDiv num den := by
  unfold roundDiv
  dsimp only
  split
  · exact le_rfl
  · split
    · exact Nat.le_succ _
    · split
      · exact le_rfl
      · exact Nat.le_succ _

theorem roundDiv_mono {low high : Nat} (hle : low ≤ high) (den : Nat) :
    roundDiv low den ≤ roundDiv high den := by
  rcases (Nat.div_le_div_right (c := den) hle).lt_or_eq with hlt | heq
  · -- a quotient is rounded to the next one at most
    rcases Nat.eq_zero_or_pos den with rfl | hden
    · simp at hlt
    have hnext : low ≤ (low / den + 1) * den := by
      rw [Nat.mul_comm]
      exact (Nat.lt_mul_div_succ low hden).le
    exact (roundDiv_le hnext).trans ((Nat.succ_le_of_lt hlt).trans (le_roundDiv high den))
  · have hrest : low % den ≤ high % den := by
      have hlow := Nat.div_add_mod low den
      have hhigh := Nat.div_add_mod high den
      rw [heq] at hlow
      omega
    unfold roundDiv
    dsimp only
    rw [heq]
    generalize high / den = quotient
    split_ifs <;> omega

/-- Rounding reaches an even number from the middle below it on. -/
theorem le_roundDiv_iff {num den bound : Nat} (hden : 0 < den) (heven : bound % 2 = 0) :
    bound ≤ roundDiv num den ↔ 2 * bound * den ≤ 2 * num + den := by
  have hsplit := Nat.div_add_mod num den
  have hrest := Nat.mod_lt num hden
  unfold roundDiv
  dsimp only
  generalize num / den = quotient at *
  generalize num % den = rest at *
  subst hsplit
  have hbound : 2 * bound * den ≤ 2 * (den * quotient + rest) + den ↔
      bound ≤ quotient ∨ bound = quotient + 1 ∧ den ≤ 2 * rest := by
    have hcomm : 2 * bound * den = 2 * (den * bound) := by ring
    rw [hcomm]
    rcases Nat.lt_trichotomy bound (quotient + 1) with hlt | rfl | hgt
    · have hmul := Nat.mul_le_mul_left den (Nat.le_of_lt_succ hlt)
      omega
    · rw [Nat.mul_succ]
      omega
    · have hmul := Nat.mul_le_mul_left den (show quotient + 2 ≤ bound from hgt)
      rw [Nat.mul_add] at hmul
      omega
  rw [hbound]
  split
  · omega
  · split
    · omega
    · split <;> omega

/-! ## Orders of magnitude -/

theorem excessBits_mono {low high : Nat} (hle : low ≤ high) : excessBits low ≤ excessBits high := by
  rw [excessBits, excessBits, Nat.log2_eq_log_two, Nat.log2_eq_log_two]
  exact Nat.sub_le_sub_right (Nat.log_mono_right hle) 52

theorem excessBits_le {value power : Nat} (hvalue : value ≤ 2 ^ power) :
    excessBits value ≤ power := by
  refine (excessBits_mono hvalue).trans ?_
  rw [excessBits, Nat.log2_two_pow]
  exact Nat.sub_le power 52

/-- The values beyond 53 bits that have the same number of excess bits are those of one order of
magnitude. -/
theorem excessBits_eq_succ_iff {value excess : Nat} :
    excessBits value = excess + 1 ↔ 2 ^ (excess + 53) ≤ value ∧ value < 2 ^ (excess + 54) := by
  rcases Nat.eq_zero_or_pos value with rfl | hpos
  · simp [excessBits]
  · rw [← Nat.le_log2 hpos.ne', ← Nat.log2_lt hpos.ne', excessBits]
    omega

theorem lt_of_excessBits_le {value excess : Nat} (hexcess : excessBits value ≤ excess) :
    value < 2 ^ (excess + 53) := by
  rcases Nat.eq_zero_or_pos value with rfl | hpos
  · exact Nat.two_pow_pos _
  · rw [← Nat.log2_lt hpos.ne']
    rw [excessBits] at hexcess
    omega

/-! ## Ratios -/

/-- Rounding keeps a ratio at or below a power of two. -/
theorem roundSteps_le {num den power : Nat} (hbound : num ≤ 2 ^ power * den) :
    roundSteps num den ≤ 2 ^ power := by
  have hexcess : excessBits (num / den) ≤ power :=
    excessBits_le (Nat.div_le_of_le_mul (by rwa [Nat.mul_comm]))
  rw [roundSteps]
  generalize excessBits (num / den) = excess at hexcess
  have hsplit : 2 ^ power = 2 ^ (power - excess) * 2 ^ excess := by
    rw [← Nat.pow_add, Nat.sub_add_cancel hexcess]
  rw [hsplit] at hbound ⊢
  refine Nat.mul_le_mul_right _ (roundDiv_le ?_)
  calc num ≤ 2 ^ (power - excess) * 2 ^ excess * den := hbound
    _ = 2 ^ (power - excess) * (den * Nat.pow 2 excess) := by
      rw [Nat.mul_assoc, Nat.mul_comm den]
      rfl

/-- Rounding keeps a ratio at or above a power of two. -/
theorem le_roundSteps {num den power : Nat} (hden : 0 < den) (hbound : 2 ^ power * den ≤ num) :
    2 ^ power ≤ roundSteps num den := by
  have hquotient : 2 ^ power ≤ num / den := (Nat.le_div_iff_mul_le hden).mpr hbound
  have hfloor : num / (den * 2 ^ excessBits (num / den)) * 2 ^ excessBits (num / den) ≤
      roundSteps num den := Nat.mul_le_mul_right _ (le_roundDiv _ _)
  refine le_trans ?_ hfloor
  rw [← Nat.div_div_eq_div_mul]
  generalize num / den = quotient at hquotient
  have hne : quotient ≠ 0 := (Nat.lt_of_lt_of_le (Nat.two_pow_pos _) hquotient).ne'
  rcases le_or_gt (excessBits quotient) power with hle | hgt
  · have hsplit : 2 ^ power = 2 ^ (power - excessBits quotient) * 2 ^ excessBits quotient := by
      rw [← pow_add, Nat.sub_add_cancel hle]
    rw [hsplit] at hquotient ⊢
    exact Nat.mul_le_mul_right _ ((Nat.le_div_iff_mul_le (Nat.two_pow_pos _)).mpr hquotient)
  · have hexcess : 2 ^ excessBits quotient ≤ quotient := by
      rw [← Nat.le_log2 hne, excessBits]
      exact Nat.sub_le _ _
    calc 2 ^ power ≤ 1 * 2 ^ excessBits quotient := by
          rw [Nat.one_mul]
          exact Nat.pow_le_pow_right (by decide) hgt.le
      _ ≤ quotient / 2 ^ excessBits quotient * 2 ^ excessBits quotient := by
          refine Nat.mul_le_mul_right _ ?_
          rwa [Nat.le_div_iff_mul_le (Nat.two_pow_pos _), Nat.one_mul]

/-- Rounding keeps the order of ratios. -/
theorem roundSteps_mono {low high den : Nat} (hle : low ≤ high) (hden : 0 < den) :
    roundSteps low den ≤ roundSteps high den := by
  have hquotient : low / den ≤ high / den := Nat.div_le_div_right hle
  rcases (excessBits_mono hquotient).eq_or_lt with heq | hlt
  · rw [roundSteps, roundSteps, heq]
    exact Nat.mul_le_mul_right _ (roundDiv_mono hle _)
  · -- the power of two at the lower end of the greater order of magnitude lies between them
    obtain ⟨excess, hexcess⟩ := Nat.exists_eq_succ_of_ne_zero (Nat.zero_lt_of_lt hlt).ne'
    have hlow : low / den < 2 ^ (excess + 53) :=
      lt_of_excessBits_le (Nat.le_of_lt_succ (hexcess ▸ hlt))
    have hhigh : 2 ^ (excess + 53) ≤ high / den := (excessBits_eq_succ_iff.mp hexcess).1
    exact (roundSteps_le ((Nat.div_lt_iff_lt_mul hden).mp hlow).le).trans
      (le_roundSteps hden ((Nat.le_div_iff_mul_le hden).mp hhigh))

/-- Rounding reaches a power of two from the middle below it on; the numbers below it are as far
apart as the digits of the format make them. -/
theorem le_roundSteps_iff {num den power : Nat} (hden : 0 < den) :
    2 ^ (power + 54) ≤ roundSteps num den ↔ 2 ^ (power + 54) * den ≤ num + 2 ^ power * den := by
  have hpower : 2 ^ (power + 54) * den = 2 * (2 ^ (power + 53) * den) := by ring
  have hpower' : 2 ^ (power + 53) * den = 2 ^ 53 * (2 ^ power * den) := by ring
  have hpos : 0 < 2 ^ power * den := Nat.mul_pos (Nat.two_pow_pos power) hden
  rcases lt_or_ge num (2 ^ (power + 53) * den) with hsmall | hlarge
  · have hround : roundSteps num den ≤ 2 ^ (power + 53) := roundSteps_le hsmall.le
    have hlt : 2 ^ (power + 53) < 2 ^ (power + 54) := Nat.pow_lt_pow_right (by decide) (by omega)
    refine iff_of_false (not_le.mpr (hround.trans_lt hlt)) ?_
    omega
  rcases lt_or_ge num (2 ^ (power + 54) * den) with hmiddle | hover
  · have hexcess : excessBits (num / den) = power + 1 :=
      excessBits_eq_succ_iff.mpr ⟨(Nat.le_div_iff_mul_le hden).mpr hlarge,
        (Nat.div_lt_iff_lt_mul hden).mpr hmiddle⟩
    have hunit : 0 < den * 2 ^ (power + 1) := Nat.mul_pos hden (Nat.two_pow_pos _)
    have hsplit : 2 ^ (power + 54) = 2 ^ 53 * 2 ^ (power + 1) := by ring
    have htwice : 2 * 2 ^ 53 * (den * 2 ^ (power + 1)) = 2 * (2 ^ (power + 54) * den) := by ring
    have hhalf : den * 2 ^ (power + 1) = 2 * (2 ^ power * den) := by ring
    rw [roundSteps, hexcess]
    calc 2 ^ (power + 54) ≤ roundDiv num (den * 2 ^ (power + 1)) * 2 ^ (power + 1)
        ↔ 2 ^ 53 ≤ roundDiv num (den * 2 ^ (power + 1)) := by
          rw [hsplit]
          exact Nat.mul_le_mul_right_iff (Nat.two_pow_pos _)
      _ ↔ 2 ^ (power + 54) * den ≤ num + 2 ^ power * den := by
          rw [le_roundDiv_iff hunit (by decide), htwice, hhalf]
          omega
  · refine iff_of_true (le_roundSteps hden hover) ?_
    omega

/-! ## Shares of a whole -/

/-- The number one. -/
def unit : Real64 := .finite false one

theorem exists_one_eq_pow : ∃ power, one = 2 ^ (power + 54) := ⟨1020, by decide +kernel⟩

theorem one_lt_overflow : one < overflow := by decide +kernel

theorem ofSteps_of_le {negative : Bool} {steps : Nat} (hsteps : overflow ≤ steps) :
    ofSteps negative steps = .infinite negative := if_pos hsteps

theorem ofSteps_of_lt {negative : Bool} {steps : Nat} (hsteps : steps < overflow) :
    ofSteps negative steps = .finite negative steps := if_neg (not_le.mpr hsteps)

theorem roundSteps_share_le {part whole : Nat} (hpart : part ≤ whole) :
    roundSteps (part * one) whole ≤ one := by
  obtain ⟨power, hpower⟩ := exists_one_eq_pow
  rw [hpower, Nat.mul_comm]
  exact roundSteps_le (Nat.mul_le_mul_left _ hpart)

theorem ofRatio_of_le {part whole : Nat} (hpart : part ≤ whole) :
    ofRatio false part whole = .finite false (roundSteps (part * one) whole) :=
  ofSteps_of_lt ((roundSteps_share_le hpart).trans_lt one_lt_overflow)

/-- The share of a part in a whole is a number up to one. -/
theorem exists_ofRatio_of_le {part whole : Nat} (hpart : part ≤ whole) :
    ∃ steps, ofRatio false part whole = .finite false steps ∧ steps ≤ one :=
  ⟨_, ofRatio_of_le hpart, roundSteps_share_le hpart⟩

/-- The share of a part is one if and only if what is missing is no more than one in `2 ^ 54` things
of the whole. -/
theorem ofRatio_eq_unit_iff {part whole : Nat} (hpart : part ≤ whole) (hwhole : 0 < whole) :
    ofRatio false part whole = unit ↔ 2 ^ 54 * (whole - part) ≤ whole := by
  obtain ⟨power, hpower⟩ := exists_one_eq_pow
  have hunit : ofRatio false part whole = unit ↔ one ≤ roundSteps (part * one) whole := by
    rw [ofRatio_of_le hpart, unit, finite.injEq]
    exact ⟨fun heq => heq.2.ge, fun hle => ⟨rfl, (roundSteps_share_le hpart).antisymm hle⟩⟩
  have hwide : 2 ^ (power + 54) * whole = 2 ^ power * (2 ^ 54 * whole) := by ring
  have hnarrow : part * 2 ^ (power + 54) + 2 ^ power * whole =
      2 ^ power * (2 ^ 54 * part + whole) := by ring
  rw [hunit, hpower, le_roundSteps_iff hwhole, hwide, hnarrow,
    Nat.mul_le_mul_left_iff (Nat.two_pow_pos power), Nat.mul_sub]
  omega

/-! ## Integers out of range -/

/-- An integer is out of range from the middle between the greatest number of the format and the
power of two behind it on. -/
theorem ofInt?_eq_none_iff {value : Int} :
    ofInt? value = none ↔ 2 ^ 1024 ≤ value.natAbs + 2 ^ 970 := by
  obtain ⟨power, hone, hover⟩ : ∃ power, one = 2 ^ power ∧ overflow = 2 ^ (power + 970 + 54) :=
    ⟨1074, by decide +kernel, by decide +kernel⟩
  have hround : ofInt? value = none ↔ overflow ≤ roundSteps (value.natAbs * one) 1 := by
    rw [ofInt?, ofRatio]
    rcases le_or_gt overflow (roundSteps (value.natAbs * one) 1) with hle | hlt
    · rw [ofSteps_of_le hle]
      exact iff_of_true rfl hle
    · rw [ofSteps_of_lt hlt]
      exact iff_of_false nofun (not_le.mpr hlt)
  have hexponent : power + 970 + 54 = 1024 + power := by omega
  rw [hround, hover, hone, le_roundSteps_iff Nat.one_pos, Nat.mul_one, Nat.mul_one, hexponent,
    Nat.add_comm power, pow_add, pow_add, ← Nat.add_mul]
  exact Nat.mul_le_mul_right_iff (Nat.two_pow_pos power)

end Phrasebook.Real64
