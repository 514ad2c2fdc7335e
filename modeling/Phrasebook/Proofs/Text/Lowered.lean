import Mathlib
import Phrasebook.Proofs.Text.Letters

/-!
# Lower case is final

No character is moved to one that is moved again, so a text in lower case stays as it is when it is
put in lower case once more.  What a text becomes in lower case is made of the lower cases of its
characters, save for the two small sigmas and the dot of a capital I.
-/

namespace Phrasebook.Text

/-! ## Single characters -/

/-- A shift brings no code point to a place where another one starts from: their ranges are apart,
or one of them takes the even and the other one the odd places. -/
def misses (shift other : Shift) : Bool :=
  (shift.target + (shift.last - shift.first)).blt other.first || other.last.blt shift.target ||
    (shift.step.beq 2 || shift.first.beq shift.last) && other.step.beq 2 &&
      !(shift.target % 2).beq (other.first % 2)

/-- A shift misses all that start in its range; a search stops behind them. -/
def missesAll (shift : Shift) : List Shift → Bool
  | [] => true
  | other :: others =>
      bif other.last.blt shift.target then missesAll shift others
      else bif (shift.target + (shift.last - shift.first)).blt other.first then true
      else misses shift other && missesAll shift others

theorem lowerShifts_misses : (lowerShifts.all fun shift => missesAll shift lowerShifts) = true := by
  decide +kernel

theorem apart_of_misses {shift other : Shift} (hmisses : misses shift other = true) :
    shift.target + (shift.last - shift.first) < other.first ∨ other.last < shift.target ∨
      (shift.step = 2 ∨ shift.first = shift.last) ∧ other.step = 2 ∧
        shift.target % 2 ≠ other.first % 2 := by
  simpa [misses, Nat.blt_eq, or_assoc, and_assoc, ← Bool.not_eq_true] using hmisses

/-- Nothing has to be missed that starts above the range of the shift. -/
theorem missesAll_cons {shift other : Shift} {others : List Shift}
    (hmisses : missesAll shift (other :: others) = true) :
    shift.target + (shift.last - shift.first) < other.first ∨
      (other.last < shift.target ∨ misses shift other = true) ∧ missesAll shift others = true := by
  rw [missesAll] at hmisses
  cases hbelow : other.last.blt shift.target with
  | true =>
      rw [hbelow, cond_true] at hmisses
      exact .inr ⟨.inl (Nat.blt_eq.mp hbelow), hmisses⟩
  | false =>
      rw [hbelow, cond_false] at hmisses
      cases habove : (shift.target + (shift.last - shift.first)).blt other.first with
      | true => exact .inl (Nat.blt_eq.mp habove)
      | false =>
          rw [habove, cond_false, Bool.and_eq_true] at hmisses
          exact .inr ⟨.inr hmisses.1, hmisses.2⟩

theorem shifted?_eq_none_of_misses {shift : Shift} {others : List Shift} {code : Nat}
    (hmisses : missesAll shift others = true) (hfirst : shift.first ≤ code)
    (hlast : code ≤ shift.last) (hstep : (code - shift.first) % shift.step = 0) :
    shifted? others (shift.target + (code - shift.first)) = none := by
  induction others with
  | nil => rfl
  | cons other others ih =>
      rw [shifted?]
      obtain habove | ⟨hother, hrest⟩ := missesAll_cons hmisses
      · exact if_pos (by omega)
      · split
        · rfl
        · split
          · rename_i hlow hhigh
            apply if_neg
            have hapart := hother.imp_right apart_of_misses
            rcases hapart with hbelow | habove | hbelow | ⟨heven | hsingle, htwo, hparity⟩
            · omega
            · omega
            · omega
            · rw [heven] at hstep
              rw [htwo]
              omega
            · rw [htwo]
              omega
          · exact ih hrest

/-- What has been moved to lower case is not moved again. -/
theorem shifted?_of_shifted? {code image : Nat} (himage : shifted? lowerShifts code = some image) :
    shifted? lowerShifts image = none := by
  obtain ⟨shift, hshift, hfirst, hlast, hstep, rfl⟩ := exists_shift_of_shifted? himage
  exact shifted?_eq_none_of_misses (List.all_eq_true.mp lowerShifts_misses shift hshift) hfirst
    hlast hstep

theorem lowerChar_eq (c : Char) :
    lowerChar c = (shifted? lowerShifts c.toNat).elim c Char.ofNat := by
  by_cases hcode : c.toNat < 128
  · refine forall_char_lt (P := fun c => lowerChar c =
      (shifted? lowerShifts c.toNat).elim c Char.ofNat) ?_ c hcode
    decide
  · rw [lowerChar]
    simp only [hcode, if_false]
    cases shifted? lowerShifts c.toNat <;> rfl

@[simp]
theorem lowerChar_lowerChar (c : Char) : lowerChar (lowerChar c) = lowerChar c := by
  rw [lowerChar_eq c]
  cases himage : shifted? lowerShifts c.toNat with
  | none => rw [Option.elim_none, lowerChar_eq, himage, Option.elim_none]
  | some image =>
      rw [Option.elim_some]
      by_cases hvalid : image.isValidChar
      · have hcode : (Char.ofNat image).toNat = image := by simp [Char.toNat_ofNat, hvalid]
        rw [lowerChar_eq, hcode, shifted?_of_shifted? himage, Option.elim_none]
      · have hzero : Char.ofNat image = Char.ofNat 0 := by
          rw [Char.ofNat, dif_neg hvalid]
          rfl
        rw [hzero]
        decide

/-! ## Texts -/

theorem mem_lowerAfter {before text : List Char} {d : Char} (hd : d ∈ lowerAfter before text) :
    d ∈ ['σ', 'ς', '\u0307'] ∨ ∃ c ∈ text, d = lowerChar c := by
  induction text generalizing before with
  | nil => exact absurd hd List.not_mem_nil
  | cons c text ih =>
      rw [lowerAfter, List.mem_append] at hd
      rcases hd with hd | hd
      · split at hd
        · rw [List.mem_singleton, smallSigma] at hd
          split at hd <;> simp [hd]
        · rw [lowerExpansion] at hd
          split at hd
          · rename_i hdotted
            rcases List.mem_cons.mp hd with rfl | hd
            · exact .inr ⟨c, List.mem_cons_self, by rw [hdotted]; decide⟩
            · exact .inl (by simp [List.mem_singleton.mp hd])
          · exact .inr ⟨c, List.mem_cons_self, List.mem_singleton.mp hd⟩
      · exact (ih hd).imp_right fun ⟨c, hc, heq⟩ => ⟨c, List.mem_cons_of_mem _ hc, heq⟩

theorem lowerChar_of_mem_lowerAfter {before text : List Char} {d : Char}
    (hd : d ∈ lowerAfter before text) : lowerChar d = d := by
  rcases mem_lowerAfter hd with hd | ⟨c, -, rfl⟩
  · fin_cases hd <;> decide
  · exact lowerChar_lowerChar c

theorem lowerChar_of_mem_lower {text : List Char} {d : Char} (hd : d ∈ lower text) :
    lowerChar d = d := lowerChar_of_mem_lowerAfter hd

theorem lowerAfter_eq_self {text : List Char} (htext : ∀ c ∈ text, lowerChar c = c)
    (before : List Char) : lowerAfter before text = text := by
  induction text generalizing before with
  | nil => rfl
  | cons c text ih =>
      rw [List.forall_mem_cons] at htext
      have hsigma : c ≠ 'Σ' := by
        rintro rfl
        exact absurd htext.1 (by decide)
      have hdotted : c ≠ 'İ' := by
        rintro rfl
        exact absurd htext.1 (by decide)
      rw [lowerAfter, if_neg hsigma, lowerExpansion, if_neg hdotted, htext.1, ih htext.2]
      rfl

@[simp]
theorem lower_lower (text : List Char) : lower (lower text) = lower text :=
  lowerAfter_eq_self (fun _ hd => lowerChar_of_mem_lower hd) []

end Phrasebook.Text

namespace Phrasebook

@[simp]
theorem lowered_lowered (text : String) : lowered (lowered text) = lowered text := by
  rw [lowered, lowered, String.toList_ofList, Text.lower_lower]

end Phrasebook
