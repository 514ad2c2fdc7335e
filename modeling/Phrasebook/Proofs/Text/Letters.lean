import Mathlib
import Phrasebook.Text.Blank
import Phrasebook.Text.CaseFold

/-!
# Blanks have no case

No case mapping moves a blank or makes one, so characters that are equal up to case are both blank
or both not.
-/

namespace Phrasebook.Text

/-- What holds of the code points below a bound holds of their characters. -/
theorem forall_char_lt {bound : Nat} {P : Char → Prop}
    (hall : ∀ code < bound, P (Char.ofNat code)) (c : Char) (hc : c.toNat < bound) : P c := by
  have hchar := hall c.toNat hc
  rwa [Char.ofNat_toNat] at hchar

/-- The blanks as ranges of code points. -/
def blankRanges : List Range :=
  [⟨9, 13⟩, ⟨28, 32⟩, ⟨0x85, 0x85⟩, ⟨0xA0, 0xA0⟩, ⟨0x1680, 0x1680⟩, ⟨0x2000, 0x200A⟩,
    ⟨0x2028, 0x2029⟩, ⟨0x202F, 0x202F⟩, ⟨0x205F, 0x205F⟩, ⟨0x3000, 0x3000⟩]

/-- The code points from `first` to `last` are not blank. -/
def Clear (first last : Nat) : Prop :=
  ∀ range ∈ blankRanges, last < range.first ∨ range.last < first

theorem clear_iff {first last : Nat} : Clear first last ↔
    (blankRanges.all fun range => last.blt range.first || range.last.blt first) = true := by
  simp [Clear, List.all_eq_true, Nat.blt_eq]

-- The tables are long, so their ranges are compared by tests and not by proofs.
instance (first last : Nat) : Decidable (Clear first last) := decidable_of_iff _ clear_iff.symm

theorem isBlank_eq_false_of_clear {c : Char} (first last : Nat) (hclear : Clear first last)
    (hfirst : first ≤ c.toNat) (hlast : c.toNat ≤ last) : isBlank c = false := by
  simp only [Clear, blankRanges, List.forall_mem_cons, List.not_mem_nil, false_implies,
    implies_true, and_true] at hclear
  rw [← Bool.not_eq_true]
  intro hblank
  unfold isBlank at hblank
  dsimp only at hblank
  split at hblank
  all_goals
    simp only [Bool.or_eq_true, Bool.and_eq_true, decide_eq_true_eq, beq_iff_eq] at hblank
    omega

theorem isBlank_ofNat_eq_false {code : Nat} (first last : Nat) (hclear : Clear first last)
    (hfirst : first ≤ code) (hlast : code ≤ last) : isBlank (Char.ofNat code) = false := by
  by_cases hvalid : code.isValidChar
  · refine isBlank_eq_false_of_clear first last hclear ?_ ?_ <;> simpa [Char.toNat_ofNat, hvalid]
  · have hzero : (Char.ofNat code).toNat = 0 := by simp [Char.toNat_ofNat, hvalid]
    exact isBlank_eq_false_of_clear 0 0 (by decide) (by omega) (by omega)

theorem exists_shift_of_shifted? {shifts : List Shift} {code image : Nat}
    (hsome : shifted? shifts code = some image) :
    ∃ shift ∈ shifts, shift.first ≤ code ∧ code ≤ shift.last ∧
      (code - shift.first) % shift.step = 0 ∧ image = shift.target + (code - shift.first) := by
  induction shifts with
  | nil => simp [shifted?] at hsome
  | cons shift shifts ih =>
      rw [shifted?] at hsome
      split at hsome
      · simp at hsome
      · rename_i hfirst
        split at hsome
        · rename_i hlast
          split at hsome
          · rename_i hstep
            exact ⟨shift, List.mem_cons_self, by omega, hlast, hstep, by simpa using hsome.symm⟩
          · simp at hsome
        · obtain ⟨found, hmem, hfound⟩ := ih hsome
          exact ⟨found, List.mem_cons_of_mem shift hmem, hfound⟩

theorem lowerShifts_clear :
    ∀ shift ∈ lowerShifts, Clear shift.first shift.last ∧
      Clear shift.target (shift.target + (shift.last - shift.first)) := by
  decide +kernel

theorem kinPairs_clear :
    ∀ pair ∈ kinPairs, Clear pair.1 pair.1 ∧ Clear pair.2 pair.2 := by
  decide

@[simp]
theorem isBlank_lowerChar (c : Char) : isBlank (lowerChar c) = isBlank c := by
  unfold lowerChar
  dsimp only
  split
  · split
    · rename_i hcapital
      simp only [Bool.and_eq_true, decide_eq_true_eq] at hcapital
      rw [isBlank_ofNat_eq_false 97 122 (by decide) (by omega) (by omega),
        isBlank_eq_false_of_clear 65 90 (by decide) hcapital.1 hcapital.2]
    · rfl
  · split
    · rename_i image himage
      obtain ⟨shift, hmem, hfirst, hlast, -, rfl⟩ := exists_shift_of_shifted? himage
      obtain ⟨hsource, htarget⟩ := lowerShifts_clear shift hmem
      rw [isBlank_eq_false_of_clear _ _ hsource hfirst hlast,
        isBlank_ofNat_eq_false _ _ htarget (by omega) (by omega)]
    · rfl

@[simp]
theorem isBlank_kinKey (c : Char) : isBlank (kinKey c) = isBlank c := by
  unfold kinKey
  split
  · rfl
  · split
    · rename_i pair hfind
      obtain ⟨hsource, htarget⟩ := kinPairs_clear pair (List.mem_of_find?_eq_some hfind)
      have hcode : pair.1 = c.toNat := by simpa using List.find?_some hfind
      rw [isBlank_ofNat_eq_false _ _ htarget le_rfl le_rfl,
        isBlank_eq_false_of_clear _ _ hsource hcode.le hcode.ge]
    · rfl

theorem isBlank_eq_of_sameUpToCase {c d : Char} (hsame : sameUpToCase c d = true) :
    isBlank d = isBlank c := by
  rw [sameUpToCase, Bool.or_eq_true, beq_iff_eq, beq_iff_eq] at hsame
  rcases hsame with rfl | hkey
  · rfl
  · rw [← isBlank_lowerChar d, ← isBlank_kinKey, ← caseKey, ← hkey, caseKey, isBlank_kinKey,
      isBlank_lowerChar]

end Phrasebook.Text
