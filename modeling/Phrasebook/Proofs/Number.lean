import Mathlib
import Phrasebook.Number

/-!
# The order of numbers

All numbers but the undefined one have a place on the line, and those are totally ordered.
-/

namespace Phrasebook.Number

variable {low high : Number}

theorem extent?_eq_none_iff {number : Number} : number.extent? = none ↔ number = .real .nan := by
  cases number with
  | int value => exact iff_of_false nofun nofun
  | real value =>
      cases value with
      | nan => exact iff_of_true rfl rfl
      | infinite negative => exact iff_of_false nofun nofun
      | finite negative steps => exact iff_of_false nofun nofun

theorem Extent.lt_irrefl (extent : Extent) : extent.lt extent = false := by
  cases extent <;> simp [Extent.lt]

theorem Extent.lt_asymm {left right : Extent} (hlt : left.lt right = true) :
    right.lt left = false := by
  cases left <;> cases right <;> simp_all [Extent.lt]
  omega

theorem Extent.lt_trans {left middle right : Extent} (hleft : left.lt middle = true)
    (hright : middle.lt right = true) : left.lt right = true := by
  cases left <;> cases middle <;> cases right <;> simp_all [Extent.lt]
  omega

theorem lt_trans {middle : Number} (hlow : low.lt middle = true) (hhigh : middle.lt high = true) :
    low.lt high = true := by
  rw [lt] at hlow hhigh ⊢
  split at hlow
  · rename_i first second hfirst hsecond
    rw [hsecond] at hhigh
    rw [hfirst]
    split at hhigh
    · rename_i third fourth hthird hfourth
      cases hthird
      rw [hfourth]
      exact Extent.lt_trans hlow hhigh
    · exact absurd hhigh nofun
  · exact absurd hlow nofun

theorem Extent.lt_eq_false_trans {left middle right : Extent} (hleft : middle.lt left = false)
    (hright : right.lt middle = false) : right.lt left = false := by
  cases left <;> cases middle <;> cases right <;> simp_all [Extent.lt]
  omega

theorem le_trans {middle : Number} (hlow : low.le middle = true) (hhigh : middle.le high = true) :
    low.le high = true := by
  rw [le] at hlow hhigh ⊢
  split at hlow
  · rename_i first second hfirst hsecond
    rw [hsecond] at hhigh
    rw [hfirst]
    split at hhigh
    · rename_i third fourth hthird hfourth
      cases hthird
      rw [hfourth]
      rw [Bool.not_eq_true'] at hlow hhigh ⊢
      exact Extent.lt_eq_false_trans hlow hhigh
    · exact absurd hhigh nofun
  · exact absurd hlow nofun

theorem le_of_lt (hlt : low.lt high = true) : low.le high = true := by
  rw [lt] at hlt
  rw [le]
  split at hlt
  · simpa using Extent.lt_asymm hlt
  · exact absurd hlt nofun

/-- A number other than the undefined one. -/
def IsDefined (number : Number) : Prop := number.extent?.isSome = true

theorem le_of_lt_eq_false (hlow : low.IsDefined) (hhigh : high.IsDefined)
    (hlt : high.lt low = false) : low.le high = true := by
  obtain ⟨first, hfirst⟩ := Option.isSome_iff_exists.mp hlow
  obtain ⟨second, hsecond⟩ := Option.isSome_iff_exists.mp hhigh
  rw [lt, hsecond, hfirst] at hlt
  rw [le, hfirst, hsecond]
  simpa using hlt

theorem isDefined_of_le (hle : low.le high = true) : high.IsDefined := by
  rw [le] at hle
  split at hle
  · rename_i hextent
    rw [IsDefined, hextent, Option.isSome_some]
  · exact absurd hle nofun

theorem isDefined_iff {number : Number} : number.IsDefined ↔ number ≠ .real .nan := by
  rw [IsDefined, Option.isSome_iff_ne_none, ne_eq, extent?_eq_none_iff]

theorem isDefined_left_of_le (hle : low.le high = true) : low.IsDefined := by
  rw [le] at hle
  split at hle
  · rename_i hextent _
    rw [IsDefined, hextent, Option.isSome_some]
  · exact absurd hle nofun

/-- Of two defined numbers one is at most the other or above it, and of others neither. -/
theorem le_iff_isDefined_of_lt_eq_false (hlt : high.lt low = false) :
    low.le high = true ↔ high.IsDefined ∧ low.IsDefined :=
  ⟨fun hle => ⟨isDefined_of_le hle, isDefined_left_of_le hle⟩,
    fun hboth => le_of_lt_eq_false hboth.2 hboth.1 hlt⟩

theorem IsDefined.le_refl {number : Number} (hdefined : number.IsDefined) :
    number.le number = true := by
  obtain ⟨extent, hextent⟩ := Option.isSome_iff_exists.mp hdefined
  rw [le, hextent]
  simpa using Extent.lt_irrefl extent

theorem lt_eq_false_of_le (hle : low.le high = true) :
    high.lt low = false := by
  rw [le] at hle
  rw [lt]
  split at hle
  · rename_i first second hlow hhigh
    rw [hlow, hhigh]
    simpa using hle
  · exact absurd hle nofun

theorem same_iff : low.same high = true ↔
    ∃ extent, low.extent? = some extent ∧ high.extent? = some extent := by
  rw [same]
  split
  · rename_i first second hlow hhigh
    rw [hlow, hhigh, beq_iff_eq]
    constructor
    · rintro rfl
      exact ⟨first, rfl, rfl⟩
    · rintro ⟨extent, hfirst, hsecond⟩
      exact Option.some.inj (hfirst.trans hsecond.symm)
  · rename_i hmissing
    refine iff_of_false Bool.false_ne_true ?_
    rintro ⟨extent, hfirst, hsecond⟩
    exact hmissing extent extent hfirst hsecond

theorem same_symm (hsame : low.same high = true) : high.same low = true := by
  obtain ⟨extent, hlow, hhigh⟩ := same_iff.mp hsame
  exact same_iff.mpr ⟨extent, hhigh, hlow⟩

theorem same_trans {middle : Number} (hlow : low.same middle = true)
    (hhigh : middle.same high = true) : low.same high = true := by
  obtain ⟨extent, hfirst, hsecond⟩ := same_iff.mp hlow
  obtain ⟨other, hthird, hfourth⟩ := same_iff.mp hhigh
  cases hsecond.symm.trans hthird
  exact same_iff.mpr ⟨extent, hfirst, hfourth⟩

theorem int_lt_int (low high : Int) : (int low).lt (int high) = decide (low < high) := by
  have hone : 0 < (Real64.one : Int) := by decide +kernel
  have hlt : low * Real64.one < high * Real64.one ↔ low < high := Int.mul_lt_mul_right hone
  rw [← decide_eq_decide.mpr hlt]
  rfl

end Phrasebook.Number
