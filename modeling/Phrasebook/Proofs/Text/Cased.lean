import Mathlib
import Phrasebook.Proofs.Text.Lowered
import Phrasebook.Proofs.Text.Words

/-!
# Upper and title case

Upper case is final as lower case is.  A text with its first character in title case and the others
in lower case stays as it is when that is done again, with one exception: the title case of the n
after an apostrophe has its capital in the second place.
-/

namespace Phrasebook.Text

/-! ## Tables -/

theorem expanded?_eq_none_iff {table : List (Nat × List Nat)} {code : Nat} :
    expanded? table code = none ↔ ∀ row ∈ table, row.1 ≠ code := by
  simp [expanded?]

theorem exists_row_of_expanded? {table : List (Nat × List Nat)} {code : Nat} {image : List Char}
    (himage : expanded? table code = some image) :
    ∃ row ∈ table, row.1 = code ∧ image = row.2.map Char.ofNat := by
  rw [expanded?, Option.map_eq_some_iff] at himage
  obtain ⟨row, hfind, rfl⟩ := himage
  exact ⟨row, List.mem_of_find?_eq_some hfind, by simpa using List.find?_some hfind, rfl⟩

/-- The tables of one-to-many changes have no rows for the plain characters. -/
theorem expanded?_of_plain {table : List (Nat × List Nat)} (htable : ∀ row ∈ table, 128 ≤ row.1)
    {code : Nat} (hcode : code < 128) : expanded? table code = none :=
  expanded?_eq_none_iff.mpr fun row hrow => (hcode.trans_le (htable row hrow)).ne'

/-- The places that a shift leads to are none that a table of one-to-many changes starts from. -/
def avoids (shift : Shift) (row : Nat × List Nat) : Bool :=
  row.1.blt shift.target || (shift.target + (shift.last - shift.first)).blt row.1

theorem expanded?_eq_none_of_avoids {shift : Shift} {table : List (Nat × List Nat)} {code : Nat}
    (havoids : table.all (avoids shift) = true) (hlast : code ≤ shift.last) :
    expanded? table (shift.target + (code - shift.first)) = none := by
  rw [expanded?_eq_none_iff]
  intro row hrow
  have havoid := List.all_eq_true.mp havoids row hrow
  rw [avoids, Bool.or_eq_true, Nat.blt_eq, Nat.blt_eq] at havoid
  omega

/-- What holds of the characters of all code points holds of those that tables lead to: a number
that is no code point stands for the first character. -/
theorem forall_ofNat {P : Char → Prop} {code : Nat} (hzero : P (Char.ofNat 0))
    (hvalid : (Char.ofNat code).toNat = code → P (Char.ofNat code)) : P (Char.ofNat code) := by
  by_cases hcode : code.isValidChar
  · exact hvalid (by simp [Char.toNat_ofNat, hcode])
  · have hnone : Char.ofNat code = Char.ofNat 0 := by
      rw [Char.ofNat, dif_neg hcode]
      rfl
    rwa [hnone]

/-- A text without blanks begins with a character that is its own title case and has only characters
in lower case behind it. -/
def isHeaded : List Char → Bool
  | [] => false
  | c :: rest =>
      titleExpansion c == [c] && !isBlank c && rest.all fun d => lowerChar d == d && !isBlank d

/-! ### Checks

Each table is gone through once, and the lemmas that are used are read off the result. -/

/-- What upper case makes of a character is no blank and is not moved again.  A capital that has a
title case of its own belongs to a single letter which has it too. -/
structure ShiftsUp (shift : Shift) : Prop where
  clear : Clear shift.target (shift.target + (shift.last - shift.first))
  misses : missesAll shift upperShifts = true
  avoids : upperExpansions.all (avoids shift) = true
  title : titleExpansions.all (Text.avoids shift) = true ∧
    (shift.first = shift.last ∧ (shifted? titleShifts shift.first).isSome = true ∨
      missesAll shift titleShifts = true)

structure ExpandsUp (row : Nat × List Nat) : Prop where
  not_plain : 128 ≤ row.1
  ne_nil : row.2 ≠ []
  image : ∀ code ∈ row.2,
    Clear code code ∧ upperExpansion (Char.ofNat code) = [Char.ofNat code]
  title : row.1 = 'ŉ'.toNat ∨ (expanded? titleExpansions row.1).isSome = true ∨
    (shifted? titleShifts row.1).isSome = true ∨ isHeaded (row.2.map Char.ofNat) = true

theorem shiftsUp_of_mem : ∀ shift ∈ upperShifts, ShiftsUp shift := by
  have hchecked : ∀ shift ∈ upperShifts,
      Clear shift.target (shift.target + (shift.last - shift.first)) ∧
        missesAll shift upperShifts = true ∧ upperExpansions.all (avoids shift) = true ∧
          titleExpansions.all (avoids shift) = true ∧
            (shift.first = shift.last ∧ (shifted? titleShifts shift.first).isSome = true ∨
              missesAll shift titleShifts = true) := by
    decide +kernel
  intro shift hshift
  obtain ⟨hclear, hmisses, havoids, htitle⟩ := hchecked shift hshift
  exact ⟨hclear, hmisses, havoids, htitle⟩

theorem ShiftsUp.isBlank_image {shift : Shift} (hup : ShiftsUp shift) {code : Nat}
    (hlast : code ≤ shift.last) :
    isBlank (Char.ofNat (shift.target + (code - shift.first))) = false := by
  apply isBlank_ofNat_eq_false _ _ hup.clear (Nat.le_add_right _ _)
  exact Nat.add_le_add_left (Nat.sub_le_sub_right hlast _) _

theorem expandsUp_of_mem : ∀ row ∈ upperExpansions, ExpandsUp row := by
  have hchecked : ∀ row ∈ upperExpansions, 128 ≤ row.1 ∧ row.2 ≠ [] ∧
      (∀ code ∈ row.2,
        Clear code code ∧ upperExpansion (Char.ofNat code) = [Char.ofNat code]) ∧
      (row.1 = 'ŉ'.toNat ∨ (expanded? titleExpansions row.1).isSome = true ∨
        (shifted? titleShifts row.1).isSome = true ∨ isHeaded (row.2.map Char.ofNat) = true) := by
    decide +kernel
  intro row hrow
  obtain ⟨hplain, hpresent, himage, htitle⟩ := hchecked row hrow
  exact ⟨hplain, hpresent, himage, htitle⟩

theorem titles_headed :
    (∀ row ∈ titleExpansions, 128 ≤ row.1 ∧ isHeaded (row.2.map Char.ofNat) = true) ∧
      ∀ shift ∈ titleShifts, ∀ step < shift.last - shift.first + 1,
        isHeaded [Char.ofNat (shift.target + step)] = true := by
  decide +kernel

/-! ## Upper case -/

theorem upperExpansion_eq (c : Char) :
    upperExpansion c = (expanded? upperExpansions c.toNat).getD
      [(shifted? upperShifts c.toNat).elim c Char.ofNat] := by
  by_cases hcode : c.toNat < 128
  · rw [expanded?_of_plain (fun row hrow => (expandsUp_of_mem row hrow).not_plain) hcode,
      Option.getD_none]
    refine forall_char_lt (P := fun c => upperExpansion c =
      [(shifted? upperShifts c.toNat).elim c Char.ofNat]) ?_ c hcode
    decide
  · rw [upperExpansion]
    simp only [hcode, if_false]
    cases expanded? upperExpansions c.toNat <;> cases shifted? upperShifts c.toNat <;> rfl

theorem upperExpansion_ofNat {code : Nat} (hexpanded : expanded? upperExpansions code = none)
    (hshifted : shifted? upperShifts code = none) :
    upperExpansion (Char.ofNat code) = [Char.ofNat code] := by
  refine forall_ofNat (P := fun c => upperExpansion c = [c]) (by decide) fun hcode => ?_
  rw [upperExpansion_eq, hcode, hexpanded, hshifted]
  rfl

theorem isBlank_of_mem_upperExpansion {c d : Char} (hc : isBlank c = false)
    (hd : d ∈ upperExpansion c) : isBlank d = false := by
  rw [upperExpansion_eq] at hd
  cases hexpanded : expanded? upperExpansions c.toNat with
  | some image =>
      obtain ⟨row, hrow, -, rfl⟩ := exists_row_of_expanded? hexpanded
      rw [hexpanded, Option.getD_some, List.mem_map] at hd
      obtain ⟨code, hcode, rfl⟩ := hd
      have hclear := ((expandsUp_of_mem row hrow).image code hcode).1
      exact isBlank_ofNat_eq_false _ _ hclear le_rfl le_rfl
  | none =>
      rw [hexpanded, Option.getD_none, List.mem_singleton] at hd
      cases hshifted : shifted? upperShifts c.toNat with
      | none => rwa [hd, hshifted]
      | some image =>
          obtain ⟨shift, hshift, hfirst, hlast, -, rfl⟩ := exists_shift_of_shifted? hshifted
          rw [hd, hshifted, Option.elim_some]
          exact (shiftsUp_of_mem shift hshift).isBlank_image hlast

theorem upperExpansion_ne_nil (c : Char) : upperExpansion c ≠ [] := by
  rw [upperExpansion_eq]
  cases himage : expanded? upperExpansions c.toNat with
  | none => exact List.cons_ne_nil _ _
  | some image =>
      obtain ⟨row, hrow, -, rfl⟩ := exists_row_of_expanded? himage
      exact fun hnil => (expandsUp_of_mem row hrow).ne_nil (List.map_eq_nil_iff.mp hnil)

/-- A character of the upper case of another one is its own upper case. -/
theorem upperExpansion_of_mem {c d : Char} (hd : d ∈ upperExpansion c) :
    upperExpansion d = [d] := by
  have hcase := upperExpansion_eq c
  cases hexpanded : expanded? upperExpansions c.toNat with
  | some image =>
      obtain ⟨row, hrow, -, rfl⟩ := exists_row_of_expanded? hexpanded
      rw [hcase, hexpanded, Option.getD_some, List.mem_map] at hd
      obtain ⟨code, hcode, rfl⟩ := hd
      exact ((expandsUp_of_mem row hrow).image code hcode).2
  | none =>
      rw [hexpanded, Option.getD_none] at hcase
      rw [hcase, List.mem_singleton] at hd
      cases hshifted : shifted? upperShifts c.toNat with
      | none => rw [hd, hshifted, Option.elim_none, hcase, hshifted, Option.elim_none]
      | some image =>
          obtain ⟨shift, hshift, hfirst, hlast, hstep, rfl⟩ := exists_shift_of_shifted? hshifted
          have hup := shiftsUp_of_mem shift hshift
          rw [hd, hshifted, Option.elim_some]
          exact upperExpansion_ofNat (expanded?_eq_none_of_avoids hup.avoids hlast)
            (shifted?_eq_none_of_misses hup.misses hfirst hlast hstep)

theorem upper_eq_self {text : List Char} (htext : ∀ c ∈ text, upperExpansion c = [c]) :
    upper text = text := by
  induction text with
  | nil => rfl
  | cons c text ih =>
      rw [List.forall_mem_cons] at htext
      rw [upper, List.flatMap_cons, htext.1, ← upper, ih htext.2]
      rfl

theorem upperExpansion_of_mem_upper {text : List Char} {d : Char} (hd : d ∈ upper text) :
    upperExpansion d = [d] := by
  obtain ⟨c, -, hc⟩ := List.mem_flatMap.mp hd
  exact upperExpansion_of_mem hc

/-! ## Title case -/

theorem titleExpansion_eq (c : Char) :
    titleExpansion c = (expanded? titleExpansions c.toNat).getD
      ((shifted? titleShifts c.toNat).elim (upperExpansion c) fun image => [Char.ofNat image]) := by
  by_cases hcode : c.toNat < 128
  · have hshifted : shifted? titleShifts c.toNat = none := by
      rw [titleShifts, shifted?]
      exact if_pos (hcode.trans (by decide))
    have hplain := fun row hrow => (titles_headed.1 row hrow).1
    rw [titleExpansion, if_pos hcode, expanded?_of_plain hplain hcode, hshifted]
    rfl
  · rw [titleExpansion]
    simp only [hcode, if_false]
    cases expanded? titleExpansions c.toNat <;> cases shifted? titleShifts c.toNat <;> rfl

theorem titleExpansion_ofNat {code : Nat} (hexpanded : expanded? titleExpansions code = none)
    (hshifted : shifted? titleShifts code = none)
    (hupper : upperExpansion (Char.ofNat code) = [Char.ofNat code]) :
    titleExpansion (Char.ofNat code) = [Char.ofNat code] := by
  revert hupper
  refine forall_ofNat (P := fun c => upperExpansion c = [c] → titleExpansion c = [c])
    (fun _ => by decide) fun hcode hupper => ?_
  rw [titleExpansion_eq, hcode, hexpanded, hshifted]
  exact hupper

theorem isHeaded_singleton {c : Char} (htitle : titleExpansion c = [c])
    (hblank : isBlank c = false) : isHeaded [c] = true := by
  simp [isHeaded, htitle, hblank]

/-- Where title case is upper case. -/
theorem upperExpansion_cases {c : Char} (hexpanded : expanded? titleExpansions c.toNat = none)
    (hshifted : shifted? titleShifts c.toNat = none) :
    upperExpansion c = [c] ∨ c = 'ŉ' ∨ isHeaded (upperExpansion c) = true := by
  have hupper := upperExpansion_eq c
  cases hrow : expanded? upperExpansions c.toNat with
  | some image =>
      obtain ⟨row, hmem, hcode, rfl⟩ := exists_row_of_expanded? hrow
      rw [hrow, Option.getD_some] at hupper
      rcases (expandsUp_of_mem row hmem).title with hapostrophe | hexpansion | hshift | hheaded
      · exact .inr (.inl (Char.toNat_inj.mp (hcode.symm.trans hapostrophe)))
      · rw [hcode, hexpanded] at hexpansion
        cases hexpansion
      · rw [hcode, hshifted] at hshift
        cases hshift
      · exact .inr (.inr (hupper ▸ hheaded))
  | none =>
      rw [hrow, Option.getD_none] at hupper
      cases himage : shifted? upperShifts c.toNat with
      | none =>
          rw [himage, Option.elim_none] at hupper
          exact .inl hupper
      | some image =>
          obtain ⟨shift, hmem, hfirst, hlast, hstep, rfl⟩ := exists_shift_of_shifted? himage
          obtain ⟨havoids, ⟨hsingle, hown⟩ | hmisses⟩ := (shiftsUp_of_mem shift hmem).title
          · have hcode : c.toNat = shift.first := by omega
            rw [← hcode, hshifted] at hown
            cases hown
          · rw [himage, Option.elim_some] at hupper
            have hblank := (shiftsUp_of_mem shift hmem).isBlank_image hlast
            have himageUpper : upperExpansion (Char.ofNat _) = [Char.ofNat _] :=
              upperExpansion_of_mem (hupper ▸ List.mem_singleton_self _)
            have htitle := titleExpansion_ofNat (expanded?_eq_none_of_avoids havoids hlast)
              (shifted?_eq_none_of_misses hmisses hfirst hlast hstep) himageUpper
            exact .inr (.inr (hupper ▸ isHeaded_singleton htitle hblank))

theorem titleExpansion_cases (c : Char) :
    titleExpansion c = [c] ∨ c = 'ŉ' ∨ isHeaded (titleExpansion c) = true := by
  have htitle := titleExpansion_eq c
  cases hexpanded : expanded? titleExpansions c.toNat with
  | some image =>
      obtain ⟨row, hrow, -, rfl⟩ := exists_row_of_expanded? hexpanded
      rw [hexpanded, Option.getD_some] at htitle
      exact .inr (.inr (htitle ▸ (titles_headed.1 row hrow).2))
  | none =>
      rw [hexpanded, Option.getD_none] at htitle
      cases hshifted : shifted? titleShifts c.toNat with
      | some image =>
          obtain ⟨shift, hshift, hfirst, hlast, -, rfl⟩ := exists_shift_of_shifted? hshifted
          rw [hshifted, Option.elim_some] at htitle
          exact .inr (.inr (htitle ▸ titles_headed.2 shift hshift _ (by omega)))
      | none =>
          rw [hshifted, Option.elim_none] at htitle
          rw [htitle]
          exact upperExpansion_cases hexpanded hshifted

/-- The title case of a character begins with its own title case, and behind that stand characters
in lower case, except behind an apostrophe. -/
theorem exists_titleExpansion (c : Char) : ∃ head rest, titleExpansion c = head :: rest ∧
    titleExpansion head = [head] ∧
      (rest = ['N'] ∧ head = 'ʼ' ∨ ∀ d ∈ rest, lowerChar d = d) ∧
        (isBlank c = false → ∀ d ∈ head :: rest, isBlank d = false) := by
  obtain htitle | rfl | hheaded := titleExpansion_cases c
  · exact ⟨c, [], htitle, htitle, .inr nofun, fun hc => List.forall_mem_singleton.mpr hc⟩
  · exact ⟨'ʼ', ['N'], by decide, by decide, .inl ⟨rfl, rfl⟩,
      fun _ => List.forall_mem_cons.mpr ⟨by decide, List.forall_mem_singleton.mpr (by decide)⟩⟩
  · cases hform : titleExpansion c with
    | nil =>
        rw [hform] at hheaded
        cases hheaded
    | cons head rest =>
        rw [hform, isHeaded, Bool.and_eq_true, Bool.and_eq_true, beq_iff_eq, List.all_eq_true,
          Bool.not_eq_true'] at hheaded
        obtain ⟨⟨htitle, hblank⟩, hrest⟩ := hheaded
        have hboth : ∀ d ∈ rest, lowerChar d = d ∧ isBlank d = false := fun d hd => by
          simpa using hrest d hd
        exact ⟨head, rest, rfl, htitle, .inr fun d hd => (hboth d hd).1,
          fun _ => List.forall_mem_cons.mpr ⟨hblank, fun d hd => (hboth d hd).2⟩⟩

/-! ## Capitalized texts -/

theorem not_prefix_of_lower {head : Char} {rest : List Char} (hrest : ∀ d ∈ rest, lowerChar d = d) :
    ¬ ['ʼ', 'N'] <+: head :: rest := by
  rw [List.cons_prefix_cons]
  rintro ⟨-, hcapital⟩
  exact absurd (hrest 'N' (hcapital.subset (List.mem_singleton_self _))) (by decide)

/-- What a capitalized text begins with keeps its length when it is capitalized again, and changes
only where the capital stands behind an apostrophe. -/
theorem capitalize_of_prefix {text start : List Char} (hstart : start <+: capitalize text) :
    (capitalize start).length = start.length ∧
      (capitalize start = start ↔ ¬ ['ʼ', 'N'] <+: start) := by
  cases text with
  | nil =>
      rw [List.prefix_nil.mp hstart]
      exact ⟨rfl, iff_of_true rfl (by decide)⟩
  | cons c text =>
      obtain ⟨head, tail, htitle, hhead, htail, -⟩ := exists_titleExpansion c
      rw [capitalize, htitle, List.cons_append, List.prefix_cons_iff] at hstart
      obtain rfl | ⟨start, rfl, hstart⟩ := hstart
      · exact ⟨rfl, iff_of_true rfl (by decide)⟩
      have hlowered : ∀ d ∈ lowerAfter [c] text, lowerChar d = d :=
        fun _ hd => lowerChar_of_mem_lowerAfter hd
      rw [capitalize, hhead, List.singleton_append]
      obtain ⟨rfl, rfl⟩ | htail := htail
      · rw [List.singleton_append, List.prefix_cons_iff] at hstart
        obtain rfl | ⟨start, rfl, hstart⟩ := hstart
        · exact ⟨rfl, iff_of_true rfl (by decide)⟩
        · have hsmall : lowerAfter ['ʼ'] ('N' :: start) = 'n' :: start := by
            rw [lowerAfter, lowerAfter_eq_self fun d hd => hlowered d (hstart.subset hd)]
            rfl
          rw [hsmall]
          refine ⟨rfl, iff_of_false ?_ ?_⟩
          · exact fun heq => absurd (List.cons.inj (List.cons.inj heq).2).1 (by decide)
          · exact not_not.mpr ⟨start, rfl⟩
      · have hfinal : ∀ d ∈ start, lowerChar d = d := fun d hd =>
          (List.mem_append.mp (hstart.subset hd)).elim (htail d) (hlowered d)
        rw [lowerAfter_eq_self hfinal]
        exact ⟨rfl, iff_of_true rfl (not_prefix_of_lower hfinal)⟩

/-! ## Blanks -/

/-- Every character of a text becomes at least one, and none becomes a blank that was not one. -/
inductive Expands : List Char → List Char → Prop
  | nil : Expands [] []
  | cons {c : Char} {piece text image : List Char} (hpiece : piece ≠ [])
      (hblank : isBlank c = false → ∀ d ∈ piece, isBlank d = false) (hrest : Expands text image) :
      Expands (c :: text) (piece ++ image)

theorem Expands.refl (text : List Char) : Expands text text := by
  induction text with
  | nil => exact .nil
  | cons c text ih =>
      exact .cons (List.cons_ne_nil c []) (fun hc => List.forall_mem_singleton.mpr hc) ih

section

variable {text image : List Char} (hexpands : Expands text image)

include hexpands

theorem Expands.ne_nil (htext : text ≠ []) : image ≠ [] := by
  cases hexpands with
  | nil => exact absurd rfl htext
  | cons hpiece hblank hrest => exact List.append_ne_nil_of_left_ne_nil hpiece _

theorem Expands.isBlank_head? (htext : ∀ c ∈ text.head?, isBlank c = false) :
    ∀ d ∈ image.head?, isBlank d = false := by
  cases hexpands with
  | nil => nofun
  | cons hpiece hblank hrest =>
      rw [List.head?_append_of_ne_nil _ hpiece]
      exact fun d hd => hblank (htext _ rfl) d (List.mem_of_mem_head? hd)

theorem Expands.isBlank_getLast? (htext : ∀ c ∈ text.getLast?, isBlank c = false) :
    ∀ d ∈ image.getLast?, isBlank d = false := by
  induction hexpands with
  | nil => nofun
  | @cons c piece text image hpiece hblank hrest ih =>
      by_cases hempty : text = []
      · subst hempty
        cases hrest
        rw [List.append_nil]
        exact fun d hd => hblank (htext _ rfl) d (List.mem_of_mem_getLast? hd)
      · rw [List.getLast?_append_of_ne_nil _ (hrest.ne_nil hempty)]
        rw [List.getLast?_cons_of_ne_nil hempty] at htext
        exact ih htext

theorem Expands.trim_eq (htext : trim text = text) : trim image = image := by
  obtain ⟨hhead, hlast⟩ := trim_eq_self_iff.mp htext
  exact trim_eq_self_iff.mpr ⟨hexpands.isBlank_head? hhead, hexpands.isBlank_getLast? hlast⟩

end

theorem expands_lowerAfter (before text : List Char) : Expands text (lowerAfter before text) := by
  induction text generalizing before with
  | nil => exact .nil
  | cons c text ih =>
      rw [lowerAfter]
      split
      · refine .cons (List.cons_ne_nil _ _) (fun _ => List.forall_mem_singleton.mpr ?_) (ih _)
        rw [smallSigma]
        split <;> decide
      · rw [lowerExpansion]
        split
        · refine .cons (List.cons_ne_nil _ _) (fun _ => List.forall_mem_cons.mpr ⟨by decide, ?_⟩)
            (ih _)
          exact List.forall_mem_singleton.mpr (by decide)
        · refine .cons (List.cons_ne_nil _ _) (fun hc => List.forall_mem_singleton.mpr ?_) (ih _)
          rw [isBlank_lowerChar, hc]

theorem expands_upper (text : List Char) : Expands text (upper text) := by
  induction text with
  | nil => exact .nil
  | cons c text ih =>
      rw [upper, List.flatMap_cons]
      exact .cons (upperExpansion_ne_nil c) (fun hc _ hd => isBlank_of_mem_upperExpansion hc hd) ih

theorem expands_capitalize (text : List Char) : Expands text (capitalize text) := by
  cases text with
  | nil => exact .nil
  | cons c text =>
      obtain ⟨head, tail, htitle, -, -, hblank⟩ := exists_titleExpansion c
      rw [capitalize, htitle]
      exact .cons (List.cons_ne_nil _ _) hblank (expands_lowerAfter _ _)

end Phrasebook.Text
