import Mathlib
import Phrasebook.Numeral
import Phrasebook.Proofs.Text.Small

/-!
# What numerals write

A row of digits writes a number with no more digits than the row has.  The undefined number has a
name and no numeral: no decimal rounds to it, and no low line hides in its name.
-/

namespace Phrasebook.Numeral

variable {digits text : List Char}

/-! ## Rows of digits -/

theorem toNat_of_isDigit {c : Char} (hdigit : c.isDigit = true) : 48 ≤ c.toNat ∧ c.toNat ≤ 57 := by
  rw [Char.isDigit, Bool.and_eq_true, decide_eq_true_eq, decide_eq_true_eq] at hdigit
  exact hdigit

theorem isPlainBlank_of_isDigit {c : Char} (hdigit : c.isDigit = true) :
    isPlainBlank c = false := by
  obtain ⟨hlow, hhigh⟩ := toNat_of_isDigit hdigit
  rw [← Bool.not_eq_true, isPlainBlank, Bool.or_eq_true, beq_iff_eq, Bool.and_eq_true,
    decide_eq_true_eq, decide_eq_true_eq]
  rintro (rfl | hcontrol)
  · exact absurd hlow (by decide)
  · omega

theorem isAlpha_of_isDigit {c : Char} (hdigit : c.isDigit = true) : c.isAlpha = false := by
  obtain ⟨-, hhigh⟩ := toNat_of_isDigit hdigit
  exact Text.forall_char_lt (P := fun c => c.isAlpha = false) (by decide) c
    (show c.toNat < 58 by omega)

theorem natOfDigits_lt (hdigits : ∀ c ∈ digits, c.isDigit = true) (start : Nat) :
    natOfDigits start digits < (start + 1) * 10 ^ digits.length := by
  induction digits generalizing start with
  | nil => simp [natOfDigits]
  | cons c digits ih =>
      rw [List.forall_mem_cons] at hdigits
      have hdigit : digitOf c ≤ 9 := by
        obtain ⟨hlow, hhigh⟩ := toNat_of_isDigit hdigits.1
        have hzero : '0'.toNat = 48 := rfl
        rw [digitOf, hzero]
        omega
      calc natOfDigits (start * 10 + digitOf c) digits
          < (start * 10 + digitOf c + 1) * 10 ^ digits.length := ih hdigits.2 _
        _ ≤ (start + 1) * 10 * 10 ^ digits.length := by gcongr; omega
        _ = (start + 1) * 10 ^ (c :: digits).length := by rw [List.length_cons, pow_succ']; ring

theorem dropWhile_isPlainBlank_eq_self (htext : ∀ c ∈ text, isPlainBlank c = false) :
    text.dropWhile isPlainBlank = text := by
  cases text with
  | nil => rfl
  | cons c rest => rw [List.dropWhile_cons, htext c List.mem_cons_self, if_neg Bool.false_ne_true]

/-- Plain characters without a blank among them are all kept. -/
theorem stripped_eq_self (hplain : ∀ c ∈ text, c.toNat < 128)
    (hblank : ∀ c ∈ text, isPlainBlank c = false) : stripped text = text := by
  have hmap : plain text = text :=
    (List.map_congr_left fun c hc => if_pos (hplain c hc)).trans text.map_id
  have hreverse : ∀ c ∈ text.reverse, isPlainBlank c = false :=
    fun c hc => hblank c (List.mem_reverse.mp hc)
  rw [stripped, hmap, dropWhile_isPlainBlank_eq_self hblank,
    dropWhile_isPlainBlank_eq_self hreverse, List.reverse_reverse]

theorem lowLinesFit_of_forall_ne (htext : ∀ c ∈ text, c ≠ '_') (afterDigit : Bool) :
    lowLinesFit afterDigit text = true := by
  induction text generalizing afterDigit with
  | nil => rfl
  | cons c rest ih =>
      rw [List.forall_mem_cons] at htext
      rw [lowLinesFit]
      · exact ih htext.2 _
      · exact fun heq => absurd heq htext.1
      · exact fun _ _ heq => absurd heq htext.1

theorem withoutLowLines?_of_forall_ne (htext : ∀ c ∈ text, c ≠ '_') :
    withoutLowLines? text = some text := by
  rw [withoutLowLines?, if_pos (lowLinesFit_of_forall_ne htext false),
    List.filter_eq_self.mpr fun c hc => bne_iff_ne.mpr (htext c hc)]

theorem readSign_of_ne {c : Char} (hminus : c ≠ '-') (hplus : c ≠ '+') :
    readSign (c :: text) = (false, c :: text) := by
  rw [readSign]
  · exact fun _ heq => hminus (List.cons.inj heq).1
  · exact fun _ heq => hplus (List.cons.inj heq).1

theorem readDigits?_of_digits (hdigits : ∀ c ∈ digits, c.isDigit = true) (hne : digits ≠ []) :
    readDigits? digits = some (digits, []) := by
  have hlines : ∀ c ∈ digits, c ≠ '_' := by
    rintro c hc rfl
    exact absurd (hdigits _ hc) (by decide)
  have htake : digits.takeWhile (fun c => c.isDigit || c == '_') = digits :=
    List.takeWhile_eq_self_iff.mpr fun c hc => by rw [hdigits c hc, Bool.true_or]
  have hdrop : digits.dropWhile (fun c => c.isDigit || c == '_') = [] :=
    List.dropWhile_eq_nil_iff.mpr fun c hc => by rw [hdigits c hc, Bool.true_or]
  unfold readDigits?
  dsimp only
  rw [htake, hdrop, withoutLowLines?_of_forall_ne hlines]
  cases digits with
  | nil => exact absurd rfl hne
  | cons c rest => rfl

/-- A row of digits is read as a whole number, unless there are too many of them. -/
theorem wholeOf_digits (hdigits : ∀ c ∈ digits, c.isDigit = true) (hne : digits ≠ [])
    (negative : Bool) :
    wholeOf ((if negative then ['-'] else []) ++ digits) =
      if longest < digits.length then .error (.tooLong digits.length)
      else .ok (if negative then -natOfDigits 0 digits else natOfDigits 0 digits) := by
  have hstripped : stripped ((if negative then ['-'] else []) ++ digits) =
      (if negative then ['-'] else []) ++ digits := by
    have hdigit : ∀ c ∈ digits, c.toNat < 128 ∧ isPlainBlank c = false := by
      intro c hc
      have hbounds := toNat_of_isDigit (hdigits c hc)
      exact ⟨by omega, isPlainBlank_of_isDigit (hdigits c hc)⟩
    cases negative with
    | false => exact stripped_eq_self (fun c hc => (hdigit c hc).1) fun c hc => (hdigit c hc).2
    | true =>
        exact stripped_eq_self
          (List.forall_mem_cons.mpr ⟨by decide, fun c hc => (hdigit c hc).1⟩)
          (List.forall_mem_cons.mpr ⟨by decide, fun c hc => (hdigit c hc).2⟩)
  have hsign : readSign ((if negative then ['-'] else []) ++ digits) = (negative, digits) := by
    cases negative with
    | true => rfl
    | false =>
        cases digits with
        | nil => exact absurd rfl hne
        | cons c rest =>
            have hdigit := hdigits c List.mem_cons_self
            refine readSign_of_ne ?_ ?_ <;>
              · rintro rfl
                exact absurd hdigit (by decide)
  unfold wholeOf
  rw [hstripped, hsign]
  dsimp only
  rw [readDigits?_of_digits hdigits hne]
  rfl

/-! ## The undefined number -/

/-- The text is the name of the undefined number, in letters of any case and with a sign or without
one. -/
def NamesUndefined (text : String) : Prop :=
  ∃ sign ∈ [[], ['+'], ['-']], Text.uncase (stripped text.toList) = sign ++ ['n', 'a', 'n']

instance (text : String) : Decidable (NamesUndefined text) :=
  inferInstanceAs (Decidable (∃ sign ∈ [[], ['+'], ['-']],
    Text.uncase (stripped text.toList) = sign ++ ['n', 'a', 'n']))

theorem ofRatio_ne_nan (negative : Bool) (num den : Nat) :
    Real64.ofRatio negative num den ≠ .nan := by
  rw [Real64.ofRatio, Real64.ofSteps]
  split <;> nofun

theorem ofDecimal_ne_nan (negative : Bool) (value : Nat) (power : Int) :
    Real64.ofDecimal negative value power ≠ .nan := by
  unfold Real64.ofDecimal
  dsimp only
  split
  · nofun
  split
  · nofun
  split
  · nofun
  split <;> exact ofRatio_ne_nan _ _ _

theorem decimal?_ne_nan (negative : Bool) (text : List Char) :
    decimal? negative text ≠ some .nan := by
  intro hnan
  unfold decimal? at hnan
  dsimp only at hnan
  split at hnan
  · cases hnan
  split at hnan
  · exact ofDecimal_ne_nan _ _ _ (Option.some.inj hnan)
  split at hnan
  · obtain ⟨power, -, hpower⟩ := Option.map_eq_some_iff.mp hnan
    exact ofDecimal_ne_nan _ _ _ hpower
  · cases hnan

theorem named?_eq_nan_iff (negative : Bool) :
    named? negative text = some .nan ↔ Text.uncase text = ['n', 'a', 'n'] := by
  have hname : ∀ name : String, String.ofList (text.map Char.toLower) = name ↔
      Text.uncase text = name.toList := by
    intro name
    rw [← String.toList_inj, String.toList_ofList, Text.uncase]
  unfold named?
  dsimp only
  simp only [Bool.or_eq_true, beq_iff_eq, hname]
  split
  · rename_i hinfinite
    refine iff_of_false (by rintro ⟨⟩) fun hnan => ?_
    rw [hnan] at hinfinite
    exact absurd hinfinite (by decide)
  · split
    · rename_i hnan
      exact iff_of_true rfl hnan
    · rename_i hnan
      exact iff_of_false (by rintro ⟨⟩) hnan

theorem exists_isDigit_of_lowLinesFit {afterDigit : Bool}
    (hfit : lowLinesFit afterDigit text = true) (hline : '_' ∈ text) :
    ∃ c ∈ text, c.isDigit = true := by
  fun_induction lowLinesFit afterDigit text with
  | case1 => exact absurd hline List.not_mem_nil
  | case2 => cases hfit
  | case3 afterDigit c rest ih =>
      simp only [Bool.and_eq_true] at hfit
      exact ⟨c, by simp, hfit.1.2⟩
  | case4 afterDigit c rest hnone hsome ih =>
      have hrest : '_' ∈ rest := by
        rcases List.mem_cons.mp hline with rfl | hrest
        · cases rest with
          | nil => exact absurd rfl (hnone rfl)
          | cons d rest => exact absurd rfl (hsome d rest rfl)
        · exact hrest
      obtain ⟨d, hd, hdigit⟩ := ih hfit hrest
      exact ⟨d, List.mem_cons_of_mem c hd, hdigit⟩

theorem exists_readSign (text : List Char) :
    ∃ sign ∈ [[], ['+'], ['-']], text = sign ++ (readSign text).2 := by
  unfold readSign
  split
  · exact ⟨['-'], by simp, rfl⟩
  · exact ⟨['+'], by simp, rfl⟩
  · exact ⟨[], by simp, rfl⟩

/-- The sign of a text does not depend on the case of its letters. -/
theorem readSign_uncase (text : List Char) :
    readSign (Text.uncase text) = ((readSign text).1, Text.uncase (readSign text).2) := by
  cases text with
  | nil => rfl
  | cons c rest =>
      have hminus : c.toLower = '-' ↔ c = '-' := Text.toLower_eq_iff (by decide)
      have hplus : c.toLower = '+' ↔ c = '+' := Text.toLower_eq_iff (by decide)
      by_cases hc : c = '-'
      · rw [hc]
        rfl
      · by_cases hd : c = '+'
        · rw [hd]
          rfl
        · rw [Text.uncase_cons, readSign_of_ne (mt hminus.mp hc) (mt hplus.mp hd),
            readSign_of_ne hc hd, Text.uncase_cons]

/-- A text with the name behind a sign, or without one, has no digit. -/
theorem isDigit_eq_false_of_name (hname : Text.uncase (readSign text).2 = ['n', 'a', 'n']) :
    ∀ c ∈ text, c.isDigit = false := by
  obtain ⟨sign, hsign, hparts⟩ := exists_readSign text
  intro c hc
  rw [hparts, List.mem_append] at hc
  rcases hc with hc | hc
  · simp only [List.mem_cons, List.not_mem_nil, or_false] at hsign
    rcases hsign with rfl | rfl | rfl
    · exact absurd hc List.not_mem_nil
    · exact List.mem_singleton.mp hc ▸ rfl
    · exact List.mem_singleton.mp hc ▸ rfl
  · have hsmall : c.toLower ∈ ['n', 'a', 'n'] := hname ▸ List.mem_map_of_mem hc
    have hletters : ∀ d ∈ ['n', 'a', 'n'], d.isAlpha = true := by simp
    have hletter := hletters _ hsmall
    rw [Char.isAlpha_toLower_eq_isAlpha] at hletter
    rw [← Bool.not_eq_true]
    intro hdigit
    rw [isAlpha_of_isDigit hdigit] at hletter
    cases hletter

/-- Only its name is read as the undefined number. -/
theorem real?_eq_nan_iff {text : String} : real? text = some .nan ↔ NamesUndefined text := by
  have hread : real? text = some .nan ↔ ∃ plainText,
      withoutLowLines? (stripped text.toList) = some plainText ∧
        Text.uncase (readSign plainText).2 = ['n', 'a', 'n'] := by
    simp only [real?, Option.bind_eq_bind, Option.bind_eq_some_iff]
    refine exists_congr fun plainText => and_congr_right fun _ => ?_
    rw [← named?_eq_nan_iff (readSign plainText).1]
    cases hnamed : named? (readSign plainText).1 (readSign plainText).2 with
    | none => simpa using decimal?_ne_nan _ _
    | some value => rfl
  rw [hread, NamesUndefined]
  constructor
  · rintro ⟨plainText, hplain, hname⟩
    obtain ⟨hfit, hfilter⟩ := Option.ite_none_right_eq_some.mp hplain
    cases hfilter
    have hdigits := isDigit_eq_false_of_name hname
    -- a low line would stand beside a digit, and that one is not dropped
    have hlines : ∀ c ∈ stripped text.toList, c ≠ '_' := by
      rintro c hc rfl
      obtain ⟨d, hd, hdigit⟩ := exists_isDigit_of_lowLinesFit hfit hc
      have hne : d ≠ '_' := by
        rintro rfl
        exact absurd hdigit (by decide)
      cases hdigit.symm.trans (hdigits d (List.mem_filter.mpr ⟨hd, bne_iff_ne.mpr hne⟩))
    rw [List.filter_eq_self.mpr fun c hc => bne_iff_ne.mpr (hlines c hc)] at hname
    obtain ⟨sign, hsign, hparts⟩ := exists_readSign (stripped text.toList)
    refine ⟨sign, hsign, ?_⟩
    rw [hparts, Text.uncase_append, hname]
    fin_cases hsign <;> rfl
  · rintro ⟨sign, hsign, hname⟩
    have hlines : ∀ c ∈ stripped text.toList, c ≠ '_' := by
      rintro c hc rfl
      have hmem := List.mem_map_of_mem (f := Char.toLower) hc
      rw [← Text.uncase, hname] at hmem
      revert hmem
      fin_cases hsign <;> decide
    refine ⟨_, withoutLowLines?_of_forall_ne hlines, ?_⟩
    have hsigned := congrArg Prod.snd (readSign_uncase (stripped text.toList))
    rw [hname] at hsigned
    refine hsigned.symm.trans ?_
    fin_cases hsign <;> rfl

/-! ## Letter case -/

open Text (uncase)

theorem lt_ten_of_digitFrom {bases : List Nat} {code value : Nat}
    (hvalue : Text.digitFrom bases code = some value) : value < 10 := by
  induction bases with
  | nil => cases hvalue
  | cons base bases ih =>
      rw [Text.digitFrom] at hvalue
      split at hvalue
      · cases hvalue
      · split at hvalue
        · cases hvalue
          omega
        · exact ih hvalue

theorem plainChar_toLower (c : Char) : plainChar c.toLower = (plainChar c).toLower := by
  by_cases hcode : c.toNat < 128
  · exact Text.forall_char_lt (P := fun c => plainChar c.toLower = (plainChar c).toLower)
      (by decide) c hcode
  · rw [Text.toLower_eq_self_of_le (not_lt.mp hcode), plainChar, if_neg hcode]
    split
    · rfl
    · split
      · rename_i value hvalue
        rw [Text.digitValue?, if_neg hcode] at hvalue
        have hlt := lt_ten_of_digitFrom hvalue
        interval_cases value <;> rfl
      · exact (Text.toLower_eq_self_of_le (not_lt.mp hcode)).symm

theorem isPlainBlank_toLower (c : Char) : isPlainBlank c.toLower = isPlainBlank c :=
  Text.apply_toLower isPlainBlank (by decide) c

theorem isDigit_toLower (c : Char) : c.toLower.isDigit = c.isDigit :=
  Text.apply_toLower Char.isDigit (by decide) c

theorem stripped_uncase (text : List Char) : stripped (uncase text) = uncase (stripped text) := by
  have hplain : plain (uncase text) = uncase (plain text) := by
    simp only [plain, uncase, List.map_map]
    exact List.map_congr_left fun c _ => plainChar_toLower c
  have hdrop : ∀ text, (uncase text).dropWhile isPlainBlank =
      uncase (text.dropWhile isPlainBlank) := by
    intro text
    rw [uncase, List.dropWhile_map, Function.comp_def]
    simp only [isPlainBlank_toLower, uncase]
  have hreverse : ∀ text, (uncase text).reverse = uncase text.reverse :=
    fun text => List.map_reverse.symm
  rw [stripped, stripped, hplain, hdrop, hreverse, hdrop, hreverse]

theorem lowLinesFit_uncase (afterDigit : Bool) (text : List Char) :
    lowLinesFit afterDigit (uncase text) = lowLinesFit afterDigit text := by
  have hline : ∀ c : Char, c.toLower = '_' ↔ c = '_' := fun c => Text.toLower_eq_iff (by decide)
  fun_induction lowLinesFit afterDigit text with
  | case1 => rfl
  | case2 => rfl
  | case3 afterDigit c rest ih => rw [← ih, ← isDigit_toLower]; rfl
  | case4 afterDigit c rest hnone hsome ih =>
      rw [Text.uncase_cons, lowLinesFit, isDigit_toLower, ih]
      · exact fun hc hrest => hnone ((hline c).mp hc) (List.map_eq_nil_iff.mp hrest)
      · intro d others hc hrest
        cases rest with
        | nil => cases hrest
        | cons e rest => exact hsome e rest ((hline c).mp hc) rfl

theorem withoutLowLines?_uncase (text : List Char) :
    withoutLowLines? (uncase text) = (withoutLowLines? text).map uncase := by
  have hline : ∀ c : Char, (c.toLower != '_') = (c != '_') := by
    intro c
    rw [Bool.eq_iff_iff, bne_iff_ne, bne_iff_ne, ne_eq, Text.toLower_eq_iff (by decide)]
  have hfilter : (uncase text).filter (· != '_') = uncase (text.filter (· != '_')) := by
    rw [uncase, List.filter_map, Function.comp_def]
    simp only [hline, uncase]
  rw [withoutLowLines?, withoutLowLines?, lowLinesFit_uncase, hfilter]
  split <;> rfl

theorem uncase_of_digits (hdigits : ∀ c ∈ digits, c.isDigit = true) : uncase digits = digits :=
  (List.map_congr_left fun c hc =>
    Text.toLower_eq_self (isAlpha_of_isDigit (hdigits c hc))).trans digits.map_id

theorem spanDigits_uncase (text : List Char) :
    spanDigits (uncase text) = ((spanDigits text).1, uncase (spanDigits text).2) := by
  have htake : uncase (text.takeWhile Char.isDigit) = text.takeWhile Char.isDigit :=
    uncase_of_digits fun c hc => List.mem_takeWhile_imp hc
  rw [spanDigits, spanDigits]
  refine Prod.ext ?_ ?_
  · rw [← htake, uncase, List.takeWhile_map, Function.comp_def]
    simp only [isDigit_toLower, uncase]
  · rw [uncase, List.dropWhile_map, Function.comp_def]
    simp only [isDigit_toLower, uncase]

theorem fraction_uncase (text : List Char) :
    fraction (uncase text) = ((fraction text).1, uncase (fraction text).2) := by
  cases text with
  | nil => rfl
  | cons c rest =>
      have hpoint : c.toLower = '.' ↔ c = '.' := Text.toLower_eq_iff (by decide)
      by_cases hc : c = '.'
      · rw [hc]
        exact spanDigits_uncase rest
      · rw [Text.uncase_cons, fraction, fraction]
        · rfl
        · exact fun _ heq => hc (List.cons.inj heq).1
        · exact fun _ heq => hc (hpoint.mp (List.cons.inj heq).1)

theorem exponent?_uncase (text : List Char) : exponent? (uncase text) = exponent? text := by
  rw [exponent?, exponent?, readSign_uncase]
  dsimp only
  have hall : (uncase (readSign text).2).all Char.isDigit = (readSign text).2.all Char.isDigit := by
    rw [uncase, List.all_map, Function.comp_def]
    simp only [isDigit_toLower]
  have hempty : (uncase (readSign text).2).isEmpty = (readSign text).2.isEmpty :=
    List.isEmpty_map
  rw [hall, hempty]
  split
  · rfl
  · rename_i hdigits
    have hdigit : ∀ c ∈ (readSign text).2, c.isDigit = true := by
      rw [Bool.or_eq_true, not_or, Bool.not_eq_true', Bool.not_eq_false] at hdigits
      exact List.all_eq_true.mp hdigits.2
    rw [uncase_of_digits hdigit]

theorem decimal?_uncase (negative : Bool) (text : List Char) :
    decimal? negative (uncase text) = decimal? negative text := by
  have hmark : ∀ c : Char, (c.toLower == 'e' || c.toLower == 'E') = (c == 'e' || c == 'E') :=
    Text.apply_toLower (fun c => c == 'e' || c == 'E') (by decide)
  rw [decimal?, decimal?, spanDigits_uncase]
  dsimp only
  rw [fraction_uncase]
  dsimp only
  split
  · rfl
  · cases (fraction (spanDigits text).2).2 with
    | nil => rfl
    | cons mark rest =>
        rw [Text.uncase_cons]
        dsimp only
        rw [hmark, exponent?_uncase]

theorem named?_uncase (negative : Bool) (text : List Char) :
    named? negative (uncase text) = named? negative text := by
  simp [named?, uncase, Function.comp_def]

/-- Numerals may be written in letters of any case. -/
theorem real?_uncased (text : String) : real? (uncased text) = real? text := by
  rw [real?, real?, toList_uncased, stripped_uncase, withoutLowLines?_uncase]
  cases withoutLowLines? (stripped text.toList) with
  | none => rfl
  | some plainText =>
      simp only [Option.map_some, Option.bind_eq_bind, Option.bind_some, readSign_uncase,
        named?_uncase, decimal?_uncase]

end Phrasebook.Numeral
