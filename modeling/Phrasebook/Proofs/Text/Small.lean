import Mathlib
import Phrasebook.Proofs.Text.Fold

/-!
# Texts up to plain letter case

A text is uncased when its plain capitals, A to Z, are written as small letters and all else is left
alone.  What the case mappings and the folded form make of a text, they make of the uncased text as
well: all of them look past plain case, and no other property of a character depends on it.
-/

namespace Phrasebook.Text

/-! ## Characters -/

theorem toLower_eq_self {c : Char} (hletter : c.isAlpha = false) : c.toLower = c := by
  refine Char.toLower_eq_of_not_isUpper fun hupper => ?_
  rw [Char.isAlpha, hupper, Bool.true_or] at hletter
  cases hletter

/-- What is no letter is not the small form of anything else. -/
theorem toLower_eq_iff {c d : Char} (hletter : d.isAlpha = false) : c.toLower = d ↔ c = d := by
  constructor
  · rintro rfl
    rw [Char.isAlpha_toLower_eq_isAlpha] at hletter
    exact (toLower_eq_self hletter).symm
  · rintro rfl
    exact toLower_eq_self hletter

theorem toLower_eq_self_of_le {c : Char} (hcode : 128 ≤ c.toNat) : c.toLower = c := by
  refine Char.toLower_eq_of_not_isUpper fun hupper => ?_
  rw [Char.isUpper, decide_eq_true_eq] at hupper
  exact absurd (lt_of_le_of_lt (show c.toNat ≤ 90 from hupper.2) (by decide : 90 < 128))
    (not_lt.mpr hcode)

/-- What looks past case on the plain characters does so on all of them. -/
theorem apply_toLower {α : Type} (f : Char → α)
    (hplain : ∀ code < 128, f (Char.ofNat code).toLower = f (Char.ofNat code)) (c : Char) :
    f c.toLower = f c := by
  by_cases hcode : c.toNat < 128
  · exact forall_char_lt (P := fun c => f c.toLower = f c) hplain c hcode
  · rw [toLower_eq_self_of_le (not_lt.mp hcode)]

/-- All that is looked up of a character where texts are read. -/
structure Traits where
  blank : Bool
  lower : Char
  cased : Bool
  caseIgnorable : Bool
  lowerForm : List Char
  upperForm : List Char
  titleForm : List Char
  deriving DecidableEq

def traits (c : Char) : Traits where
  blank := isBlank c
  lower := lowerChar c
  cased := isCased c
  caseIgnorable := isCaseIgnorable c
  lowerForm := lowerExpansion c
  upperForm := upperExpansion c
  titleForm := titleExpansion c

theorem traits_toLower (c : Char) : traits c.toLower = traits c :=
  apply_toLower traits (by decide) c

@[simp]
theorem isBlank_toLower (c : Char) : isBlank c.toLower = isBlank c :=
  congrArg Traits.blank (traits_toLower c)

@[simp]
theorem lowerChar_toLower (c : Char) : lowerChar c.toLower = lowerChar c :=
  congrArg Traits.lower (traits_toLower c)

@[simp]
theorem isCased_toLower (c : Char) : isCased c.toLower = isCased c :=
  congrArg Traits.cased (traits_toLower c)

@[simp]
theorem isCaseIgnorable_toLower (c : Char) : isCaseIgnorable c.toLower = isCaseIgnorable c :=
  congrArg Traits.caseIgnorable (traits_toLower c)

@[simp]
theorem lowerExpansion_toLower (c : Char) : lowerExpansion c.toLower = lowerExpansion c :=
  congrArg Traits.lowerForm (traits_toLower c)

@[simp]
theorem upperExpansion_toLower (c : Char) : upperExpansion c.toLower = upperExpansion c :=
  congrArg Traits.upperForm (traits_toLower c)

@[simp]
theorem titleExpansion_toLower (c : Char) : titleExpansion c.toLower = titleExpansion c :=
  congrArg Traits.titleForm (traits_toLower c)

theorem sameUpToCase_eq (c d : Char) : sameUpToCase c d = (caseKey c == caseKey d) := by
  rw [sameUpToCase]
  by_cases hsame : c = d
  · rw [hsame, beq_self_eq_true, beq_self_eq_true, Bool.true_or]
  · rw [beq_eq_false_iff_ne.mpr hsame, Bool.false_or]

@[simp]
theorem sameUpToCase_toLower (c d : Char) : sameUpToCase c d.toLower = sameUpToCase c d := by
  rw [sameUpToCase_eq, sameUpToCase_eq, caseKey, caseKey, caseKey, lowerChar_toLower]

/-! ## Texts -/

/-- The text with its plain capitals as small letters. -/
def uncase (text : List Char) : List Char := text.map Char.toLower

@[simp]
theorem uncase_append (text rest : List Char) :
    uncase (text ++ rest) = uncase text ++ uncase rest := List.map_append

theorem dropWhile_isBlank_uncase (text : List Char) :
    (uncase text).dropWhile isBlank = uncase (text.dropWhile isBlank) := by
  rw [uncase, List.dropWhile_map, Function.comp_def]
  simp [uncase]

theorem trim_uncase (text : List Char) : trim (uncase text) = uncase (trim text) := by
  have hreverse : ∀ text, (uncase text).reverse = uncase text.reverse :=
    fun text => List.map_reverse.symm
  rw [trim, trim, trimStart, trimStart, trimEnd, trimEnd, dropWhile_isBlank_uncase, hreverse,
    dropWhile_isBlank_uncase, hreverse]

@[simp]
theorem uncase_cons (c : Char) (rest : List Char) : uncase (c :: rest) = c.toLower :: uncase rest :=
  rfl

theorem words_uncase (text : List Char) : words (uncase text) = (words text).map uncase := by
  induction text with
  | nil => rfl
  | cons c rest ih =>
      by_cases hc : isBlank c = true
      · rw [uncase_cons, words_blank_cons (by rwa [isBlank_toLower]), words_blank_cons hc, ih]
      rw [Bool.not_eq_true] at hc
      have hc' : isBlank c.toLower = false := by rwa [isBlank_toLower]
      by_cases hnext : ∀ d ∈ rest.head?, isBlank d = true
      · have hnext' : ∀ d ∈ (uncase rest).head?, isBlank d = true := by
          rw [uncase, List.head?_map]
          intro image himage
          obtain ⟨d, hd, rfl⟩ := Option.map_eq_some_iff.mp himage
          rw [isBlank_toLower]
          exact hnext d hd
        rw [uncase_cons, words_cons_of_blank_next hc' hnext', words_cons_of_blank_next hc hnext, ih]
        rfl
      · cases rest with
        | nil => exact absurd nofun hnext
        | cons d rest =>
            have hd : isBlank d = false := by simpa using hnext
            obtain ⟨word, others, hwords⟩ := exists_words_cons hd rest
            have hd' : isBlank d.toLower = false := by rwa [isBlank_toLower]
            rw [uncase_cons, hwords, List.map_cons] at ih
            rw [uncase_cons, uncase_cons, words_cons_of_word_next hc' hd' ih,
              words_cons_of_word_next hc hd hwords]
            rfl

theorem startsCased_uncase (text : List Char) : startsCased (uncase text) = startsCased text := by
  rw [startsCased, startsCased, uncase, List.dropWhile_map, Function.comp_def]
  simp only [isCaseIgnorable_toLower]
  cases text.dropWhile isCaseIgnorable with
  | nil => rfl
  | cons c rest => exact isCased_toLower c

theorem lowerAfter_uncase (before text : List Char) :
    lowerAfter (uncase before) (uncase text) = lowerAfter before text := by
  induction text generalizing before with
  | nil => rfl
  | cons c text ih =>
      have hsigma : c.toLower = 'Σ' ↔ c = 'Σ' := toLower_eq_iff (by decide)
      rw [uncase_cons, lowerAfter, lowerAfter, ← uncase_cons, ih, lowerExpansion_toLower,
        smallSigma, smallSigma, startsCased_uncase, startsCased_uncase]
      simp only [hsigma]

@[simp]
theorem lower_uncase (text : List Char) : lower (uncase text) = lower text :=
  lowerAfter_uncase [] text

@[simp]
theorem upper_uncase (text : List Char) : upper (uncase text) = upper text := by
  simp [upper, uncase, List.flatMap_map]

@[simp]
theorem capitalize_uncase (text : List Char) : capitalize (uncase text) = capitalize text := by
  cases text with
  | nil => rfl
  | cons c rest =>
      have hrest := lowerAfter_uncase [c] rest
      rw [uncase_cons, capitalize, capitalize, titleExpansion_toLower, ← hrest]
      rfl

theorem tokens_uncase (text : List Char) : tokens (uncase text) = tokens text := by
  rw [tokens_eq, tokens_eq, words_uncase, List.map_map]
  exact List.map_congr_left fun word _ => lower_uncase word

theorem fold_uncase (text : List Char) : fold (uncase text) = fold text := by
  rw [← unwords_tokens, tokens_uncase, unwords_tokens]

/-! ## Texts that only look different -/

/-- The texts differ in nothing but the case of plain letters. -/
def IsRecased (text other : List Char) : Prop :=
  List.Forall₂ (fun c d => c.toLower = d.toLower) text other

/-- One text becomes the other when the case of plain letters is changed and blanks are put to its
ends or taken from them. -/
def IsRestyled (text other : List Char) : Prop :=
  ∃ before kernel after before' kernel' after',
    text = before ++ kernel ++ after ∧ other = before' ++ kernel' ++ after' ∧
      AllBlank before ∧ AllBlank after ∧ AllBlank before' ∧ AllBlank after' ∧
        IsRecased kernel kernel'

theorem isRecased_iff {text other : List Char} :
    IsRecased text other ↔ uncase text = uncase other := by
  rw [IsRecased, uncase, uncase, ← List.forall₂_eq_eq_eq, List.forall₂_map_left_iff,
    List.forall₂_map_right_iff]

/-- Without outer blanks and plain capitals, nothing is left of the difference. -/
theorem IsRestyled.uncase_trim {text other : List Char} (hrestyled : IsRestyled text other) :
    uncase (trim text) = uncase (trim other) := by
  obtain ⟨before, kernel, after, before', kernel', after', rfl, rfl, hbefore, hafter, hbefore',
    hafter', hrecased⟩ := hrestyled
  rw [trim_append_of_allBlank hbefore _ hafter, trim_append_of_allBlank hbefore' _ hafter',
    ← trim_uncase, ← trim_uncase, isRecased_iff.mp hrecased]

end Phrasebook.Text

namespace Phrasebook

/-- The text with its plain capitals as small letters. -/
def uncased (text : String) : String := String.ofList (Text.uncase text.toList)

@[simp]
theorem toList_uncased (text : String) : (uncased text).toList = Text.uncase text.toList :=
  String.toList_ofList

theorem trimmed_uncased (text : String) : trimmed (uncased text) = uncased (trimmed text) := by
  rw [trimmed, toList_uncased, Text.trim_uncase, uncased, trimmed, String.toList_ofList]

@[simp]
theorem lowered_uncased (text : String) : lowered (uncased text) = lowered text := by
  rw [lowered, toList_uncased, Text.lower_uncase, lowered]

@[simp]
theorem isBlankText_uncased (text : String) : isBlankText (uncased text) = isBlankText text := by
  rw [isBlankText, toList_uncased, Text.uncase, List.all_map, isBlankText]
  simp [Function.comp_def]

@[simp]
theorem isEmpty_uncased (text : String) : (uncased text).isEmpty = text.isEmpty := by
  rw [Bool.eq_iff_iff, String.isEmpty_iff, String.isEmpty_iff, ← String.toList_inj,
    ← String.toList_inj, toList_uncased]
  simp [Text.uncase]

theorem isRecased_iff_uncased {text other : String} :
    Text.IsRecased text.toList other.toList ↔ uncased text = uncased other := by
  rw [Text.isRecased_iff, ← String.toList_inj, toList_uncased, toList_uncased]

end Phrasebook
