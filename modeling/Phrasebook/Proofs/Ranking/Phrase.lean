import Mathlib
import Phrasebook.Proofs.Detection.Reading
import Phrasebook.Proofs.Ranking.Coincidence
import Phrasebook.Proofs.Ranking.Order

/-!
# Phrases and what follows them

Words that no pattern has, written behind a phrase, make no pattern certain whose words are not all
in the phrase, and take certainty from no pattern that coincides with the phrase.  So which intent
is first with a certain pattern can be told from the phrase alone.
-/

namespace Phrasebook

theorem find?_eq_some_of_imp {α : Type} {p q : α → Bool} {items : List α} {first : α}
    (hfirst : items.find? p = some first) (hq : q first = true)
    (himp : ∀ a ∈ items, q a = true → p a = true) : items.find? q = some first := by
  rw [List.find?_eq_some_iff_append] at hfirst ⊢
  obtain ⟨-, before, after, rfl, hbefore⟩ := hfirst
  refine ⟨hq, before, after, rfl, fun a ha => ?_⟩
  have hnot := hbefore a ha
  rw [Bool.not_eq_true'] at hnot ⊢
  by_contra hqa
  rw [himp a (List.mem_append_left _ ha) (by simpa using hqa)] at hnot
  cases hnot

namespace Ranking

open Text (Apart)

/-- The words of a pattern, of which there are some, are all in a phrase. -/
def isCovered (phrase : List Char) (pattern : Pattern) : Bool :=
  !pattern.literalWords.isEmpty && pattern.literalWords.all (Text.tokens phrase).contains

theorem isCovered_iff {phrase : List Char} {pattern : Pattern} :
    isCovered phrase pattern = true ↔
      pattern.literalWords ≠ [] ∧ ∀ word ∈ pattern.literalWords, word ∈ Text.tokens phrase := by
  simp [isCovered]

theorem isCertain_iff {text : String} {pattern : Pattern}
    (hlength : pattern.literalWords.length ≤ 2 ^ 53) :
    isCertain text pattern = true ↔
      coincides text pattern = true ∧ isCovered text.toList pattern = true := by
  rw [isCertain, Bool.and_eq_true, decide_eq_true_iff, score,
    coverage_eq_unit_iff (hlength.trans_lt (by decide)), isCovered_iff]

/-- The first intent with a pattern that a phrase covers, if the phrase also coincides with one of
the covered patterns of that intent. -/
def claimant? (catalog : Catalog) (phrase : List Char) : Option Intent :=
  (catalog.intents.find? fun intent =>
    (catalog.usablePatterns intent.id).any (isCovered phrase)).filter fun intent =>
      (catalog.usablePatterns intent.id).any fun pattern =>
        occursIn (Text.fold phrase) pattern && isCovered phrase pattern

theorem mem_intents_of_claimant? {catalog : Catalog} {phrase : List Char} {intent : Intent}
    (hclaimant : claimant? catalog phrase = some intent) : intent ∈ catalog.intents := by
  rw [claimant?, Option.filter_eq_some_iff] at hclaimant
  exact List.mem_of_find?_eq_some hclaimant.1

/-- No token of a text is a literal word of a pattern in use. -/
def IsForeign (catalog : Catalog) (text : List Char) : Prop :=
  ∀ token ∈ Text.tokens text, ∀ pair ∈ catalog.usablePairs, token ∉ pair.2.literalWords

instance (catalog : Catalog) (text : List Char) : Decidable (IsForeign catalog text) :=
  inferInstanceAs (Decidable (∀ token ∈ Text.tokens text, _))

variable {catalog : Catalog} {phrase rest : List Char} {pattern : Pattern}

theorem isCovered_append (hapart : Apart phrase rest)
    (hforeign : ∀ token ∈ Text.tokens rest, token ∉ pattern.literalWords) :
    isCovered (phrase ++ rest) pattern = isCovered phrase pattern := by
  rw [Bool.eq_iff_iff, isCovered_iff, isCovered_iff, Text.tokens_append hapart]
  refine and_congr_right fun _ => forall₂_congr fun word hword => ?_
  rw [List.mem_append, or_iff_left fun htoken => hforeign word htoken hword]

theorem occursIn_append (hapart : Apart phrase rest)
    (hoccurs : occursIn (Text.fold phrase) pattern = true) :
    occursIn (Text.fold (phrase ++ rest)) pattern = true := by
  have hwords : Text.words (phrase ++ rest) = [] ++ Text.words phrase ++ Text.words rest :=
    Text.words_append hapart
  exact occursIn_of_infix (Text.fold_infix hwords) hoccurs

theorem isBlankText_eq_false_of_isCovered {text : String}
    (hcovered : isCovered text.toList pattern = true) : isBlankText text = false := by
  obtain ⟨hne, hwords⟩ := isCovered_iff.mp hcovered
  obtain ⟨word, others, hword⟩ := List.exists_cons_of_ne_nil hne
  have htoken := hwords word (hword ▸ List.mem_cons_self)
  rw [← Bool.not_eq_true, isBlankText_iff]
  intro hblank
  rw [Text.tokens_eq, Text.words_eq_nil_iff.mpr hblank] at htoken
  cases htoken

variable (haligned : catalog.Aligned)
variable (hlength : ∀ pair ∈ catalog.usablePairs, pair.2.literalWords.length ≤ 2 ^ 53)
variable {first : Intent} (hclaimant : claimant? catalog phrase = some first)
include haligned hlength hclaimant

/-- A pattern that makes an intent the claimant of a phrase is certain whatever follows. -/
theorem exists_isCertain_append (hapart : Apart phrase rest) (hforeign : IsForeign catalog rest) :
    ∃ pattern ∈ catalog.usablePatterns first.id, (first, pattern) ∈ catalog.usablePairs ∧
      isCertain (String.ofList (phrase ++ rest)) pattern = true := by
  rw [claimant?, Option.filter_eq_some_iff, List.any_eq_true] at hclaimant
  obtain ⟨hfirst, pattern, hpattern, hclaims⟩ := hclaimant
  rw [Bool.and_eq_true] at hclaims
  have hpair := haligned.mem_usablePairs (List.mem_of_find?_eq_some hfirst) hpattern
  refine ⟨pattern, hpattern, hpair, ?_⟩
  rw [isCertain_iff (hlength _ hpair), coincides, String.toList_ofList,
    isCovered_append hapart fun token htoken => hforeign token htoken _ hpair]
  exact ⟨occursIn_append hapart hclaims.1, hclaims.2⟩

/-- The claimant of a phrase is the first intent with a certain pattern, whatever foreign words
follow the phrase. -/
theorem find?_owns_append (hapart : Apart phrase rest) (hforeign : IsForeign catalog rest) :
    catalog.intents.find? (owns catalog (String.ofList (phrase ++ rest))) = some first := by
  obtain ⟨pattern, hpattern, -, hcertain⟩ :=
    exists_isCertain_append haligned hlength hclaimant hapart hforeign
  rw [claimant?, Option.filter_eq_some_iff] at hclaimant
  refine find?_eq_some_of_imp hclaimant.1 (List.any_eq_true.mpr ⟨pattern, hpattern, hcertain⟩) ?_
  intro intent hintent howns
  obtain ⟨pattern, hpattern, hcertain⟩ := List.any_eq_true.mp howns
  have hpair := haligned.mem_usablePairs hintent hpattern
  rw [isCertain_iff (hlength _ hpair), String.toList_ofList,
    isCovered_append hapart fun token htoken => hforeign token htoken _ hpair] at hcertain
  exact List.any_eq_true.mpr ⟨pattern, hpattern, hcertain.2⟩

/-- The best candidate for a phrase with foreign words behind it is certain, and its claimant's. -/
theorem exists_head?_candidates_append (hapart : Apart phrase rest)
    (hforeign : IsForeign catalog rest) :
    ∃ best, (candidates (String.ofList (phrase ++ rest)) catalog).head? = some best ∧
      best.confidence = Real64.unit ∧ best.intentId = first.id := by
  obtain ⟨pattern, -, hpair, hcertain⟩ :=
    exists_isCertain_append haligned hlength hclaimant hapart hforeign
  have hcovered := (isCertain_iff (hlength _ hpair)).mp hcertain
  obtain ⟨best, owner, hbest, hunit, hid, howner⟩ := exists_head?_candidates haligned
    (isBlankText_eq_false_of_isCovered hcovered.2) hpair hcertain
  rw [find?_owns_append haligned hlength hclaimant hapart hforeign] at howner
  cases howner
  exact ⟨best, hbest, hunit, hid⟩

end Ranking

end Phrasebook
