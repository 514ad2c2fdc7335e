import Mathlib
import Phrasebook.Ranking
import Phrasebook.Proofs.Catalog.Rebuild
import Phrasebook.Proofs.Real64.Round

/-!
# The order of candidates

A confidence is a number from zero to one, so the order by confidence is total, and sorting keeps
equally good candidates in catalog order.  A candidate that is certain is therefore preceded by
certain ones only, and the best candidate belongs to the first intent that has one.
-/

namespace Phrasebook

/-! ## Stable sorting -/

theorem filter_mergeSort {α : Type} {le : α → α → Bool}
    (htrans : ∀ a b c, le a b = true → le b c = true → le a c = true)
    (htotal : ∀ a b, (le a b || le b a) = true) {p : α → Bool}
    {items : List α}
    (hequal : ∀ a ∈ items, ∀ b ∈ items, p a = true → p b = true → le a b = true) :
    (items.mergeSort le).filter p = items.filter p := by
  have hpairwise : (items.filter p).Pairwise fun a b => le a b = true :=
    List.pairwise_of_forall_mem_list fun a ha b hb =>
      hequal a (List.mem_of_mem_filter ha) b (List.mem_of_mem_filter hb)
        (List.of_mem_filter ha) (List.of_mem_filter hb)
  have hsublist : (items.filter p).Sublist ((items.mergeSort le).filter p) := by
    have hsorted := (List.sublist_mergeSort htrans htotal hpairwise List.filter_sublist).filter p
    rwa [List.filter_filter, show (fun a => p a && p a) = p from funext fun a => Bool.and_self _]
      at hsorted
  exact (hsublist.eq_of_length
    ((List.mergeSort_perm items le).symm.filter p).length_eq).symm

/-- If the items that satisfy a property come before all others in an order, the first item in that
order is the first that satisfies it. -/
theorem head?_mergeSort_eq_find? {α : Type} {le : α → α → Bool}
    (htrans : ∀ a b c, le a b = true → le b c = true → le a c = true)
    (htotal : ∀ a b, (le a b || le b a) = true) {p : α → Bool} {items : List α}
    (hequal : ∀ a ∈ items, ∀ b ∈ items, p a = true → p b = true → le a b = true)
    (hfirst : ∀ a ∈ items, ∀ b ∈ items, p b = true → le a b = true → p a = true)
    (hsome : ∃ a ∈ items, p a = true) : (items.mergeSort le).head? = items.find? p := by
  obtain ⟨a, ha, hpa⟩ := hsome
  have hsorted := List.pairwise_mergeSort htrans htotal items
  have hmem : ∀ {b}, b ∈ items.mergeSort le ↔ b ∈ items := List.mem_mergeSort
  rw [← List.head?_filter, ← filter_mergeSort htrans htotal hequal]
  cases hitems : items.mergeSort le with
  | nil =>
      rw [← hmem, hitems] at ha
      exact absurd ha List.not_mem_nil
  | cons best rest =>
      rw [hitems] at hsorted hmem
      have hbest : p best = true := by
        rcases List.mem_cons.mp (hmem.mpr ha) with rfl | hrest
        · exact hpa
        · exact hfirst best (hmem.mp List.mem_cons_self) a ha hpa
            ((List.pairwise_cons.mp hsorted).1 a hrest)
      rw [List.filter_cons_of_pos hbest, List.head?_cons, List.head?_cons]

/-! ## Confidences -/

namespace Real64

/-- A number from zero to one. -/
def IsShare (value : Real64) : Prop := ∃ steps, value = .finite false steps ∧ steps ≤ one

/-- The steps of a number without its sign. -/
def steps : Real64 → Nat
  | .finite _ steps => steps
  | _ => 0

@[simp]
theorem steps_finite (negative : Bool) (count : Nat) : (finite negative count).steps = count := rfl

theorem steps_unit : unit.steps = one := steps_finite false one

theorem IsShare.eq_unit_iff {value : Real64} (hshare : value.IsShare) :
    value = unit ↔ one ≤ value.steps := by
  obtain ⟨steps, rfl, hsteps⟩ := hshare
  simp only [unit, Real64.steps, finite.injEq, true_and]
  exact ⟨ge_of_eq, hsteps.antisymm⟩

theorem IsShare.lt_iff {left right : Real64} (hleft : left.IsShare) (hright : right.IsShare) :
    (Number.real left).lt (.real right) = decide (left.steps < right.steps) := by
  obtain ⟨low, rfl, -⟩ := hleft
  obtain ⟨high, rfl, -⟩ := hright
  rw [Bool.eq_iff_iff]
  have hextents : (Number.real (.finite false low)).lt (.real (.finite false high)) =
      decide ((low : Int) < high) := rfl
  rw [hextents, decide_eq_true_iff, Nat.cast_lt, steps_finite, steps_finite, decide_eq_true_iff]

theorem IsShare.le_iff {left right : Real64} (hleft : left.IsShare) (hright : right.IsShare) :
    (Number.real left).le (.real right) = true ↔ left.steps ≤ right.steps := by
  obtain ⟨low, rfl, -⟩ := hleft
  obtain ⟨high, rfl, -⟩ := hright
  have hextents : (Number.real (.finite false low)).le (.real (.finite false high)) =
      !decide ((high : Int) < low) := rfl
  rw [hextents, Bool.not_eq_true', decide_eq_false_iff_not, not_lt, Nat.cast_le, steps_finite,
    steps_finite]

theorem IsShare.between {value : Real64} (hshare : value.IsShare) :
    (Number.int 0).le (.real value) = true ∧ (Number.real value).le (.int 1) = true := by
  obtain ⟨steps, rfl, hsteps⟩ := hshare
  have hlow : (Number.int 0).le (.real (.finite false steps)) =
      !decide ((steps : Int) < 0 * one) := rfl
  have hhigh : (Number.real (.finite false steps)).le (.int 1) =
      !decide ((1 : Int) * one < steps) := rfl
  rw [hlow, hhigh, Bool.not_eq_true', Bool.not_eq_true', decide_eq_false_iff_not,
    decide_eq_false_iff_not, not_lt, not_lt, Int.zero_mul, Int.one_mul]
  exact ⟨Int.natCast_nonneg steps, Int.ofNat_le.mpr hsteps⟩

end Real64

namespace Ranking

open Real64 (IsShare)

theorem isShare_coverage (tokens words : List (List Char)) : (coverage tokens words).IsShare := by
  rw [coverage]
  split
  · exact ⟨0, rfl, Nat.zero_le _⟩
  · exact Real64.exists_ofRatio_of_le List.countP_le_length

/-- The words that are not among the tokens. -/
def missing (tokens words : List (List Char)) : List (List Char) :=
  words.filter fun word => !tokens.contains word

theorem missing_eq_nil_iff {tokens words : List (List Char)} :
    missing tokens words = [] ↔ ∀ word ∈ words, word ∈ tokens := by
  simp [missing, List.filter_eq_nil_iff]

/-- The share of the words is one if and only if there are some, and at most one in `2 ^ 54` of them
is missing. -/
theorem coverage_eq_unit_iff_missing {tokens words : List (List Char)} :
    coverage tokens words = Real64.unit ↔
      words ≠ [] ∧ 2 ^ 54 * (missing tokens words).length ≤ words.length := by
  rw [coverage]
  split
  · rename_i hempty
    exact iff_of_false (by decide +kernel) fun hwords => hwords.1 (List.isEmpty_iff.mp hempty)
  · rename_i hne
    have hwords : words ≠ [] := by simpa using hne
    have hmissing : words.length - (words.countP fun word => tokens.contains word) =
        (missing tokens words).length := by
      have hsplit := List.length_eq_countP_add_countP (fun word => tokens.contains word) (l := words)
      rw [missing, ← List.countP_eq_length_filter]
      simp only [Bool.not_eq_true, Bool.decide_eq_false] at hsplit
      omega
    rw [Real64.ofRatio_eq_unit_iff List.countP_le_length (List.length_pos_iff.mpr hwords), hmissing]
    exact (and_iff_right hwords).symm

/-- A text has all words of a pattern if they are among its tokens. -/
theorem coverage_eq_unit {tokens words : List (List Char)} (hne : words ≠ [])
    (hwords : ∀ word ∈ words, word ∈ tokens) : coverage tokens words = Real64.unit := by
  rw [coverage_eq_unit_iff_missing, missing_eq_nil_iff.mpr hwords]
  exact ⟨hne, Nat.zero_le _⟩

/-- If the share of the words is one, there are some and none of them is missing.  Only of `2 ^ 54`
words or more could one be missing without a trace. -/
theorem coverage_eq_unit_iff {tokens words : List (List Char)} (hlength : words.length < 2 ^ 54) :
    coverage tokens words = Real64.unit ↔ words ≠ [] ∧ ∀ word ∈ words, word ∈ tokens := by
  rw [coverage_eq_unit_iff_missing, ← missing_eq_nil_iff, ← List.length_eq_zero_iff]
  refine and_congr_right fun _ => ⟨fun hle => ?_, fun hnone => by simp [hnone]⟩
  exact Nat.lt_one_iff.mp (Nat.lt_of_mul_lt_mul_left (hle.trans_lt (by rwa [Nat.mul_one])))

/-- More tokens do not make the share smaller. -/
theorem coverage_mono {tokens others : List (List Char)} (hsubset : tokens ⊆ others)
    (words : List (List Char)) :
    (coverage tokens words).steps ≤ (coverage others words).steps := by
  rw [coverage, coverage]
  split
  · exact le_rfl
  · rename_i hne
    have hwords : words ≠ [] := by simpa using hne
    rw [Real64.ofRatio_of_le List.countP_le_length, Real64.ofRatio_of_le List.countP_le_length,
      Real64.steps_finite, Real64.steps_finite]
    refine Real64.roundSteps_mono (Nat.mul_le_mul_right _ ?_) (List.length_pos_iff.mpr hwords)
    refine List.countP_mono_left fun word _ hword => ?_
    rw [List.contains_iff_mem] at hword ⊢
    exact hsubset hword

variable {text : String} {catalog : Catalog}

theorem isShare_of_mem_coinciding {candidate : Candidate}
    (hmem : candidate ∈ coinciding text catalog) : candidate.confidence.IsShare := by
  obtain ⟨pair, -, rfl⟩ := List.mem_map.mp hmem
  exact isShare_coverage _ _

/-- Whether a candidate is no less sure than another, by the steps of their confidences. -/
def atLeastAsSure (left right : Candidate) : Bool :=
  decide (right.confidence.steps ≤ left.confidence.steps)

theorem atLeastAsSure_trans (a b c : Candidate) (hab : atLeastAsSure a b = true)
    (hbc : atLeastAsSure b c = true) : atLeastAsSure a c = true := by
  simp only [atLeastAsSure, decide_eq_true_eq] at hab hbc ⊢
  exact hbc.trans hab

theorem atLeastAsSure_total (a b : Candidate) :
    (atLeastAsSure a b || atLeastAsSure b a) = true := by
  simp only [atLeastAsSure, Bool.or_eq_true, decide_eq_true_eq]
  exact Nat.le_total _ _

/-- All confidences of candidates are shares, and those are in order by their steps. -/
theorem mergeSort_ahead (text : String) (catalog : Catalog) :
    (coinciding text catalog).mergeSort ahead =
      (coinciding text catalog).mergeSort atLeastAsSure := by
  have hmap := List.map_mergeSort (f := id) (r := ahead) (s := atLeastAsSure)
    (l := coinciding text catalog) fun left hleft right hright => by
      rw [ahead, (isShare_of_mem_coinciding hleft).lt_iff (isShare_of_mem_coinciding hright),
        Bool.eq_iff_iff]
      simp [atLeastAsSure]
  rwa [List.map_id, List.map_id] at hmap

/-- Certain candidates come first, in catalog order. -/
theorem head?_candidates_eq_find? (htext : isBlankText text = false)
    (hcertain : ∃ candidate ∈ coinciding text catalog, candidate.confidence = Real64.unit) :
    (candidates text catalog).head? =
      (coinciding text catalog).find? fun candidate => candidate.confidence = Real64.unit := by
  rw [candidates, htext, mergeSort_ahead]
  apply head?_mergeSort_eq_find? atLeastAsSure_trans atLeastAsSure_total
  · intro a _ b _ hunit hunit'
    rw [decide_eq_true_eq] at hunit hunit'
    simp only [atLeastAsSure, hunit, hunit', le_refl, decide_true]
  · intro a ha b _ hunit hle
    rw [decide_eq_true_eq] at hunit ⊢
    rw [(isShare_of_mem_coinciding ha).eq_unit_iff]
    simpa only [atLeastAsSure, hunit, Real64.steps_unit, decide_eq_true_eq] using hle
  · simpa using hcertain

/-! ## The first intent with a certain pattern -/

/-- A pattern coincides with a text, with a score of one. -/
def isCertain (text : String) (pattern : Pattern) : Bool :=
  coincides text pattern && score text pattern = Real64.unit

/-- An intent has a pattern that is certain. -/
def owns (catalog : Catalog) (text : String) (intent : Intent) : Bool :=
  (catalog.usablePatterns intent.id).any (isCertain text)

theorem find?_coinciding (text : String) (catalog : Catalog) :
    (coinciding text catalog).find? (fun candidate => candidate.confidence = Real64.unit) =
      (catalog.usablePairs.find? fun pair => isCertain text pair.2).map fun pair =>
        ⟨pair.1.id, pair.2.source, score text pair.2⟩ := by
  have hcertain : ∀ pair : Intent × Pattern, isCertain text pair.2 =
      decide (occursIn (Text.fold text.toList) pair.2 = true ∧
        decide (coverage (Text.tokens text.toList) pair.2.literalWords = Real64.unit) = true) := by
    intro pair
    rw [isCertain, coincides, score, Bool.eq_iff_iff]
    simp
  rw [coinciding, List.find?_map, List.find?_filter]
  simp only [hcertain]
  rfl

/-- The first pair with a pattern that satisfies a property belongs to the first intent that has
one. -/
theorem find?_usablePairs (haligned : catalog.Aligned) (q : Pattern → Bool) :
    (catalog.usablePairs.find? fun pair => q pair.2).map Prod.fst =
      catalog.intents.find? fun intent => (catalog.usablePatterns intent.id).any q := by
  have hkeyed := haligned.keyed
  rw [Catalog.usablePairs, Catalog.intents]
  generalize catalog.definitions = definitions at hkeyed
  induction definitions with
  | nil => rfl
  | cons entry definitions ih =>
      rw [List.forall_mem_cons] at hkeyed
      rw [List.flatMap_cons, List.find?_append, List.find?_map, List.map_cons, List.find?_cons,
        ← hkeyed.1, Option.map_or, Option.map_map, ih hkeyed.2]
      cases hfind : (catalog.usablePatterns entry.1).find? q with
      | none =>
          have hnone : (catalog.usablePatterns entry.1).any q = false := by
            rw [List.any_eq_false]
            exact List.find?_eq_none.mp hfind
          rw [hnone]
          simp [Function.comp_def, hfind]
      | some pattern =>
          have hsome : (catalog.usablePatterns entry.1).any q = true :=
            List.any_eq_true.mpr ⟨pattern, List.mem_of_find?_eq_some hfind, List.find?_some hfind⟩
          rw [hsome]
          simp [Function.comp_def, hfind]

/-- If a text has a certain pattern, the best candidate is certain, and of the first intent that has
one. -/
theorem exists_head?_candidates (haligned : catalog.Aligned) (htext : isBlankText text = false)
    {pair : Intent × Pattern} (hpair : pair ∈ catalog.usablePairs)
    (hcertain : isCertain text pair.2 = true) :
    ∃ best first, (candidates text catalog).head? = some best ∧
      best.confidence = Real64.unit ∧ best.intentId = first.id ∧
        catalog.intents.find? (owns catalog text) = some first := by
  obtain ⟨found, hfound⟩ : ∃ found,
      (catalog.usablePairs.find? fun pair => isCertain text pair.2) = some found := by
    rw [← Option.isSome_iff_exists, List.find?_isSome]
    exact ⟨pair, hpair, hcertain⟩
  have hbest := find?_coinciding text catalog
  rw [hfound, Option.map_some] at hbest
  have hunit : score text found.2 = Real64.unit := by
    simpa using List.find?_some hbest
  refine ⟨⟨found.1.id, found.2.source, score text found.2⟩, found.1, ?_, hunit, rfl, ?_⟩
  · rw [head?_candidates_eq_find? htext ⟨_, List.mem_of_find?_eq_some hbest, hunit⟩, hbest]
  · have hfirst := find?_usablePairs haligned (isCertain text)
    rw [hfound, Option.map_some] at hfirst
    exact hfirst.symm

end Ranking

end Phrasebook
