import Mathlib
import Phrasebook.Proofs.Number
import Phrasebook.Proofs.Ranking.Best
import Phrasebook.Proofs.Ranking.Coincidence

/-!
# Words around a text

Words written around a text take nothing away from it: its folded form is part of the wider one, and
its tokens are among the wider ones.  So every candidate stays one, as sure as it was or surer.  In
the end, when all words of a pattern have been written behind a text, the pattern is certain.
-/

namespace Phrasebook

namespace Ranking

open Text (fold tokens words)

/-! ## Wider texts -/

/-- A text has everything that another has: its folded form and its tokens. -/
structure Within (text wide : List Char) : Prop where
  fold_infix : fold text <:+: fold wide
  tokens_subset : tokens text ⊆ tokens wide

/-- What stands between two others, with spaces where they meet, is within the whole. -/
theorem within_surrounded (front text back : List Char) :
    Within text (front ++ ' ' :: (text ++ ' ' :: back)) := by
  have hwords : words (front ++ ' ' :: (text ++ ' ' :: back)) =
      words front ++ words text ++ words back := by
    rw [Text.words_append_space, Text.words_append_space, List.append_assoc]
  refine ⟨Text.fold_infix hwords, fun token htoken => ?_⟩
  rw [Text.tokens_eq] at htoken ⊢
  rw [hwords, List.map_append, List.map_append]
  exact List.mem_append_left _ (List.mem_append_right _ htoken)

variable {text wide : String} {catalog : Catalog}

theorem Within.isBlankText_eq_false (hwithin : Within text.toList wide.toList)
    (htext : isBlankText text = false) : isBlankText wide = false := by
  rw [← Bool.not_eq_true, isBlankText_iff, ← Text.fold_eq_nil_iff] at htext ⊢
  intro hwide
  have hfolded := hwithin.fold_infix
  rw [hwide, List.infix_nil] at hfolded
  exact htext hfolded

/-- A candidate is kept as another one of the same intent and template that is as sure, or surer. -/
structure IsKeptAs (candidate wider : Candidate) : Prop where
  intentId : wider.intentId = candidate.intentId
  pattern : wider.pattern = candidate.pattern
  confidence : (Number.real candidate.confidence).le (.real wider.confidence) = true

/-- Each coinciding pattern goes on to coincide, in its place. -/
theorem Within.exists_sublist (hwithin : Within text.toList wide.toList) (catalog : Catalog) :
    ∃ kept, kept.Sublist (coinciding wide catalog) ∧
      List.Forall₂ IsKeptAs (coinciding text catalog) kept := by
  refine ⟨(catalog.usablePairs.filter fun pair => occursIn (fold text.toList) pair.2).map
    fun pair => ⟨pair.1.id, pair.2.source, coverage (tokens wide.toList) pair.2.literalWords⟩,
    ?_, ?_⟩
  · refine List.Sublist.map _ (List.monotone_filter_right _ fun pair hpair => ?_)
    exact occursIn_of_infix hwithin.fold_infix hpair
  · rw [coinciding, List.forall₂_map_left_iff, List.forall₂_map_right_iff, List.forall₂_same]
    intro pair _
    refine ⟨rfl, rfl, ?_⟩
    rw [(isShare_coverage _ _).le_iff (isShare_coverage _ _)]
    exact coverage_mono hwithin.tokens_subset _

theorem Within.exists_subperm (hwithin : Within text.toList wide.toList) (catalog : Catalog) :
    ∃ kept, kept.Subperm (candidates wide catalog) ∧
      List.Forall₂ IsKeptAs (candidates text catalog) kept := by
  cases htext : isBlankText text with
  | true =>
      refine ⟨[], List.nil_subperm, ?_⟩
      rw [candidates, if_pos htext]
      exact .nil
  | false =>
      obtain ⟨kept, hsublist, hkept⟩ := hwithin.exists_sublist catalog
      obtain ⟨sorted, hsorted, hperm⟩ :=
        List.perm_comp_forall₂ (List.mergeSort_perm (coinciding text catalog) ahead) hkept
      refine ⟨sorted, ?_, ?_⟩
      · rw [candidates, hwithin.isBlankText_eq_false htext]
        exact hperm.subperm.trans
          (hsublist.subperm.trans (List.mergeSort_perm (coinciding wide catalog) ahead).symm.subperm)
      · rw [candidates, htext]
        exact hsorted

/-- No candidate is surer than the first one. -/
theorem le_of_head?_candidates {best candidate : Candidate}
    (hbest : best ∈ (candidates text catalog).head?) (hmem : candidate ∈ candidates text catalog) :
    (Number.real candidate.confidence).le (.real best.confidence) = true := by
  have htext := isBlankText_eq_false_of_mem hmem
  rw [candidates, htext, if_neg Bool.false_ne_true] at hbest hmem
  rw [List.mem_mergeSort] at hmem
  rw [mergeSort_ahead] at hbest
  have hleads := (head?_mergeSort_eq_some_iff atLeastAsSure_trans atLeastAsSure_total).mp hbest
  rw [(isShare_of_mem_coinciding hmem).le_iff (isShare_of_mem_coinciding hleads.mem)]
  exact of_decide_eq_true (hleads.precedes atLeastAsSure_total hmem)

/-- The best candidate does not get less sure. -/
theorem Within.exists_head? (hwithin : Within text.toList wide.toList) {best : Candidate}
    (hbest : best ∈ (candidates text catalog).head?) :
    ∃ wider ∈ (candidates wide catalog).head?,
      (Number.real best.confidence).le (.real wider.confidence) = true := by
  obtain ⟨kept, hsubperm, hkept⟩ := hwithin.exists_subperm catalog
  obtain ⟨candidate, hcandidate, hsurer⟩ :=
    exists_mem_of_forall₂ hkept (List.mem_of_mem_head? hbest)
  have hmem : candidate ∈ candidates wide catalog := hsubperm.subset hcandidate
  obtain ⟨wider, hwider⟩ := Option.ne_none_iff_exists'.mp
    (mt List.head?_eq_none_iff.mp (List.ne_nil_of_mem hmem))
  exact ⟨wider, hwider, Number.le_trans hsurer.confidence (le_of_head?_candidates hwider hmem)⟩

/-! ## Words behind a text -/

variable {template : String} {pattern : Pattern}

/-- Words written behind a text are among its tokens. -/
theorem literalWords_subset_tokens (hpattern : Pattern.ofTemplate template = .ok pattern)
    (hwords : pattern.literalWords ≠ []) (text : List Char) :
    pattern.literalWords ⊆ tokens (Text.unwords (text :: pattern.literalWords)) := by
  intro word hword
  have hbehind : words (Text.unwords pattern.literalWords) = pattern.literalWords :=
    Text.words_unwords fun word hword =>
      (Pattern.isWord_of_mem_literalWords hpattern hword).imp_right And.left
  rw [Text.unwords_cons hwords, Text.tokens_eq, Text.words_append_space, hbehind, List.map_append]
  refine List.mem_append_right _ (List.mem_map.mpr ⟨word, hword, ?_⟩)
  exact (Pattern.isWord_of_mem_literalWords hpattern hword).2.2

/-! ## Candidates and scores -/

/-- No candidate for a text is lost in a wider one, not even one of several that are alike, and none
gets less sure. -/
structure KeepsCandidates (catalog : Catalog) (text wide : String) : Prop where
  kept : ∃ kept, kept.Subperm (candidates wide catalog) ∧
    List.Forall₂ IsKeptAs (candidates text catalog) kept
  best : ∀ best ∈ (candidates text catalog).head?, ∃ wider ∈ (candidates wide catalog).head?,
    (Number.real best.confidence).le (.real wider.confidence) = true

/-- How the words of a pattern decide how sure it is of a text.  Only the share of all words but one
in `2 ^ 54` is rounded to one, so it is one just for a text with all words of the pattern, if these
are fewer. -/
structure ScoresByWords (text : String) (pattern : Pattern) : Prop where
  nonneg : (Number.int 0).le (.real (score text pattern)) = true
  le_one : (Number.real (score text pattern)).le (.int 1) = true
  eq_unit_iff_missing : score text pattern = Real64.unit ↔
    2 ^ 54 * (missing (tokens text.toList) pattern.literalWords).length ≤
      pattern.literalWords.length
  eq_unit_iff : pattern.literalWords.length < 2 ^ 54 →
    (score text pattern = Real64.unit ↔
      ∀ word ∈ pattern.literalWords, word ∈ tokens text.toList)
  completed : score (String.ofList (Text.unwords (text.toList :: pattern.literalWords))) pattern =
    Real64.unit

/-- Words around a text keep its candidates, and those of a pattern make it certain. -/
theorem keepsCandidates_and_scoresByWords :
    (∀ (catalog : Catalog) (front text back : String),
      KeepsCandidates catalog text (front ++ " " ++ text ++ " " ++ back)) ∧
    ∀ (template : String) (pattern : Pattern), Pattern.ofTemplate template = .ok pattern →
      pattern.literalWords ≠ [] → ∀ text, ScoresByWords text pattern := by
  refine ⟨fun catalog front text back => ?_, fun template pattern hpattern hwords text => ?_⟩
  · have hwithin : Within text.toList (front ++ " " ++ text ++ " " ++ back).toList := by
      have hwide := within_surrounded front.toList text.toList back.toList
      simpa using hwide
    exact ⟨hwithin.exists_subperm catalog, fun best hbest => hwithin.exists_head? hbest⟩
  · refine ⟨(isShare_score text pattern).between.1, (isShare_score text pattern).between.2, ?_,
      fun hlength => ?_, ?_⟩
    · rw [score, coverage_eq_unit_iff_missing, and_iff_right hwords]
    · rw [score, coverage_eq_unit_iff hlength, and_iff_right hwords]
    · rw [score, String.toList_ofList]
      exact coverage_eq_unit hwords (literalWords_subset_tokens hpattern hwords text.toList)

/-- A template with two literals. -/
def journey : String := "desde \x7borigen\x7d hasta \x7bdestino\x7d"

/-- The words around a text may be those of its pattern, in another order. -/
theorem keepsCandidates_and_scoresByWords_journey :
    ∃ pattern catalog, Pattern.ofTemplate journey = .ok pattern ∧ pattern.literalWords ≠ [] ∧
      ScoresByWords "hasta luego" pattern ∧
        Catalog.ofIntents [.ofTemplates "VIAJE" [journey, journey]] = .ok catalog ∧
          (coinciding "desde aquí hasta allá" catalog).length = 2 ∧
            KeepsCandidates catalog "desde aquí hasta allá"
              ("hasta" ++ " " ++ "desde aquí hasta allá" ++ " " ++ "desde") := by
  have hread : ((Pattern.ofTemplate journey).toOption.any fun pattern =>
      !pattern.literalWords.isEmpty) = true := by
    decide
  have hbuilt : ((Catalog.ofIntents [.ofTemplates "VIAJE" [journey, journey]]).toOption.any
      fun catalog => (coinciding "desde aquí hasta allá" catalog).length == 2) = true := by
    decide
  obtain ⟨pattern, hpattern, hwords⟩ := exists_of_any_toOption hread
  obtain ⟨catalog, hcatalog, hlength⟩ := exists_of_any_toOption hbuilt
  rw [Bool.not_eq_true', List.isEmpty_eq_false_iff] at hwords
  exact ⟨pattern, catalog, hpattern, hwords,
    keepsCandidates_and_scoresByWords.2 _ _ hpattern hwords _, hcatalog, beq_iff_eq.mp hlength,
    keepsCandidates_and_scoresByWords.1 catalog "hasta" "desde aquí hasta allá" "desde"⟩

end Ranking

end Phrasebook
