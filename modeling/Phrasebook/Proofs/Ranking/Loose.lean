import Mathlib
import Phrasebook.Proofs.Catalog.Rebuild
import Phrasebook.Proofs.Ranking.Coincidence

/-!
# Ranking is looser than reading

A pattern that reads a Latin text is ranked for it, wherever its literals touch its slots.  So the
patterns that are tried one by one are among the candidates, and ranking never hides an intent that
could have been served.
-/

namespace Phrasebook

open Text (AllBlank IsLatin)

namespace Ranking

variable {template text : String} {pattern : Pattern} {catalog : Catalog}

theorem mem_coinciding_iff {candidate : Candidate} :
    candidate ∈ coinciding text catalog ↔
      ∃ intent pattern, (intent, pattern) ∈ catalog.usablePairs ∧ coincides text pattern = true ∧
        candidate = ⟨intent.id, pattern.source, score text pattern⟩ := by
  rw [coinciding, List.mem_map]
  simp only [List.mem_filter, and_assoc, eq_comm (a := candidate), Prod.exists]
  rfl

/-- Nothing coincides with a blank text. -/
theorem coinciding_eq_nil (haligned : catalog.Aligned) (htext : isBlankText text = true) :
    coinciding text catalog = [] := by
  apply List.eq_nil_iff_forall_not_mem.mpr
  intro candidate hcandidate
  obtain ⟨intent, pattern, hpair, hcoincides, -⟩ := mem_coinciding_iff.mp hcandidate
  obtain ⟨-, -, hpattern⟩ := haligned.pairs hpair
  obtain ⟨-, segments, -, heq⟩ := Pattern.ofTemplate_eq_ok_iff.mp hpattern
  rw [heq] at hcoincides
  rw [Pattern.isBlankText_eq_false_of_coincides hcoincides] at htext
  cases htext

/-- The candidates are the coinciding patterns, put in order. -/
theorem candidates_eq_mergeSort (haligned : catalog.Aligned) :
    candidates text catalog = (coinciding text catalog).mergeSort ahead := by
  rw [candidates]
  split
  · rename_i hblank
    rw [coinciding_eq_nil haligned hblank, List.mergeSort_nil]
  · rfl

/-- The candidates for a text are the patterns in use that coincide with it. -/
theorem mem_candidates_iff (haligned : catalog.Aligned) {candidate : Candidate} :
    candidate ∈ candidates text catalog ↔
      ∃ intent pattern, (intent, pattern) ∈ catalog.usablePairs ∧ coincides text pattern = true ∧
        candidate = ⟨intent.id, pattern.source, score text pattern⟩ := by
  rw [candidates_eq_mergeSort haligned, List.mem_mergeSort, mem_coinciding_iff]

/-- The ranker is looser than the reader.  A Latin pattern with a literal that is not blank
coincides with every Latin text that it accepts, so it is a candidate in every catalog that has its
template, whatever stands between its literals and its slots. -/
theorem mem_candidates_of_accepts (hpattern : Pattern.ofTemplate template = .ok pattern)
    (htemplate : ∀ c ∈ template.toList, IsLatin c) (htext : ∀ c ∈ text.toList, IsLatin c)
    {segments : List Template.Segment} {literal : List Char}
    (hsegments : Template.split (trimmed template) = .ok segments)
    (hliteral : .literal literal ∈ segments) (hblank : ¬ AllBlank literal)
    (haccepts : pattern.accepts text = true) :
    coincides text pattern = true ∧
      ∀ catalog : Catalog, catalog.Reachable → ∀ intent ∈ catalog.intents,
        template ∈ intent.patterns →
          ⟨intent.id, template, score text pattern⟩ ∈ candidates text catalog := by
  obtain ⟨-, found, hfound, heq⟩ := Pattern.ofTemplate_eq_ok_iff.mp hpattern
  cases (Pattern.split_trimmed_eq_ok_iff.mp hsegments).symm.trans hfound
  have hliterals : (Pattern.ofSegments template segments).literals ≠ [] :=
    Template.foldedLiterals_ne_nil_iff.mpr ⟨literal, hliteral, hblank⟩
  have hcoincides : coincides text pattern = true := by
    rw [heq] at haccepts ⊢
    exact Pattern.coincides_of_accepts hfound htemplate htext hliterals haccepts
  refine ⟨hcoincides, fun catalog hreachable intent hintent htemplate => ?_⟩
  have hsource := Pattern.source_of_ofTemplate hpattern
  have hpair : (intent, pattern) ∈ catalog.usablePairs := by
    rw [hreachable.aligned.mem_usablePairs_iff, hsource]
    exact ⟨hintent, htemplate, hpattern⟩
  exact (mem_candidates_iff hreachable.aligned).mpr ⟨intent, pattern, hpair, hcoincides, by
    rw [hsource]⟩

/-- An intent with one template, whose literal touches both slots. -/
def weigh : Intent := .ofTemplates "COMPRA" ["\x7bpeso\x7dKG de\x7bcosa\x7d"]

def weighing : Catalog := Catalog.empty.write weigh.id weigh (Catalog.prepare weigh.patterns)

theorem reachable_weighing : weighing.Reachable :=
  ⟨[⟨weigh, Intent.isDeclared_ofTemplates ⟨by decide, by decide⟩ (by decide) (by decide)⟩],
    weighing, [], rfl, rfl⟩

/-- The template is a candidate although one of its two words is no token of the text. -/
theorem mem_candidates_of_accepts_weighing :
    ⟨"COMPRA", "\x7bpeso\x7dKG de\x7bcosa\x7d", .ofRatio false 1 2⟩ ∈
      candidates "3kg\t De pan" weighing := by
  let segments : List Template.Segment :=
    [.slot "peso", .literal "KG de".toList, .slot "cosa"]
  let pattern := Pattern.ofSegments "\x7bpeso\x7dKG de\x7bcosa\x7d" segments
  have hpattern : Pattern.ofTemplate "\x7bpeso\x7dKG de\x7bcosa\x7d" = .ok pattern := by decide
  have htemplate : ∀ c ∈ "\x7bpeso\x7dKG de\x7bcosa\x7d".toList, IsLatin c := by simp [IsLatin]
  have htext : ∀ c ∈ "3kg\t De pan".toList, IsLatin c := by simp [IsLatin]
  have hsegments : Template.split (trimmed "\x7bpeso\x7dKG de\x7bcosa\x7d") = .ok segments := by
    decide
  have hblank : ¬ AllBlank "KG de".toList := by simp [AllBlank, Text.isBlank]
  have hintent : weigh ∈ weighing.intents := List.mem_singleton_self weigh
  have hcandidate := (mem_candidates_of_accepts hpattern htemplate htext hsegments (by decide)
    hblank (by decide)).2 weighing reachable_weighing weigh hintent (List.mem_singleton_self _)
  have hscore : score "3kg\t De pan" pattern = .ofRatio false 1 2 := by decide +kernel
  rwa [hscore] at hcandidate

end Ranking

end Phrasebook
