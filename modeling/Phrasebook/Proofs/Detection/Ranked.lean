import Mathlib
import Phrasebook.Proofs.Detection.Sources
import Phrasebook.Proofs.Ranking.Best

/-!
# Ranking and detection

The candidates for a text are all pairs of an intent and a pattern that coincide with it, put in
order by their scores, where pairs with one score keep their order.  The minimum is held against the
first of them in two places, by the ranking itself and by a detector, and both come to the same.
-/

namespace Phrasebook

namespace Ranking

variable {text : String} {catalog : Catalog} {pairs ranking : List (Intent × Pattern)}

/-- The pairs of an intent and one of its patterns that coincide with a text, in catalog order and
then in declared order.  Malformed templates have no pattern. -/
def coincidingPairs (text : String) (catalog : Catalog) : List (Intent × Pattern) :=
  (catalog.intents.flatMap fun intent => intent.usable.map fun pattern => (intent, pattern)).filter
    fun pair => coincides text pair.2

/-- What a pair is ranked as. -/
def candidateOf (text : String) (pair : Intent × Pattern) : Candidate :=
  ⟨pair.1.id, pair.2.source, score text pair.2⟩

/-- Pairs in order by their scores for a text.  None is lost or doubled, none is behind one with a
smaller score, and those with one score are in the order that they came in; so the first one is the
earliest of those with the greatest score. -/
structure IsRanking (text : String) (pairs ranking : List (Intent × Pattern)) : Prop where
  perm : ranking.Perm pairs
  descending : ranking.Pairwise fun first second =>
    (Number.real (score text second.2)).le (.real (score text first.2)) = true
  stable : ∀ confidence, (ranking.filter fun pair => score text pair.2 = confidence) =
    pairs.filter fun pair => score text pair.2 = confidence
  first : ∀ best ∈ ranking.head?, ∃ before after, pairs = before ++ best :: after ∧
    (∀ pair ∈ before, (Number.real (score text pair.2)).lt (.real (score text best.2)) = true) ∧
      ∀ pair ∈ after, (Number.real (score text pair.2)).le (.real (score text best.2)) = true

/-- Whether a pair scores no less than another. -/
def scoresAtLeast (text : String) (left right : Intent × Pattern) : Bool :=
  atLeastAsSure (candidateOf text left) (candidateOf text right)

theorem scoresAtLeast_iff {left right : Intent × Pattern} : scoresAtLeast text left right = true ↔
    (Number.real (score text right.2)).le (.real (score text left.2)) = true := by
  rw [(isShare_score text _).le_iff (isShare_score text _)]
  exact decide_eq_true_iff

theorem scoresAtLeast_eq_false_iff {left right : Intent × Pattern} :
    scoresAtLeast text left right = false ↔
      (Number.real (score text left.2)).lt (.real (score text right.2)) = true := by
  rw [(isShare_score text _).lt_iff (isShare_score text _), decide_eq_true_iff, ← not_le]
  exact decide_eq_false_iff_not

theorem isRanking_mergeSort (text : String) (pairs : List (Intent × Pattern)) :
    IsRanking text pairs (pairs.mergeSort (scoresAtLeast text)) := by
  have htrans : ∀ a b c, scoresAtLeast text a b = true → scoresAtLeast text b c = true →
      scoresAtLeast text a c = true := fun a b c => atLeastAsSure_trans _ _ _
  have htotal : ∀ a b, (scoresAtLeast text a b || scoresAtLeast text b a) = true :=
    fun a b => atLeastAsSure_total _ _
  constructor
  case perm => exact List.mergeSort_perm pairs _
  case descending =>
    exact (List.pairwise_mergeSort htrans htotal pairs).imp fun hle => scoresAtLeast_iff.mp hle
  case stable =>
    refine fun confidence => filter_mergeSort htrans htotal fun a _ b _ ha hb => ?_
    rw [decide_eq_true_eq] at ha hb
    rw [scoresAtLeast_iff, ha, ← hb, (isShare_score text _).le_iff (isShare_score text _)]
  case first =>
    intro best hbest
    obtain ⟨before, after, hpairs, hbefore, hafter⟩ :=
      (head?_mergeSort_eq_some_iff htrans htotal).mp hbest
    exact ⟨before, after, hpairs,
      fun pair hpair => scoresAtLeast_eq_false_iff.mp (hbefore pair hpair),
      fun pair hpair => scoresAtLeast_iff.mp (hafter pair hpair)⟩

/-- The candidates are the coinciding pairs in order by their scores. -/
theorem candidates_eq_map (haligned : catalog.Aligned) (text : String) :
    candidates text catalog =
      ((coincidingPairs text catalog).mergeSort (scoresAtLeast text)).map (candidateOf text) := by
  have hcoinciding : coinciding text catalog =
      (coincidingPairs text catalog).map (candidateOf text) := by
    rw [coinciding, haligned.usablePairs_eq]
    rfl
  rw [candidates_eq_mergeSort haligned, mergeSort_ahead, hcoinciding, List.map_mergeSort]
  exact fun _ _ _ _ => rfl

end Ranking

namespace Detection

open Ranking (best)

/-- What is detected is what the ranking finds best: a failure if that fails, and otherwise the
intent of what is found, with its confidence, or no intent if nothing is found. -/
structure AgreesWith (detected : Except Fault Detection)
    (found : Except Fault (Option Candidate)) : Prop where
  fault : ∀ fault, found = .error fault → detected = .error fault
  detection : ∀ outcome, found = .ok outcome → ∃ detection, detected = .ok detection ∧
    (detection.matched = true ↔ outcome ≠ none) ∧
      ∀ candidate ∈ outcome, detection.intentId = some candidate.intentId ∧
        detection.confidence = .real candidate.confidence

theorem agreesWith_error (fault : Fault) : AgreesWith (.error fault) (.error fault) := by
  refine ⟨fun _ hfault => ?_, nofun⟩
  cases hfault
  rfl

theorem agreesWith_none {detection : Detection} (hid : detection.intentId = none) :
    AgreesWith (.ok detection) (.ok none) := by
  refine ⟨nofun, fun outcome houtcome => ?_⟩
  cases houtcome
  exact ⟨detection, rfl, by simp [matched, hid], nofun⟩

theorem agreesWith_some {detection : Detection} {candidate : Candidate}
    (hid : detection.intentId = some candidate.intentId)
    (hconfidence : detection.confidence = .real candidate.confidence) :
    AgreesWith (.ok detection) (.ok (some candidate)) := by
  refine ⟨nofun, fun outcome houtcome => ?_⟩
  cases houtcome
  refine ⟨detection, rfl, by simp [matched, hid], fun found hfound => ?_⟩
  cases hfound
  exact ⟨hid, hconfidence⟩

/-- Both hold the minimum against the first candidate, whose intent is always known. -/
theorem byPatterns_agreesWith {catalog : Catalog} (haligned : catalog.Aligned)
    (hplain : ∀ intent ∈ catalog.intents, intent.IsPlain) (settings : Settings) (text : String) :
    AgreesWith (byPatterns settings catalog text) (best text catalog settings.patternLeast) := by
  cases hcandidates : Ranking.candidates text catalog with
  | nil =>
      rw [byPatterns, best, hcandidates]
      exact agreesWith_none rfl
  | cons first rest =>
      have hfirst : first ∈ Ranking.candidates text catalog := hcandidates ▸ List.mem_cons_self
      obtain ⟨intent, pattern, hpair, -, rfl⟩ := (Ranking.mem_candidates_iff haligned).mp hfirst
      have hintent := (haligned.pairs hpair).1
      obtain ⟨⟨source, parameters⟩, hfound⟩ :=
        exists_parametersFor catalog (hplain intent hintent) text
      simp only [byPatterns, best, hcandidates, haligned.find?_eq hintent, hfound]
      cases (Value.real (Ranking.score text pattern)).lessThan settings.patternLeast with
      | error fault => exact agreesWith_error fault
      | ok below =>
          cases below with
          | true => exact agreesWith_none rfl
          | false => exact agreesWith_some rfl rfl

/-- A minimum that is a number can be held against every candidate. -/
theorem exists_best {least : Value} {minimum : Number} (hleast : least.number? = some minimum)
    (text : String) (catalog : Catalog) : ∃ found, best text catalog least = .ok found := by
  rw [best]
  cases Ranking.candidates text catalog with
  | nil => exact ⟨none, rfl⟩
  | cons first rest =>
      have hless : (Value.real first.confidence).lessThan least =
          .ok ((Number.real first.confidence).lt minimum) := by
        rw [Value.lessThan, Value.precedes_of_number? rfl hleast]
        rfl
      simp only [hless]
      cases (Number.real first.confidence).lt minimum with
      | true => exact ⟨none, rfl⟩
      | false => exact ⟨some first, rfl⟩

end Detection

namespace Detector

open Ranking (best candidateOf candidates coincidingPairs IsRanking)

variable {detector : Detector}

/-- A greeting with a template that is malformed and two that are the same, and small talk that
repeats them. -/
def greetings : List Intent.Declared :=
  [⟨.ofTemplates "SALUDO" ["hola \x7bnombre", "hola", "hola"],
      Intent.isDeclared_ofTemplates ⟨by decide, by decide⟩ (by decide) (by decide)⟩,
    ⟨.ofTemplates "CHARLA" ["hola"],
      Intent.isDeclared_ofTemplates ⟨by decide, by decide⟩ (by decide) (by decide)⟩]

end Detector

end Phrasebook
