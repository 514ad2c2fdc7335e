import Mathlib
import Phrasebook.Proofs.Catalog.Failure
import Phrasebook.Proofs.Detection.Certain
import Phrasebook.Proofs.Ranking.Best

/-!
# Changing a catalog is conservative for detection

Detection by patterns looks at the best candidate and at its intent, and at nothing else of the
catalog.  So an intent that is added is detected only where it is surer than all others, and an
intent that is removed is missed only where it was the best.
-/

namespace Phrasebook

namespace Catalog

variable {catalog : Catalog} {intent : Intent}

theorem intents_add (hid : intent.id ∉ catalog.ids) :
    (catalog.add intent).catalog.intents = catalog.intents ++ [intent] := by
  rw [add_eq_of_not_mem hid, write, intents, intents]
  dsimp only
  rw [OrderedMap.insert_of_not_mem hid, List.map_append, List.map_singleton]

theorem Aligned.intents_remove (haligned : catalog.Aligned) (id : String) :
    (catalog.remove id).catalog.intents = catalog.intents.filter fun intent => intent.id ≠ id := by
  have hfilter : (OrderedMap.erase id catalog.definitions).map (·.2) =
      catalog.intents.filter fun intent => intent.id ≠ id := by
    rw [OrderedMap.erase, intents, List.filter_map]
    have hsame : ∀ entry ∈ catalog.definitions,
        (!(entry.1 == id)) = decide (entry.2.id ≠ id) := by
      intro entry hentry
      rw [haligned.keyed entry hentry, beq_eq_decide, decide_not]
    rw [List.filter_congr hsame]
    rfl
  rw [Catalog.remove]
  cases hfind : catalog.find? id with
  | none =>
      rw [← hfilter, OrderedMap.erase_eq_self hfind]
      rfl
  | some existing => exact hfilter

end Catalog

namespace Detection

variable {settings : Settings} {catalog other : Catalog} {intent : Intent} {text : String}

theorem parametersFor_congr (haligned : catalog.Aligned) (hother : other.Aligned)
    (hmem : intent ∈ catalog.intents) (hthere : intent ∈ other.intents) :
    parametersFor other intent text = parametersFor catalog intent text := by
  rw [parametersFor, parametersFor, haligned.usablePatterns_eq hmem,
    hother.usablePatterns_eq hthere]

/-- Detection by patterns depends on the best candidate and its intent alone. -/
theorem byPatterns_congr (haligned : catalog.Aligned) (hother : other.Aligned)
    (hhead : (Ranking.candidates text other).head? = (Ranking.candidates text catalog).head?)
    (hkept : ∀ best ∈ (Ranking.candidates text catalog).head?, ∀ intent ∈ catalog.intents,
      intent.id = best.intentId → intent ∈ other.intents) :
    byPatterns settings other text = byPatterns settings catalog text := by
  cases hcandidates : Ranking.candidates text catalog with
  | nil =>
      rw [hcandidates, List.head?_nil, List.head?_eq_none_iff] at hhead
      simp only [byPatterns, hhead, hcandidates]
  | cons best rest =>
      rw [hcandidates, List.head?_cons] at hhead
      obtain ⟨others, hothers⟩ := List.head?_eq_some_iff.mp hhead
      have hmem : best ∈ Ranking.candidates text catalog := hcandidates ▸ List.mem_cons_self
      obtain ⟨intent, pattern, hpair, -, heq⟩ := (Ranking.mem_candidates_iff haligned).mp hmem
      have hintent : intent ∈ catalog.intents := (haligned.pairs hpair).1
      have hid : best.intentId = intent.id := by rw [heq]
      have hthere : intent ∈ other.intents :=
        hkept best (by rw [hcandidates, List.head?_cons]; rfl) intent hintent hid.symm
      simp only [byPatterns, hcandidates, hothers, hid, haligned.find?_eq hintent,
        hother.find?_eq hthere, parametersFor_congr haligned hother hintent hthere]

/-- Below the minimum or not, the best candidate decides which intent the pattern is of. -/
theorem exists_byPatterns_of_candidatesOf (haligned : catalog.Aligned) {best : Candidate}
    (hbest : (Ranking.candidates text catalog).head? = some best)
    (hown : best ∈ Ranking.candidatesOf text intent) (hmem : intent ∈ catalog.intents)
    (hcoerces : intent.Coerces) {least : Number}
    (hsettings : settings.patternLeast.number? = some least) :
    ∃ detection, byPatterns settings catalog text = .ok detection ∧
      (∃ template ∈ intent.patterns, detection.pattern = some template) ∧
        ∀ id ∈ detection.intentId, id = intent.id := by
  obtain ⟨pattern, husable, hcoincides, rfl⟩ := Ranking.mem_candidatesOf_iff.mp hown
  obtain ⟨⟨source, parameters⟩, hfound⟩ :=
    exists_parametersFor_of_coerces catalog hcoerces text
  rw [byPatterns_of_head? haligned hbest rfl hmem hsettings hfound]
  dsimp only
  cases (Number.real (Ranking.score text pattern)).lt least with
  | true =>
      refine ⟨_, rfl, ⟨pattern.source, Intent.source_mem_of_mem_usable husable, rfl⟩, ?_⟩
      rintro _ ⟨⟩
  | false =>
      refine ⟨_, rfl, ?_, fun id hid => (Option.some.inj hid).symm⟩
      cases source with
      | none => exact ⟨pattern.source, Intent.source_mem_of_mem_usable husable, rfl⟩
      | some template =>
          have htext : isBlankText text = false :=
            Ranking.isBlankText_eq_false_of_mem (List.mem_of_mem_head? hbest)
          obtain ⟨captures, hreads, -⟩ := exists_reads_of_parametersFor haligned hmem htext hfound
          cases hreads with
          | @first before after chosen shares husable _ _ =>
              have hchosen : chosen ∈ intent.usable := by
                rw [husable]
                exact List.mem_append_right before List.mem_cons_self
              exact ⟨chosen.source, Intent.source_mem_of_mem_usable hchosen, rfl⟩

end Detection

namespace Detector

/-- Adding and removing intents is conservative for detection by patterns.  Where a pattern of
a new intent is surer than the best candidate, a pattern of the new intent is reported, if the slots
of the intent take whatever is captured; elsewhere the detection is the same as before.  It is the
same, too, when an intent goes that did not have the best candidate. -/
theorem detectPatterns_conservative {detector : Detector}
    (hreachable : detector.catalog.Reachable) (text : String) :
    (∀ (intent : Intent.Declared) (least : Number), intent.1.id ∉ detector.catalog.ids →
      intent.1.Coerces → detector.settings.patternLeast.number? = some least →
      let enlarged := { detector with catalog := (detector.catalog.add intent.1).catalog }
      (¬ Ranking.Outranks intent.1 text detector.catalog →
        enlarged.detectPatterns (.text text) = detector.detectPatterns (.text text)) ∧
      (Ranking.Outranks intent.1 text detector.catalog →
        ∃ detection, enlarged.detectPatterns (.text text) = .ok detection ∧
          (∃ template ∈ intent.1.patterns, detection.pattern = some template) ∧
            ∀ id ∈ detection.intentId, id = intent.1.id)) ∧
    ∀ id : String,
      (∀ best ∈ (Ranking.candidates text detector.catalog).head?, best.intentId ≠ id) →
      let reduced := { detector with catalog := (detector.catalog.remove id).catalog }
      reduced.detectPatterns (.text text) = detector.detectPatterns (.text text) := by
  have haligned := hreachable.aligned
  constructor
  · intro intent least hid hcoerces hsettings
    have hchanged := haligned.outcome (.add intent)
    have hintents := Catalog.intents_add hid
    constructor
    · intro hbehind
      apply Detection.byPatterns_congr haligned hchanged
      · exact Ranking.head?_candidates_of_not_outranks haligned hchanged hintents hbehind
      · intro best _ other hother _
        rw [Catalog.Change.outcome, hintents]
        exact List.mem_append_left _ hother
    · intro hahead
      obtain ⟨best, hown, hbest⟩ :=
        Ranking.exists_head?_candidates_of_outranks haligned hchanged hintents hahead
      have hmem : intent.1 ∈ (detector.catalog.add intent.1).catalog.intents := by
        rw [hintents]
        exact List.mem_append_right _ List.mem_cons_self
      exact Detection.exists_byPatterns_of_candidatesOf hchanged hbest hown hmem hcoerces
        hsettings
  · intro id hbest
    have hintents := haligned.intents_remove id
    apply Detection.byPatterns_congr haligned (haligned.remove id)
    · exact Ranking.head?_candidates_of_filter haligned (haligned.remove id) hintents hbest
    · intro best hhead intent hmem hid
      rw [hintents, List.mem_filter]
      exact ⟨hmem, by simpa [hid] using hbest best hhead⟩

/-- A detector that knows one greeting. -/
def welcoming : Detector := create Catalog.greeting none .standard

/-- An order is a text that no candidate was there for; the greeting is as it was, and an order is
still none of the greetings when there are none. -/
theorem detectPatterns_conservative_welcoming :
    let ordering := { welcoming with catalog := (welcoming.catalog.add order).catalog }
    let silent := { welcoming with catalog := (welcoming.catalog.remove "SALUDO").catalog }
    (∃ detection, ordering.detectPatterns (.text "quiero pan") = .ok detection ∧
        (∃ template ∈ order.patterns, detection.pattern = some template) ∧
          ∀ id ∈ detection.intentId, id = "PEDIDO") ∧
      ordering.detectPatterns (.text "hola") = welcoming.detectPatterns (.text "hola") ∧
      silent.detectPatterns (.text "quiero pan") =
        welcoming.detectPatterns (.text "quiero pan") := by
  have hreachable : welcoming.catalog.Reachable := Catalog.reachable_greeting
  have hwish := detectPatterns_conservative hreachable "quiero pan"
  have hgreeting := detectPatterns_conservative hreachable "hola"
  have hnone : Ranking.candidates "quiero pan" welcoming.catalog = [] := by decide +kernel
  refine ⟨?_, ?_, ?_⟩
  · refine (hwish.1 ⟨order, isDeclared_order⟩ _ (by decide) isPlain_order.coerces rfl).2 ?_
    refine ⟨.ofSegments "quiero \x7bcosa\x7d" [.literal "quiero ".toList, .slot "cosa"],
      by decide, by decide, ?_⟩
    rw [hnone]
    nofun
  · refine (hgreeting.1 ⟨order, isDeclared_order⟩ _ (by decide) isPlain_order.coerces rfl).1 ?_
    rintro ⟨pattern, husable, hcoincides, -⟩
    have hapart : ∀ pattern ∈ order.usable, Ranking.coincides "hola" pattern = false := by
      decide
    exact absurd (hcoincides.symm.trans (hapart pattern husable)) nofun
  · refine hwish.2 "SALUDO" ?_
    rw [hnone]
    nofun

end Detector

end Phrasebook
