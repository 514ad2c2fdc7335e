import Mathlib
import Phrasebook.Proofs.Detection.Certain
import Phrasebook.Proofs.Detection.Own
import Phrasebook.Proofs.Slot.Uncased

/-!
# Detecting looks past style

Capitals and outer blanks change nothing about what the patterns detect.  Ranking works on the
folded text and reading on the text without its outer blanks, so each of the two comes to the same
on a text and on its uncased form without outer blanks, which restyled texts share.
-/

namespace Phrasebook

/-- Texts that are alike but for plain case and outer blanks. -/
theorem uncased_trimmed_eq_of_isRestyled {text other : String}
    (hrestyled : Text.IsRestyled text.toList other.toList) :
    uncased (trimmed text) = uncased (trimmed other) := by
  rw [← String.toList_inj, toList_uncased, toList_uncased, trimmed, trimmed, String.toList_ofList,
    String.toList_ofList]
  exact hrestyled.uncase_trim

/-- The intent has no dates among its slots. -/
def Intent.IsTimeless (intent : Intent) : Prop :=
  ∀ entry ∈ intent.parameters, ∀ earliest latest, entry.2.kind ≠ .date earliest latest

theorem Intent.IsPlain.isTimeless {intent : Intent} (hplain : intent.IsPlain) :
    intent.IsTimeless := fun entry hentry => (hplain entry hentry).timeless

theorem Ranking.candidates_uncased_trimmed (text : String) (catalog : Catalog) :
    candidates (uncased (trimmed text)) catalog = candidates text catalog := by
  have htrim : (trimmed text).toList = Text.trim text.toList := String.toList_ofList
  have htokens : Text.tokens (Text.trim text.toList) = Text.tokens text.toList := by
    rw [Text.tokens_eq, Text.tokens_eq, Text.words_trim]
  simp only [candidates, coinciding, isBlankText_uncased, isBlankText_trimmed, toList_uncased,
    htrim, Text.fold_uncase, Text.fold_trim, Text.tokens_uncase, htokens]

/-- Two results of matching that differ in nothing but the case of plain letters that were
captured. -/
def SameMatch (found other : Option (Pattern × Captures)) : Prop :=
  Option.Rel (fun found other => found.1 = other.1 ∧ found.2.IsRecased other.2) found other

theorem sameMatch_matchFirst? {text other : String}
    (hstyle : uncased (trimmed text) = uncased (trimmed other)) (patterns : List Pattern) :
    SameMatch (matchFirst? text patterns) (matchFirst? other patterns) := by
  have hsame := matchFirst?_uncased (trimmed text) patterns
  rw [hstyle, matchFirst?_uncased, matchFirst?_trimmed, matchFirst?_trimmed] at hsame
  cases hfirst : matchFirst? text patterns with
  | none =>
      rw [hfirst, Option.map_none, Option.map_eq_none_iff] at hsame
      rw [hsame]
      exact .none
  | some found =>
      rw [hfirst, Option.map_some] at hsame
      obtain ⟨result, hresult, heq⟩ := Option.map_eq_some_iff.mp hsame
      rw [Prod.mk.injEq] at heq
      rw [hresult]
      exact .some ⟨heq.1.symm, Captures.isRecased_iff.mpr heq.2.symm⟩

namespace Detection

variable {settings : Settings} {catalog : Catalog}

/-- What a detection says without its text and the values read from it. -/
def finding (detection : Detection) : Option String × Value × Option String :=
  (detection.intentId, detection.confidence, detection.pattern)

theorem map_fst_parametersFor_uncased {intent : Intent} (htimeless : intent.IsTimeless)
    (text : String) :
    (parametersFor catalog intent (uncased (trimmed text))).map Prod.fst =
      (parametersFor catalog intent text).map Prod.fst := by
  rw [parametersFor, parametersFor, matchFirst?_uncased, matchFirst?_trimmed]
  cases matchFirst? text (catalog.usablePatterns intent.id) with
  | none => rfl
  | some found =>
      exact map_bind_eq_of_views (Parameters.sameEnd_ofCaptures_uncased htimeless found.2)
        fun _ _ _ => rfl

/-- The patterns look at a text to rank it and to read it, and at nothing else of it. -/
theorem map_finding_byPatterns_eq {text other : String}
    (hcandidates : Ranking.candidates text catalog = Ranking.candidates other catalog)
    (hreading : ∀ intent ∈ catalog.intents, (parametersFor catalog intent text).map Prod.fst =
      (parametersFor catalog intent other).map Prod.fst) :
    (byPatterns settings catalog text).map finding =
      (byPatterns settings catalog other).map finding := by
  rw [byPatterns, byPatterns, hcandidates]
  cases Ranking.candidates other catalog with
  | nil => rfl
  | cons best rest =>
      refine map_bind_eq_of_views (f := id) rfl ?_
      rintro below _ rfl
      cases below with
      | true => rfl
      | false =>
          cases hknown : catalog.find? best.intentId with
          | none => rfl
          | some intent =>
              have hintent := hreading intent (Catalog.mem_intents_of_find? hknown)
              refine map_bind_eq_of_views hintent ?_
              rintro ⟨source, parameters⟩ ⟨_, others⟩ rfl
              rfl

theorem map_finding_eq_of_isRestyled
    (htimeless : ∀ intent ∈ catalog.intents, intent.IsTimeless) {text other : String}
    (hrestyled : Text.IsRestyled text.toList other.toList) :
    (byPatterns settings catalog text).map finding =
      (byPatterns settings catalog other).map finding := by
  have hstyle := uncased_trimmed_eq_of_isRestyled hrestyled
  refine map_finding_byPatterns_eq ?_ fun intent hintent => ?_
  · rw [← Ranking.candidates_uncased_trimmed text, hstyle, Ranking.candidates_uncased_trimmed]
  · rw [← map_fst_parametersFor_uncased (htimeless intent hintent) text, hstyle,
      map_fst_parametersFor_uncased (htimeless intent hintent)]

end Detection

namespace Detector

open Detection

/-- Detecting by patterns looks past plain case and outer blanks.  On a restyled text it ends with
the same fault, or detects the same intent with the same confidence and by the same pattern, and
what the intent's patterns capture differs in nothing but the case of plain letters.  Only the
reading of dates could tell the texts apart; under plain slots and a minimum that is a number there
is no fault at all. -/
theorem detectPatterns_of_isRestyled {detector : Detector}
    (htimeless : ∀ intent ∈ detector.catalog.intents, intent.IsTimeless) {text other : String}
    (hrestyled : Text.IsRestyled text.toList other.toList) :
    (∀ fault, detector.detectPatterns (.text text) = .error fault ↔
      detector.detectPatterns (.text other) = .error fault) ∧
    (∀ detection, detector.detectPatterns (.text text) = .ok detection →
      ∃ again, detector.detectPatterns (.text other) = .ok again ∧
        again.intentId = detection.intentId ∧ again.confidence = detection.confidence ∧
          again.pattern = detection.pattern ∧ ∀ id, detection.intentId = some id →
            SameMatch (matchFirst? text (detector.catalog.usablePatterns id))
              (matchFirst? other (detector.catalog.usablePatterns id))) ∧
    ((∀ intent ∈ detector.catalog.intents, intent.IsPlain) → detector.settings.AreNumbers →
      ∃ detection, detector.detectPatterns (.text text) = .ok detection) := by
  have hsame : (detector.detectPatterns (.text text)).map finding =
      (detector.detectPatterns (.text other)).map finding :=
    map_finding_eq_of_isRestyled htimeless hrestyled
  have hmatch := sameMatch_matchFirst? (uncased_trimmed_eq_of_isRestyled hrestyled)
  refine ⟨fun fault => ?_, fun detection hdetects => ?_, fun hplain hsettings =>
    exists_byPatterns hplain hsettings text⟩
  · rw [← map_eq_error_iff (f := finding), hsame, map_eq_error_iff]
  · rw [hdetects] at hsame
    obtain ⟨again, hagain, hfinding⟩ := map_eq_ok_iff.mp hsame.symm
    rw [finding, finding, Prod.mk.injEq, Prod.mk.injEq] at hfinding
    exact ⟨again, hagain, hfinding.1, hfinding.2.1, hfinding.2.2, fun id _ => hmatch _⟩

/-- An order and nothing else. -/
def takingOrders : Detector :=
  create (Catalog.empty.write order.id order (Catalog.prepare order.patterns)) none .standard

/-- Typed partly in capitals and between blanks, an order is still the same order. -/
theorem detectPatterns_of_isRestyled_capitals :
    ∃ detection again,
      takingOrders.detectPatterns (.text "quiero pan") = .ok detection ∧
        takingOrders.detectPatterns (.text "\tQUIERO Pan ") = .ok again ∧
          detection.intentId = some "PEDIDO" ∧ again.intentId = some "PEDIDO" ∧
            again.pattern = some "quiero \x7bcosa\x7d" ∧
              SameMatch (matchFirst? "quiero pan" (takingOrders.catalog.usablePatterns "PEDIDO"))
                (matchFirst? "\tQUIERO Pan " (takingOrders.catalog.usablePatterns "PEDIDO")) := by
  have hintents : takingOrders.catalog.intents = [order] := rfl
  have hplain : ∀ intent ∈ takingOrders.catalog.intents, intent.IsPlain := by
    simpa [hintents] using isPlain_order
  have hrestyled : Text.IsRestyled "quiero pan".toList "\tQUIERO Pan ".toList := by
    refine ⟨[], "quiero pan".toList, [], ['\t'], "QUIERO Pan".toList, [' '], by decide, by decide,
      nofun, nofun, ?_, ?_, Text.isRecased_iff.mpr (by decide)⟩
    · exact List.forall_mem_singleton.mpr (by decide)
    · exact List.forall_mem_singleton.mpr (by decide)
  obtain ⟨-, hdetection, hexists⟩ := detectPatterns_of_isRestyled
    (fun intent hintent => (hplain intent hintent).isTimeless) hrestyled
  obtain ⟨detection, hdetects⟩ := hexists hplain areProbabilities_standard.areNumbers
  obtain ⟨again, hagain, hid, -, hpattern, hmatch⟩ := hdetection detection hdetects
  have hfound : takingOrders.detectPatterns (.text "quiero pan") =
      .ok ⟨.text "quiero pan", .patterns, some "PEDIDO", .real Real64.unit,
        some "quiero \x7bcosa\x7d", [(.text "cosa", .text "pan")], none, none, none, none⟩ := by
    decide +kernel
  cases hdetects.symm.trans hfound
  exact ⟨_, again, hdetects, hagain, rfl, hid, hpattern, hmatch _ rfl⟩

end Detector

end Phrasebook
