import Mathlib
import Phrasebook.Proofs.Detection.Reading
import Phrasebook.Proofs.Number
import Phrasebook.Proofs.Ranking.Coincidence
import Phrasebook.Proofs.Ranking.Order

/-!
# Accepted texts are detected for certain

A text that some well-spaced pattern accepts has all words of the pattern, in order.  So the pattern
is certain, no candidate is ranked before the certain ones, and the first intent that has one is
detected, whatever the order of the catalog and however large the minimum.
-/

namespace Phrasebook

open Text (IsLatin)

theorem Number.extent?_unit : (Number.real Real64.unit).extent? = (Number.int 1).extent? := by
  rw [Real64.unit, Number.extent?, Number.extent?, Int.one_mul, Real64.signed]
  rfl

namespace Ranking

variable {template text : String} {segments : List Template.Segment}

/-- A pattern with a word, whose literals have blanks at slots, is certain of every Latin text that
it accepts; and no such text is blank. -/
theorem isCertain_of_accepts
    (hsegments : Template.segments (Text.trim template.toList) = .ok segments)
    (htemplate : ∀ c ∈ template.toList, IsLatin c) (htext : ∀ c ∈ text.toList, IsLatin c)
    (hblank : Template.BlankAtSlots segments)
    (hwords : (Pattern.ofSegments template segments).literalWords ≠ [])
    (haccepts : (Pattern.ofSegments template segments).accepts text = true) :
    isCertain text (Pattern.ofSegments template segments) = true ∧ isBlankText text = false := by
  have hmem := Pattern.mem_tokens_of_accepts hsegments htemplate htext hblank haccepts
  have hliterals : (Pattern.ofSegments template segments).literals ≠ [] := by
    intro hnil
    rw [Pattern.literalWords, hnil] at hwords
    exact hwords rfl
  have hcoincides :=
    Pattern.coincides_of_accepts hsegments htemplate htext hliterals haccepts
  refine ⟨?_, Pattern.isBlankText_eq_false_of_coincides hcoincides⟩
  rw [isCertain, hcoincides, score, coverage_eq_unit hwords hmem]
  simp

end Ranking

namespace Detection

variable {settings : Settings} {catalog : Catalog} {text : String}

/-- A certain best candidate is detected under every minimum up to one. -/
theorem exists_byPatterns_of_unit (haligned : catalog.Aligned) {best : Candidate} {first : Intent}
    (hbest : (Ranking.candidates text catalog).head? = some best)
    (hunit : best.confidence = Real64.unit) (hid : best.intentId = first.id)
    (hfirst : first ∈ catalog.intents) (hplain : first.IsPlain) {least : Number}
    (hsettings : settings.patternLeast.number? = some least) (hleast : least.le (.int 1) = true) :
    ∃ detection, byPatterns settings catalog text = .ok detection ∧
      detection.confidence = .real Real64.unit ∧ detection.intentId = some first.id := by
  have hlt : (Number.real Real64.unit).lt least = false := by
    apply Number.lt_eq_false_of_le
    rw [Number.le, Number.extent?_unit]
    exact hleast
  obtain ⟨⟨source, parameters⟩, hfound⟩ := exists_parametersFor catalog hplain text
  refine ⟨_, byPatterns_of_head? haligned hbest hid hfirst hsettings hfound, ?_⟩
  dsimp only
  rw [hunit, hlt, if_neg Bool.false_ne_true]
  exact ⟨rfl, rfl⟩

end Detection

namespace Detector

/-- No well-spaced utterance is lost.  If a Latin text is accepted by a Latin pattern in use that
has a word, and a blank wherever a literal meets a slot, detection by patterns is certain under
every minimum up to one, and detects the first intent of the catalog that has a certain pattern. -/
theorem detectPatterns_of_accepts {detector : Detector} (hreachable : detector.catalog.Reachable)
    (hplain : ∀ intent ∈ detector.catalog.intents, intent.IsPlain) {least : Number}
    (hsettings : detector.settings.patternLeast.number? = some least)
    (hleast : least.le (.int 1) = true) {text : String} (htext : ∀ c ∈ text.toList, IsLatin c)
    {intent : Intent} {pattern : Pattern}
    (hpair : (intent, pattern) ∈ detector.catalog.usablePairs)
    (hsource : ∀ c ∈ pattern.source.toList, IsLatin c) (hwords : pattern.literalWords ≠ [])
    {segments : List Template.Segment}
    (hsegments : Template.split (trimmed pattern.source) = .ok segments)
    (hblank : Template.BlankAtSlots segments) (haccepts : pattern.accepts text = true) :
    ∃ detection first, detector.detectPatterns (.text text) = .ok detection ∧
      detection.confidence = .real Real64.unit ∧ detection.intentId = some first.id ∧
        detector.catalog.intents.find? (Ranking.owns detector.catalog text) = some first := by
  have haligned := hreachable.aligned
  obtain ⟨-, -, hpattern⟩ := haligned.pairs hpair
  obtain ⟨-, found, hfound, heq⟩ := Pattern.ofTemplate_eq_ok_iff.mp hpattern
  cases (Pattern.split_trimmed_eq_ok_iff.mp hsegments).symm.trans hfound
  rw [heq] at hwords haccepts
  obtain ⟨hcertain, hnotBlank⟩ :=
    Ranking.isCertain_of_accepts hfound hsource htext hblank hwords haccepts
  rw [← heq] at hcertain
  obtain ⟨best, first, hbest, hunit, hid, hfirst⟩ :=
    Ranking.exists_head?_candidates haligned hnotBlank hpair hcertain
  have hmem := List.mem_of_find?_eq_some hfirst
  obtain ⟨detection, hdetects, hconfidence, hdetected⟩ :=
    Detection.exists_byPatterns_of_unit haligned hbest hunit hid hmem (hplain first hmem)
      hsettings hleast
  exact ⟨detection, first, hdetects, hconfidence, hdetected, hfirst⟩

/-- An intent with a slot. -/
def order : Intent :=
  { Intent.ofTemplates "PEDIDO" ["quiero \x7bcosa\x7d"] with
    parameters := [(.text "cosa", ⟨false, .null, .null, .string .null (.int 20) none⟩)] }

theorem isDeclared_order : order.IsDeclared := by
  refine ⟨⟨.text "PEDIDO", .null, .text "", .texts ["quiero \x7bcosa\x7d"],
    .record [("cosa", .record [("maxLength", .int 20)])], .mapping [], Intent.defaultThreshold,
    Intent.defaultPriority⟩, ?_⟩
  decide +kernel

theorem isPlain_order : order.IsPlain := by
  have hslot : (SlotKind.string .null (.int 20) none).IsPlain :=
    ⟨⟨.inl rfl, .inr ⟨20, rfl⟩⟩, by decide +kernel, nofun⟩
  simpa [Intent.IsPlain, order] using hslot

/-- A wish that any order expresses, and the order itself. -/
def ordering : Detector :=
  let wish := Intent.ofTemplates "DESEO" ["quiero"]
  create ((Catalog.empty.write wish.id wish (Catalog.prepare wish.patterns)).write order.id order
    (Catalog.prepare order.patterns)) none .standard

theorem reachable_ordering : ordering.catalog.Reachable := by
  refine ⟨[⟨Intent.ofTemplates "DESEO" ["quiero"],
    Intent.isDeclared_ofTemplates ⟨by decide, by decide⟩ (by decide) (by decide)⟩,
    ⟨order, isDeclared_order⟩], ordering.catalog, [], ?_, rfl⟩
  rfl

theorem isPlain_ordering : ∀ intent ∈ ordering.catalog.intents, intent.IsPlain := by
  have hintents : ordering.catalog.intents = [Intent.ofTemplates "DESEO" ["quiero"], order] := rfl
  rw [hintents]
  simp only [List.forall_mem_cons, List.not_mem_nil, false_implies, implies_true, and_true]
  exact ⟨fun _ hentry => absurd hentry List.not_mem_nil, isPlain_order⟩

/-- The pattern of the order accepts the text, and the wish comes first. -/
theorem detectPatterns_of_accepts_ordering :
    ∃ detection, ordering.detectPatterns (.text "\tQUIERO  pan ") = .ok detection ∧
      detection.confidence = .real Real64.unit ∧ detection.intentId = some "DESEO" := by
  have hleast : (Number.real (.ofRatio false 3 10)).le (.int 1) = true := by decide +kernel
  have htext : ∀ c ∈ "\tQUIERO  pan ".toList, IsLatin c := by simp [IsLatin]
  let segments : List Template.Segment := [.literal "quiero ".toList, .slot "cosa"]
  have hpair : (order, Pattern.ofSegments "quiero \x7bcosa\x7d" segments) ∈
      ordering.catalog.usablePairs := by decide +kernel
  have hsource : ∀ c ∈ "quiero \x7bcosa\x7d".toList, IsLatin c := by simp [IsLatin]
  have hsegments : Template.split (trimmed "quiero \x7bcosa\x7d") = .ok segments := by decide
  have hblank : Template.BlankAtSlots segments := by
    constructor <;> simp [segments, List.infix_cons_iff, Text.isBlank]
  obtain ⟨detection, first, hdetects, hconfidence, hid, hfirst⟩ :=
    detectPatterns_of_accepts reachable_ordering isPlain_ordering rfl hleast htext hpair hsource
      (by decide) hsegments hblank (by decide)
  have hwish : first.id = "DESEO" := by
    have heq : ordering.catalog.intents.find?
        (Ranking.owns ordering.catalog "\tQUIERO  pan ") =
          some (Intent.ofTemplates "DESEO" ["quiero"]) := by decide +kernel
    cases hfirst.symm.trans heq
    rfl
  exact ⟨detection, hdetects, hconfidence, hwish ▸ hid⟩

end Detector

end Phrasebook
