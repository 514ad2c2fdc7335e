import Mathlib
import Phrasebook.Detection.Detector
import Phrasebook.Proofs.Catalog.Rebuild
import Phrasebook.Proofs.Parameters

/-!
# What is read for an intent

The parameters of a detection are what the first accepting pattern of its intent captures, held
against the slots of the intent.  They come about whatever the text is, if nothing escapes from the
slots.
-/

namespace Phrasebook

/-- The patterns that the templates of an intent make, in declared order. -/
def Intent.usable (intent : Intent) : List Pattern :=
  intent.patterns.filterMap fun template => (Pattern.ofTemplate template).toOption

theorem Intent.source_mem_of_mem_usable {intent : Intent} {pattern : Pattern}
    (hpattern : pattern ∈ intent.usable) : pattern.source ∈ intent.patterns := by
  obtain ⟨template, htemplate, hmade⟩ := List.mem_filterMap.mp hpattern
  have hok : Pattern.ofTemplate template = .ok pattern := ((Catalog.holds_toOption _).1 _).mp hmade
  rw [Pattern.source_of_ofTemplate hok]
  exact htemplate

/-- Slots without dates whose limits are well typed and can be shown. -/
def Intent.IsPlain (intent : Intent) : Prop := ∀ entry ∈ intent.parameters, entry.2.kind.IsPlain

/-- Whatever is captured for the slots of an intent, it amounts to parameters. -/
def Intent.Coerces (intent : Intent) : Prop :=
  ∀ captures, ∃ parameters, Parameters.ofCaptures captures intent.parameters = .ok parameters

theorem Intent.IsPlain.coerces {intent : Intent} (hplain : intent.IsPlain) : intent.Coerces :=
  Parameters.exists_ofCaptures_of_isPlain hplain

/-- `Reads intent text source captures`: the first pattern of the intent that accepts the text is
made of the template `source` and captures these texts; without such a pattern there are none. -/
inductive Reads (intent : Intent) (text : String) : Option String → Captures → Prop
  | nothing : (∀ pattern ∈ intent.usable, pattern.accepts text = false) → Reads intent text none []
  | first {before after : List Pattern} {chosen : Pattern} {shares : List String} :
      intent.usable = before ++ chosen :: after →
      (∀ pattern ∈ before, pattern.accepts text = false) →
      chosen.captures? text = some shares →
      Reads intent text (some chosen.source) (.ofShares chosen.slotNames shares)

namespace Catalog

variable {catalog : Catalog} {intent : Intent}

theorem Aligned.mem_definitions (haligned : catalog.Aligned) (hmem : intent ∈ catalog.intents) :
    (intent.id, intent) ∈ catalog.definitions := by
  obtain ⟨⟨id, _⟩, hentry, rfl⟩ := List.mem_map.mp hmem
  have hkeyed := haligned.keyed _ hentry
  dsimp only at hkeyed hentry ⊢
  rwa [← hkeyed]

theorem Aligned.find?_eq (haligned : catalog.Aligned) (hmem : intent ∈ catalog.intents) :
    catalog.find? intent.id = some intent :=
  OrderedMap.get?_eq_some_of_mem haligned.nodup (haligned.mem_definitions hmem)

theorem Aligned.mem_usablePairs (haligned : catalog.Aligned) (hmem : intent ∈ catalog.intents)
    {pattern : Pattern} (hpattern : pattern ∈ catalog.usablePatterns intent.id) :
    (intent, pattern) ∈ catalog.usablePairs :=
  List.mem_flatMap.mpr
    ⟨_, haligned.mem_definitions hmem, List.mem_map.mpr ⟨pattern, hpattern, rfl⟩⟩

theorem mem_intents_of_find? {id : String} (hfind : catalog.find? id = some intent) :
    intent ∈ catalog.intents :=
  List.mem_map.mpr ⟨_, OrderedMap.mem_of_get?_eq_some hfind, rfl⟩

/-- The patterns in use for an intent are those that its templates make. -/
theorem Aligned.usablePatterns_eq (haligned : catalog.Aligned) (hmem : intent ∈ catalog.intents) :
    catalog.usablePatterns intent.id = intent.usable := by
  rw [usablePatterns, patternsAt, haligned.get?_prepared (haligned.mem_definitions hmem),
    Option.getD_some, prepare, List.filterMap_map]
  rfl

/-- The pairs in use, in catalog order and then in declared order: malformed templates are left out,
and shift no pattern to another intent. -/
theorem Aligned.usablePairs_eq (haligned : catalog.Aligned) :
    catalog.usablePairs =
      catalog.intents.flatMap fun intent => intent.usable.map fun pattern => (intent, pattern) := by
  rw [usablePairs, intents, List.flatMap_map]
  refine List.flatMap_congr fun entry hentry => ?_
  rw [haligned.keyed entry hentry, haligned.usablePatterns_eq (List.mem_map_of_mem hentry)]

end Catalog

namespace Detection

variable {catalog : Catalog} {intent : Intent} {text : String}

theorem exists_parametersFor_of_coerces (catalog : Catalog) (hcoerces : intent.Coerces)
    (text : String) : ∃ found, parametersFor catalog intent text = .ok found := by
  unfold parametersFor
  split
  · obtain ⟨parameters, hparameters⟩ := hcoerces []
    exact exists_bind_iff.mpr ⟨parameters, hparameters, _, rfl⟩
  · rename_i pattern captures _
    obtain ⟨parameters, hparameters⟩ := hcoerces captures
    exact exists_bind_iff.mpr ⟨parameters, hparameters, _, rfl⟩

theorem exists_parametersFor (catalog : Catalog) (hplain : intent.IsPlain) (text : String) :
    ∃ found, parametersFor catalog intent text = .ok found :=
  exists_parametersFor_of_coerces catalog hplain.coerces text

/-- The best candidate is reported, below the minimum without its intent. -/
theorem byPatterns_of_head? {settings : Settings} (haligned : catalog.Aligned) {best : Candidate}
    (hbest : (Ranking.candidates text catalog).head? = some best)
    (hid : best.intentId = intent.id) (hmem : intent ∈ catalog.intents) {least : Number}
    (hsettings : settings.patternLeast.number? = some least) {source : Option String}
    {parameters : Parameters}
    (hfound : parametersFor catalog intent text = .ok (source, parameters)) :
    byPatterns settings catalog text =
      let weak := { nothing (.text text) .patterns with
        confidence := .real best.confidence
        pattern := some best.pattern }
      .ok (if (Number.real best.confidence).lt least then weak
        else { weak with
          intentId := some intent.id
          pattern := some (source.getD best.pattern)
          parameters }) := by
  have hbelow : (Value.real best.confidence).lessThan settings.patternLeast =
      .ok ((Number.real best.confidence).lt least) := by
    rw [Value.lessThan, Value.precedes_of_number? rfl hsettings]
    rfl
  obtain ⟨rest, hcandidates⟩ := List.head?_eq_some_iff.mp hbest
  simp only [byPatterns, hcandidates, hbelow, hid, haligned.find?_eq hmem, hfound]
  cases (Number.real best.confidence).lt least <;> rfl

/-- The parameters are what the first accepting pattern captures, held against the slots. -/
theorem exists_reads_of_parametersFor (haligned : catalog.Aligned)
    (hmem : intent ∈ catalog.intents) (htext : isBlankText text = false)
    {source : Option String} {parameters : Parameters}
    (hfound : parametersFor catalog intent text = .ok (source, parameters)) :
    ∃ captures, Reads intent text source captures ∧
      Parameters.ofCaptures captures intent.parameters = .ok parameters := by
  have hrejects : ∀ {pattern : Pattern}, ((pattern.captures? text).map fun shares =>
      (pattern, Captures.ofShares pattern.slotNames shares)) = none →
      pattern.accepts text = false := by
    intro pattern hnone
    rw [Option.map_eq_none_iff] at hnone
    rw [Pattern.accepts, hnone, Option.isSome_none]
  rw [parametersFor, matchFirst?, haligned.usablePatterns_eq hmem, htext] at hfound
  simp only [Bool.false_eq_true, if_false] at hfound
  split at hfound
  · rename_i hnone
    obtain ⟨found, hparameters, hresult⟩ := bind_eq_ok_iff.mp hfound
    cases hresult
    exact ⟨[], .nothing fun pattern hpattern =>
      hrejects (List.findSome?_eq_none_iff.mp hnone pattern hpattern), hparameters⟩
  · rename_i pattern captures hsome
    obtain ⟨found, hparameters, hresult⟩ := bind_eq_ok_iff.mp hfound
    cases hresult
    obtain ⟨before, chosen, after, husable, haccepts, hbefore⟩ :=
      List.findSome?_eq_some_iff.mp hsome
    obtain ⟨shares, hshares, heq⟩ := Option.map_eq_some_iff.mp haccepts
    cases heq
    exact ⟨_, .first husable (fun pattern hpattern => hrejects (hbefore pattern hpattern)) hshares,
      hparameters⟩

end Detection

end Phrasebook
