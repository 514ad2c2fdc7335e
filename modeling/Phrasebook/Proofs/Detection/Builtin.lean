import Mathlib
import Phrasebook.Catalog.Builtin
import Phrasebook.Proofs.Detection.Certain
import Phrasebook.Proofs.Ranking.Phrase
import Phrasebook.Proofs.Template.Placement

/-!
# Detecting what templates say

A template that opens with a phrase and has at most one slot behind it says the phrase and a value.
If no word of the value is one of the catalog, the phrase alone decides what is detected, so a look
at the templates of a catalog settles all that they say.  In the built-in catalog every template is
detected as its intent, save for five whose phrase has in it a shorter one of an earlier intent.
-/

namespace Phrasebook

namespace Template

open Text (Apart)

/-- What segments say with a value in the place of each slot. -/
def filled (value : List Char) (segments : List Segment) : List Char :=
  segments.flatMap fun
    | .literal text => text
    | .slot _ => value

/-- The text that a template makes with a value in the place of each slot. -/
def fill (template value : String) : Except Malformed String :=
  (split template).map fun segments => String.ofList (filled value.toList segments)

/-- The phrase that a template consists of, up to one slot behind a blank at its end. -/
def phrase? : List Segment → Option (List Char)
  | [.literal phrase] => some phrase
  | [.literal phrase, .slot _] =>
      if phrase.getLast?.any Text.isBlank then some phrase else none
  | _ => none

theorem exists_filled_eq {segments : List Segment} {phrase : List Char}
    (hphrase : phrase? segments = some phrase) (value : List Char) :
    ∃ rest, filled value segments = phrase ++ rest ∧ Apart phrase rest ∧
      (rest = [] ∨ rest = value) := by
  unfold phrase? at hphrase
  split at hphrase
  · cases hphrase
    exact ⟨[], rfl, apart_nil phrase, .inl rfl⟩
  · split at hphrase
    · rename_i hblank
      cases hphrase
      refine ⟨value, by simp [filled], fun c hc _ _ => .inl ?_, .inr rfl⟩
      rw [Option.mem_def] at hc
      rwa [hc, Option.any_some] at hblank
    · cases hphrase
  · cases hphrase

end Template

namespace Catalog

open Ranking (IsForeign claimant?)

/-- The id of the intent that a template is detected as. -/
def addressee? (catalog : Catalog) (template : String) : Option String :=
  match Template.split template with
  | .ok segments => ((Template.phrase? segments).bind (claimant? catalog)).map (·.id)
  | .error _ => none

/-- A catalog whose slots take every text, for want of limits and dates, and whose patterns have not
so many words that the share of all but one rounds to one. -/
structure IsModest (catalog : Catalog) : Prop where
  limitless : ∀ intent ∈ catalog.intents, ∀ entry ∈ intent.parameters,
    entry.2.kind.limits = [] ∧ entry.2.kind.name ≠ "date"
  length : ∀ pair ∈ catalog.usablePairs, pair.2.literalWords.length ≤ 2 ^ 53

instance (catalog : Catalog) : Decidable catalog.IsModest :=
  decidable_of_iff (_ ∧ _) ⟨fun h => ⟨h.1, h.2⟩, fun h => ⟨h.limitless, h.length⟩⟩

theorem IsModest.isPlain {catalog : Catalog} (hmodest : catalog.IsModest) {intent : Intent}
    (hintent : intent ∈ catalog.intents) : intent.IsPlain := fun entry hentry =>
  SlotKind.isPlain_of_limits_eq_nil (hmodest.limitless intent hintent entry hentry).1
    (hmodest.limitless intent hintent entry hentry).2

end Catalog

namespace Detector

open Ranking (IsForeign)

/-- What a template says with a value of foreign words is detected as the template's addressee. -/
theorem exists_detectPatterns_of_addressee? {detector : Detector}
    (haligned : detector.catalog.Aligned) (hmodest : detector.catalog.IsModest)
    {least : Number} (hsettings : detector.settings.patternLeast.number? = some least)
    (hleast : least.le (.int 1) = true) {template id : String}
    (haddressee : detector.catalog.addressee? template = some id) {value : String}
    (hforeign : IsForeign detector.catalog value.toList) :
    ∃ text detection, Template.fill template value = .ok text ∧
      detector.detectPatterns (.text text) = .ok detection ∧ detection.intentId = some id := by
  unfold Catalog.addressee? at haddressee
  split at haddressee
  case h_2 => cases haddressee
  rename_i segments hsplit
  rw [Option.map_eq_some_iff] at haddressee
  obtain ⟨first, hfirst, rfl⟩ := haddressee
  obtain ⟨phrase, hphrase, hclaimant⟩ := Option.bind_eq_some_iff.mp hfirst
  obtain ⟨rest, hfilled, hapart, hrest⟩ := Template.exists_filled_eq hphrase value.toList
  have hforeign' : IsForeign detector.catalog rest := by
    rcases hrest with rfl | rfl
    · exact fun token htoken => absurd htoken List.not_mem_nil
    · exact hforeign
  obtain ⟨best, hbest, hunit, hbestId⟩ :=
    Ranking.exists_head?_candidates_append haligned hmodest.length hclaimant hapart hforeign'
  have hmem := Ranking.mem_intents_of_claimant? hclaimant
  obtain ⟨detection, hdetects, -, hdetected⟩ :=
    Detection.exists_byPatterns_of_unit haligned hbest hunit hbestId hmem
      (hmodest.isPlain hmem) hsettings hleast
  refine ⟨String.ofList (phrase ++ rest), detection, ?_, hdetects, hdetected⟩
  rw [Template.fill, hsplit, ← hfilled]
  rfl

end Detector

namespace Catalog.Builtin

/-- The templates that say, ahead of what they are declared for, that something is wanted or needed:
a search, by the first intent of the catalog. -/
def shadowed : List String :=
  ["quiero comprar \x7bnombre_producto\x7d", "necesito comprar \x7bnombre_producto\x7d",
    "quiero vender \x7bnombre_producto\x7d", "necesito vender \x7bnombre_producto\x7d",
    "necesito ayuda"]

/-- The id of the intent that a template of the built-in catalog is detected as. -/
def detectedAs (intent : Intent) (template : String) : String :=
  if template ∈ shadowed then "BUSQUEDA" else intent.id

/-- What the built-in catalog is known by: each of its templates has its addressee, two of its
templates are these, and no word of this value is one of its words. -/
def Checks (catalog : Catalog) : Prop :=
  (catalog.IsModest ∧ ∀ intent ∈ catalog.intents, ∀ template ∈ intent.patterns,
    catalog.addressee? template = some (detectedAs intent template)) ∧
  (∃ intent ∈ catalog.intents, intent.id = "COMPRA" ∧
    "hacer pedido de \x7bnombre_producto\x7d" ∈ intent.patterns) ∧
  (∃ intent ∈ catalog.intents, intent.id = "AYUDA" ∧ "necesito ayuda" ∈ intent.patterns) ∧
  Ranking.IsForeign catalog "una mesa".toList

instance (catalog : Catalog) : Decidable (Checks catalog) :=
  inferInstanceAs (Decidable ((_ ∧ _) ∧ _ ∧ _ ∧ _))

-- The declarations take long to read, so they are read once for all that is looked up in them.
theorem exists_builtin_checks : ∃ catalog, builtin = .ok catalog ∧ Checks catalog := by
  have hcheck : builtin.toOption.any (fun catalog => decide (Checks catalog)) = true := by
    decide +kernel
  obtain ⟨catalog, hcatalog, hchecks⟩ := exists_of_any_toOption hcheck
  exact ⟨catalog, hcatalog, of_decide_eq_true hchecks⟩

/-- The built-in declarations are read, and each of their templates has its addressee. -/
theorem exists_builtin : ∃ catalog, builtin = .ok catalog ∧ catalog.IsModest ∧
    ∀ intent ∈ catalog.intents, ∀ template ∈ intent.patterns,
      catalog.addressee? template = some (detectedAs intent template) := by
  obtain ⟨catalog, hcatalog, haddressed, -⟩ := exists_builtin_checks
  exact ⟨catalog, hcatalog, haddressed⟩

/-- Two of the built-in intents, and a value that has no word of the catalog. -/
theorem builtin_has_order_and_help {catalog : Catalog} (hbuiltin : builtin = .ok catalog) :
    (∃ intent ∈ catalog.intents, intent.id = "COMPRA" ∧
        "hacer pedido de \x7bnombre_producto\x7d" ∈ intent.patterns) ∧
      (∃ intent ∈ catalog.intents, intent.id = "AYUDA" ∧ "necesito ayuda" ∈ intent.patterns) ∧
      Ranking.IsForeign catalog "una mesa".toList := by
  obtain ⟨_, hcatalog, -, hlooked⟩ := exists_builtin_checks
  cases hbuiltin.symm.trans hcatalog
  exact hlooked

end Catalog.Builtin

namespace Detector

open Catalog.Builtin (detectedAs)
open Ranking (IsForeign)

/-- The standard minimum is below one, so it rejects nothing that is certain. -/
theorem exists_detectPatterns_standard {catalog : Catalog} (haligned : catalog.Aligned)
    (hmodest : catalog.IsModest) (classifier : Option Classifier) {template id : String}
    (haddressee : catalog.addressee? template = some id) {value : String}
    (hforeign : IsForeign catalog value.toList) :
    ∃ text detection, Template.fill template value = .ok text ∧
      (create catalog classifier .standard).detectPatterns (.text text) = .ok detection ∧
        detection.intentId = some id := by
  have hsettings : Settings.standard.patternLeast.number? =
      some (.real (.ofRatio false 3 10)) := rfl
  have hleast : (Number.real (.ofRatio false 3 10)).le (.int 1) = true := by decide +kernel
  exact exists_detectPatterns_of_addressee? haligned hmodest hsettings hleast haddressee hforeign

/-- The built-in catalog detects its own utterances.  Whatever is written in the place of a slot, as
long as no word of it is one of the catalog, the text of a template is detected as the template's
intent.  Only the texts of five templates are detected as a search, which comes first in the
catalog and is as certain. -/
theorem detectPatterns_builtin {catalog : Catalog} (hbuiltin : Catalog.builtin = .ok catalog)
    (classifier : Option Classifier) {intent : Intent} (hintent : intent ∈ catalog.intents)
    {template : String} (htemplate : template ∈ intent.patterns) {value : String}
    (hforeign : IsForeign catalog value.toList) :
    ∃ text detection, Template.fill template value = .ok text ∧
      (create catalog classifier .standard).detectPatterns (.text text) = .ok detection ∧
        detection.intentId = some (detectedAs intent template) := by
  obtain ⟨_, hcatalog, hmodest, haddressee⟩ := Catalog.Builtin.exists_builtin
  cases hbuiltin.symm.trans hcatalog
  have haligned : catalog.Aligned := (Catalog.reachable_of_ofDeclarations hbuiltin).aligned
  exact exists_detectPatterns_standard haligned hmodest classifier
    (haddressee intent hintent template htemplate) hforeign

/-- An order is detected as one. -/
theorem detectPatterns_builtin_order : ∃ catalog detection, Catalog.builtin = .ok catalog ∧
    (create catalog none .standard).detectPatterns (.text "hacer pedido de una mesa") =
      .ok detection ∧ detection.intentId = some "COMPRA" := by
  obtain ⟨catalog, hbuiltin, -⟩ := Catalog.Builtin.exists_builtin
  obtain ⟨⟨intent, hintent, hid, htemplate⟩, -, hforeign⟩ :=
    Catalog.Builtin.builtin_has_order_and_help hbuiltin
  obtain ⟨text, detection, hfill, hdetects, hdetected⟩ :=
    detectPatterns_builtin hbuiltin none hintent htemplate hforeign
  have htext : text = "hacer pedido de una mesa" := by
    have hfilled : Template.fill "hacer pedido de \x7bnombre_producto\x7d" "una mesa" =
        .ok "hacer pedido de una mesa" := by decide
    cases hfill.symm.trans hfilled
    rfl
  rw [htext] at hdetects
  rw [detectedAs, if_neg (by decide), hid] at hdetected
  exact ⟨catalog, detection, hbuiltin, hdetects, hdetected⟩

/-- Not every template of the built-in catalog is detected as its own intent: who says to need help
is taken to search for it. -/
theorem detectPatterns_builtin_shadowed :
    ¬ ∀ catalog, Catalog.builtin = .ok catalog → ∀ classifier, ∀ intent ∈ catalog.intents,
      ∀ template ∈ intent.patterns, ∀ value : String, isBlankText value = false →
        IsForeign catalog value.toList →
          ∃ text detection, Template.fill template value = .ok text ∧
            (create catalog classifier .standard).detectPatterns (.text text) = .ok detection ∧
              detection.intentId = some intent.id := by
  intro hall
  obtain ⟨catalog, hbuiltin, hmodest, haddressee⟩ := Catalog.Builtin.exists_builtin
  obtain ⟨-, ⟨intent, hintent, hid, htemplate⟩, hforeign⟩ :=
    Catalog.Builtin.builtin_has_order_and_help hbuiltin
  have haligned : catalog.Aligned := (Catalog.reachable_of_ofDeclarations hbuiltin).aligned
  obtain ⟨text, detection, hfill, hdetects, hown⟩ :=
    hall catalog hbuiltin none intent hintent _ htemplate "una mesa" (by decide) hforeign
  obtain ⟨found, answer, hfound, hanswer, hsearch⟩ :=
    exists_detectPatterns_standard haligned hmodest none
      (haddressee intent hintent _ htemplate) hforeign
  cases hfill.symm.trans hfound
  cases hdetects.symm.trans hanswer
  rw [hown, hid, detectedAs, if_pos (by decide)] at hsearch
  exact absurd hsearch (by decide)

end Detector

end Phrasebook
