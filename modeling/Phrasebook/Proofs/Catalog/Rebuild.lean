import Mathlib
import Phrasebook.Proofs.Catalog.Run
import Phrasebook.Proofs.Template.Matching

/-!
# Changing a catalog is rebuilding it

After any run of changes a catalog is the one that its own intents make, put into an empty catalog
in their order.  What a change takes over is therefore never out of date: no pattern outlives its
template, and no template waits for its pattern.
-/

namespace Phrasebook.Catalog

variable {catalog : Catalog}

/-- The place of a template holds its pattern, and is empty exactly if it has none. -/
def Holds (template : String) (place : Option Pattern) : Prop :=
  (∀ pattern, place = some pattern ↔ Pattern.ofTemplate template = .ok pattern) ∧
    (place = none ↔ ∃ malformed, Pattern.ofTemplate template = .error malformed)

theorem holds_toOption (template : String) :
    Holds template (Pattern.ofTemplate template).toOption := by
  cases hpattern : Pattern.ofTemplate template <;> simp [Holds, hpattern, Except.toOption]

/-- The catalog that its own intents make from scratch, said map by map: both maps have the same
keys in the same order, a key is the id of its intent, and each template has a place of its own.  So
every pattern in use is declared by the intent it is used for, and the empty places are counted by
the malformed templates. -/
structure IsBuilt (catalog : Catalog) : Prop where
  rebuilt : ofIntents catalog.intents = .ok catalog
  keys : OrderedMap.keys catalog.prepared = catalog.ids
  nodup : catalog.ids.Nodup
  ids : ∀ entry ∈ catalog.definitions,
    entry.1 = entry.2.id ∧ trimmed entry.1 = entry.1 ∧ isBlankText entry.1 = false
  places : ∀ entry ∈ catalog.definitions, ∃ places,
    OrderedMap.get? entry.1 catalog.prepared = some places ∧
      List.Forall₂ Holds entry.2.patterns places
  pairs : ∀ intent pattern, (intent, pattern) ∈ catalog.usablePairs →
    intent ∈ catalog.intents ∧ pattern.source ∈ intent.patterns ∧
      Pattern.ofTemplate pattern.source = .ok pattern
  unusable : catalog.stats.unusablePatterns =
    (catalog.intents.flatMap (·.patterns)).countP fun template =>
      !(Pattern.ofTemplate template).isOk

/-- Intents put in one after another are kept with their patterns behind the ones before. -/
theorem foldlM_insert_eq (before rest : OrderedMap String Intent)
    (hnodup : (OrderedMap.keys (before ++ rest)).Nodup)
    (hkeyed : ∀ entry ∈ rest, entry.1 = entry.2.id) :
    (rest.map (·.2)).foldlM insert ⟨before, preparedFor before⟩ =
      .ok ⟨before ++ rest, preparedFor (before ++ rest)⟩ := by
  induction rest generalizing before with
  | nil =>
      rw [List.append_nil]
      rfl
  | cons entry rest ih =>
      rw [List.forall_mem_cons] at hkeyed
      obtain ⟨id, intent⟩ := entry
      obtain rfl : id = intent.id := hkeyed.1
      have hfresh : intent.id ∉ OrderedMap.keys before := by
        rw [OrderedMap.keys_append, List.nodup_append] at hnodup
        exact fun hmem => hnodup.2.2 _ hmem _ List.mem_cons_self rfl
      have hprepared : intent.id ∉ OrderedMap.keys (preparedFor before) := by
        rwa [preparedFor, OrderedMap.keys_mapValues]
      have hinsert : insert ⟨before, preparedFor before⟩ intent =
          .ok ⟨before ++ [(intent.id, intent)], preparedFor (before ++ [(intent.id, intent)])⟩ := by
        rw [insert, has, OrderedMap.hasKey_eq_false_iff.mpr hfresh, write,
          OrderedMap.insert_of_not_mem hfresh, OrderedMap.insert_of_not_mem hprepared]
        simp [preparedFor, OrderedMap.mapValues]
      rw [List.append_cons] at hnodup ⊢
      rw [List.map_cons, List.foldlM_cons, hinsert]
      exact ih _ hnodup hkeyed.2

theorem Aligned.rebuilt (haligned : catalog.Aligned) :
    ofIntents catalog.intents = .ok catalog := by
  have heq := foldlM_insert_eq [] _ haligned.nodup haligned.keyed
  rw [List.nil_append, ← haligned.prepared] at heq
  exact heq

theorem Aligned.get?_prepared (haligned : catalog.Aligned) {id : String} {intent : Intent}
    (hentry : (id, intent) ∈ catalog.definitions) :
    OrderedMap.get? id catalog.prepared = some (prepare intent.patterns) :=
  haligned.get?_prepared_of_find? (OrderedMap.get?_eq_some_of_mem haligned.nodup hentry)

/-- The pairs in use are an intent and the pattern of one of its templates. -/
theorem Aligned.mem_usablePairs_iff (haligned : catalog.Aligned) {intent : Intent}
    {pattern : Pattern} :
    (intent, pattern) ∈ catalog.usablePairs ↔
      intent ∈ catalog.intents ∧ pattern.source ∈ intent.patterns ∧
        Pattern.ofTemplate pattern.source = .ok pattern := by
  have hpatterns : ∀ entry ∈ catalog.definitions, pattern ∈ catalog.usablePatterns entry.1 ↔
      pattern.source ∈ entry.2.patterns ∧ Pattern.ofTemplate pattern.source = .ok pattern := by
    intro entry hentry
    rw [usablePatterns, patternsAt, haligned.get?_prepared hentry, Option.getD_some, prepare,
      List.mem_filterMap]
    constructor
    · rintro ⟨place, hplace, rfl⟩
      obtain ⟨template, htemplate, hpattern⟩ := List.mem_map.mp hplace
      have hok := ((holds_toOption template).1 pattern).mp hpattern
      rw [Pattern.source_of_ofTemplate hok]
      exact ⟨htemplate, hok⟩
    · rintro ⟨htemplate, hok⟩
      exact ⟨some pattern, List.mem_map.mpr ⟨_, htemplate, ((holds_toOption _).1 _).mpr hok⟩, rfl⟩
  rw [usablePairs, List.mem_flatMap, intents, List.mem_map]
  constructor
  · rintro ⟨entry, hentry, hpair⟩
    obtain ⟨found, hfound, heq⟩ := List.mem_map.mp hpair
    obtain ⟨rfl, rfl⟩ := Prod.mk.inj heq
    exact ⟨⟨entry, hentry, rfl⟩, (hpatterns entry hentry).mp hfound⟩
  · rintro ⟨⟨entry, hentry, rfl⟩, hdeclared⟩
    exact ⟨entry, hentry, List.mem_map.mpr ⟨pattern, (hpatterns entry hentry).mpr hdeclared, rfl⟩⟩

theorem Aligned.pairs (haligned : catalog.Aligned) {intent : Intent} {pattern : Pattern}
    (hpair : (intent, pattern) ∈ catalog.usablePairs) :
    intent ∈ catalog.intents ∧ pattern.source ∈ intent.patterns ∧
      Pattern.ofTemplate pattern.source = .ok pattern := haligned.mem_usablePairs_iff.mp hpair

theorem countP_isNone_prepare (templates : List String) :
    (prepare templates).countP (·.isNone) =
      templates.countP fun template => !(Pattern.ofTemplate template).isOk := by
  rw [prepare, List.countP_map]
  refine List.countP_congr fun template _ => ?_
  cases hpattern : Pattern.ofTemplate template <;>
    simp [hpattern, Except.toOption, Except.isOk, Except.toBool]

theorem sumOf_eq_sum {α : Type} (measure : α → Nat) (items : List α) :
    sumOf measure items = (items.map measure).sum := by
  induction items with
  | nil => rfl
  | cons item items ih => rw [sumOf, ih, List.map_cons, List.sum_cons]

theorem Aligned.unusable (haligned : catalog.Aligned) :
    catalog.stats.unusablePatterns =
      (catalog.intents.flatMap (·.patterns)).countP fun template =>
        !(Pattern.ofTemplate template).isOk := by
  have hcount : catalog.stats.unusablePatterns =
      sumOf (fun entry => entry.2.countP (·.isNone)) catalog.prepared := rfl
  rw [hcount, sumOf_eq_sum, haligned.prepared, preparedFor, OrderedMap.mapValues, List.map_map,
    intents, List.flatMap_map, List.countP_flatMap]
  exact congrArg List.sum (List.map_congr_left fun entry _ => countP_isNone_prepare _)

theorem Aligned.isBuilt (haligned : catalog.Aligned) : catalog.IsBuilt where
  rebuilt := haligned.rebuilt
  keys := by rw [haligned.prepared, preparedFor, OrderedMap.keys_mapValues, ids]
  nodup := haligned.nodup
  ids := fun entry hentry =>
    ⟨haligned.keyed entry hentry, (haligned.isId entry hentry).trimmed,
      (haligned.isId entry hentry).notBlank⟩
  places := fun entry hentry => by
    refine ⟨_, haligned.get?_prepared hentry, ?_⟩
    rw [prepare, List.forall₂_map_right_iff, List.forall₂_same]
    exact fun template _ => holds_toOption template
  pairs := fun _ _ => haligned.pairs
  unusable := haligned.unusable

/-- Changing a catalog is rebuilding it: after any calls, whether they succeed or fail, the catalog
is the one that its intents make from scratch. -/
theorem isBuilt_run {initial : List Intent.Declared} {start : Catalog}
    (hstart : ofIntents (initial.map Subtype.val) = .ok start) (changes : List Change) :
    (start.run changes).IsBuilt := by
  have haligned : start.Aligned := aligned_of_ofIntents hstart
  exact (haligned.run changes).isBuilt

/-- A malformed template comes in, an update takes patterns over, another one does not, two calls
fail and an intent goes. -/
theorem isBuilt_run_of_each_change :
    ∃ (initial : List Intent.Declared) (start : Catalog) (changes : List Change),
      ofIntents (initial.map Subtype.val) = .ok start ∧ (start.run changes).IsBuilt ∧
        start.ids = ["A", "B"] ∧ (start.run changes).ids = ["B", "C"] ∧
        (start.run changes).patternsOf "B" = ["adiós"] ∧
        (start.run changes).stats.unusablePatterns = 1 := by
  let initial : List Intent.Declared :=
    [⟨Intent.ofTemplates "A" ["hola"],
        Intent.isDeclared_ofTemplates ⟨by decide, by decide⟩ (by decide) (by decide)⟩,
      ⟨Intent.ofTemplates "B" ["hola"],
        Intent.isDeclared_ofTemplates ⟨by decide, by decide⟩ (by decide) (by decide)⟩]
  let changes : List Change :=
    [.add ⟨Intent.ofTemplates "C" ["\x7b"],
        Intent.isDeclared_ofTemplates ⟨by decide, by decide⟩ (by decide) (by decide)⟩,
      .update (.text "C") (.record [("name", .text "Nombre")]),
      .update (.text "B") (.record [("patterns", .texts ["adiós"])]),
      .update (.text "B") (.record [("patterns", .list [])]),
      .remove (.text "D"),
      .remove (.text "A")]
  have hstart : ofIntents (initial.map Subtype.val) = .ok _ := rfl
  refine ⟨initial, _, changes, hstart, isBuilt_run hstart changes, ?_⟩
  decide +kernel

end Phrasebook.Catalog
