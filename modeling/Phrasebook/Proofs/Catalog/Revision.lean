import Mathlib
import Phrasebook.Proofs.Catalog.Failure
import Phrasebook.Proofs.Intent.Field

/-!
# Updates field by field

An update declares its intent anew with the changes written over it.  It reads a field that the
changes name as a declaration of the changes alone would be read, but for the name of the threshold
that prevails, and takes the other fields over.  One update after another is therefore the update
with the changes of both.
-/

namespace Phrasebook

namespace Intent.Field

variable {existing first second alone : Intent} {changes later : List (Key × Value)} {field : Field}

theorem changed_eq_none_iff : field.changed changes = none ↔ ¬ field.IsNamed changes := by
  rw [isNamed_iff_changed, not_not]

/-- Only a threshold can have two names, and without the long one there is one value to read. -/
theorem changed_eq_given (hlong : field.givenLong changes = none) :
    field.changed changes = field.given changes := by
  rw [changed, given, hlong, Option.none_or, Option.or_none]

theorem eq_threshold_of_givenLong {long : Value} (hlong : field.givenLong changes = some long) :
    field = .threshold ∧ Value.field? "confidence_threshold" changes = some long := by
  cases field with
  | threshold => exact ⟨rfl, hlong⟩
  | _ => cases hlong

theorem revised_of_changed {value : Value} (hchanged : field.changed changes = some value) :
    field.revised existing changes = field.read existing.id (some value) := by
  rw [revised, hchanged]

theorem revised_of_not_isNamed (hnamed : ¬ field.IsNamed changes) :
    field.revised existing changes = .ok (field.content existing.called) := by
  rw [revised, changed_eq_none_iff.mpr hnamed]

/-! ## Changes after changes -/

theorem changed_of_short (hshort : Value.field? "confidence_threshold" changes = none) :
    field.changed changes = Value.field? field.shortName changes := by
  cases field with
  | threshold => rw [changed, givenLong, longName?, Option.bind_some, hshort, Option.none_or]
  | _ => exact changed_of_no_longName rfl changes

/-- A name that is kept, or that was not given as a blank text, is there after the changes. -/
theorem name_ne_empty_of_revised (hid : IsId existing.id)
    (hgiven : ∀ text, Value.field? "name" changes = some (.text text) →
      text = "" ∨ isBlankText text = false)
    (hrevised : name.revised existing changes = .ok first.name) : first.name ≠ "" := by
  have hchanged : name.changed changes = Value.field? "name" changes :=
    changed_of_no_longName rfl changes
  cases hvalue : Value.field? "name" changes with
  | none =>
      rw [revised, hchanged, hvalue] at hrevised
      rw [← Except.ok.inj hrevised]
      exact called_name_ne_empty hid
  | some value =>
      rw [revised_of_changed (hchanged.trans hvalue), read, Option.getD_some] at hrevised
      rw [Ne, eq_empty_iff_of_readLabel hid.notBlank hrevised]
      rintro ⟨text, htext, hne, hblank⟩
      rw [Value.orElse] at htext
      split at htext
      · subst htext
        rcases hgiven text hvalue with hempty | hnotBlank
        · exact hne hempty
        · exact absurd hblank (hnotBlank ▸ Bool.false_ne_true)
      · cases htext
        exact absurd hblank (hid.notBlank ▸ Bool.false_ne_true)

/-- A field under changes and later ones is the field under both together. -/
theorem revised_merge (hid : first.id = existing.id) (hname : first.name ≠ "")
    (hdistinct : OrderedMap.IsDistinct later)
    (hshort : Value.field? "confidence_threshold" changes = none)
    (hlaterShort : Value.field? "confidence_threshold" later = none)
    (hfirst : field.revised existing changes = .ok (field.content first))
    (hsecond : field.revised first later = .ok (field.content second)) :
    field.revised existing (OrderedMap.merge changes later) = .ok (field.content second) := by
  have hboth : Value.field? "confidence_threshold" (OrderedMap.merge changes later) = none := by
    rw [Value.field?_merge _ _ hdistinct, hlaterShort, hshort, Option.none_or]
  have hmerged : field.changed (OrderedMap.merge changes later) =
      (field.changed later).or (field.changed changes) := by
    rw [changed_of_short hboth, changed_of_short hlaterShort, changed_of_short hshort,
      Value.field?_merge _ _ hdistinct]
  cases hlater : field.changed later with
  | some value =>
      rw [hlater, Option.some_or] at hmerged
      rw [revised_of_changed hmerged, ← hid, ← hsecond, revised_of_changed hlater]
  | none =>
      rw [hlater, Option.none_or] at hmerged
      rw [revised_of_not_isNamed (changed_eq_none_iff.mp hlater), called_eq_self hname] at hsecond
      rw [← hsecond, ← hfirst, revised, revised, hmerged]

/-! ## Changes that are a declaration -/

/-- A named field is read as in a declaration of the changes alone, unless it is the threshold under
its long name. -/
theorem revised_of_given (hnamed : field.IsNamed changes) (hlong : field.givenLong changes = none)
    (halone : field.read existing.id (field.given changes) = .ok (field.content alone)) :
    field.revised existing changes = .ok (field.content alone) := by
  obtain ⟨value, hvalue⟩ := Option.ne_none_iff_exists'.mp hnamed
  rw [revised_of_changed ((changed_eq_given hlong).trans hvalue), ← hvalue, halone]

theorem revised_threshold {long : Value}
    (hlong : Value.field? "confidence_threshold" changes = some long) :
    threshold.revised existing changes = readThreshold existing.id long := by
  have hgiven : threshold.givenLong changes = some long := hlong
  rw [revised, changed, hgiven, Option.some_or]
  rfl

/-- A field of changes that are a declaration by themselves can be read, unless it is the threshold
and cannot be read under its long name. -/
theorem exists_revised
    (halone : field.read existing.id (field.given changes) = .ok (field.content alone))
    (hlong : field = .threshold → ∀ long ∈ Value.field? "confidence_threshold" changes,
      ∃ threshold, readThreshold existing.id long = .ok threshold) :
    ∃ content, field.revised existing changes = .ok content := by
  by_cases hnamed : field.IsNamed changes
  · cases hgiven : field.givenLong changes with
    | none => exact ⟨_, revised_of_given hnamed hgiven halone⟩
    | some long =>
        obtain ⟨rfl, hvalue⟩ := eq_threshold_of_givenLong hgiven
        rw [revised_threshold hvalue]
        exact hlong rfl long hvalue
  · exact ⟨_, revised_of_not_isNamed hnamed⟩

/-- A named field is the one that the changes declare by themselves, except a threshold whose long
name says otherwise. -/
theorem content_eq_iff (hnamed : field.IsNamed changes)
    (halone : field.read existing.id (field.given changes) = .ok (field.content alone))
    (hrevised : field.revised existing changes = .ok (field.content first)) :
    field.content first = field.content alone ↔
      (field = .threshold → ∀ long ∈ Value.field? "confidence_threshold" changes,
        readThreshold existing.id long = .ok alone.threshold) := by
  constructor
  · rintro hsame rfl long hlong
    rw [revised_threshold hlong] at hrevised
    exact hrevised.trans (congrArg Except.ok hsame)
  · intro hthreshold
    cases hlong : field.givenLong changes with
    | none =>
        rw [revised_of_given hnamed hlong halone] at hrevised
        exact (Except.ok.inj hrevised).symm
    | some long =>
        obtain ⟨rfl, hvalue⟩ := eq_threshold_of_givenLong hlong
        rw [revised_threshold hvalue, hthreshold rfl long hvalue] at hrevised
        exact (Except.ok.inj hrevised).symm

end Intent.Field

namespace Catalog

variable {catalog : Catalog} {id : String} {existing : Intent}

theorem revised_eq_ofEntries (id : String) (existing : Intent) (changes : List (Key × Value)) :
    revised id existing changes =
      Intent.ofEntries (.text id) (OrderedMap.merge existing.declared changes) := rfl

theorem Aligned.revised_eq_ok_iff (haligned : catalog.Aligned)
    (hfind : catalog.find? id = some existing) {changes : List (Key × Value)}
    (hdistinct : OrderedMap.IsDistinct changes) {updated : Intent} :
    revised id existing (withShortNames changes) = .ok updated ↔
      updated.id = id ∧ ∀ field : Intent.Field,
        field.revised existing changes = .ok (field.content updated) := by
  obtain ⟨rfl, -⟩ := haligned.find? hfind
  exact Intent.ofEntries_merge_eq_ok_iff (haligned.isDeclared_of_find? hfind) hdistinct

/-- An update that answers with an intent has written the revised one. -/
theorem Aligned.update_of_answer (haligned : catalog.Aligned)
    (hfind : catalog.find? id = some existing) {changes : List (Key × Value)} {updated : Intent}
    (hanswer : (catalog.update id changes).answer = .ok updated) :
    revised id existing (withShortNames changes) = .ok updated ∧
      (catalog.update id changes).catalog =
        catalog.write id updated (prepare updated.patterns) := by
  have houtcome := haligned.update_eq hfind changes
  cases hrevised : revised id existing (withShortNames changes) with
  | error fault =>
      rw [hrevised] at houtcome
      rw [houtcome] at hanswer
      cases hanswer
  | ok made =>
      rw [hrevised] at houtcome
      rw [houtcome] at hanswer ⊢
      dsimp only at hanswer
      split at hanswer
      · cases hanswer
        exact ⟨rfl, rfl⟩
      · cases hanswer

/-! ## What a write leaves -/

section

variable (intent : Intent) (patterns : List (Option Pattern))

theorem find?_write_self : (catalog.write id intent patterns).find? id = some intent := by
  rw [find?, write, OrderedMap.get?_insert, if_pos BEq.rfl]

theorem patternsAt_write_self : (catalog.write id intent patterns).patternsAt id = patterns := by
  rw [patternsAt, write, OrderedMap.get?_insert, if_pos BEq.rfl, Option.getD_some]

theorem write_of_ne {other : String} (hother : other ≠ id) :
    (catalog.write id intent patterns).find? other = catalog.find? other ∧
      (catalog.write id intent patterns).patternsAt other = catalog.patternsAt other := by
  have hapart : ¬ (id == other) = true := mt eq_of_beq (Ne.symm hother)
  rw [find?, find?, patternsAt, patternsAt, write, OrderedMap.get?_insert, OrderedMap.get?_insert,
    if_neg hapart, if_neg hapart]
  exact ⟨rfl, rfl⟩

theorem ids_write (hid : id ∈ catalog.ids) :
    (catalog.write id intent patterns).ids = catalog.ids :=
  OrderedMap.keys_insert_of_hasKey (OrderedMap.hasKey_eq_true_iff.mpr hid) _

end

theorem write_write (first second : Intent) (before after : List (Option Pattern)) :
    (catalog.write id first before).write id second after = catalog.write id second after := by
  rw [write, write, write, OrderedMap.insert_insert, OrderedMap.insert_insert]

/-- The catalog before a change and after it differ in one intent, and there in named fields. -/
structure Touches (catalog changed : Catalog) (id : String) (changes : List (Key × Value))
    (existing updated : Intent) : Prop where
  found : changed.find? id = some updated
  sameId : updated.id = existing.id
  unnamed : ∀ field : Intent.Field, ¬ field.IsNamed changes →
    field.content updated = field.content existing
  patterns : ¬ Intent.Field.patterns.IsNamed changes →
    changed.patternsAt id = catalog.patternsAt id
  ids : changed.ids = catalog.ids
  others : ∀ other, other ≠ id → changed.find? other = catalog.find? other ∧
    changed.patternsAt other = catalog.patternsAt other

theorem Aligned.touches_write (haligned : catalog.Aligned)
    (hfind : catalog.find? id = some existing) {changes : List (Key × Value)} {updated : Intent}
    (hid : updated.id = existing.id)
    (hunnamed : ∀ field : Intent.Field, ¬ field.IsNamed changes →
      field.content updated = field.content existing) :
    catalog.Touches (catalog.write id updated (prepare updated.patterns)) id changes existing
      updated where
  found := find?_write_self _ _
  sameId := hid
  unnamed := hunnamed
  patterns := fun hpatterns => by
    have hsame : updated.patterns = existing.patterns := hunnamed .patterns hpatterns
    rw [patternsAt_write_self, patternsAt, haligned.get?_prepared_of_find? hfind, hsame]
    rfl
  ids := ids_write _ _ (mem_ids_of_find? hfind)
  others := fun _ => write_of_ne _ _

/-! ## Updates one after another -/

/-- The second of two updates leaves the catalog that the update with both changes leaves. -/
theorem Aligned.catalog_update_update (haligned : catalog.Aligned)
    (hfind : catalog.find? id = some existing) {changes later : List (Key × Value)}
    {first second : Intent} (hdistinct : OrderedMap.IsDistinct changes)
    (hlaterDistinct : OrderedMap.IsDistinct later)
    (hshort : Value.field? "confidence_threshold" changes = none)
    (hlaterShort : Value.field? "confidence_threshold" later = none)
    (hgiven : ∀ text, Value.field? "name" changes = some (.text text) →
      text = "" ∨ isBlankText text = false)
    (hfirst : (catalog.update id changes).answer = .ok first)
    (hsecond : ((catalog.update id changes).catalog.update id later).answer = .ok second) :
    ((catalog.update id changes).catalog.update id later).catalog =
      (catalog.update id (OrderedMap.merge changes later)).catalog := by
  obtain ⟨hrevised, hcatalog⟩ := haligned.update_of_answer hfind hfirst
  have hfound : (catalog.update id changes).catalog.find? id = some first := by
    rw [hcatalog]
    exact find?_write_self _ _
  obtain ⟨hlater, hlast⟩ := (haligned.update id changes).update_of_answer hfound hsecond
  obtain ⟨hid, hfields⟩ := (haligned.revised_eq_ok_iff hfind hdistinct).mp hrevised
  obtain ⟨hlastId, hlastFields⟩ :=
    ((haligned.update id changes).revised_eq_ok_iff hfound hlaterDistinct).mp hlater
  obtain ⟨rfl, hisId⟩ := haligned.find? hfind
  have hname : first.name ≠ "" :=
    Intent.Field.name_ne_empty_of_revised hisId hgiven (hfields .name)
  have hboth : revised existing.id existing (withShortNames (OrderedMap.merge changes later)) =
      .ok second :=
    (haligned.revised_eq_ok_iff hfind (hdistinct.merge later)).mpr ⟨hlastId, fun field =>
      Intent.Field.revised_merge hid hname hlaterDistinct hshort hlaterShort (hfields field)
        (hlastFields field)⟩
  rw [hlast, hcatalog, write_write, haligned.update_eq hfind, hboth]

theorem Aligned.update_nil (haligned : catalog.Aligned)
    (hfind : catalog.find? id = some existing) (hname : existing.name ≠ "") :
    catalog.update id [] = ⟨.ok existing, catalog⟩ := by
  have hdistinct : OrderedMap.IsDistinct ([] : List (Key × Value)) := List.Pairwise.nil
  have hrevised : revised id existing (withShortNames []) = .ok existing := by
    refine (haligned.revised_eq_ok_iff hfind hdistinct).mpr
      ⟨(haligned.find? hfind).1.symm, fun field => ?_⟩
    have hnamed : ¬ field.IsNamed [] := by
      cases field <;> exact fun hnamed => hnamed rfl
    rw [Intent.Field.revised_of_not_isNamed hnamed, Intent.called_eq_self hname]
  rw [haligned.update_eq hfind, hrevised]
  dsimp only
  rw [(haligned.write_eq_self_iff hfind).mpr rfl]
  rfl

theorem Aligned.touches_update (haligned : catalog.Aligned)
    (hfind : catalog.find? id = some existing) (hname : existing.name ≠ "")
    {changes : List (Key × Value)} {updated : Intent}
    (hdistinct : OrderedMap.IsDistinct changes)
    (hanswer : (catalog.update id changes).answer = .ok updated) :
    catalog.Touches (catalog.update id changes).catalog id changes existing updated := by
  obtain ⟨hrevised, hcatalog⟩ := haligned.update_of_answer hfind hanswer
  obtain ⟨hid, hfields⟩ := (haligned.revised_eq_ok_iff hfind hdistinct).mp hrevised
  rw [hcatalog]
  refine haligned.touches_write hfind (hid.trans (haligned.find? hfind).1) fun field hnamed => ?_
  have hfield := hfields field
  rw [Intent.Field.revised_of_not_isNamed hnamed, Intent.called_eq_self hname] at hfield
  exact (Except.ok.inj hfield).symm

/-- Two updates are the update with both changes, the update without changes does nothing, and an
update touches nothing that it does not name. -/
theorem Reachable.update_composes (hreachable : catalog.Reachable)
    (hfind : catalog.find? id = some existing) (hname : existing.name ≠ "") :
    (∀ changes later first second,
        OrderedMap.IsDistinct changes → OrderedMap.IsDistinct later →
        Value.field? "confidence_threshold" changes = none →
        Value.field? "confidence_threshold" later = none →
        (∀ text, Value.field? "name" changes = some (.text text) →
          text = "" ∨ isBlankText text = false) →
        (catalog.update id changes).answer = .ok first →
        ((catalog.update id changes).catalog.update id later).answer = .ok second →
        ((catalog.update id changes).catalog.update id later).catalog =
          (catalog.update id (OrderedMap.merge changes later)).catalog) ∧
      catalog.update id [] = ⟨.ok existing, catalog⟩ ∧
      ∀ changes updated, OrderedMap.IsDistinct changes →
        (catalog.update id changes).answer = .ok updated →
        catalog.Touches (catalog.update id changes).catalog id changes existing updated :=
  ⟨fun _ _ _ _ hdistinct hlaterDistinct hshort hlaterShort hgiven =>
      hreachable.aligned.catalog_update_update hfind hdistinct hlaterDistinct hshort hlaterShort
        hgiven,
    hreachable.aligned.update_nil hfind hname,
    fun _ _ => hreachable.aligned.touches_update hfind hname⟩

/-- A new name and a threshold, then another threshold. -/
theorem update_composes_greeting :
    let changes := [(Key.text "name", Value.text " Bienvenida "), (.text "confidence", .int 1)]
    let later := [(Key.text "confidence", Value.real (.ofRatio false 1 2))]
    ((greeting.update "SALUDO" changes).catalog.update "SALUDO" later).catalog =
        (greeting.update "SALUDO" (OrderedMap.merge changes later)).catalog ∧
      greeting.update "SALUDO" [] = ⟨.ok (Intent.ofTemplates "SALUDO" ["hola"]), greeting⟩ ∧
      ∃ updated, updated.name = "Bienvenida" ∧
        greeting.Touches (greeting.update "SALUDO" changes).catalog "SALUDO" changes
          (Intent.ofTemplates "SALUDO" ["hola"]) updated := by
  intro changes later
  have hfind : greeting.find? "SALUDO" = some (Intent.ofTemplates "SALUDO" ["hola"]) := rfl
  obtain ⟨hcomposes, hnil, htouches⟩ := reachable_greeting.update_composes hfind (by decide)
  have hdistinct : OrderedMap.IsDistinct changes := by decide
  have hlater : OrderedMap.IsDistinct later := by decide
  have hfirst : (greeting.update "SALUDO" changes).answer = .ok
      { Intent.ofTemplates "SALUDO" ["hola"] with
        name := "Bienvenida", threshold := .ofRatio false 1 1 } := by decide +kernel
  have hsecond : ((greeting.update "SALUDO" changes).catalog.update "SALUDO" later).answer = .ok
      { Intent.ofTemplates "SALUDO" ["hola"] with
        name := "Bienvenida", threshold := .ofRatio false 1 2 } := by decide +kernel
  refine ⟨hcomposes changes later _ _ hdistinct hlater rfl rfl ?_ hfirst hsecond, hnil, _, rfl,
    htouches changes _ hdistinct hfirst⟩
  rintro text ⟨⟩
  exact .inr (by decide)

/-! ## The changes by themselves -/

/-- Changes that are a declaration by themselves are made if the threshold can be read under its
long name, and then the fields they name are those of that declaration, but for the threshold. -/
theorem Aligned.exists_update_of_alone (haligned : catalog.Aligned)
    (hfind : catalog.find? id = some existing) {changes : List (Key × Value)}
    (hdistinct : OrderedMap.IsDistinct changes) {alone : Intent}
    (halone : Intent.ofEntries (.text id) changes = .ok alone)
    (hlong : ∀ long ∈ Value.field? "confidence_threshold" changes,
      ∃ threshold, Intent.readThreshold id long = .ok threshold) :
    ∃ updated,
      catalog.update id changes =
          { answer :=
              if Key.sortable (OrderedMap.keys (withShortNames changes)) then .ok updated
              else .error .unsuitable
            catalog := catalog.write id updated (prepare updated.patterns) } ∧
        updated.id = alone.id ∧
        ∀ field : Intent.Field, field.IsNamed changes →
          (field.content updated = field.content alone ↔
            (field = .threshold → ∀ long ∈ Value.field? "confidence_threshold" changes,
              Intent.readThreshold id long = .ok alone.threshold)) := by
  obtain ⟨rfl, hid⟩ := haligned.find? hfind
  obtain ⟨halone, hread⟩ := (Intent.ofEntries_eq_ok_iff hid).mp halone
  choose contents hcontents using fun field =>
    Intent.Field.exists_revised (hread field) fun _ => hlong
  have hfields : ∀ field : Intent.Field, field.revised existing changes =
      .ok (field.content (Intent.Field.assemble existing.id contents)) := by
    intro field
    rw [Intent.Field.content_assemble]
    exact hcontents field
  have hsameId : (Intent.Field.assemble existing.id contents).id = existing.id := rfl
  have hrevised := (haligned.revised_eq_ok_iff hfind hdistinct).mpr ⟨hsameId, hfields⟩
  refine ⟨Intent.Field.assemble existing.id contents, ?_, halone.symm, fun field hnamed =>
    Intent.Field.content_eq_iff hnamed (hread field) (hfields field)⟩
  rw [haligned.update_eq hfind, hrevised]

/-- A threshold that cannot be read under its long name is the fault of the update. -/
theorem Aligned.update_eq_error_of_alone (haligned : catalog.Aligned)
    (hfind : catalog.find? id = some existing) {changes : List (Key × Value)}
    (hdistinct : OrderedMap.IsDistinct changes) {alone : Intent}
    (halone : Intent.ofEntries (.text id) changes = .ok alone) {long : Value} {fault : Fault}
    (hlong : Value.field? "confidence_threshold" changes = some long)
    (hfault : Intent.readThreshold id long = .error fault) :
    catalog.update id changes = ⟨.error fault, catalog⟩ := by
  obtain ⟨rfl, hid⟩ := haligned.find? hfind
  obtain ⟨-, hread⟩ := (Intent.ofEntries_eq_ok_iff hid).mp halone
  have hmerge := Intent.read_given_merge (haligned.isDeclared_of_find? hfind) hdistinct
  have hrevised : revised existing.id existing (withShortNames changes) = .error fault := by
    rw [revised_eq_ofEntries]
    refine Intent.ofEntries_eq_error_of_threshold hid (fun field hfield => ?_) ?_
    · rw [hmerge]
      exact Intent.Field.exists_revised (hread field) fun hthreshold => absurd hthreshold hfield
    · exact (hmerge .threshold).trans ((Intent.Field.revised_threshold hlong).trans hfault)
  rw [haligned.update_eq hfind, hrevised]

/-- Changes that are a declaration by themselves set the fields they name as that declaration has
them, with one exception: of two names of the threshold the declaration takes the short one and the
update the long one.  If that cannot be read, its fault is all that the update comes to. -/
theorem Reachable.update_of_alone (hreachable : catalog.Reachable)
    (hfind : catalog.find? id = some existing) {changes : List (Key × Value)}
    (hdistinct : OrderedMap.IsDistinct changes) {alone : Intent}
    (halone : Intent.ofValue (.text id) (.mapping changes) = .ok alone) :
    ((∀ long ∈ Value.field? "confidence_threshold" changes,
        ∃ threshold, Intent.readThreshold id long = .ok threshold) →
      ∃ updated,
        catalog.update id changes =
            { answer :=
                if Key.sortable (OrderedMap.keys (withShortNames changes)) then .ok updated
                else .error .unsuitable
              catalog := catalog.write id updated (prepare updated.patterns) } ∧
          updated.id = alone.id ∧
          ∀ field : Intent.Field, field.IsNamed changes →
            (field.content updated = field.content alone ↔
              (field = .threshold → ∀ long ∈ Value.field? "confidence_threshold" changes,
                Intent.readThreshold id long = .ok alone.threshold))) ∧
      ∀ long ∈ Value.field? "confidence_threshold" changes, ∀ fault,
        Intent.readThreshold id long = .error fault →
          catalog.update id changes = ⟨.error fault, catalog⟩ :=
  ⟨hreachable.aligned.exists_update_of_alone hfind hdistinct halone,
    fun _ hlong _ => hreachable.aligned.update_eq_error_of_alone hfind hdistinct halone hlong⟩

/-- Changes that give the threshold twice, once as one half and once as nine tenths. -/
def retuned : List (Key × Value) :=
  [(.text "patterns", .texts ["hola"]), (.text "confidence", .real (.ofRatio false 1 2)),
    (.text "confidence_threshold", .real (.ofRatio false 9 10))]

/-- The intent that these changes declare. -/
def retunedAlone : Intent :=
  { Intent.ofTemplates "SALUDO" ["hola"] with threshold := .ofRatio false 1 2 }

theorem ofValue_retuned :
    Intent.ofValue (.text "SALUDO") (.mapping retuned) = .ok retunedAlone := by decide +kernel

theorem isDistinct_retuned : OrderedMap.IsDistinct retuned := by decide

/-- The patterns are set as declared, the threshold is not. -/
theorem update_of_alone_retuned :
    ∃ updated, (greeting.update "SALUDO" retuned).catalog.find? "SALUDO" = some updated ∧
      updated.patterns = retunedAlone.patterns ∧ updated.threshold ≠ retunedAlone.threshold := by
  have hthreshold : Intent.readThreshold "SALUDO" (.real (.ofRatio false 9 10)) =
      .ok (.ofRatio false 9 10) := by decide +kernel
  obtain ⟨updated, houtcome, -, hfields⟩ :=
    (reachable_greeting.update_of_alone rfl isDistinct_retuned ofValue_retuned).1 (by
      rintro long ⟨⟩
      exact ⟨_, hthreshold⟩)
  refine ⟨updated, ?_, (hfields .patterns nofun).mpr nofun, fun hsame => ?_⟩
  · rw [houtcome]
    exact find?_write_self _ _
  · have hread := (hfields .threshold nofun).mp hsame rfl _ rfl
    exact absurd (Except.ok.inj (hthreshold.symm.trans hread)) (by decide +kernel)

theorem retuned_keeps_long_threshold :
    ¬ ∀ (catalog : Catalog) (id : String) (existing alone : Intent) (changes : List (Key × Value)),
      catalog.Reachable → catalog.find? id = some existing → OrderedMap.IsDistinct changes →
      Intent.ofValue (.text id) (.mapping changes) = .ok alone →
      ∃ updated, (catalog.update id changes).catalog.find? id = some updated ∧
        ∀ field : Intent.Field, field.IsNamed changes →
          field.content updated = field.content alone := by
  intro hsets
  obtain ⟨updated, hfind, hfields⟩ := hsets greeting "SALUDO" _ _ retuned reachable_greeting rfl
    isDistinct_retuned ofValue_retuned
  have hthreshold : ((greeting.update "SALUDO" retuned).catalog.find? "SALUDO").map
      (·.threshold) = some (.ofRatio false 9 10) := by decide +kernel
  rw [hfind, Option.map_some] at hthreshold
  have hsame : updated.threshold = retunedAlone.threshold := hfields .threshold nofun
  rw [hsame] at hthreshold
  exact absurd hthreshold (by decide +kernel)

end Catalog

end Phrasebook
