import Mathlib
import Phrasebook.Intent.Declaration
import Phrasebook.Proofs.Fault

/-!
# What reading a declaration fails with

A declaration can be unusable in many ways, but that an id is taken or missing is never one of them:
only a catalog knows its ids.
-/

namespace Phrasebook

/-- The faults other than that an id is taken or missing. -/
@[simp]
def Fault.IsApart : Fault → Prop
  | .invalid (.intentExists _) | .invalid (.intentMissing _) => False
  | _ => True

/-! ## Values -/

namespace Number

theorem failsOnly_toReal (number : Number) : FailsOnly Fault.IsApart number.toReal := by
  cases number with
  | real value => exact .ok value
  | int value =>
      rw [toReal]
      cases Real64.ofInt? value <;> simp

theorem failsOnly_toWhole (number : Number) : FailsOnly Fault.IsApart number.toWhole := by
  cases number with
  | int value => exact .ok value
  | real value => cases value <;> simp [toWhole]

end Number

namespace Value

theorem failsOnly_members (value : Value) : FailsOnly Fault.IsApart value.members := by
  cases value <;> simp [members]

theorem failsOnly_toKey (value : Value) : FailsOnly Fault.IsApart value.toKey := by
  cases value <;> simp [toKey]

theorem failsOnly_toReal (value : Value) : FailsOnly Fault.IsApart value.toReal := by
  unfold toReal
  split
  · split <;> simp
  · split
    · exact Number.failsOnly_toReal _
    · simp

theorem failsOnly_toWhole (value : Value) : FailsOnly Fault.IsApart value.toWhole := by
  unfold toWhole
  split
  · split <;> simp
  · split
    · exact Number.failsOnly_toWhole _
    · simp

theorem failsOnly_toEntry (position : Nat) (value : Value) :
    FailsOnly Fault.IsApart (value.toEntry position) := by
  refine .bind value.failsOnly_members fun members _ => ?_
  split
  · exact .bind (failsOnly_toKey _) fun _ _ => .ok _
  · simp

theorem failsOnly_toEntries (value : Value) : FailsOnly Fault.IsApart value.toEntries := by
  have hfrom : ∀ (items : List Value) (position : Nat) (written : List (Key × Value)),
      FailsOnly Fault.IsApart (toEntriesFrom position written items) := by
    intro items
    induction items with
    | nil => exact fun _ written => .ok written
    | cons item items ih =>
        intro position written
        exact .bind (failsOnly_toEntry position item) fun _ _ => ih _ _
  unfold toEntries
  split
  · exact .ok _
  · exact .bind (failsOnly_members _) fun items _ => hfrom items 0 []

end Value

/-! ## Slots -/

namespace Slot

theorem failsOnly_forbid {cause : Invalid} (hcause : Fault.IsApart (.invalid cause))
    (limit : Value) {test : Value → Except Fault Bool}
    (htest : FailsOnly Fault.IsApart (test limit)) :
    FailsOnly Fault.IsApart (forbid cause limit test) := by
  unfold forbid
  split
  · exact .ok ()
  · refine .bind htest fun excluded _ => ?_
    split
    · simpa using hcause
    · exact .ok ()

theorem failsOnly_changeOf (value : Value) : FailsOnly Fault.IsApart (changeOf value) := by
  unfold changeOf
  split
  · refine .bind (value.failsOnly_toText trivial) fun name _ => ?_
    dsimp only
    split
    · exact .ok _
    · simp
  · exact .ok none

theorem failsOnly_checkLengths (minLength maxLength : Value) :
    FailsOnly Fault.IsApart (checkLengths minLength maxLength) := by
  refine .bind (failsOnly_forbid (by simp) _
    (Value.failsOnly_precedes trivial _ _ _)) fun _ _ => ?_
  refine .bind (failsOnly_forbid (by simp) _
    (Value.failsOnly_precedes trivial _ _ _)) fun _ _ => ?_
  split
  · exact failsOnly_forbid (by simp) _ (Value.failsOnly_precedes trivial _ _ _)
  · exact .ok ()

theorem failsOnly_kindOf (entries : List (Key × Value)) :
    FailsOnly Fault.IsApart (kindOf entries) := by
  unfold kindOf
  dsimp only
  split
  · exact .bind (failsOnly_changeOf _) fun _ _ =>
      .bind (failsOnly_checkLengths _ _) fun _ _ => .ok _
  split
  · unfold numberKind
    dsimp only
    split
    · exact .bind (failsOnly_forbid (by simp) _
        (Value.failsOnly_precedes trivial _ _ _)) fun _ _ => .ok _
    · exact .ok _
  split
  · exact .ok _
  split
  · exact .ok _
  · simp

theorem failsOnly_ofValue (data : Value) : FailsOnly Fault.IsApart (ofValue data) := by
  have hflattened : FailsOnly Fault.IsApart (flattened data) :=
    .bind data.failsOnly_toEntries fun _ _ =>
      .bind (Value.failsOnly_toEntries _) fun _ _ => .ok _
  exact .bind hflattened fun entries _ => .bind (failsOnly_kindOf entries) fun _ _ => .ok _

end Slot

/-! ## Intents -/

namespace Intent

theorem failsOnly_readId (id : Value) : FailsOnly Fault.IsApart (readId id) := by
  unfold readId
  split
  · refine .bind (id.failsOnly_toText trivial) fun text _ => ?_
    split <;> simp [pure, Except.pure]
  · simp

theorem failsOnly_readPatterns (id : String) (value : Value) :
    FailsOnly Fault.IsApart (readPatterns id value) := by
  have htemplate : ∀ template, FailsOnly Fault.IsApart (readTemplate id template) := by
    intro template
    unfold readTemplate
    split
    · split <;> simp
    · simp
  unfold readPatterns
  split
  · simp
  · refine .bind (Value.failsOnly_members _) fun templates _ => ?_
    split
    · simp
    · exact .mapM htemplate templates

theorem failsOnly_entriesOf (value : Value) : FailsOnly Fault.IsApart (entriesOf value) := by
  cases value <;> simp [entriesOf]

theorem failsOnly_readParameters (declared : Value) :
    FailsOnly Fault.IsApart (readParameters declared) :=
  .bind (failsOnly_entriesOf declared) fun entries _ =>
    .bind (.mapM (fun entry => .bind (Slot.failsOnly_ofValue entry.2) fun _ _ => .ok _) entries)
      fun _ _ => .ok _

theorem failsOnly_readSynonyms (declared : Value) :
    FailsOnly Fault.IsApart (readSynonyms declared) := by
  have halternatives : ∀ value, FailsOnly Fault.IsApart (readAlternatives value) := by
    intro value
    unfold readAlternatives
    split
    · exact .ok _
    · exact Value.failsOnly_members _
  refine .bind (failsOnly_entriesOf declared) fun entries _ => .bind (.mapM ?_ entries)
    fun _ _ => .ok _
  exact fun entry => .bind (Value.failsOnly_toText trivial _) fun _ _ =>
    .bind (halternatives entry.2) fun _ _ => .ok _

theorem failsOnly_readThreshold (id : String) (value : Value) :
    FailsOnly Fault.IsApart (readThreshold id value) := by
  refine .bind value.failsOnly_toReal fun threshold _ => ?_
  split <;> simp [pure, Except.pure]

theorem failsOnly_readPriority (id : String) (value : Value) :
    FailsOnly Fault.IsApart (readPriority id value) := by
  unfold readPriority
  split
  · simp
  · refine .bind (Number.failsOnly_toWhole _) fun whole _ => ?_
    split
    · split <;> simp [pure, Except.pure]
    · simp
  · exact .bind (Value.failsOnly_toWhole _) fun _ _ => by simp

theorem failsOnly_readLabel (other : String) (value : Value) :
    FailsOnly Fault.IsApart (readLabel other value) :=
  .bind (Value.failsOnly_toText trivial _) fun _ _ => .ok _

theorem failsOnly_ofDraft (draft : Draft) : FailsOnly Fault.IsApart (ofDraft draft) :=
  .bind (failsOnly_readId draft.id) fun id _ =>
    .bind (failsOnly_readLabel id draft.name) fun _ _ =>
      .bind (failsOnly_readLabel "" draft.description) fun _ _ =>
        .bind (failsOnly_readPatterns id draft.patterns) fun _ _ =>
          .bind (failsOnly_readParameters draft.parameters) fun _ _ =>
            .bind (failsOnly_readSynonyms draft.synonyms) fun _ _ =>
              .bind (failsOnly_readThreshold id draft.threshold) fun _ _ =>
                .bind (failsOnly_readPriority id draft.priority) fun _ _ => .ok _

/-- Reading a declaration never says that an id is taken or missing. -/
theorem failsOnly_ofEntries (id : Value) (entries : List (Key × Value)) :
    FailsOnly Fault.IsApart (ofEntries id entries) := by
  refine .bind ?_ fun draft _ => failsOnly_ofDraft draft
  exact .bind (Value.failsOnly_toEntries _) fun _ _ =>
    .bind (Value.failsOnly_toEntries _) fun _ _ => .ok _

end Intent

end Phrasebook
