import Mathlib
import Phrasebook.Proofs.Configuration.Allowed
import Phrasebook.Proofs.OrderedMap

/-!
# Loading a configuration

An env file adds variables to an environment, but replaces none, not even one that is set to
nothing.  So each part of a configuration is settled by one text, that of its own variable in the
environment, or else in the file; and a configuration that is loaded can always be used.
-/

namespace Phrasebook

namespace EnvFile

theorem nodup_keys_bind (environment : Environment) (file : List Binding) :
    (OrderedMap.keys (bind environment file)).Nodup := by
  have hfold : ∀ bound : OrderedMap String (Option String), (OrderedMap.keys bound).Nodup →
      (OrderedMap.keys (file.foldl (fun bound binding =>
        OrderedMap.insert binding.1 (binding.2.map (resolved environment bound)) bound)
        bound)).Nodup := by
    induction file with
    | nil => exact fun _ hbound => hbound
    | cons binding file ih =>
        intro bound hbound
        exact ih _ (OrderedMap.nodup_keys_insert hbound _ _)
  exact hfold [] List.nodup_nil

end EnvFile

namespace Environment

variable {environment known : Environment} {name file : String}

/-- What an env file binds under an environment, in which env files may be turned off. -/
def boundBy (environment : Environment) (file : String) : OrderedMap String (Option String) :=
  if ((OrderedMap.get? offSwitch environment).map saysYes).getD false then []
  else EnvFile.bind environment (EnvFile.bindings file.toList)

/-- The text of a variable: the one in the environment if it is set there, even to nothing, or else
the one in the file. -/
def taken? (environment : Environment) (file name : String) : Option String :=
  (OrderedMap.get? name environment).or (OrderedMap.get? name (environment.boundBy file)).join

/-- Sets a variable that a file binds, unless the file only names it. -/
def adopt (known : Environment) (binding : EnvFile.Binding) : Except Fault Environment :=
  match binding.2 with
  | some value => known.bind binding.1 value
  | none => .ok known

theorem withFile_eq (environment : Environment) (file : String) :
    environment.withFile file = (environment.boundBy file).foldlM adopt environment := by
  rw [withFile, boundBy]
  split <;> rfl

theorem nodup_keys_boundBy (environment : Environment) (file : String) :
    (OrderedMap.keys (environment.boundBy file)).Nodup := by
  rw [boundBy]
  split
  · exact List.nodup_nil
  · exact EnvFile.nodup_keys_bind _ _

/-! ## Lookups -/

theorem get?_bind {value : String} (hbind : environment.bind name value = .ok known)
    (other : String) :
    OrderedMap.get? other known =
      (OrderedMap.get? other environment).or (if name = other then some value else none) := by
  unfold bind at hbind
  split at hbind
  · rename_i hset
    cases hbind
    by_cases hname : name = other
    · subst hname
      obtain ⟨present, hpresent⟩ := Option.ne_none_iff_exists'.mp
        (mt OrderedMap.get?_eq_none_iff.mp (not_not.mpr (OrderedMap.hasKey_eq_true_iff.mp hset)))
      rw [hpresent, Option.some_or]
    · rw [if_neg hname, Option.or_none]
  · rename_i hset
    obtain ⟨-, -, hresult⟩ := bind_eq_ok_iff.mp hbind
    cases hresult
    rw [OrderedMap.get?_insert]
    by_cases hname : name = other
    · subst hname
      have hmissing : OrderedMap.get? name environment = none :=
        OrderedMap.get?_eq_none_iff.mpr (mt OrderedMap.hasKey_eq_true_iff.mpr hset)
      rw [hmissing, beq_self_eq_true, if_pos rfl, if_pos rfl, Option.none_or]
    · rw [if_neg (by simpa using hname), if_neg hname, Option.or_none]

theorem get?_adopt {binding : EnvFile.Binding} (hadopt : environment.adopt binding = .ok known)
    (other : String) :
    OrderedMap.get? other known =
      (OrderedMap.get? other environment).or (if binding.1 = other then binding.2 else none) := by
  obtain ⟨name, value⟩ := binding
  cases value with
  | none =>
      cases hadopt
      rw [ite_self, Option.or_none]
  | some value => exact get?_bind hadopt other

/-- One binding after another: those of other names change nothing. -/
theorem get?_of_foldlM_adopt {bound : OrderedMap String (Option String)}
    (hnodup : (OrderedMap.keys bound).Nodup) (hfold : bound.foldlM adopt environment = .ok known)
    (name : String) :
    OrderedMap.get? name known =
      (OrderedMap.get? name environment).or (OrderedMap.get? name bound).join := by
  induction bound generalizing environment with
  | nil =>
      cases hfold
      exact Option.or_none.symm
  | cons binding bound ih =>
      obtain ⟨hfresh, hnodup⟩ := List.nodup_cons.mp hnodup
      rw [List.foldlM_cons] at hfold
      obtain ⟨next, hnext, hrest⟩ := bind_eq_ok_iff.mp hfold
      rw [ih hnodup hrest, get?_adopt hnext, Option.or_assoc, OrderedMap.get?]
      by_cases hname : binding.1 = name
      · have hmissing : OrderedMap.get? name bound = none :=
          OrderedMap.get?_eq_none_iff.mpr (hname ▸ hfresh)
        simp [hname, hmissing]
      · simp [hname]

theorem get?_withFile (hfile : environment.withFile file = .ok known) (name : String) :
    OrderedMap.get? name known = environment.taken? file name := by
  rw [withFile_eq] at hfile
  exact get?_of_foldlM_adopt (environment.nodup_keys_boundBy file) hfile name

/-! ## Faults -/

/-- A variable that no environment can have. -/
def IsUnsettable (fault : Fault) : Prop :=
  fault = .invalid .nullInVariable ∨ fault = .invalid .variableName

theorem failsOnly_adopt (known : Environment) (binding : EnvFile.Binding) :
    FailsOnly IsUnsettable (known.adopt binding) := by
  unfold adopt
  split
  · unfold bind
    split
    · exact .ok _
    · refine .bind ?_ fun _ _ => .ok _
      unfold checkVariable
      split
      · exact FailsOnly.error_iff.mpr (.inl rfl)
      · split
        · exact FailsOnly.error_iff.mpr (.inr rfl)
        · exact .ok _
  · exact .ok _

theorem failsOnly_withFile (environment : Environment) (file : String) :
    FailsOnly IsUnsettable (environment.withFile file) := by
  rw [withFile_eq]
  exact .foldlM failsOnly_adopt environment _

end Environment

namespace Configuration

variable {environment : Environment} {file : String} {configuration : Configuration}

/-- The configuration of an environment and an env file. -/
def load (environment : Environment) (file : String) : Except Fault Configuration := do
  ofEnvironment (← environment.withFile file)

/-- The configuration of the one text that settles a part. -/
def alone (environment : Environment) (file : String) (part : Part) : Except Fault Configuration :=
  ofEnvironment (Part.lone part.name (environment.taken? file part.name))

/-- A configuration as it is loaded: every part is one that it may be, so that the settings of
detection can be taken from it, and is the same as if its own variable were the only one, set to the
text in the environment or else to the one in the file. -/
structure IsLoaded (environment : Environment) (file : String) (configuration : Configuration) :
    Prop where
  allowed : ∀ part : Part, part.IsAllowed (part.of configuration)
  settings : ∃ settings, configuration.settings = .ok settings ∧ settings.AreProbabilities
  own : ∀ part : Part, (alone environment file part).map part.of = .ok (part.of configuration)
  standard : ∀ part : Part, environment.taken? file part.name = none →
    part.of configuration = part.of standard

theorem exists_settings (hallowed : ∀ part : Part, part.IsAllowed (part.of configuration)) :
    ∃ settings, configuration.settings = .ok settings ∧ settings.AreProbabilities := by
  obtain ⟨method, hmethod⟩ : ∃ method : Method, configuration.detectionMethod = .text method.name :=
    hallowed .detectionMethod
  have hsettings : Method.ofValue configuration.detectionMethod = .ok method := by
    rw [hmethod, Method.ofValue_name]
  rw [Configuration.settings, hsettings]
  exact ⟨_, rfl, IsWithin.isProbability (hallowed .patternLeast),
    IsWithin.isProbability (hallowed .classifierLeast),
    IsWithin.isProbability (hallowed .patternThreshold),
    IsWithin.isProbability (hallowed .classifierThreshold)⟩

theorem read_eq_map_alone {known : Environment} (hfile : environment.withFile file = .ok known)
    (part : Part) : part.read known = (alone environment file part).map part.of := by
  rw [alone, Part.map_of_ofEnvironment_lone]
  apply Part.read_congr
  rw [Environment.get?_withFile hfile, Part.get?_lone, if_pos rfl]

theorem isLoaded_of_load (hload : load environment file = .ok configuration) :
    IsLoaded environment file configuration := by
  obtain ⟨known, hfile, hread⟩ := bind_eq_ok_iff.mp hload
  have hparts := Part.ofEnvironment_eq_ok_iff.mp hread
  have hallowed := fun part => Part.isAllowed_of_read (hparts part)
  refine ⟨hallowed, exists_settings hallowed, fun part => ?own, fun part hnone => ?standard⟩
  case own => rw [← read_eq_map_alone hfile, hparts]
  case standard =>
    have hunset : part.read known = part.read [] := by
      apply Part.read_congr
      rw [Environment.get?_withFile hfile, hnone]
      rfl
    rw [hparts, Part.read_nil] at hunset
    exact Except.ok.inj hunset

/-- A rule that loading breaks: a variable of the file cannot be set, or the text of a part's
variable is refused. -/
def IsRefused (environment : Environment) (file : String) (fault : Fault) : Prop :=
  Environment.IsUnsettable fault ∨ ∃ (part : Part) (raw : String),
    environment.taken? file part.name = some raw ∧ part.Refuses raw fault

theorem IsRefused.isRule {fault : Fault} (hrefused : IsRefused environment file fault) :
    fault.IsRule := by
  rcases hrefused with (rfl | rfl) | ⟨part, raw, -, hrefuses⟩
  · trivial
  · trivial
  · exact hrefuses.isRule

theorem failsOnly_load (environment : Environment) (file : String) :
    FailsOnly (IsRefused environment file) (load environment file) := by
  apply FailsOnly.bind
  · intro fault hfault
    exact .inl (environment.failsOnly_withFile file fault hfault)
  · intro known hfile fault hfault
    obtain ⟨part, hpart⟩ := Part.failsOnly_ofEnvironment known fault hfault
    obtain ⟨raw, hraw, hrefuses⟩ := part.failsOnly_read known fault hpart
    rw [Environment.get?_withFile hfile] at hraw
    exact .inr ⟨part, raw, hraw, hrefuses⟩

theorem exists_load_iff :
    (∃ configuration, load environment file = .ok configuration) ↔
      (∃ known, environment.withFile file = .ok known) ∧
        ∀ part : Part, ∃ configuration, alone environment file part = .ok configuration := by
  have hpart : ∀ {known}, environment.withFile file = .ok known → ∀ part : Part,
      (∃ value, part.read known = .ok value) ↔
        ∃ configuration, alone environment file part = .ok configuration := by
    intro known hfile part
    rw [read_eq_map_alone hfile]
    cases alone environment file part with
    | error fault => exact iff_of_false nofun nofun
    | ok configuration => exact iff_of_true ⟨_, rfl⟩ ⟨_, rfl⟩
  rw [load, exists_bind_iff, ← exists_and_right]
  apply exists_congr
  intro known
  apply and_congr_right
  intro hfile
  rw [Part.exists_ofEnvironment_iff]
  exact forall_congr' (hpart hfile)

/-- The number of the port is set to nothing, and the level is given in small letters. -/
def sparse : Environment := [("PORT", ""), ("LOG_LEVEL", "debug")]

def sparseFile : String := "PORT=80\nMAX_TEXT_LENGTH = ' 3_0'"

end Configuration

end Phrasebook
