import Mathlib
import Phrasebook.Proofs.Configuration.Part
import Phrasebook.Proofs.Number

/-!
# What a configuration may be

Whatever is written in a variable, its part of the configuration is one that detection can work
with: a share between zero and one, a number of seconds within bounds, a count, a method or a level
that there is.  Any other text breaks a rule, which names the variable.
-/

namespace Phrasebook

theorem Method.exists_name_of_ofName? {name : String} (hname : (ofName? name).isSome = true) :
    ∃ method : Method, method.name = name := by
  obtain ⟨method, hmethod⟩ := Option.isSome_iff_exists.mp hname
  exact ⟨method, by simpa using List.find?_some hmethod⟩

theorem Method.ofValue_name (method : Method) : ofValue (.text method.name) = .ok method := by
  cases method <;> rfl

namespace Configuration

/-- A real number within two bounds; the undefined number is within none. -/
def IsWithin (least greatest : Number) (value : Value) : Prop :=
  ∃ real : Real64, value = .real real ∧ least.le (.real real) = true ∧
    (Number.real real).le greatest = true

namespace IsWithin

variable {least greatest : Number} {value : Value}

theorem widen (hwithin : IsWithin least greatest value) {low high : Number}
    (hlow : low.le least = true) (hhigh : greatest.le high = true) : IsWithin low high value := by
  obtain ⟨real, hvalue, hleast, hgreatest⟩ := hwithin
  exact ⟨real, hvalue, Number.le_trans hlow hleast, Number.le_trans hgreatest hhigh⟩

theorem isProbability (hwithin : IsWithin (.int 0) (.int 1) value) : IsProbability value := by
  obtain ⟨real, hvalue, hwithin⟩ := hwithin
  exact ⟨.real real, hvalue, hwithin⟩

end IsWithin

/-! ## Readers -/

section Readers

variable {environment : Environment} {name raw : String} {fallback value : Value}

theorem get?_of_givenText? (hgiven : givenText? environment name = some raw) :
    OrderedMap.get? name environment = some raw :=
  (Option.filter_eq_some_iff.mp hgiven).1

theorem isWithin_of_realSetting {least greatest : Real64}
    (hfallback : IsWithin (.real least) (.real greatest) fallback)
    (hread : realSetting environment name fallback least greatest = .ok value) :
    IsWithin (.real least) (.real greatest) value := by
  unfold realSetting at hread
  split at hread
  · cases hread
    exact hfallback
  · split at hread
    · cases hread
    · rename_i real _
      dsimp only at hread
      split at hread
      · rename_i hwithin
        cases hread
        rw [Bool.and_eq_true] at hwithin
        exact ⟨real, rfl, hwithin⟩
      · cases hread

theorem isWithin_of_confidenceSetting (hfallback : IsWithin (.int 0) (.int 1) fallback)
    (hread : confidenceSetting environment name fallback = .ok value) :
    IsWithin (.int 0) (.int 1) value := by
  have hbounds : IsWithin (.real .zero) (.real (.ofRatio false 1 1)) fallback :=
    hfallback.widen (by decide +kernel) (by decide +kernel)
  exact (isWithin_of_realSetting hbounds hread).widen (by decide +kernel) (by decide +kernel)

theorem isCount_of_countSetting (hfallback : ∃ count : Int, fallback = .int count ∧ 1 ≤ count)
    (hread : countSetting environment name fallback = .ok value) :
    ∃ count : Int, value = .int count ∧ 1 ≤ count := by
  unfold countSetting at hread
  split at hread
  · cases hread
    exact hfallback
  · split at hread
    · cases hread
    · split at hread
      · cases hread
      · rename_i count _ hleast
        cases hread
        exact ⟨count, rfl, Int.not_lt.mp hleast⟩

theorem isFlag_of_flagSetting (hfallback : ∃ flag, fallback = .bool flag)
    (hread : flagSetting environment name fallback = .ok value) : ∃ flag, value = .bool flag := by
  unfold flagSetting at hread
  split at hread
  · cases hread
    exact hfallback
  · dsimp only at hread
    split at hread
    · cases hread
      exact ⟨true, rfl⟩
    · split at hread
      · cases hread
        exact ⟨false, rfl⟩
      · cases hread

theorem isText_textSetting (hfallback : ∃ text, fallback = .text text) :
    ∃ text, textSetting environment name fallback = .text text := by
  rw [textSetting]
  cases OrderedMap.get? name environment with
  | none => exact hfallback
  | some text => exact ⟨text, rfl⟩

end Readers

namespace Part

variable {environment : Environment} {part : Part} {value : Value}

/-! ## Values -/

/-- What a part of a configuration may be. -/
def IsAllowed : Part → Value → Prop
  | .detectionMethod, value => ∃ method : Method, value = .text method.name
  | .logLevel, value => ∃ level ∈ logLevels, value = .text level
  | .patternLeast, value | .classifierLeast, value | .patternThreshold, value
  | .classifierThreshold, value => IsWithin (.int 0) (.int 1) value
  | .classifierEnabled, value => ∃ flag, value = .bool flag
  | .classifierTimeout, value => IsWithin (.real (.ofRatio false 1 10)) (.int 600) value
  | .maxTextLength, value | .portNumber, value => ∃ count : Int, value = .int count ∧ 1 ≤ count
  | .modelAddress, value | .modelName, value | .host, value => ∃ text, value = .text text

theorem isAllowed_standard (part : Part) : part.IsAllowed (part.of standard) := by
  cases part with
  | detectionMethod => exact ⟨.hybrid, rfl⟩
  | logLevel => exact ⟨"INFO", by decide, rfl⟩
  | patternLeast | classifierLeast | patternThreshold | classifierThreshold | classifierTimeout =>
      exact ⟨_, rfl, by decide +kernel, by decide +kernel⟩
  | classifierEnabled => exact ⟨true, rfl⟩
  | maxTextLength | portNumber => exact ⟨_, rfl, by decide⟩
  | modelAddress | modelName | host => exact ⟨_, rfl⟩

theorem isAllowed_of_read (hread : part.read environment = .ok value) : part.IsAllowed value := by
  have hstandard := part.isAllowed_standard
  cases part with
  | detectionMethod =>
      unfold read methodSetting at hread
      dsimp only at hread
      split at hread
      · rename_i hname
        obtain ⟨method, hmethod⟩ := Method.exists_name_of_ofName? hname
        cases hread
        exact ⟨method, congrArg Value.text hmethod.symm⟩
      · cases hread
  | logLevel =>
      unfold read logLevelSetting at hread
      dsimp only at hread
      split at hread
      · rename_i hlevel
        cases hread
        exact ⟨_, List.contains_iff_mem.mp hlevel, rfl⟩
      · cases hread
  | patternLeast | classifierLeast | patternThreshold | classifierThreshold =>
      exact isWithin_of_confidenceSetting hstandard hread
  | classifierEnabled => exact isFlag_of_flagSetting hstandard hread
  | classifierTimeout =>
      have hbounds : IsWithin (.real (.ofRatio false 1 10)) (.real (.ofRatio false 600 1))
          standard.classifierTimeout :=
        hstandard.widen (by decide +kernel) (by decide +kernel)
      exact (isWithin_of_realSetting hbounds hread).widen (by decide +kernel) (by decide +kernel)
  | maxTextLength | portNumber => exact isCount_of_countSetting hstandard hread
  | modelAddress | modelName | host =>
      cases hread
      exact isText_textSetting hstandard

/-! ## Faults -/

/-- A text that is no number, or one of a number outside of two bounds. -/
def RefusesReal (name : String) (least greatest : Real64) (raw : String) (fault : Fault) : Prop :=
  fault = .invalid (.settingNotNumber name raw) ∨
    ∃ real, Numeral.real? raw = some real ∧
      fault = .invalid (.settingOutside name least.text greatest.text real.text)

/-- A text that is no whole number, or one of a whole number below one. -/
def RefusesCount (name raw : String) (fault : Fault) : Prop :=
  fault = .invalid (.settingNotWhole name raw) ∨
    ∃ count < 1, Numeral.whole raw = .ok count ∧
      fault = .invalid (.settingBelow name "1" (toString count))

/-- The rule that the text of a part's variable breaks.  It names the variable, and shows the text
or what is read from it. -/
def Refuses (part : Part) (raw : String) (fault : Fault) : Prop :=
  match part with
  | .detectionMethod => fault = .invalid (.unknownDefaultMethod (lowered (trimmed raw)))
  | .logLevel => fault = .invalid (.unknownLogLevel (uppered raw))
  | .patternLeast | .classifierLeast | .patternThreshold | .classifierThreshold =>
      RefusesReal part.name .zero (.ofRatio false 1 1) raw fault
  | .classifierEnabled => fault = .invalid (.settingNotBoolean part.name raw)
  | .classifierTimeout =>
      RefusesReal part.name (.ofRatio false 1 10) (.ofRatio false 600 1) raw fault
  | .maxTextLength | .portNumber => RefusesCount part.name raw fault
  | .modelAddress | .modelName | .host => False

theorem Refuses.isRule {raw : String} {fault : Fault} (hrefuses : part.Refuses raw fault) :
    fault.IsRule := by
  cases part with
  | detectionMethod | logLevel | classifierEnabled =>
      cases hrefuses
      trivial
  | patternLeast | classifierLeast | patternThreshold | classifierThreshold
  | classifierTimeout => rcases hrefuses with rfl | ⟨_, -, rfl⟩ <;> trivial
  | maxTextLength | portNumber => rcases hrefuses with rfl | ⟨_, -, -, rfl⟩ <;> trivial
  | modelAddress | modelName | host => exact hrefuses.elim

theorem failsOnly_realSetting (environment : Environment) (name : String) (fallback : Value)
    (least greatest : Real64) :
    FailsOnly (fun fault => ∃ raw, OrderedMap.get? name environment = some raw ∧
      RefusesReal name least greatest raw fault)
      (realSetting environment name fallback least greatest) := by
  unfold realSetting
  split
  · exact .ok _
  · rename_i raw hgiven
    have hraw := get?_of_givenText? hgiven
    split
    · rw [FailsOnly.invalid_iff]
      exact ⟨raw, hraw, .inl rfl⟩
    · rename_i real hreal
      dsimp only
      split
      · exact .ok _
      · rw [FailsOnly.invalid_iff]
        exact ⟨raw, hraw, .inr ⟨real, hreal, rfl⟩⟩

theorem failsOnly_countSetting (environment : Environment) (name : String) (fallback : Value) :
    FailsOnly (fun fault => ∃ raw, OrderedMap.get? name environment = some raw ∧
      RefusesCount name raw fault) (countSetting environment name fallback) := by
  unfold countSetting
  split
  · exact .ok _
  · rename_i raw hgiven
    have hraw := get?_of_givenText? hgiven
    split
    · rw [FailsOnly.invalid_iff]
      exact ⟨raw, hraw, .inl rfl⟩
    · rename_i count hcount
      split
      · rename_i hbelow
        rw [FailsOnly.invalid_iff]
        exact ⟨raw, hraw, .inr ⟨count, hbelow, hcount, rfl⟩⟩
      · exact .ok _

theorem failsOnly_flagSetting (environment : Environment) (name : String) (fallback : Value) :
    FailsOnly (fun fault => ∃ raw, OrderedMap.get? name environment = some raw ∧
      fault = .invalid (.settingNotBoolean name raw)) (flagSetting environment name fallback) := by
  unfold flagSetting
  split
  · exact .ok _
  · rename_i raw hgiven
    dsimp only
    split
    · exact .ok _
    · split
      · exact .ok _
      · rw [FailsOnly.invalid_iff]
        exact ⟨raw, get?_of_givenText? hgiven, rfl⟩

/-- A part is refused only for the text of its variable. -/
theorem failsOnly_read (part : Part) (environment : Environment) :
    FailsOnly (fun fault => ∃ raw, OrderedMap.get? part.name environment = some raw ∧
      part.Refuses raw fault) (part.read environment) := by
  cases part with
  | detectionMethod =>
      unfold read methodSetting
      dsimp only
      split
      · exact .ok _
      · rename_i hname
        rw [FailsOnly.invalid_iff]
        cases hraw : OrderedMap.get? "DETECTION_METHOD" environment with
        | none =>
            rw [hraw] at hname
            exact absurd (by decide) hname
        | some raw => exact ⟨raw, hraw, rfl⟩
  | logLevel =>
      unfold read logLevelSetting
      dsimp only
      split
      · exact .ok _
      · rename_i hlevel
        rw [FailsOnly.invalid_iff]
        cases hraw : OrderedMap.get? "LOG_LEVEL" environment with
        | none =>
            rw [hraw] at hlevel
            exact absurd (by decide) hlevel
        | some raw => exact ⟨raw, hraw, rfl⟩
  | patternLeast | classifierLeast | patternThreshold | classifierThreshold
  | classifierTimeout => exact failsOnly_realSetting environment _ _ _ _
  | classifierEnabled => exact failsOnly_flagSetting environment _ _
  | maxTextLength | portNumber => exact failsOnly_countSetting environment _ _
  | modelAddress | modelName | host => exact .ok _

end Part

end Configuration

end Phrasebook
