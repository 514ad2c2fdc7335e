import Mathlib
import Phrasebook.Proofs.Detection.Serving

/-!
# Methods side by side

A comparison detects by each enabled method in turn and shows under each method's name what the
detection comes to.  It detects as a request does, so where the classifier leaves its own detection
without an answer, what the default method comes to takes its place.
-/

namespace Phrasebook

open Detection

theorem forall₂_keyed_iff {α β : Type} (P : α → β → Prop) {keys : List α}
    {entries : List (α × β)} :
    List.Forall₂ (fun key entry => key = entry.1 ∧ P entry.1 entry.2) keys entries ↔
      entries.map Prod.fst = keys ∧ ∀ entry ∈ entries, P entry.1 entry.2 := by
  induction entries generalizing keys with
  | nil => simp [eq_comm]
  | cons entry entries ih =>
      rw [List.forall₂_cons_right_iff, List.map_cons, List.forall_mem_cons]
      constructor
      · rintro ⟨key, rest, ⟨rfl, hentry⟩, hrest, rfl⟩
        obtain ⟨hkeys, hentries⟩ := ih.mp hrest
        exact ⟨congrArg _ hkeys, hentry, hentries⟩
      · rintro ⟨rfl, hentry, hentries⟩
        exact ⟨_, _, ⟨rfl, hentry⟩, ih.mpr ⟨rfl, hentries⟩, rfl⟩

namespace Detector

variable {detector : Detector} {text : String} {method : Method}

/-! ## After questions -/

section AskedTimes

variable (detector) (text : Value) (count : Nat)

theorem askedTimes_catalog : (detector.askedTimes text count).catalog = detector.catalog := by
  induction count generalizing detector with
  | zero => rfl
  | succ count ih => rw [askedTimes, ih, ask_catalog]

theorem askedTimes_settings : (detector.askedTimes text count).settings = detector.settings := by
  induction count generalizing detector with
  | zero => rfl
  | succ count ih => rw [askedTimes, ih, ask_settings]

variable {detector}

theorem Answers.askedTimes {P : Except Fault (Option Classification) → Prop}
    (hanswers : detector.Answers P) : (detector.askedTimes text count).Answers P := by
  induction count generalizing detector with
  | zero => exact hanswers
  | succ count ih => exact ih (hanswers.ask text)

end AskedTimes

/-! ## Turns -/

theorem chosen_name (detector : Detector) (method : Method) :
    detector.chosen (.text method.name) = .ok method := detector.chosen_orNull (some method)

/-- The detector when it is a method's turn: the hybrid comes behind the classifier, if there is
one, and the patterns ask nothing. -/
def turn (detector : Detector) (text : String) : Method → Detector
  | .patterns | .classifier => detector
  | .hybrid =>
      if detector.classifier.isSome then
        (detector.detect (.text text) (.text Method.classifier.name)).2
      else detector

/-- What a method comes to when it is its turn. -/
def atTurn (detector : Detector) (text : String) (method : Method) : Except Fault Detection :=
  ((detector.turn text method).detect (.text text) (.text method.name)).1

theorem exists_turn_eq (detector : Detector) (text : String) (method : Method) :
    ∃ count, detector.turn text method = detector.askedTimes (.text text) count := by
  cases method with
  | patterns | classifier => exact ⟨0, rfl⟩
  | hybrid =>
      rw [turn]
      split
      · obtain ⟨count, -, hasked, -⟩ :=
          (isServed_of_chosen (detector.chosen_name .classifier) text).asks
        exact ⟨count, hasked⟩
      · exact ⟨0, rfl⟩

/-- Detecting by the patterns asks nothing. -/
theorem detect_patterns_snd (detector : Detector) (text : String) :
    (detector.detect (.text text) (.text Method.patterns.name)).2 = detector := by
  rw [detect_of_chosen (detector.chosen_name .patterns)]
  split
  · rfl
  · have hmethod : Method.patterns ≠ .classifier := nofun
    rw [detectWith_of_ne hmethod]
    rfl

theorem compareBy_cons_fst (detector : Detector) (text : Value) (method : Method)
    (others : List Method) :
    (detector.compareBy text (method :: others)).1 = do
      let shown ← (do return (method, ← (detector.detect text (.text method.name)).1))
      let rest ← ((detector.detect text (.text method.name)).2.compareBy text others).1
      return shown :: rest := by
  rw [compareBy]
  split
  · rename_i hdetect
    rw [hdetect]
    rfl
  · rename_i detection asked hdetect
    rw [hdetect]
    dsimp only
    cases (asked.compareBy text others).1 <;> rfl

theorem filter_isEnabled (detector : Detector) :
    Method.all.filter detector.isEnabled =
      if detector.classifier.isSome then [.patterns, .classifier, .hybrid]
      else [.patterns, .hybrid] := by
  cases hclassifier : detector.classifier <;> simp [Method.all, isEnabled, hclassifier]

/-- Every enabled method has its turn, one after another. -/
theorem compare_fst (detector : Detector) (text : String) :
    (detector.compare (.text text)).1 = (Method.all.filter detector.isEnabled).mapM
      fun method => do return (method, ← detector.atTurn text method) := by
  rw [compare, filter_isEnabled]
  cases hclassifier : detector.classifier.isSome with
  | false =>
      simp only [Bool.false_eq_true, if_false, compareBy_cons_fst, detect_patterns_snd,
        List.mapM_cons, List.mapM_nil, atTurn, turn, hclassifier]
      rfl
  | true =>
      simp only [if_true, compareBy_cons_fst, detect_patterns_snd, List.mapM_cons, List.mapM_nil,
        atTurn, turn, hclassifier]
      rfl

/-- A comparison shows every enabled method with what it comes to at its turn. -/
theorem compare_fst_eq_ok_iff {entries : List (Method × Detection)} :
    (detector.compare (.text text)).1 = .ok entries ↔
      entries.map Prod.fst = Method.all.filter detector.isEnabled ∧
        ∀ entry ∈ entries, detector.atTurn text entry.1 = .ok entry.2 := by
  have hstep : ∀ method (entry : Method × Detection),
      (do return (method, ← detector.atTurn text method) : Except Fault _) = .ok entry ↔
        method = entry.1 ∧ detector.atTurn text entry.1 = .ok entry.2 := by
    intro method entry
    rw [bind_pure_eq_ok_iff]
    constructor
    · rintro ⟨detection, hdetection, rfl⟩
      exact ⟨rfl, hdetection⟩
    · rintro ⟨rfl, hdetection⟩
      exact ⟨entry.2, hdetection, rfl⟩
  rw [compare_fst, mapM_eq_ok_iff]
  simp only [hstep]
  exact forall₂_keyed_iff fun method detection => detector.atTurn text method = .ok detection

/-- A comparison comes about just if every enabled method detects at its turn. -/
theorem exists_compare_iff :
    (∃ entries, (detector.compare (.text text)).1 = .ok entries) ↔
      ∀ method, detector.isEnabled method = true →
        ∃ detection, detector.atTurn text method = .ok detection := by
  have hall : ∀ method, method ∈ Method.all.filter detector.isEnabled ↔
      detector.isEnabled method = true := by
    intro method
    rw [List.mem_filter]
    exact and_iff_right (by cases method <;> decide)
  rw [compare_fst, exists_mapM_iff]
  simp only [exists_bind_pure_iff, hall]

/-! ## Places -/

/-- The classifier has no answer to a text, and its place goes to another method, the default. -/
def GivesWay (detector : Detector) (text : String) (method : Method) : Prop :=
  method = .classifier ∧ detector.defaultMethod ≠ .classifier ∧
    ∃ cause, (detector.detectClassifier (.text text)).1 = .error (.unanswered cause)

/-- What a comparison shows in a method's place.  It is what the method comes to on its own, where
no answer counts as nothing detected; or, where the classifier gives way, what the default method
comes to, which then asks for itself. -/
structure Fills (detector : Detector) (text : String) (method : Method) (detection : Detection) :
    Prop where
  own : ¬ detector.GivesWay text method → detection.method = method ∧
    withReason (.text text) method
      ((detector.turn text method).detectBy method (.text text)).1 = .ok detection
  other : detector.GivesWay text method → detection.method = detector.defaultMethod ∧
    ((detector.ask (.text text)).2.detectBy detector.defaultMethod (.text text)).1 = .ok detection

variable {detection : Detection}

/-- A method's own detection goes by the method's name. -/
theorem method_of_detectBy {asked : Value}
    (hok : (detector.detectBy method asked).1 = .ok detection) : detection.method = method := by
  cases method with
  | patterns =>
      obtain ⟨words, -, hown⟩ := bind_eq_ok_iff.mp hok
      cases fromPatterns hown <;> rfl
  | classifier =>
      obtain ⟨answer, -, hown⟩ := bind_eq_ok_iff.mp hok
      cases fromAnswer hown <;> rfl
  | hybrid =>
      obtain ⟨own, -, hcases⟩ := detectHybrid_cases hok
      rcases hcases with ⟨-, -, -, rfl⟩ | ⟨answered, -, hboth⟩
      · rfl
      · obtain ⟨⟨chosen, decision⟩, -, hresult⟩ := bind_eq_ok_iff.mp hboth
        cases hresult
        rfl

theorem method_of_withReason {asked : Value}
    (hok : withReason asked method (detector.detectBy method asked).1 = .ok detection) :
    detection.method = method := by
  unfold withReason at hok
  split at hok
  · cases hok
    rfl
  · exact method_of_detectBy hok

theorem atTurn_of_not_givesWay (htext : isBlankText text = false)
    (hstays : ¬ detector.GivesWay text method) :
    detector.atTurn text method = withReason (.text text) method
      ((detector.turn text method).detectBy method (.text text)).1 := by
  have hserved := isServed_of_chosen ((detector.turn text method).chosen_name method) text
  by_cases hmethod : method = .classifier
  · subst hmethod
    by_cases hfails : ∃ cause,
        (detector.detectClassifier (.text text)).1 = .error (.unanswered cause)
    · obtain ⟨cause, hfails⟩ := hfails
      have hdefault : detector.defaultMethod = .classifier := by
        by_contra hdefault
        exact hstays ⟨rfl, hdefault, cause, hfails⟩
      have hnothing := congrArg Prod.fst (hserved.givesUp htext rfl hdefault cause hfails)
      calc detector.atTurn text .classifier
          = withReason (.text text) .classifier (.error (.unanswered cause)) := hnothing
        _ = withReason (.text text) .classifier (detector.detectClassifier (.text text)).1 := by
            rw [hfails]
    · have hanswers := not_exists.mp hfails
      have hown := congrArg Prod.fst (hserved.answered htext rfl hanswers)
      calc detector.atTurn text .classifier
          = (detector.detectClassifier (.text text)).1 := hown
        _ = withReason (.text text) .classifier (detector.detectClassifier (.text text)).1 := by
            rw [withReason]
            exact hanswers
  · rw [atTurn, hserved.own htext hmethod, withReason_detectBy hmethod]

theorem atTurn_of_givesWay (htext : isBlankText text = false)
    (hgives : detector.GivesWay text method) :
    detector.atTurn text method =
      ((detector.ask (.text text)).2.detectBy detector.defaultMethod (.text text)).1 := by
  obtain ⟨rfl, hdefault, cause, hfails⟩ := hgives
  have hserved := isServed_of_chosen (detector.chosen_name .classifier) text
  exact congrArg Prod.fst (hserved.fallsBack htext rfl hdefault cause hfails).2

theorem fills_of_atTurn (htext : isBlankText text = false)
    (hturn : detector.atTurn text method = .ok detection) :
    detector.Fills text method detection where
  own hstays := by
    rw [atTurn_of_not_givesWay htext hstays] at hturn
    exact ⟨method_of_withReason hturn, hturn⟩
  other hgives := by
    rw [atTurn_of_givesWay htext hgives] at hturn
    exact ⟨method_of_detectBy hturn, hturn⟩

/-- A detection that fills a method's place goes by the method's name unless the method gives
way. -/
theorem Fills.method_iff (hfills : detector.Fills text method detection) :
    detection.method = method ↔ ¬ detector.GivesWay text method := by
  constructor
  · intro hname hgives
    have hdefault := (hfills.other hgives).1
    rw [hname, hgives.1] at hdefault
    exact hgives.2.1 hdefault.symm
  · intro hstays
    exact (hfills.own hstays).1

theorem exists_atTurn (hplain : ∀ intent ∈ detector.catalog.intents, intent.IsPlain)
    (hsettings : detector.settings.AreNumbers) (hanswers : detector.Answers IsReply)
    (text : String) (method : Method) :
    ∃ detection, detector.atTurn text method = .ok detection := by
  obtain ⟨count, hturn⟩ := detector.exists_turn_eq text method
  rw [atTurn, hturn]
  apply exists_detect
  · rwa [askedTimes_catalog]
  · rwa [askedTimes_settings]
  · exact hanswers.askedTimes _ _
  · exact chosen_name _ method

/-- A comparison has exactly the enabled methods, each with a detection that fills its place, and
the detection goes by the name it stands under unless the classifier gives way.  It comes about if
every enabled method detects at its turn; so it always does under slots without dates whose limits
can be shown and settings that are numbers, whatever the classifier replies. -/
theorem fills_compare (htext : isBlankText text = false) :
    (∀ entries, (detector.compare (.text text)).1 = .ok entries →
        entries.map Prod.fst = Method.all.filter detector.isEnabled ∧
          ∀ entry ∈ entries, detector.Fills text entry.1 entry.2 ∧
            (entry.2.method = entry.1 ↔ ¬ detector.GivesWay text entry.1)) ∧
      ((∃ entries, (detector.compare (.text text)).1 = .ok entries) ↔
        ∀ method, detector.isEnabled method = true →
          ∃ detection, detector.atTurn text method = .ok detection) ∧
      ((∀ intent ∈ detector.catalog.intents, intent.IsPlain) → detector.settings.AreNumbers →
        detector.Answers IsReply → ∃ entries, (detector.compare (.text text)).1 = .ok entries) := by
  refine ⟨?shown, exists_compare_iff, ?comes⟩
  case shown =>
    intro entries hentries
    obtain ⟨hmethods, hturns⟩ := compare_fst_eq_ok_iff.mp hentries
    refine ⟨hmethods, fun entry hentry => ?_⟩
    have hfills := fills_of_atTurn htext (hturns entry hentry)
    exact ⟨hfills, hfills.method_iff⟩
  case comes =>
    intro hplain hsettings hanswers
    rw [exists_compare_iff]
    intro method _
    exact exists_atTurn hplain hsettings hanswers text method

/-- The classifier fails and gives way to the hybrid, which stands in its place. -/
theorem fills_compare_wavering :
    ∃ detection, wavering.GivesWay "quiero pan" .classifier ∧
      wavering.Fills "quiero pan" .classifier detection ∧ detection.method = .hybrid := by
  have htext : isBlankText "quiero pan" = false := by decide
  have hplain : ∀ intent ∈ wavering.catalog.intents, intent.IsPlain := by
    have hintents : wavering.catalog.intents = [order] := rfl
    simpa [hintents] using isPlain_order
  have hgives : wavering.GivesWay "quiero pan" .classifier := ⟨rfl, nofun, _, rfl⟩
  obtain ⟨hshown, -, hcomes⟩ := @fills_compare wavering "quiero pan" htext
  obtain ⟨entries, hentries⟩ := hcomes hplain areNumbers_wavering
    (isSound_wavering.answers.imp fun _ => IsProper.isReply)
  obtain ⟨hmethods, hfills⟩ := hshown entries hentries
  have hplace : Method.classifier ∈ entries.map Prod.fst := by
    rw [hmethods]
    decide
  obtain ⟨⟨_, detection⟩, hentry, rfl⟩ := List.mem_map.mp hplace
  have hfilled := (hfills _ hentry).1
  exact ⟨detection, hgives, hfilled, (hfilled.other hgives).1⟩

/-- A failed classifier is shown as a hybrid detection. -/
theorem compare_shows_hybrid_for_classifier :
    ¬ ∀ (detector : Detector) (text : String) (entries : List (Method × Detection)),
      detector.catalog.Reachable → detector.settings.AreNumbers → detector.IsSound →
      isBlankText text = false → (detector.compare (.text text)).1 = .ok entries →
      ∀ entry ∈ entries, entry.2.method = entry.1 := by
  intro hnamed
  have hmethods : ((wavering.compare (.text "quiero pan")).1.map
      (List.map fun entry => (entry.1, entry.2.method))) =
        .ok [(.patterns, .patterns), (.classifier, .hybrid), (.hybrid, .hybrid)] := by
    decide +kernel
  obtain ⟨entries, hentries, hshown⟩ := map_eq_ok_iff.mp hmethods
  have hplace : (Method.classifier, Method.hybrid) ∈
      entries.map fun entry => (entry.1, entry.2.method) := by
    rw [hshown]
    decide
  obtain ⟨entry, hentry, heq⟩ := List.mem_map.mp hplace
  have hname := hnamed wavering "quiero pan" entries reachable_wavering areNumbers_wavering
    isSound_wavering (by decide) hentries entry hentry
  injection heq with hkey hmethod
  rw [hkey, hmethod] at hname
  cases hname

end Detector

end Phrasebook
