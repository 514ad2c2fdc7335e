import Mathlib
import Phrasebook.Proofs.Detection.Sources

/-!
# Sound classifiers

A classifier remembers what it was asked, so what it answers to one message depends on the messages
before.  It is sound if it answers properly after any messages.
-/

namespace Phrasebook

/-- What a classifier may answer: no intent, a label with a probability, or that it has no
answer. -/
def IsProper : Except Fault (Option Classification) → Prop
  | .ok none => True
  | .ok (some answer) =>
      (∃ label, answer.label = .text label) ∧ IsProbability answer.confidence
  | .error fault => ∃ cause, fault = .unanswered cause

/-- A proper answer, save that the number beside a label may be any. -/
def IsReply : Except Fault (Option Classification) → Prop
  | .ok none => True
  | .ok (some answer) =>
      (∃ label, answer.label = .text label) ∧ ∃ sure, answer.confidence = .number sure
  | .error fault => ∃ cause, fault = .unanswered cause

theorem IsProper.isReply {answer : Except Fault (Option Classification)}
    (hanswer : IsProper answer) : IsReply answer := by
  cases answer with
  | error fault => exact hanswer
  | ok answer =>
      cases answer with
      | none => trivial
      | some classification => exact hanswer.imp_right fun ⟨sure, hsure, _⟩ => ⟨sure, hsure⟩

namespace Classifier

variable {intents : List Intent} {classifier : Classifier}
  {P Q : Except Fault (Option Classification) → Prop}

/-- The classifier after messages in a row. -/
def after (intents : List Intent) (classifier : Classifier) (messages : List Value) : Classifier :=
  messages.foldl (fun classifier message => (classifier.classify intents message).2) classifier

/-- Whatever it was asked before, the classifier answers in a certain way. -/
def Answers (P : Except Fault (Option Classification) → Prop) (intents : List Intent)
    (classifier : Classifier) : Prop :=
  ∀ messages message, P ((classifier.after intents messages).classify intents message).1

def IsSound (intents : List Intent) (classifier : Classifier) : Prop :=
  ∀ messages message, IsProper ((classifier.after intents messages).classify intents message).1

theorem Answers.imp (hanswers : classifier.Answers P intents)
    (himp : ∀ answer, P answer → Q answer) : classifier.Answers Q intents :=
  fun messages message => himp _ (hanswers messages message)

theorem Answers.answer (hanswers : classifier.Answers P intents) (message : Value) :
    P (classifier.classify intents message).1 := hanswers [] message

theorem Answers.classify (hanswers : classifier.Answers P intents) (message : Value) :
    (classifier.classify intents message).2.Answers P intents :=
  fun messages => hanswers (message :: messages)

end Classifier

namespace Script

variable {script : Script} {P : Except Fault (Option Classification) → Prop}

/-- The answer to a message is the first one that is left, or none if there never was one. -/
theorem answer_classify (hnone : P (.ok none))
    (hanswers : ∀ answer ∈ script.answers, P answer.answer) (message : Value) :
    P (script.classify message).1 := by
  unfold classify
  split
  · exact hnone
  · rename_i last hlast
    exact hanswers last (hlast ▸ List.mem_singleton_self last)
  · rename_i next others _ hnext
    exact hanswers next (hnext ▸ List.mem_cons_self)

/-- A script never gains an answer. -/
theorem answers_classify_subset (message : Value) :
    (script.classify message).2.answers ⊆ script.answers := by
  unfold classify
  split
  · rename_i hnil
    simp [hnil]
  · exact List.Subset.refl _
  · rename_i next others _ hnext
    rw [hnext]
    exact List.subset_cons_self next others

theorem asked_classify (message : Value) :
    (script.classify message).2.asked = script.asked ++ [message] := by
  unfold classify
  split <;> rfl

/-- A classifier that answers from a script answers in the ways of the script. -/
theorem answers_prepared (hnone : P (.ok none))
    (hanswers : ∀ answer ∈ script.answers, P answer.answer) (intents : List Intent) :
    (Classifier.prepared script).Answers P intents := by
  intro messages
  induction messages generalizing script with
  | nil => exact answer_classify hnone hanswers
  | cons message messages ih =>
      exact ih fun answer hanswer => hanswers answer (answers_classify_subset message hanswer)

/-- A script of proper answers is a sound classifier. -/
theorem isSound_prepared (hanswers : ∀ answer ∈ script.answers, IsProper answer.answer)
    (intents : List Intent) : (Classifier.prepared script).IsSound intents :=
  answers_prepared (P := IsProper) trivial hanswers intents

end Script

end Phrasebook
