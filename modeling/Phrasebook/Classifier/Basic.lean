import Phrasebook.Classifier.Chat

/-!
# Classifiers

A classifier is a chat model or a list of prepared answers.  Prepared answers are given one per
message, the last one again and again.
-/

namespace Phrasebook

inductive PreparedAnswer where
  | nothing
  | classification (answer : Classification)
  | failure (reason : String)
  deriving DecidableEq, Repr

def PreparedAnswer.answer : PreparedAnswer → Except Fault (Option Classification)
  | .nothing => .ok none
  | .classification answer => .ok (some answer)
  | .failure reason => .error (.unanswered (.reported reason))

/-- Prepared answers with the messages that were asked. -/
structure Script where
  answers : List PreparedAnswer
  asked : List Value
  deriving DecidableEq, Repr

def Script.classify (script : Script) (message : Value) :
    Except Fault (Option Classification) × Script :=
  let asked := script.asked ++ [message]
  match script.answers with
  | [] => (.ok none, { script with asked })
  | [last] => (last.answer, { script with asked })
  | next :: others => (next.answer, ⟨others, asked⟩)

inductive Classifier where
  | prepared (script : Script)
  | model (chat : Chat)
  deriving DecidableEq, Repr

/-- The classifier's answer to a message about a list of intents, and the classifier afterwards. -/
def Classifier.classify (intents : List Intent) (message : Value) :
    Classifier → Except Fault (Option Classification) × Classifier
  | .prepared script =>
      let (answer, asked) := script.classify message
      (answer, .prepared asked)
  | .model chat =>
      let (answer, asked) := chat.classify intents message
      (answer, .model asked)

end Phrasebook
