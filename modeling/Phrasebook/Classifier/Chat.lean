import Phrasebook.Classifier.Prompt

/-!
# Classifying with a chat model

A message goes to the model together with the prompt of the catalog.  A request that fails in
transit is repeated after a pause, twice as long each time, until the retries are used up.  The
client answers from a list of replies, one per request and the last one again and again, and keeps
what it was asked.
-/

namespace Phrasebook

inductive ChatReply where
  | content (text : String)
  /-- The model answered without any text. -/
  | noContent
  /-- The request failed in transit. -/
  | undelivered
  /-- The client itself failed. -/
  | failed (fault : Fault)
  deriving DecidableEq, Repr

structure ChatRequest where
  model : Value
  system : String
  user : Value
  deriving DecidableEq, Repr

namespace ChatRequest

/-- Requests ask for the likeliest answer and no more than a short one. -/
def temperature : Real64 := .zero

def maxTokens : Nat := 64

def roles : List String := ["system", "user"]

end ChatRequest

structure Chat where
  model : Value
  retries : Value
  backoff : Value
  replies : List ChatReply
  requests : List ChatRequest
  pauses : List Number
  deriving DecidableEq, Repr

namespace Chat

def defaultRetries : Value := .int 2

/-- Half a second. -/
def defaultBackoff : Value := .real (.ofRatio false 1 2)

/-- A client that has not been asked yet. -/
def ofReplies (model retries backoff : Value) (replies : List ChatReply) : Chat :=
  { model, retries, backoff, replies, requests := [], pauses := [] }

/-- The reply to a request, and the client afterwards. -/
def request (chat : Chat) (sent : ChatRequest) : ChatReply × Chat :=
  let asked := { chat with requests := chat.requests ++ [sent] }
  match chat.replies with
  | [] => (.noContent, asked)
  | [reply] => (reply, asked)
  | reply :: others => (reply, { asked with replies := others })

/-- The pause after a number of failed attempts before the last one.  A real pause is doubled as
often as the 64-bit format holds the factor. -/
def pauseAfter (backoff : Value) (attempt : Nat) : Except Fault Number :=
  match backoff.number? with
  | none => .error .unsuitable
  | some (.int value) => .ok (.int (value * Nat.pow 2 attempt))
  | some (.real value) =>
      if attempt < 1024 then .ok (.real (value.scaled attempt))
      else .error (.overflow .integerTooLarge)

/-- The client after the pause; a pause of no length is left out. -/
def pause (chat : Chat) (attempt : Nat) : Except Fault Chat := do
  let length ← pauseAfter chat.backoff attempt
  return if (Number.int 0).lt length then { chat with pauses := chat.pauses ++ [length] } else chat

abbrev Answer := Except Fault (Option Classification)

/-- A message whose length can be told, a text as a rule. -/
def hasLength : Value → Bool
  | .text _ | .list _ | .mapping _ => true
  | _ => false

/-- What becomes of a reply to a message that arrived. -/
def answerOf (message : Value) : ChatReply → Answer
  | .content text =>
      if text.isEmpty then .error (.unanswered .noContent)
      else do
        let answer ← Classification.ofAnswer text
        if hasLength message then return answer else .error .unsuitable
  | .noContent => .error (.unanswered .noContent)
  | .undelivered => .error (.unanswered .neverTried)
  | .failed fault => .error fault

/-- Asks up to `left` times, after `attempt` failed attempts. -/
def attempts (sent : ChatRequest) : (left attempt : Nat) → Chat → Answer × Chat
  | 0, _, chat => (.error (.unanswered .neverTried), chat)
  | left + 1, attempt, chat =>
      match chat.request sent with
      | (.undelivered, asked) =>
          if left = 0 then (.error (.unanswered (.exhausted (attempt + 1))), asked)
          else
            match asked.pause attempt with
            | .ok rested => attempts sent left (attempt + 1) rested
            | .error fault => (.error fault, asked)
      | (reply, asked) => (answerOf sent.user reply, asked)

/-- A number of retries, as it is given. -/
def retryCount : Value → Except Fault Int
  | .number (.int count) => .ok count
  | .bool one => .ok (if one then 1 else 0)
  | _ => .error .unsuitable

/-- Asks the model for the intent of a message. -/
def classify (chat : Chat) (intents : List Intent) (message : Value) : Answer × Chat :=
  match retryCount chat.retries with
  | .error fault => (.error fault, chat)
  | .ok retries =>
      let sent : ChatRequest := {
        model := chat.model
        system := Prompt.text Prompt.shopAssistant intents
        user := message }
      attempts sent (retries + 1).toNat 0 chat

end Chat

end Phrasebook
