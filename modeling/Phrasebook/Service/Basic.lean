import Phrasebook.Catalog.Change
import Phrasebook.Detection.Detector
import Phrasebook.JsonText.Reader
import Phrasebook.Service.Path
import Phrasebook.Service.Shape
import Phrasebook.Text.Wide

/-!
# The service

The service answers requests with a detector: it detects intents and shows and changes the catalog.
Rules that a request breaks are answered with a status and a detail; any other fault is an internal
error.
-/

namespace Phrasebook

namespace Service

/-- The version that the service reports. -/
def version : String := "0.1.0"

def defaultMaxTextLength : Value := .int 1000

structure Request where
  verb : Verb
  path : String
  body : String

inductive Body where
  | json (value : Value)
  | text (value : String)

/-- An answer; an internal error shows its fault beside it. -/
structure Response where
  status : Nat
  body : Body
  fault : Option Fault

def json (status : Nat) (value : Value) : Response := ⟨status, .json value, none⟩

def detail (status : Nat) (text : String) : Response :=
  json status (.record [("detail", .text text)])

def internalError (fault : Fault) : Response :=
  ⟨500, .text "Internal Server Error", some fault⟩

def Step.toValue : Step → Value
  | .field name => .text name
  | .index place => .int place

def Violation.toValue (violation : Violation) : Value :=
  .record [("type", .text violation.complaint.name),
    ("loc", .list (violation.place.map Step.toValue))]

mutual

/-- Whether every number in a value has a JSON form. -/
def isWritable : Value → Bool
  | .number (.real real) => real.isFinite
  | .list items => areItemsWritable items
  | .mapping entries => areEntriesWritable entries
  | _ => true

def areItemsWritable : List Value → Bool
  | [] => true
  | item :: rest => isWritable item && areItemsWritable rest

def areEntriesWritable : List (Key × Value) → Bool
  | [] => true
  | (_, value) :: rest => isWritable value && areEntriesWritable rest

end

/-- The report of violations.  What was found goes into it, so all of that has to be writable. -/
def rejected (violations : List Violation) : Response :=
  if violations.all fun violation => isWritable violation.found then
    json 422 (.record [("detail", .list (violations.map Violation.toValue))])
  else internalError (.invalid .unwritableReal)

def unreadable : Response := detail 400 "There was an error parsing the body"

/-- The characters of a body, in units of the width that it shows, behind a byte order mark. -/
def bodyText? (body : String) : Option (List Char) :=
  match body.toList with
  | '\ufeff' :: rest => some rest
  | text => Text.decodeWide (text.flatMap Text.utf8Bytes)

/-- The value that the text of a body writes. -/
def readText (text : List Char) : Except Response Value :=
  match JsonText.read text with
  | .ok value => .ok value
  | .error (.flaw _ position) =>
      .error (rejected [⟨.invalidJson, [.field "body", .index position], .mapping []⟩])
  | .error _ => .error unreadable

/-- The body of a request as a value; a body with nothing in it is missing. -/
def readBody (body : String) : Except Response Value :=
  if body.isEmpty then .error (rejected [⟨.missing, [.field "body"], .null⟩])
  else
    match bodyText? body with
    | some text => readText text
    | none => .error unreadable

def checked {α : Type} : Checked α → Except Response α
  | .ok value => .ok value
  | .error violations => .error (rejected violations)

/-- The name under which an answer shows an entry. -/
def shownKey : Key → String
  | .bool value => if value then "true" else "false"
  | key => key.written

mutual

/-- Numbers without a JSON form are left blank, and all names are texts. -/
def shown : Value → Value
  | .number (.real (.finite negative steps)) => .real (.finite negative steps)
  | .number (.real _) => .null
  | .list items => .list (shownItems items)
  | .mapping entries => .mapping (shownEntries entries)
  | value => value

def shownItems : List Value → List Value
  | [] => []
  | item :: rest => shown item :: shownItems rest

def shownEntries : List (Key × Value) → List (Key × Value)
  | [] => []
  | (key, value) :: rest => (.text (shownKey key), shown value) :: shownEntries rest

end

end Service

structure Service where
  detector : Detector
  maxTextLength : Value

namespace Service

def catalog (service : Service) : Catalog := service.detector.catalog

def withCatalog (service : Service) (catalog : Catalog) : Service :=
  { service with detector := { service.detector with catalog } }

/-- A response that leaves the service as it is. -/
def unchanged (service : Service) : Except Response Response → Response × Service
  | .ok response => (response, service)
  | .error response => (response, service)

/-- The method that a request names, unless it names none. -/
def requestedMethod (name : Value) : Except Response Value :=
  if name.holds then
    match Method.ofValue name with
    | .ok _ => .ok name
    | .error _ =>
        .error (detail 400 ("Unknown method " ++ name.quoted ++ "; expected "
          ++ (Value.texts (Method.all.map Method.name)).quoted))
  else .ok .null

/-- The text and the method of a request for detection. -/
def readDetection (service : Service) (body : String) : Except Response (String × Value) := do
  let parts ← checked (readParts detectionParts (← readBody body))
  let text := trimmed ((OrderedMap.get? "text" parts).getD .null).written
  if text.isEmpty then throw (detail 400 "text cannot be empty")
  match (Value.int text.length).greaterThan service.maxTextLength with
  | .error fault => throw (internalError fault)
  | .ok true =>
      throw (detail 400 ("text exceeds " ++ service.maxTextLength.written ++ " characters"))
  | .ok false => return (text, ← requestedMethod ((OrderedMap.get? "method" parts).getD .null))

/-- A confidence that can be written with two places. -/
def checkConfidence (confidence : Value) : Except Fault Unit :=
  match confidence.number?, confidence with
  | some number, _ => number.toReal.map fun _ => ()
  | none, .text _ => invalid .unwritableText
  | none, _ => .error .unsuitable

/-- A detection is written to the log before it is answered. -/
def detectionResponse (answer : Except Fault Detection) : Response :=
  match (do let detection ← answer; checkConfidence detection.confidence; return detection) with
  | .ok detection => json 200 (shown detection.toValue)
  | .error fault => internalError fault

def detect (service : Service) (body : String) : Response × Service :=
  match service.readDetection body with
  | .error response => (response, service)
  | .ok (text, method) =>
      let (answer, detector) := service.detector.detect (.text text) method
      (detectionResponse answer, { service with detector })

def listIntents (service : Service) : Response :=
  json 200 (shown (.record [("intents", .list service.catalog.summary),
    ("total", .int service.catalog.size)]))

def showIntent (service : Service) (id : String) : Response :=
  match service.catalog.find? id with
  | some intent => json 200 (shown intent.summary)
  | none => detail 404 (Invalid.intentMissing id).message

/-- The answer to a change of the catalog. -/
def changeResponse (status : Nat) (answered : Intent → Value) : Except Fault Intent → Response
  | .ok intent => json status (shown (answered intent))
  | .error (.invalid cause) =>
      match cause with
      | .intentExists _ => detail 409 cause.message
      | .intentMissing _ => detail 404 cause.message
      | _ => detail 422 cause.message
  | .error fault => internalError fault

/-- Parts of a body that are null count as missing. -/
def presentParts (parts : List (String × Value)) : List (Key × Value) :=
  (parts.filter fun part => !part.2.isNull).map fun part => (.text part.1, part.2)

def addIntent (service : Service) (body : String) : Response × Service :=
  match (do checked (readParts intentParts (← readBody body))) with
  | .error response => (response, service)
  | .ok parts =>
      let id := (OrderedMap.get? "id" parts).getD .null
      let data := presentParts (OrderedMap.erase "id" parts)
      let outcome := service.catalog.addDeclared id (.mapping data)
      (changeResponse 201 Intent.summary outcome.answer, service.withCatalog outcome.catalog)

def updateIntent (service : Service) (id body : String) : Response × Service :=
  match (do checked (readEntries (← readBody body))) with
  | .error response => (response, service)
  | .ok entries =>
      let outcome := service.catalog.update id (OrderedMap.erase (.text "id") entries)
      (changeResponse 200 Intent.summary outcome.answer, service.withCatalog outcome.catalog)

def removeIntent (service : Service) (id : String) : Response × Service :=
  let outcome := service.catalog.remove id
  (changeResponse 200 (fun _ => .record [("deleted", .text id)]) outcome.answer,
    service.withCatalog outcome.catalog)

def status (service : Service) : Response :=
  json 200 (.record [("version", .text version),
    ("default_method", .text service.detector.defaultMethod.name),
    ("catalog", service.catalog.stats.toValue)])

/-- The answer of an endpoint, unless it does not know the verb. -/
def respond? (service : Service) (endpoint : Endpoint) (request : Request) :
    Option (Response × Service) :=
  match endpoint, request.verb with
  | .health, .get => some (json 200 (.record [("status", .text "ok")]), service)
  | .detection, .post => some (service.detect request.body)
  | .intents, .get => some (service.listIntents, service)
  | .intents, .post => some (service.addIntent request.body)
  | .intent id, .get => some (service.showIntent id, service)
  | .intent id, .put => some (service.updateIntent id request.body)
  | .intent id, .delete => some (service.removeIntent id)
  | .methods, .get => some (json 200 (shown service.detector.methods), service)
  | .status, .get => some (service.status, service)
  | _, _ => none

/-- The answer to a request, and the service afterwards. -/
def handle (service : Service) (request : Request) : Response × Service :=
  let path := decodedPath request.path
  match endpoint? path with
  | some endpoint =>
      (service.respond? endpoint request).getD (detail 405 "Method Not Allowed", service)
  | none =>
      if isRedirected path then (⟨307, .text "", none⟩, service)
      else (detail 404 "Not Found", service)

/-- The answers to a list of requests, one after another. -/
def handleAll (service : Service) : List Request → List Response × Service
  | [] => ([], service)
  | request :: rest =>
      let (response, next) := service.handle request
      let (responses, last) := next.handleAll rest
      (response :: responses, last)

end Service

end Phrasebook
