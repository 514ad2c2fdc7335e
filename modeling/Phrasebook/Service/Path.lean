import Phrasebook.JsonText.Token
import Phrasebook.Text.Utf8

/-!
# Paths of requests

A path ends before a query or a fragment.  Characters may be written by their bytes, as a percent
sign and two hexadecimal digits.
-/

namespace Phrasebook.Service

/-- The bytes that a path writes. -/
def pathBytes : List Char → List Nat
  | [] => []
  | [c] => Text.utf8Bytes c
  | [c, d] => Text.utf8Bytes c ++ Text.utf8Bytes d
  | c :: high :: low :: rest =>
      if c = '%' then
        match JsonText.hexValue? high, JsonText.hexValue? low with
        | some first, some second => (first * 16 + second) :: pathBytes rest
        | _, _ => Text.utf8Bytes c ++ pathBytes (high :: low :: rest)
      else Text.utf8Bytes c ++ pathBytes (high :: low :: rest)

/-- The path as it is meant, without query and fragment. -/
def decodedPath (path : String) : List Char :=
  Text.decodeUtf8 (pathBytes (path.toList.takeWhile fun c => c != '?' && c != '#'))

/-- A character by its bytes. -/
def percentEncoded (c : Char) : List Char :=
  (Text.utf8Bytes c).flatMap fun byte => '%' :: Text.hexDigits 2 byte

/-- What a path leads to. -/
inductive Endpoint where
  | health
  | detection
  | intents
  | intent (id : String)
  | methods
  | status
  deriving DecidableEq, Repr

def fixedEndpoints : List (String × Endpoint) :=
  [("/health", .health), ("/api/detect-intent", .detection), ("/api/intents", .intents),
    ("/api/methods", .methods), ("/api/status", .status)]

def intentsPath : List Char := "/api/intents/".toList

/-- The endpoint of a path; the id of an intent is one part of the path and not empty.  A line end
behind a fixed path does not count. -/
def endpoint? (path : List Char) : Option Endpoint :=
  let leadsTo := fun (fixed : String) =>
    path == fixed.toList || path == fixed.toList ++ ['\n']
  match fixedEndpoints.find? fun entry => leadsTo entry.1 with
  | some (_, endpoint) => some endpoint
  | none =>
      let id := path.drop intentsPath.length
      if intentsPath.isPrefixOf path && !id.isEmpty && !id.contains '/' then
        some (.intent (String.ofList id))
      else none

def withoutTrailingSlashes (path : List Char) : List Char :=
  (path.reverse.dropWhile (· == '/')).reverse

/-- The path with its slash at the end taken away, or given one. -/
def otherSpelling (path : List Char) : List Char :=
  if path.getLast? == some '/' then withoutTrailingSlashes path else path ++ ['/']

/-- Whether a path leads nowhere but its other spelling leads somewhere. -/
def isRedirected (path : List Char) : Bool :=
  path != ['/'] && (endpoint? path).isNone && (endpoint? (otherSpelling path)).isSome

inductive Verb where
  | get
  | post
  | put
  | delete
  | other
  deriving DecidableEq, Repr

def Verb.ofName (name : String) : Verb :=
  let upper := name.toUpper
  if upper == "GET" then .get
  else if upper == "POST" then .post
  else if upper == "PUT" then .put
  else if upper == "DELETE" then .delete
  else .other

end Phrasebook.Service
