import Phrasebook.JsonText.Writer
import Phrasebook.Service.Basic

/-!
# Requests and answers as lines

A request stands on a line as its verb, its path and its body, with blanks between them; the body
may contain blanks itself.  An answer stands on a line as its status and its body.
-/

namespace Phrasebook.Service

/-- The text before the first blank, and the text after the blanks that follow it. -/
def firstWord (text : List Char) : List Char × List Char :=
  (text.takeWhile fun c => !Text.isBlank c,
    Text.trimStart (text.dropWhile fun c => !Text.isBlank c))

/-- The request that a line writes. -/
def Request.ofLine (line : String) : Request :=
  let (verb, afterVerb) := firstWord (Text.trim line.toList)
  let (path, body) := firstWord afterVerb
  { verb := .ofName (String.ofList verb), path := String.ofList path, body := String.ofList body }

def Body.written : Body → String
  | .json value => String.ofList (JsonText.write value)
  | .text value => value

/-- The line that an answer stands on. -/
def Response.line (response : Response) : String :=
  toString response.status ++ " " ++ response.body.written

end Phrasebook.Service
