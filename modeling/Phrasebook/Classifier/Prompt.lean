import Phrasebook.Catalog.Basic
import Phrasebook.Classifier.Answer

/-!
# The prompt of a chat model

The prompt lists the intents of a catalog, a line each, and asks for a JSON object.
-/

namespace Phrasebook.Prompt

/-- Whom the model classifies for, where nothing else is said. -/
def shopAssistant : String := "a Spanish-language shopping assistant"

/-- The number of templates that a line shows. -/
def shownPatterns : Nat := 3

def examples (patterns : List String) : String :=
  ", ".intercalate ((patterns.take shownPatterns).map fun pattern => "\"" ++ pattern ++ "\"")

/-- The description of an intent, or its name if it has none. -/
def caption (intent : Intent) : String :=
  if intent.description.isEmpty then intent.name else intent.description

def line (intent : Intent) : String :=
  "- " ++ intent.id ++ ": " ++ caption intent ++ " (e.g. " ++ examples intent.patterns ++ ")"

def text (assistant : String) (intents : List Intent) : String :=
  "You are an intent classifier for " ++ assistant ++ ". Classify the user message "
    ++ "into exactly one of the intents listed below. If none of them applies, "
    ++ "answer with the intent \"" ++ Classification.noLabel ++ "\".\n\nINTENTS:\n"
    ++ "\n".intercalate (intents.map line)
    ++ "\n\nRespond ONLY with a JSON object of the form:\n"
    ++ "\x7b\"intent\": \"<INTENT_ID>\", \"confidence\": <number between 0 and 1>\x7d"

end Phrasebook.Prompt
