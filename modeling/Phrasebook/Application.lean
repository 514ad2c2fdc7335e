import Phrasebook.Catalog.Builtin
import Phrasebook.Configuration.Address
import Phrasebook.Configuration.Basic
import Phrasebook.Service.Basic

/-!
# The application

The application serves the built-in catalog under a configuration.  Its classifier is a chat model
whose server does not answer.
-/

namespace Phrasebook

structure Application where
  configuration : Configuration
  service : Service

namespace Application

/-- The chat model of a configuration, if its address can be used; it cannot be reached. -/
def chat (configuration : Configuration) : Except Fault Chat := do
  match Address.check (← configuration.modelAddress.toText) with
  | .ok () =>
      return .ofReplies configuration.modelName Chat.defaultRetries Chat.defaultBackoff
        [.undelivered]
  | .error cause => .error (.address cause)

/-- The classifier of a configuration, unless it is not enabled. -/
def classifier (configuration : Configuration) : Except Fault (Option Classifier) :=
  if configuration.classifierEnabled.holds then do
    return some (.model (← chat configuration))
  else .ok none

/-- The application that an environment asks for. -/
def ofEnvironment (environment : Environment) : Except Fault Application := do
  let configuration ← Configuration.ofEnvironment environment
  let catalog ← Catalog.builtin
  let classifier ← classifier configuration
  let detector := Detector.create catalog classifier (← configuration.settings)
  return { configuration, service := ⟨detector, configuration.maxTextLength⟩ }

end Application

end Phrasebook
