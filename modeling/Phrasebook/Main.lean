import Phrasebook.Application
import Phrasebook.Service.Line

/-!
# The program

The program takes its configuration from the environment and the file `.env`, and answers the
requests on standard input one a line.  A configuration that cannot be used ends it with a report on
standard error.
-/

namespace Phrasebook

/-- Those of the named variables that are set. -/
def readVariables (names : List String) : IO Environment :=
  names.filterMapM fun name => do return (← IO.getEnv name).map fun value => (name, value)

/-- The text of a file, or nothing if it cannot be read. -/
def readOptionalFile (path : String) : IO String := do
  try IO.FS.readFile path catch _ => return ""

/-- The environment of the process, with what the file `.env` binds. -/
def readEnvironment : IO (Except Fault Environment) := do
  let file ← readOptionalFile ".env"
  let names := Configuration.variableNames ++ EnvFile.mentioned (EnvFile.bindings file.toList)
  return (← readVariables names.eraseDups).withFile file

/-- Answers requests until there are no more. -/
partial def answerLines (service : Service) (input output : IO.FS.Stream) : IO Unit := do
  let line ← input.getLine
  if line.isEmpty then return
  let (response, next) := service.handle (.ofLine line)
  output.putStrLn response.line
  output.flush
  answerLines next input output

end Phrasebook

def main : IO UInt32 := do
  match (← Phrasebook.readEnvironment).bind Phrasebook.Application.ofEnvironment with
  | .error fault =>
      IO.eprintln ("Configuration error: " ++ fault.message)
      return 1
  | .ok application =>
      Phrasebook.answerLines application.service (← IO.getStdin) (← IO.getStdout)
      return 0
