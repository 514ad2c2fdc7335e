import Phrasebook.Fault
import Phrasebook.OrderedMap
import Phrasebook.Text.CaseFold

/-!
# Env files

An env file binds names to values, one binding a line.  Values may stand in quotes, in which they
may run over several lines; outside of quotes a comment ends them.  A line that is no binding is
passed over.  Values may refer to variables by name, with a text for a missing one.
-/

namespace Phrasebook

/-- Variables by name. -/
abbrev Environment := OrderedMap String String

namespace EnvFile

/-- Every line end as one character. -/
def withPlainLineEnds : List Char → List Char
  | [] => []
  | '\r' :: '\n' :: rest => '\n' :: withPlainLineEnds rest
  | '\r' :: rest => '\n' :: withPlainLineEnds rest
  | c :: rest => c :: withPlainLineEnds rest

/-- Blank within a line. -/
def isSpace (c : Char) : Bool := Text.isBlank c && c != '\n'

def skipSpace (text : List Char) : List Char := text.dropWhile isSpace

/-- The text from the next line on. -/
def nextLine (text : List Char) : List Char := (text.dropWhile (· != '\n')).drop 1

/-- Passes over the word `export` in front of a name. -/
def skipExport (text : List Char) : List Char :=
  let word := "export".toList
  if word.isPrefixOf text then
    let rest := text.drop word.length
    if (rest.head?.map isSpace).getD false then skipSpace rest else text
  else text

/-- The text in quotes, from behind the opening quote on, and what follows the closing one.  Two
backslashes belong together, and a quote behind a single one is part of the text if another quote
closes it. -/
def quotedText (quote : Char) : List Char → Option (List Char × List Char)
  | [] => none
  | c :: rest =>
      if c = quote then some ([], rest)
      else if c = Text.backslash then
        match rest with
        | next :: more =>
            if next = quote then
              match quotedText quote more with
              | some (text, after) => some (c :: next :: text, after)
              | none => some ([c], more)
            else if next = Text.backslash then
              (quotedText quote more).map fun read => (c :: next :: read.1, read.2)
            else (quotedText quote (next :: more)).map fun read => (c :: read.1, read.2)
        | [] => none
      else (quotedText quote rest).map fun read => (c :: read.1, read.2)

/-- The characters that escapes stand for, in double quotes. -/
def doubleQuoteEscapes : List (Char × Char) :=
  [(Text.backslash, Text.backslash), (Text.singleQuote, Text.singleQuote),
    (Text.doubleQuote, Text.doubleQuote), ('a', '\x07'), ('b', '\x08'), ('f', '\x0c'),
    ('n', '\n'), ('r', '\r'), ('t', '\t'), ('v', '\x0b')]

def singleQuoteEscapes : List (Char × Char) :=
  [(Text.backslash, Text.backslash), (Text.singleQuote, Text.singleQuote)]

/-- The text with its escapes resolved; a backslash before any other character stays. -/
def unescaped (escapes : List (Char × Char)) : List Char → List Char
  | [] => []
  | [c] => [c]
  | c :: next :: rest =>
      if c = Text.backslash then
        match escapes.find? (·.1 == next) with
        | some (_, meant) => meant :: unescaped escapes rest
        | none => c :: unescaped escapes (next :: rest)
      else c :: unescaped escapes (next :: rest)

/-- The text before a comment: before a number sign that follows a blank. -/
def withoutComment : List Char → List Char
  | c :: '#' :: rest => if Text.isBlank c then [] else c :: withoutComment ('#' :: rest)
  | c :: rest => c :: withoutComment rest
  | [] => []

/-- A name, in single quotes or up to a blank, an equals sign or a number sign; none before a
comment.  The outer answer is missing where no name can stand. -/
def readName (text : List Char) : Option (Option (List Char) × List Char) :=
  let ends := fun (c : Char) => c == '=' || c == '#' || Text.isBlank c
  match text with
  | '#' :: _ => some (none, text)
  | c :: rest =>
      if c = Text.singleQuote then
        match rest.takeWhile (· != Text.singleQuote), rest.dropWhile (· != Text.singleQuote) with
        | first :: others, _ :: after => some (some (first :: others), after)
        | _, _ => none
      else
        match text.takeWhile fun c => !ends c with
        | [] => none
        | name => some (some name, text.dropWhile fun c => !ends c)
  | [] => none

/-- The rest of the line before a comment, without outer blanks. -/
def plainValue (text : List Char) : List Char × List Char :=
  (Text.trim (withoutComment (text.takeWhile (· != '\n'))), text.dropWhile (· != '\n'))

/-- A value from behind the equals sign. -/
def readValue (text : List Char) : Option (List Char × List Char) :=
  match skipSpace text with
  | [] => some ([], [])
  | c :: rest =>
      if c = Text.singleQuote then
        (quotedText c rest).map fun read => (unescaped singleQuoteEscapes read.1, read.2)
      else if c = Text.doubleQuote then
        (quotedText c rest).map fun read => (unescaped doubleQuoteEscapes read.1, read.2)
      else some (plainValue text)

/-- What follows a binding, if the line ends there. -/
def afterBinding (text : List Char) : Option (List Char) :=
  let rest :=
    match skipSpace text with
    | '#' :: comment => comment.dropWhile (· != '\n')
    | other => other
  match rest with
  | [] => some []
  | '\n' :: lines => some lines
  | _ => none

/-- A name with its value; a name may stand without one. -/
abbrev Binding := String × Option String

/-- The value after a name, if an equals sign follows. -/
def readAssigned (text : List Char) : Option (Option (List Char) × List Char) :=
  match skipSpace text with
  | '=' :: rest => (readValue rest).map fun read => (some read.1, read.2)
  | rest => some (none, rest)

/-- What was read, or the text at which reading came to a halt. -/
def orHalt {α : Type} (text : List Char) : Option α → Except (List Char) α
  | some read => .ok read
  | none => .error text

/-- One binding or comment, and the text after it; else the text at which it turns out to be
neither. -/
def readBinding (text : List Char) : Except (List Char) (Option Binding × List Char) := do
  let start := skipExport text
  let (name, afterName) ← orHalt start (readName start)
  let (value, afterValue) ← orHalt afterName (readAssigned afterName)
  let rest ← orHalt afterValue (afterBinding afterValue)
  return (name.map fun name => (String.ofList name, value.map String.ofList), rest)

/-- All bindings of a text in order.  Every step takes at least a character, so the fuel need not
exceed the length of the text. -/
def readBindings : (fuel : Nat) → List Char → List Binding
  | 0, _ => []
  | fuel + 1, text =>
      match Text.trimStart text with
      | [] => []
      | start =>
          match readBinding start with
          | .ok (some binding, rest) => binding :: readBindings fuel rest
          | .ok (none, rest) => readBindings fuel rest
          | .error halted => readBindings fuel (nextLine halted)

def bindings (text : List Char) : List Binding :=
  let lines := withPlainLineEnds text
  readBindings lines.length lines

/-- A piece of a value: literal text, or a variable with the text for a missing one. -/
inductive Part where
  | literal (c : Char)
  | variable (name : List Char) (missing : List Char)
  deriving DecidableEq, Repr

/-- A variable from behind its opening brace, and what follows the closing one. -/
def readVariable (text : List Char) : Option (Part × List Char) :=
  let isEnd := fun (c : Char) => c == '\x7d'
  let name := text.takeWhile fun c => !isEnd c && c != ':'
  match text.dropWhile fun c => !isEnd c && c != ':' with
  | ':' :: '-' :: rest =>
      match rest.dropWhile fun c => !isEnd c with
      | _ :: after => some (.variable name (rest.takeWhile fun c => !isEnd c), after)
      | [] => none
  | '\x7d' :: after => some (.variable name [], after)
  | _ => none

/-- The pieces of a value. -/
def parts : (fuel : Nat) → List Char → List Part
  | 0, _ => []
  | _, [] => []
  | fuel + 1, c :: rest =>
      match c, rest with
      | '$', '\x7b' :: inner =>
          match readVariable inner with
          | some (part, after) => part :: parts fuel after
          | none => .literal c :: parts fuel rest
      | _, _ => .literal c :: parts fuel rest

/-- A variable of the environment, or else one that the file has bound before. -/
def look (environment : Environment) (bound : OrderedMap String (Option String)) (name : String)
    (missing : List Char) : List Char :=
  match OrderedMap.get? name environment with
  | some value => value.toList
  | none =>
      match OrderedMap.get? name bound with
      | some (some value) => value.toList
      | some none => []
      | none => missing

def Part.resolve (environment : Environment) (bound : OrderedMap String (Option String)) :
    Part → List Char
  | .literal c => [c]
  | .variable name missing => look environment bound (String.ofList name) missing

def resolved (environment : Environment) (bound : OrderedMap String (Option String))
    (value : String) : String :=
  let text := value.toList
  String.ofList ((parts text.length text).flatMap (Part.resolve environment bound))

/-- The name that a piece of a value refers to. -/
def Part.name? : Part → Option String
  | .literal _ => none
  | .variable name _ => some (String.ofList name)

/-- The names that a file binds and those that its values refer to. -/
def mentioned (file : List Binding) : List String :=
  file.flatMap fun binding =>
    let text := (binding.2.getD "").toList
    binding.1 :: (parts text.length text).filterMap Part.name?

/-- What a file binds, the last binding of a name counting. -/
def bind (environment : Environment) (file : List Binding) : OrderedMap String (Option String) :=
  file.foldl
    (fun bound binding =>
      OrderedMap.insert binding.1 (binding.2.map (resolved environment bound)) bound)
    []

end EnvFile

namespace Environment

/-- Checks a variable that is to be set: no null character stands in it, and no equals sign in its
name. -/
def checkVariable (name value : String) : Except Fault Unit :=
  if (name.toList ++ value.toList).contains '\x00' then .error (.invalid .nullInVariable)
  else if name.toList.contains '=' then .error (.invalid .variableName)
  else .ok ()

/-- Sets a variable unless it is set already. -/
def bind (environment : Environment) (name value : String) : Except Fault Environment :=
  if OrderedMap.hasKey name environment then .ok environment
  else do
    checkVariable name value
    return OrderedMap.insert name value environment

/-- The variable that turns env files off. -/
def offSwitch : String := "PYTHON_DOTENV_DISABLED"

/-- Whether a text says yes, in letters of either case. -/
def saysYes (text : String) : Bool :=
  ["1", "true", "t", "yes", "y"].any fun word => text.toList.map Text.caseKey == word.toList

/-- The environment with what an env file binds; variables that are set already stay as they are. -/
def withFile (environment : Environment) (text : String) : Except Fault Environment :=
  if ((OrderedMap.get? offSwitch environment).map saysYes).getD false then .ok environment
  else
    (EnvFile.bind environment (EnvFile.bindings text.toList)).foldlM
      (fun known binding =>
        match binding.2 with
        | some value => known.bind binding.1 value
        | none => .ok known)
      environment

end Environment

end Phrasebook
