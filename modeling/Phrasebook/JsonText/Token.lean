import Phrasebook.JsonText.Flaw
import Phrasebook.Numeral
import Phrasebook.Text.Quoted
import Phrasebook.Value.Basic

/-!
# Strings and numbers of JSON

Readers take a text from a place on and return what they read with the place after it.  A number
without a point or an exponent is an integer.
-/

namespace Phrasebook.JsonText

/-- A place in a text: the number of characters before it, and the text from there on. -/
structure Place where
  position : Nat
  rest : List Char
  deriving DecidableEq, Repr

def refuse {α : Type} (flaw : Flaw) (position : Nat) : Except Refusal α :=
  .error (.flaw flaw position)

def isSpace (c : Char) : Bool := c == ' ' || c == '\t' || c == '\n' || c == '\r'

def skipFrom (position : Nat) : List Char → Place
  | [] => ⟨position, []⟩
  | c :: rest => if isSpace c then skipFrom (position + 1) rest else ⟨position, c :: rest⟩

/-- The place after any space. -/
def Place.skip (place : Place) : Place := skipFrom place.position place.rest

/-- The character that an escape of one letter stands for. -/
def shortEscape? (c : Char) : Option Char :=
  if c = Text.doubleQuote || c = Text.backslash || c = '/' then some c
  else if c = 'b' then some '\x08'
  else if c = 'f' then some '\x0c'
  else if c = 'n' then some '\n'
  else if c = 'r' then some '\r'
  else if c = 't' then some '\t'
  else none

def hexValue? (c : Char) : Option Nat :=
  if c.isDigit then some (c.toNat - '0'.toNat)
  else if 'a' ≤ c && c ≤ 'f' then some (c.toNat - 'a'.toNat + 10)
  else if 'A' ≤ c && c ≤ 'F' then some (c.toNat - 'A'.toNat + 10)
  else none

/-- The code unit of four hexadecimal digits. -/
def codeUnit? (a b c d : Char) : Option Nat := do
  let digits ← [a, b, c, d].mapM hexValue?
  return digits.foldl (fun unit digit => unit * 16 + digit) 0

def isHighUnit (unit : Nat) : Bool := 0xD800 ≤ unit && unit < 0xDC00

def isLowUnit (unit : Nat) : Bool := 0xDC00 ≤ unit && unit < 0xE000

def joinUnits (high low : Nat) : Nat := 0x10000 + (high - 0xD800) * 0x400 + (low - 0xDC00)

/-- The character of a code unit that stands alone; half of a pair becomes the replacement
character. -/
def charOfUnit (unit : Nat) : Char :=
  if isHighUnit unit || isLowUnit unit then '\ufffd' else Char.ofNat unit

def consRead (c : Char) (read : List Char × Place) : List Char × Place := (c :: read.1, read.2)

/-- The second half of a pair of code units, from behind the first half on; `position` is the place
of the `u` of the first one. -/
def readLowUnit (position : Nat) : List Char → Except Refusal (Option Nat)
  | slash :: 'u' :: a :: b :: c :: d :: _ :: _ =>
      if slash = Text.backslash then
        match codeUnit? a b c d with
        | none => refuse .badCodeEscape (position + 6)
        | some unit => .ok (if isLowUnit unit then some unit else none)
      else .ok none
  | _ => .ok none

/-- The character of a code escape, from behind its `u`, and how many characters it takes there.
More text has to follow. -/
def readCode (position : Nat) : List Char → Except Refusal (Char × Nat)
  | a :: b :: c :: d :: next :: more =>
      match codeUnit? a b c d with
      | none => refuse .badCodeEscape position
      | some unit =>
          if isHighUnit unit then do
            match ← readLowUnit position (next :: more) with
            | some low => return (Char.ofNat (joinUnits unit low), 10)
            | none => return (charOfUnit unit, 4)
          else .ok (charOfUnit unit, 4)
  | _ => refuse .badCodeEscape position

/-- The text of a string from behind its opening quote, which stands at `start`. -/
def readString (start position : Nat) : List Char → Except Refusal (List Char × Place)
  | [] => refuse .unterminated start
  | c :: rest =>
      if c = Text.doubleQuote then .ok ([], ⟨position + 1, rest⟩)
      else if c = Text.backslash then
        match rest with
        | [] => refuse .unterminated start
        | 'u' :: more => do
            let (decoded, count) ← readCode (position + 1) more
            let read ← readString start (position + 2 + count) (more.drop count)
            return consRead decoded read
        | letter :: more =>
            match shortEscape? letter with
            | some decoded => (readString start (position + 2) more).map (consRead decoded)
            | none => refuse .badEscape position
      else if c.toNat < 32 then refuse .controlCharacter position
      else (readString start (position + 1) rest).map (consRead c)
termination_by text => text.length
decreasing_by all_goals simp_wf <;> omega

/-- The digits of a whole part: a zero alone, or digits that do not start with zero. -/
def spanWhole : List Char → List Char × List Char
  | '0' :: rest => (['0'], rest)
  | text => Numeral.spanDigits text

/-- A point with the digits behind it, if there are any. -/
def spanFraction (text : List Char) : List Char × List Char :=
  match text with
  | '.' :: rest =>
      match Numeral.spanDigits rest with
      | ([], _) => ([], text)
      | (digits, others) => ('.' :: digits, others)
  | _ => ([], text)

/-- An exponent with its mark and sign, if it has digits. -/
def spanExponent (text : List Char) : List Char × List Char :=
  match text with
  | mark :: rest =>
      if mark == 'e' || mark == 'E' then
        let (sign, unsigned) :=
          match rest with
          | '+' :: others => (['+'], others)
          | '-' :: others => (['-'], others)
          | _ => ([], rest)
        match Numeral.spanDigits unsigned with
        | ([], _) => ([], text)
        | (digits, others) => (mark :: sign ++ digits, others)
      else ([], text)
  | [] => ([], text)

def spanSign : List Char → List Char × List Char
  | '-' :: rest => (['-'], rest)
  | text => ([], text)

/-- The number that a numeral writes; `real` tells whether it has a point or an exponent. -/
def numberOf (written : List Char) (real : Bool) : Except Refusal Value :=
  if real then .ok (.real ((Numeral.real? (String.ofList written)).getD .nan))
  else
    match Numeral.wholeOf written with
    | .ok value => .ok (.int value)
    | .error (.tooLong count) => .error (.tooManyDigits count)
    | .error .malformed => .ok .null

def readNumber (place : Place) : Except Refusal (Value × Place) :=
  let (sign, unsigned) := spanSign place.rest
  let (whole, afterWhole) := spanWhole unsigned
  if whole.isEmpty then refuse .noValue place.position
  else
    let (fraction, afterFraction) := spanFraction afterWhole
    let (exponent, rest) := spanExponent afterFraction
    let written := sign ++ whole ++ fraction ++ exponent
    (numberOf written (!fraction.isEmpty || !exponent.isEmpty)).map fun value =>
      (value, ⟨place.position + written.length, rest⟩)

/-- The words that stand for values of their own. -/
def words : List (String × Value) :=
  [("null", .null), ("true", .bool true), ("false", .bool false), ("NaN", .real .nan),
    ("Infinity", .real (.infinite false)), ("-Infinity", .real (.infinite true))]

def readWord? (place : Place) : Option (Value × Place) :=
  (words.find? fun word => word.1.toList.isPrefixOf place.rest).map fun word =>
    (word.2, ⟨place.position + word.1.length, place.rest.drop word.1.length⟩)

end Phrasebook.JsonText
