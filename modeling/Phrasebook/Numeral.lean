import Phrasebook.Real64.Round
import Phrasebook.Text.Blank
import Phrasebook.Text.Word

/-!
# Reading numbers from text

Numerals may use the decimal digits of any script and single low lines between digits.  A real
numeral is a decimal with an optional point and exponent, or a name of an infinity or of the
undefined number; a whole numeral is a sign and digits.
-/

namespace Phrasebook.Numeral

/-- The plain form of a blank character or a digit of any script; plain characters stay as they
are. -/
def plainChar (c : Char) : Char :=
  if c.toNat < 128 then c
  else if Text.isBlank c then ' '
  else
    match Text.digitValue? c with
    | some value => Char.ofNat ('0'.toNat + value)
    | none => c

def plain (text : List Char) : List Char := text.map plainChar

def isPlainBlank (c : Char) : Bool := c == ' ' || (9 ≤ c.toNat && c.toNat ≤ 13)

/-- The plain form without its outer blanks. -/
def stripped (text : List Char) : List Char :=
  (((plain text).dropWhile isPlainBlank).reverse.dropWhile isPlainBlank).reverse

/-- The sign of a numeral and what follows it. -/
def readSign : List Char → Bool × List Char
  | '-' :: rest => (true, rest)
  | '+' :: rest => (false, rest)
  | text => (false, text)

def digitOf (c : Char) : Nat := c.toNat - '0'.toNat

/-- The number that digits write, after the digits that write `start`. -/
def natOfDigits (start : Nat) (digits : List Char) : Nat :=
  digits.foldl (fun value c => value * 10 + digitOf c) start

/-- Low lines stand only between two digits; `afterDigit` tells what came before. -/
def lowLinesFit (afterDigit : Bool) : List Char → Bool
  | [] => true
  | ['_'] => false
  | '_' :: c :: rest => afterDigit && c.isDigit && lowLinesFit true rest
  | c :: rest => lowLinesFit c.isDigit rest

/-- The text without its low lines, if they all stand between digits. -/
def withoutLowLines? (text : List Char) : Option (List Char) :=
  if lowLinesFit false text then some (text.filter (· != '_')) else none

/-- The longest run of digits at the start, and the rest. -/
def spanDigits (text : List Char) : List Char × List Char :=
  (text.takeWhile Char.isDigit, text.dropWhile Char.isDigit)

/-- A signed run of digits up to the end of the text. -/
def exponent? (text : List Char) : Option Int :=
  let (negative, digits) := readSign text
  if digits.isEmpty || !digits.all Char.isDigit then none
  else
    let value : Int := natOfDigits 0 digits
    some (if negative then -value else value)

def fraction (text : List Char) : List Char × List Char :=
  match text with
  | '.' :: rest => spanDigits rest
  | _ => ([], text)

/-- An unsigned decimal with an optional exponent. -/
def decimal? (negative : Bool) (text : List Char) : Option Real64 :=
  let (whole, afterWhole) := spanDigits text
  let (part, afterPart) := fraction afterWhole
  if whole.isEmpty && part.isEmpty then none
  else
    let digits := natOfDigits (natOfDigits 0 whole) part
    let places : Int := part.length
    match afterPart with
    | [] => some (Real64.ofDecimal negative digits (-places))
    | mark :: rest =>
        if mark == 'e' || mark == 'E' then
          (exponent? rest).map fun power => Real64.ofDecimal negative digits (power - places)
        else none

def named? (negative : Bool) (text : List Char) : Option Real64 :=
  let name := String.ofList (text.map Char.toLower)
  if name == "inf" || name == "infinity" then some (.infinite negative)
  else if name == "nan" then some .nan
  else none

/-- The number nearest to a real numeral. -/
def real? (text : String) : Option Real64 := do
  let plainText ← withoutLowLines? (stripped text.toList)
  let (negative, unsigned) := readSign plainText
  (named? negative unsigned).orElse fun _ => decimal? negative unsigned

/-- Why a text is not read as a whole number. -/
inductive Refusal where
  | malformed
  | tooLong (digits : Nat)
  deriving DecidableEq, Repr

/-- Whole numerals longer than this are refused. -/
def longest : Nat := 4300

/-- The digits at the start of a text, which low lines may part, and the text behind them. -/
def readDigits? (text : List Char) : Option (List Char × List Char) :=
  let belongs := fun (c : Char) => c.isDigit || c == '_'
  match withoutLowLines? (text.takeWhile belongs) with
  | none | some [] => none
  | some digits => some (digits, text.dropWhile belongs)

/-- A whole numeral.  That it has too many digits is found before what follows them is looked at. -/
def wholeOf (text : List Char) : Except Refusal Int :=
  let (negative, unsigned) := readSign (stripped text)
  match readDigits? unsigned with
  | none => .error .malformed
  | some (digits, rest) =>
      if longest < digits.length then .error (.tooLong digits.length)
      else if rest.isEmpty then
        let value : Int := natOfDigits 0 digits
        .ok (if negative then -value else value)
      else .error .malformed

def whole (text : String) : Except Refusal Int := wholeOf text.toList

end Phrasebook.Numeral
