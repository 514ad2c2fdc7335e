import Phrasebook.Text.Blank
import Phrasebook.Text.Word

/-!
# Tidied dates

Before a date is read it is tidied: separators of lists and invisible marks become spaces, runs of
blanks become one space, the stops of abbreviations and whatever introduces the date go away, and a
comma before the fraction of a second becomes a point.
-/

namespace Phrasebook.TidiedDate

open Text (isBlank isDecimalDigit)

/-- Marks that separate dates from other text, and marks of the direction of writing. -/
def isSpacer (c : Char) : Bool :=
  ['\t', '\n', '\r', '»', '·', '\u200E', '\u200F', '\u064E', '\u064F'].contains c

def spaced (text : List Char) : List Char := text.map fun c => if isSpacer c then ' ' else c

/-- A blank at the start of a text is dropped. -/
def afterBlank : List Char → List Char
  | [] => []
  | c :: rest => if isBlank c then rest else c :: rest

/-- A number with a point behind it, and the text after the point. -/
def dottedNumber? (text : List Char) : Option (List Char × List Char) :=
  match text.takeWhile isDecimalDigit, text.dropWhile isDecimalDigit with
  | [], _ => none
  | digits, '.' :: rest => some (digits, rest)
  | _, _ => none

/-- Three numbers with points behind all of them, and the text after them. -/
def dottedDate? (text : List Char) : Option (List Char × List Char) := do
  let (first, rest) ← dottedNumber? text
  let (second, rest) ← dottedNumber? (afterBlank rest)
  let (third, rest) ← dottedNumber? (afterBlank rest)
  let written := first ++ '.' :: second ++ '.' :: third ++ [' ']
  match rest with
  | ' ' :: 'u' :: others | ' ' :: 'U' :: others => return (written, others)
  | _ => return (written, rest)

/-- The text with every date of three dotted numbers closed up and without its last point.  The
first `skip` characters have been read already; `inNumber` says that a digit stands before the
next one, so that no number is read from its middle. -/
def closedUp : (skip : Nat) → (inNumber : Bool) → List Char → List Char
  | _, _, [] => []
  | skip + 1, inNumber, _ :: rest => closedUp skip inNumber rest
  | 0, inNumber, c :: rest =>
      if isDecimalDigit c && !inNumber then
        match dottedDate? (c :: rest) with
        | some (written, others) => written ++ closedUp (rest.length - others.length) false rest
        | none => c :: closedUp 0 true rest
      else c :: closedUp 0 (isDecimalDigit c) rest

/-- Every run of blanks as one space. -/
def squeezed : List Char → List Char
  | [] => []
  | c :: rest =>
      if isBlank c then
        match squeezed rest with
        | ' ' :: others => ' ' :: others
        | others => ' ' :: others
      else c :: squeezed rest

/-- The text without the points that follow something else than a digit or a blank. -/
def withoutStops (before : Option Char) : List Char → List Char
  | [] => []
  | c :: rest =>
      let stops := (before.map fun b => !b.isDigit && !isBlank b).getD false
      if c == '.' && stops then withoutStops (some c) rest
      else c :: withoutStops (some c) rest

/-- What follows the first introduction, such as "sent on: ". -/
def introduced? : List Char → Option (List Char)
  | 'o' :: 'n' :: ':' :: c :: rest =>
      if isBlank c then some (rest.dropWhile isBlank) else introduced? ('n' :: ':' :: c :: rest)
  | [] => none
  | _ :: rest => introduced? rest

def withoutIntroduction (text : List Char) : List Char := (introduced? text).getD text

def withoutLastColons (text : List Char) : List Char :=
  (text.reverse.dropWhile (· == ':')).reverse

def isApostrophe (c : Char) : Bool :=
  ['’', 'ʼ', 'ʻ', '՚', 'Ꞌ', 'ꞌ', '′', '‵', 'ʹ', '＇'].contains c

/-- Whether a reversed text ends in a clock with seconds. -/
def endsInClock : List Char → Bool
  | second₀ :: second₁ :: ':' :: minute₀ :: minute₁ :: ':' :: hour :: _ =>
      [second₀, second₁, minute₀, minute₁, hour].all isDecimalDigit
  | _ => false

/-- A comma between a clock and a fraction of its seconds becomes a point; `before` is reversed. -/
def withPoint (before : List Char) : List Char → List Char
  | [] => []
  | c :: rest =>
      let mark :=
        if c == ',' && endsInClock before && (rest.head?.map isDecimalDigit).getD false then '.'
        else c
      mark :: withPoint (c :: before) rest

def tidied (text : List Char) : List Char :=
  let plain := withoutStops none (squeezed (closedUp 0 false (spaced text)))
  let date := withoutLastColons (withoutIntroduction plain)
  Text.trim (withPoint [] (date.map fun c => if isApostrophe c then '\'' else c))

end Phrasebook.TidiedDate
