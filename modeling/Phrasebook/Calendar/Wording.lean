import Phrasebook.Calendar.Language
import Phrasebook.Text.BaseForm
import Phrasebook.Text.Blank

/-!
# The wording of dates

In a language the base form of a date is cut at the words that the language knows.  A date belongs
to the language if nothing but numbers, known words and the marks of dates is left; then its words
are replaced by common ones.
-/

namespace Phrasebook.DateWording

open Text (isBlank isDecimalDigit isWordChar isAlphanumeric)

/-- A run of digits, a run of letters, or any other character. -/
inductive Piece where
  | digits (run : List Char)
  | letters (run : List Char)
  | mark (c : Char)
  deriving DecidableEq, Repr

namespace Piece

def text : Piece → List Char
  | digits run => run
  | letters run => run
  | mark c => [c]

def isLetters : Piece → Bool
  | letters _ => true
  | _ => false

end Piece

def consDigit (c : Char) : List Piece → List Piece
  | .digits run :: rest => .digits (c :: run) :: rest
  | rest => .digits [c] :: rest

def consLetter (c : Char) : List Piece → List Piece
  | .letters run :: rest => .letters (c :: run) :: rest
  | rest => .letters [c] :: rest

def pieces : List Char → List Piece
  | [] => []
  | c :: rest =>
      if isDecimalDigit c then consDigit c (pieces rest)
      else if isWordChar c && c != '_' then consLetter c (pieces rest)
      else .mark c :: pieces rest

/-- The marks that have a meaning in dates. -/
def isDateMark (c : Char) : Bool := ['+', ':', '.', ' ', '-', '/'].contains c

/-- The marks that only separate words. -/
def isSeparator (c : Char) : Bool := ['\'', ',', ';', '@', '[', ']', '|'].contains c

/-- A token is a single mark of dates, or a text with a letter or a digit. -/
def isDateMarkToken : List Char → Bool
  | [c] => isDateMark c
  | _ => false

def isToken (text : List Char) : Bool := isDateMarkToken text || text.any isAlphanumeric

/-- Whether a piece is known to the language between its neighbours: marks do not count beside
letters, unless the letters before them are known too. -/
def isKnown (language : DateLanguage) (before after : Option Piece) : Piece → Bool
  | .digits _ => false
  | .letters run => (language.meaning? run).isSome
  | .mark c =>
      (isDateMark c || isSeparator c)
        && !(before.map Piece.isLetters).getD false && !(after.map Piece.isLetters).getD false

/-- The runs of digits among pieces, and the texts between them. -/
def partedAtDigits (gathered : List Char) : List Piece → List (List Char)
  | [] => [gathered]
  | .digits run :: rest => gathered :: run :: partedAtDigits [] rest
  | piece :: rest => partedAtDigits (gathered ++ piece.text) rest

/-- The tokens of pieces that the language does not know. -/
def looseTokens (unknown : List Piece) : List (List Char) :=
  (partedAtDigits [] unknown).filter isToken

/-- The tokens of a text, where `held` are the unknown pieces since the last known one, the nearest
first. -/
def tokensAfter (language : DateLanguage) (held : List Piece) : List Piece → List (List Char)
  | [] => looseTokens held.reverse
  | piece :: rest =>
      if isKnown language held.head? rest.head? piece then
        looseTokens held.reverse ++ [piece.text].filter isToken ++ tokensAfter language [] rest
      else tokensAfter language (piece :: held) rest

/-- The clock that a word with digits and letters means. -/
def clockOfWord (word : List Char) : List Char :=
  match pieces word with
  | [.digits hour, .letters ['h']] => hour ++ ":00".toList
  | [.digits hour, .letters ['h'], .digits minute] => hour ++ ':' :: minute
  | [.digits hour, .letters ['h'], .digits minute, .letters ['m']] => hour ++ ':' :: minute
  | _ => word

/-- The clock at the turn of the half days. -/
def clockOfName? (word : List Char) : Option (List Char) :=
  if word = "noon".toList then some "12:00".toList
  else if word = "midnight".toList then some "00:00".toList
  else none

/-- The maximal runs of letters and digits, and the other characters one by one. -/
def chunks : List Char → List (List Char)
  | [] => []
  | c :: rest =>
      if isAlphanumeric c then
        match rest with
        | [] => [[c]]
        | next :: _ =>
            if isAlphanumeric next then
              match chunks rest with
              | [] => [[c]]
              | chunk :: others => (c :: chunk) :: others
            else [c] :: chunks rest
      else [c] :: chunks rest

/-- The chunks with hours and named times written as clocks; a twelve before a name adds nothing. -/
def withClocks : List (List Char) → List (List Char)
  | [] => []
  | ['1', '2'] :: [blank] :: word :: rest =>
      match clockOfName? word with
      | some clock =>
          if isBlank blank then clock :: withClocks rest
          else ['1', '2'] :: [blank] :: clock :: withClocks rest
      | none => ['1', '2'] :: withClocks ([blank] :: word :: rest)
  | chunk :: rest => (clockOfName? chunk).getD (clockOfWord chunk) :: withClocks rest

/-- The base form of a text, in which a language may write times of day in its own way. -/
def prepared (language : DateLanguage) (text : List Char) : List Char :=
  let plain := Text.baseForm text
  if language.writesHours then (withClocks (chunks plain)).flatten else plain

def tokens (language : DateLanguage) (text : List Char) : List (List Char) :=
  tokensAfter language [] (pieces (prepared language text))

/-- Whether a language explains a text: every token is a number, a mark of dates or a known word,
and not all are marks. -/
def explains (language : DateLanguage) (text : List Char) : Bool :=
  let found := tokens language text
  !found.all isDateMarkToken && found.all fun token =>
    token.all isDecimalDigit || isDateMarkToken token || (language.meaning? token).isSome

/-- A preposition of time is kept only beside a unit of time. -/
def withoutBareIn (words : List (List Char)) : List (List Char) :=
  let isUnit := fun (word : List Char) => DateLanguage.unitNames.contains (String.ofList word)
  if words.any isUnit then words else words.erase "in".toList

/-- The words in a row, with spaces between those that no mark separates. -/
def joined : List (List Char) → List Char
  | [] => []
  | [word] => word
  | word :: next :: rest =>
      if isDateMarkToken word || isDateMarkToken next then word ++ joined (next :: rest)
      else word ++ ' ' :: joined (next :: rest)

/-- The text in common words. -/
def inCommonWords (language : DateLanguage) (text : List Char) : List Char :=
  let words := (tokens language text).map fun token =>
    match language.meaning? token with
    | some word => word.toList
    | none => token
  joined (withoutBareIn (words.filter fun word => !word.isEmpty))

end Phrasebook.DateWording
