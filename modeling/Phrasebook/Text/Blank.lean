/-!
# Blank characters, trimming and words

A text is seen as words separated by runs of blank characters.  `words` cuts it at every run,
`collapse` writes the words again with one space between them, and `trim` drops the blank
characters at both ends only.
-/

namespace Phrasebook.Text

/-- The white space of Unicode together with the four information separators. -/
def isBlank (c : Char) : Bool :=
  let code := c.toNat
  if code < 128 then (9 ≤ code && code ≤ 13) || (28 ≤ code && code ≤ 32)
  else code == 0x85 || code == 0xA0 || code == 0x1680 || (0x2000 ≤ code && code ≤ 0x200A)
    || code == 0x2028 || code == 0x2029 || code == 0x202F || code == 0x205F || code == 0x3000

def trimStart (text : List Char) : List Char := text.dropWhile isBlank

def trimEnd (text : List Char) : List Char := (text.reverse.dropWhile isBlank).reverse

def trim (text : List Char) : List Char := trimEnd (trimStart text)

/-- The maximal runs of characters that are not blank, in order. -/
def words : List Char → List (List Char)
  | [] => []
  | c :: rest =>
      if isBlank c then words rest
      else
        match rest with
        | [] => [[c]]
        | next :: _ =>
            if isBlank next then [c] :: words rest
            else
              match words rest with
              | [] => [[c]]
              | word :: others => (c :: word) :: others

/-- The words joined by single spaces. -/
def unwords : List (List Char) → List Char
  | [] => []
  | [word] => word
  | word :: others => word ++ ' ' :: unwords others

/-- The text without outer blanks and with every inner run of blanks as one space. -/
def collapse (text : List Char) : List Char := unwords (words text)

/-- The pieces between single spaces; neighbouring spaces have an empty piece between them. -/
def splitAtSpaces : List Char → List (List Char)
  | [] => [[]]
  | c :: rest =>
      if c = ' ' then [] :: splitAtSpaces rest
      else
        match splitAtSpaces rest with
        | [] => [[c]]
        | piece :: others => (c :: piece) :: others

end Phrasebook.Text

namespace Phrasebook

/-- The text without the blank characters at its ends. -/
def trimmed (text : String) : String := String.ofList (Text.trim text.toList)

/-- A text with nothing but blank characters. -/
def isBlankText (text : String) : Bool := text.toList.all Text.isBlank

end Phrasebook
