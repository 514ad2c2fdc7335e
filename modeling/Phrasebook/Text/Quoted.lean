import Phrasebook.Text.PrintTable

/-!
# Quoted text

A text is quoted so that it can be read back from a message: in single quotes, or in double quotes
when it holds a single quote and no double one; the quote in use and the backslash are escaped, and
a character without a printed form is shown by its number.
-/

namespace Phrasebook.Text

def singleQuote : Char := Char.ofNat 39

def doubleQuote : Char := Char.ofNat 34

def backslash : Char := Char.ofNat 92

def isPrintable (c : Char) : Bool :=
  if c.toNat < 128 then 32 ≤ c.toNat && c.toNat < 127
  else !inRanges unprintableRanges c.toNat

def hexDigit (value : Nat) : Char :=
  if value < 10 then Char.ofNat ('0'.toNat + value) else Char.ofNat ('a'.toNat + (value - 10))

/-- The last `width` hexadecimal digits of a number. -/
def hexDigits : (width : Nat) → Nat → List Char
  | 0, _ => []
  | width + 1, value => hexDigits width (value / 16) ++ [hexDigit (value % 16)]

/-- A code point by number, in the shortest of the widths two, four and eight. -/
def codeEscape (code : Nat) : List Char :=
  if code < 0x100 then backslash :: 'x' :: hexDigits 2 code
  else if code < 0x10000 then backslash :: 'u' :: hexDigits 4 code
  else backslash :: 'U' :: hexDigits 8 code

def quotedChar (quote c : Char) : List Char :=
  if c = quote || c = backslash then [backslash, c]
  else if c = '\t' then [backslash, 't']
  else if c = '\n' then [backslash, 'n']
  else if c = '\r' then [backslash, 'r']
  else if isPrintable c then [c]
  else codeEscape c.toNat

/-- The quote that needs no escape, if one of the two does not. -/
def quoteFor (text : List Char) : Char :=
  if text.contains singleQuote && !text.contains doubleQuote then doubleQuote else singleQuote

def quote (text : List Char) : List Char :=
  let mark := quoteFor text
  mark :: text.flatMap (quotedChar mark) ++ [mark]

end Phrasebook.Text

namespace Phrasebook

def quoted (text : String) : String := String.ofList (Text.quote text.toList)

end Phrasebook
