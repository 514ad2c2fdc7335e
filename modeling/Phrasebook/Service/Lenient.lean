import Phrasebook.Numeral

/-!
# Numbers of a request given as texts

In a request a number may be given as a text.  Such a text has plain digits, may have low lines
between other characters, and outer white space; a whole number may have zeros in front of it, and a
point and zeros behind it.
-/

namespace Phrasebook.Service.Lenient

/-- White space; the information separators are none. -/
def isSpace (c : Char) : Bool := Text.isBlank c && !(28 ≤ c.toNat && c.toNat < 32)

def trim (text : List Char) : List Char :=
  ((text.dropWhile isSpace).reverse.dropWhile isSpace).reverse

/-- The text without its low lines, if it has some and they stand neither at its ends nor side by
side. -/
def withoutLowLines? (text : List Char) : Option (List Char) :=
  let pieces := text.splitOn '_'
  if pieces.length < 2 || pieces.any (·.isEmpty) then none else some pieces.flatten

/-- A real numeral of plain characters without low lines. -/
def plainReal? (text : List Char) : Option Real64 :=
  if text.all fun c => 32 < c.toNat && c.toNat < 127 && c != '_' then
    Numeral.real? (String.ofList text)
  else none

/-- The real number that a text writes; one with low lines may not have outer white space. -/
def real? (text : List Char) : Option Real64 :=
  (plainReal? (trim text)).or ((withoutLowLines? text).bind plainReal?)

/-- A sign that says nothing is left out, unless another sign follows it. -/
def withoutPlus? : List Char → Option (List Char)
  | '+' :: '-' :: _ => none
  | '+' :: rest => some rest
  | text => some text

def startsNumber (c : Char) : Bool := c == '-' || ('1' ≤ c && c ≤ '9')

/-- The text behind zeros and low lines, the last of which is `last`; it stays if nothing follows or
a point does. -/
def behindZeros? (last : Char) : List Char → Option (List Char)
  | [] => some [last]
  | c :: rest =>
      if c == '0' || c == '_' then behindZeros? c rest
      else if startsNumber c then some (c :: rest)
      else if c == '.' then some (last :: c :: rest)
      else none

/-- The text from its first significant digit or sign on. -/
def withoutZeros? : List Char → Option (List Char)
  | [] => none
  | c :: rest =>
      if c == '0' then behindZeros? c rest else if startsNumber c then some (c :: rest) else none

/-- The text before a point with nothing but zeros behind it. -/
def withoutPlaces (text : List Char) : List Char :=
  match text.dropWhile (· != '.') with
  | '.' :: zero :: zeros =>
      if (zero :: zeros).all (· == '0') then text.takeWhile (· != '.') else text
  | _ => text

/-- The sign and the digits that a text comes down to. -/
def reduced? (text : List Char) : Option (List Char) := do
  let digits := withoutPlaces (← withoutZeros? (← withoutPlus? (trim text)))
  match digits with
  | '-' :: '_' :: _ => none
  | _ => if digits.contains '_' then withoutLowLines? digits else some digits

/-- A sign, and digits of which the first is zero only if it stands alone. -/
def plainWhole (text : List Char) : Except Numeral.Refusal Int :=
  let (negative, digits) :=
    match text with
    | '-' :: rest => (true, rest)
    | rest => (false, rest)
  let run := digits.takeWhile Char.isDigit
  if run.isEmpty || (run.head? == some '0' && 1 < run.length) then .error .malformed
  else if Numeral.longest < text.length - (digits.length - run.length) then
    .error (.tooLong run.length)
  else if run.length < digits.length then .error .malformed
  else
    let value : Int := Numeral.natOfDigits 0 run
    .ok (if negative then -value else value)

/-- The whole number that a text writes. -/
def whole (text : List Char) : Except Numeral.Refusal Int :=
  match reduced? text with
  | some digits => plainWhole digits
  | none => .error .malformed

end Phrasebook.Service.Lenient
