import Phrasebook.Calendar.Iso
import Phrasebook.Calendar.Written
import Phrasebook.Numeral

/-!
# Reading dates

A date is read in the international format if it has that form, and else as people write dates.
Numbers longer than whole numerals may be are refused.
-/

namespace Phrasebook

namespace WrittenDate

/-- The length of the first run of digits that is longer than a whole numeral may be; the text
follows so many digits. -/
def overlong? (count : Nat) : List Char → Option Nat
  | [] => if Numeral.longest < count then some count else none
  | c :: rest =>
      if Text.isDecimalDigit c then overlong? (count + 1) rest
      else if Numeral.longest < count then some count
      else overlong? 0 rest

end WrittenDate

namespace Instant

/-- The instant that a text denotes, whatever blanks surround it. -/
def ofText (text : String) : Except Fault Instant :=
  let written := Text.trim text.toList
  match IsoDate.read? written with
  | some moment => moment.toInstant.mapError .overflow
  | none =>
      match WrittenDate.overlong? 0 written with
      | some count => .error (.invalid (.tooManyDigits count))
      | none =>
          match WrittenDate.read? written with
          | some moment => moment.toInstant.mapError .overflow
          | none => .error (.invalid (.rejected (.notDate text)))

def text (instant : Instant) : String := String.ofList instant.render

end Instant

end Phrasebook
