import Phrasebook.Text.CaseMap
import Phrasebook.Text.Word

/-!
# Time zones in dates

A zone is written as an offset from universal time, as universal time with an offset, or by the
letters of its name; the case of letters does not matter.  It stands behind another character that
is not a letter, and no letter or digit follows it.  Of several spellings in a text the one that
comes first in the table is the zone.
-/

namespace Phrasebook.Zone

/-- Spellings of one zone with its seconds ahead of universal time. -/
structure Row where
  spellings : List (List Char)
  seconds : Int
  deriving Repr

/-- A number with two digits. -/
def two (value : Nat) : List Char := [Nat.digitChar (value / 10), Nat.digitChar (value % 10)]

def sign (ahead : Bool) : Char := if ahead then '+' else '-'

/-- Hours and minutes with and without a colon, alone and behind a name of universal time. -/
def offsetRow (ahead : Bool) (minutes : Nat) : Row where
  spellings :=
    let hour := two (minutes / 60)
    let minute := two (minutes % 60)
    ["UTC", "GMT", ""].flatMap fun (name : String) =>
      [name.toList ++ sign ahead :: hour ++ ':' :: minute,
        name.toList ++ sign ahead :: hour ++ minute]
  seconds := if ahead then (minutes * 60 : Nat) else -((minutes * 60 : Nat) : Int)

/-- Whole hours behind a name of universal time. -/
def hourRow (ahead : Bool) (hours : Nat) : Row where
  spellings := ["UTC", "GMT"].flatMap fun (name : String) =>
    [name.toList ++ sign ahead :: two hours,
      name.toList ++ sign ahead :: Nat.toDigits 10 hours]
  seconds := if ahead then (hours * 3600 : Nat) else -((hours * 3600 : Nat) : Int)

/-- The minutes of every offset behind universal time. -/
def minutesBehind : List Nat :=
  [720, 660, 600, 570, 540, 480, 420, 360, 300, 270, 240, 210, 180, 150, 120, 60, 0]

/-- The minutes of every offset ahead of universal time. -/
def minutesAhead : List Nat :=
  [0, 60, 120, 180, 210, 240, 270, 300, 330, 345, 360, 390, 420, 480, 510, 525, 540, 570, 600, 630,
    660, 690, 720, 765, 780, 825, 840]

/-- The names of zones with their minutes ahead of universal time. -/
def names : List (String × Int) :=
  [
    ("UTC", 0), ("GMT", 0), ("Z", 0), ("ACDT", 630), ("ACST", 570), ("ACT", -300), ("ADT", -180),
    ("AEDT", 660), ("AEST", 600), ("AFT", 270), ("AKDT", -480), ("AKST", -540), ("AMST", -180),
    ("AMT", -240), ("ART", -180), ("AST", -240), ("AWDT", 540), ("AWST", 480), ("AZOST", 0),
    ("AZOT", -60), ("AZT", 240), ("BDT", 480), ("BIOT", 360), ("BIT", -720), ("BOT", -240),
    ("BRST", -120), ("BRT", -180), ("BST", 60), ("BTT", 360), ("CAT", 120), ("CCT", 390),
    ("CDT", -300), ("CEDT", 120), ("CEST", 120), ("CET", 60), ("CHADT", 825), ("CHAST", 765),
    ("CKT", -600), ("CLST", -180), ("CLT", -240), ("COT", -300), ("CST", -360), ("CVT", -60),
    ("CXT", 420), ("EAT", 180), ("ECT", -300), ("EDT", -240), ("EEDT", 180), ("EEST", 180),
    ("EET", 120), ("EGST", 0), ("EGT", -60), ("EST", -300), ("FJT", 720), ("FKT", -240),
    ("GALT", -360), ("GFT", -180), ("GST", 240), ("GYT", -240), ("HKT", 480), ("HST", -600),
    ("ICT", 420), ("IDT", 180), ("IRKT", 480), ("IRST", 210), ("IST", 330), ("JST", 540),
    ("KGT", 360), ("KRAT", 420), ("KST", 540), ("LHST", 630), ("LINT", 840), ("MAGT", 720),
    ("MART", -570), ("MDT", -360), ("MSK", 180), ("MST", -420), ("MUT", 240), ("MVT", 300),
    ("MYT", 480), ("NDT", -150), ("NFT", 690), ("NPT", 345), ("NST", -210), ("NT", -210),
    ("NZDT", 780), ("NZST", 720), ("OMST", 360), ("PDT", -420), ("PET", -300), ("PETT", 720),
    ("PGT", 600), ("PHOT", 780), ("PKT", 300), ("PST", -480), ("PYST", -180), ("PYT", -240),
    ("RET", 240), ("SAMT", 240), ("SAST", 120), ("SGT", 480), ("SRT", -180), ("SST", -660),
    ("UYT", -180), ("UZT", 300), ("VET", -240), ("VLAT", 600), ("WAST", 120), ("WAT", 60),
    ("WEDT", 60), ("WEST", 60), ("WET", 0), ("WIT", 420), ("WST", 480), ("YAKT", 540), ("YEKT", 300)
  ]

/-- Offsets come before names, so that the offset behind a name of universal time counts. -/
def rows : List Row :=
  minutesBehind.map (offsetRow false) ++ minutesAhead.map (offsetRow true)
    ++ ((minutesBehind.filter (· % 60 == 0)).map fun minutes => hourRow false (minutes / 60))
    ++ ((minutesAhead.filter (· % 60 == 0)).map fun minutes => hourRow true (minutes / 60))
    ++ names.map fun (name, minutes) => ⟨[name.toList], minutes * 60⟩

/-- What follows a spelling at the start of a text, if nothing continues the spelling. -/
def afterSpelling? : (spelling text : List Char) → Option (List Char)
  | [], [] => some []
  | [], c :: rest => if Text.isWordChar c then none else some (c :: rest)
  | _ :: _, [] => none
  | expected :: spelling, c :: rest =>
      if Text.lowerChar expected = Text.lowerChar c then afterSpelling? spelling rest else none

/-- A zone may follow any character but a letter. -/
def mayPrecede (c : Char) : Bool := !Text.isWordChar c || Text.isDecimalDigit c || c == '_'

/-- The text without the first of the spellings that stands in it as a zone. -/
def without? (spellings : List (List Char)) : List Char → Option (List Char)
  | [] => none
  | c :: rest =>
      let here := if mayPrecede c then spellings.findSome? (afterSpelling? · rest) else none
      (here.orElse fun _ => without? spellings rest).map (c :: ·)

/-- The text without its zone, and the seconds of the zone ahead of universal time. -/
def split? (text : List Char) : Option (List Char × Int) :=
  rows.findSome? fun row => (without? row.spellings text).map fun rest => (rest, row.seconds)

end Phrasebook.Zone
