import Phrasebook.Text.CaseMap
import Phrasebook.Text.MarkTable
import Phrasebook.Text.Word

/-!
# Base forms

The base form of a text is in lower case, its digits are those of ASCII, and its Latin letters are
plain: accents are dropped, and raised, lowered, circled, wide and styled letters are written as
ordinary ones.  Letters of other scripts stay as they are.
-/

namespace Phrasebook.Text

/-- Every letter with the single characters that are variants of it. -/
def letterVariants : List (Char × String) :=
  [
    ('a', "ªàáâãäåāăąǎǟǡǻȁȃȧᴬᵃḁạảấầẩẫậắằẳẵặₐ"),
    ('b', "ᴮᵇḃḅḇℬ"),
    ('c', "çćĉċčᶜḉℂℭꟲ"),
    ('d', "ďᴰᵈḋḍḏḑḓⅅⅆ"),
    ('e', "èéêëēĕėęěȅȇȩᴱᵉḕḗḙḛḝẹẻẽếềểễệₑℯℰⅇ"),
    ('f', "ᶠḟℱꟳ"),
    ('g', "ĝğġģǧǵᴳᵍḡℊ"),
    ('h', "ĥȟʰᴴḣḥḧḩḫẖₕℋℌℍℎ"),
    ('i', "ìíîïĩīĭįǐȉȋᴵᵢḭḯỉịⁱℐℑℹⅈ"),
    ('j', "ĵǰʲᴶⅉⱼ"),
    ('k', "ķǩᴷᵏḱḳḵₖ"),
    ('l', "ĺļľˡᴸḷḹḻḽₗℒℓ"),
    ('m', "ᴹᵐḿṁṃₘℳ"),
    ('n', "ñńņňǹᴺṅṇṉṋⁿₙℕ"),
    ('o', "ºòóôõöōŏőơǒǫǭȍȏȫȭȯȱᴼᵒṍṏṑṓọỏốồổỗộớờởỡợₒℴ"),
    ('p', "ᴾᵖṕṗₚℙ"),
    ('q', "ℚꟴ"),
    ('r', "ŕŗřȑȓʳᴿᵣṙṛṝṟℛℜℝ"),
    ('s', "śŝşšſșˢṡṣṥṧṩẛₛ"),
    ('t', "ţťțᵀᵗṫṭṯṱẗₜ"),
    ('u', "ùúûüũūŭůűųưǔǖǘǚǜȕȗᵁᵘᵤṳṵṷṹṻụủứừửữự"),
    ('v', "ᵛᵥṽṿⱽ"),
    ('w', "ŵʷᵂẁẃẅẇẉẘ"),
    ('x', "ˣẋẍₓ"),
    ('y', "ýÿŷȳʸẏẙỳỵỷỹ"),
    ('z', "źżžᶻẑẓẕℤℨ")
  ]

/-- Every digit with the single characters that are variants of it. -/
def digitVariants : List (Char × String) :=
  [
    ('0', "⁰₀⓪"), ('1', "¹₁"), ('2', "²₂"), ('3', "³₃"), ('4', "⁴₄"), ('5', "⁵₅"), ('6', "⁶₆"),
    ('7', "⁷₇"), ('8', "⁸₈"), ('9', "⁹₉")
  ]

/-- Marks and spaces with the single characters that are variants of them. -/
def markVariants : List (Char × String) :=
  [
    (' ', "\u00A0¨¯´¸˘˙˚˛˜˝"), ('+', "⁺₊﬩﹢"), ('(', "⁽₍﹙"), (')', "⁾₎﹚"), ('.', "․﹒"), (',', "﹐"),
    ('-', "﹣"), (':', "﹕︓"), (';', "\u037E﹔"), ('!', "﹗"), ('?', "﹖"), ('@', "﹫")
  ]

/-- Characters that stand for several. -/
def spelledOut : List (Char × String) :=
  [
    ('ⅰ', "i"), ('ⅱ', "ii"), ('ⅲ', "iii"), ('ⅳ', "iv"), ('ⅴ', "v"), ('ⅵ', "vi"), ('ⅶ', "vii"),
    ('ⅷ', "viii"), ('ⅸ', "ix"), ('ⅹ', "x"), ('ⅺ', "xi"), ('ⅻ', "xii"), ('ⅼ', "l"), ('ⅽ', "c"),
    ('ⅾ', "d"), ('ⅿ', "m"), ('…', "..."), ('‥', ".."), ('‼', "!!"), ('⁇', "??"), ('™', "tm"),
    ('№', "no"), ('℠', "sm"), ('ĳ', "ij"), ('ǆ', "dz"), ('ǉ', "lj"), ('ǌ', "nj"), ('ǳ', "dz"),
    ('ﬀ', "ff"), ('ﬁ', "fi"), ('ﬂ', "fl"), ('ﬃ', "ffi"), ('ﬄ', "ffl"), ('ﬅ', "st"), ('ﬆ', "st"),
    ('㏂', "a.m."), ('㏘', "p.m.")
  ]

def lowerLetter (place : Nat) : Char := Char.ofNat ('a'.toNat + place % 26)

/-- The character whose row lists a variant. -/
def ofVariant? (rows : List (Char × String)) (c : Char) : Option Char :=
  (rows.find? fun row => row.2.toList.contains c).map (·.1)

/-- The base form of a character beyond ASCII that is one character there too. -/
def plainVariant? (c : Char) : Option Char :=
  let code := c.toNat
  if 0xFF01 ≤ code && code ≤ 0xFF5E then some (lowerChar (Char.ofNat (code - 0xFEE0)))
  else if 0x1D400 ≤ code && code ≤ 0x1D6A3 then some (lowerLetter (code - 0x1D400))
  else if 0x24B6 ≤ code && code ≤ 0x24E9 then some (lowerLetter (code - 0x24B6))
  else
    ((ofVariant? letterVariants c).or (ofVariant? digitVariants c)).or (ofVariant? markVariants c)

/-- The number in a circle, in brackets or with a point, or the letter in brackets. -/
def enclosed? (c : Char) : Option (List Char) :=
  let code := c.toNat
  if 0x2460 ≤ code && code ≤ 0x2473 then some (Nat.toDigits 10 (code - 0x245F))
  else if 0x2474 ≤ code && code ≤ 0x2487 then
    some ('(' :: Nat.toDigits 10 (code - 0x2473) ++ [')'])
  else if 0x2488 ≤ code && code ≤ 0x249B then some (Nat.toDigits 10 (code - 0x2487) ++ ['.'])
  else if 0x249C ≤ code && code ≤ 0x24B5 then some ['(', lowerLetter (code - 0x249C), ')']
  else none

/-- The base form of a character in lower case. -/
def baseChars (c : Char) : List Char :=
  if c.toNat < 128 then [c]
  else
    match digitValue? c with
    | some value => [Char.ofNat ('0'.toNat + value)]
    | none =>
        if isCombining c then []
        else
          match plainVariant? c with
          | some plain => [plain]
          | none =>
              match spelledOut.find? fun row => row.1 == c with
              | some row => row.2.toList
              | none => (enclosed? c).getD [c]

def baseForm (text : List Char) : List Char := (lower text).flatMap baseChars

end Phrasebook.Text
