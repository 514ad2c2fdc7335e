/-!
# UTF-8

Characters as runs of one to four bytes.  Reading bytes that are no such run gives the replacement
character for the longest start of one, and goes on behind it.
-/

namespace Phrasebook.Text

/-- The bytes of a character. -/
def utf8Bytes (c : Char) : List Nat :=
  let code := c.toNat
  if code < 0x80 then [code]
  else if code < 0x800 then [0xC0 + code / 0x40, 0x80 + code % 0x40]
  else if code < 0x10000 then
    [0xE0 + code / 0x1000, 0x80 + code / 0x40 % 0x40, 0x80 + code % 0x40]
  else
    [0xF0 + code / 0x40000, 0x80 + code / 0x1000 % 0x40, 0x80 + code / 0x40 % 0x40,
      0x80 + code % 0x40]

/-- A character of which some bytes have been read: how many are missing, the bits so far, and the
bounds on the next byte. -/
structure Partial where
  missing : Nat
  bits : Nat
  low : Nat
  high : Nat

/-- What the first byte of a character tells. -/
inductive Start where
  | whole (c : Char)
  | open (rest : Partial)
  | invalid

/-- The bounds on the second byte keep out longer forms than needed, surrogates, and what lies
beyond the last code point. -/
def startOf (byte : Nat) : Start :=
  if byte < 0x80 then .whole (Char.ofNat byte)
  else if byte < 0xC2 then .invalid
  else if byte < 0xE0 then .open ⟨1, byte - 0xC0, 0x80, 0xBF⟩
  else if byte < 0xF0 then
    .open ⟨2, byte - 0xE0, if byte == 0xE0 then 0xA0 else 0x80,
      if byte == 0xED then 0x9F else 0xBF⟩
  else if byte < 0xF5 then
    .open ⟨3, byte - 0xF0, if byte == 0xF0 then 0x90 else 0x80,
      if byte == 0xF4 then 0x8F else 0xBF⟩
  else .invalid

def replacement : Char := '\ufffd'

/-- The characters of a run of bytes behind those of an unfinished character, if there is one. -/
def decodeFrom : Option Partial → List Nat → List Char
  | none, [] => []
  | some _, [] => [replacement]
  | none, byte :: rest =>
      match startOf byte with
      | .whole c => c :: decodeFrom none rest
      | .open unfinished => decodeFrom (some unfinished) rest
      | .invalid => replacement :: decodeFrom none rest
  | some unfinished, byte :: rest =>
      if unfinished.low ≤ byte && byte ≤ unfinished.high then
        let bits := unfinished.bits * 0x40 + (byte - 0x80)
        if unfinished.missing ≤ 1 then Char.ofNat bits :: decodeFrom none rest
        else decodeFrom (some ⟨unfinished.missing - 1, bits, 0x80, 0xBF⟩) rest
      else
        match startOf byte with
        | .whole c => replacement :: c :: decodeFrom none rest
        | .open other => replacement :: decodeFrom (some other) rest
        | .invalid => replacement :: replacement :: decodeFrom none rest

def decodeUtf8 (bytes : List Nat) : List Char := decodeFrom none bytes

end Phrasebook.Text
