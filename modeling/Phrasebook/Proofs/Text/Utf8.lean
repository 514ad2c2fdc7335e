import Mathlib
import Phrasebook.Text.Utf8

/-!
# UTF-8 back and forth

The bytes of a character are read as that character: the first byte tells how many follow, and the
bounds on the second one, which keep out longer forms, surrogates and what no code point has, are
kept by every character.
-/

namespace Phrasebook.Text

theorem decodeFrom_of_whole {byte : Nat} {c : Char} (hstart : startOf byte = .whole c)
    (rest : List Nat) : decodeFrom none (byte :: rest) = c :: decodeFrom none rest := by
  rw [decodeFrom, hstart]

theorem decodeFrom_of_open {byte : Nat} {unfinished : Partial}
    (hstart : startOf byte = .open unfinished) (rest : List Nat) :
    decodeFrom none (byte :: rest) = decodeFrom (some unfinished) rest := by
  rw [decodeFrom, hstart]

/-- A byte within its bounds adds six bits. -/
theorem decodeFrom_of_within {unfinished : Partial} {byte : Nat} (hlow : unfinished.low ≤ byte)
    (hhigh : byte ≤ unfinished.high) (rest : List Nat) :
    decodeFrom (some unfinished) (byte :: rest) =
      if unfinished.missing ≤ 1 then
        Char.ofNat (unfinished.bits * 0x40 + (byte - 0x80)) :: decodeFrom none rest
      else
        decodeFrom (some ⟨unfinished.missing - 1, unfinished.bits * 0x40 + (byte - 0x80), 0x80,
          0xBF⟩) rest := by
  simp only [decodeFrom, hlow, hhigh, decide_true, Bool.and_self, if_true]

theorem decodeFrom_last {bits low high byte code : Nat} (hlow : low ≤ byte) (hhigh : byte ≤ high)
    (hcode : bits * 0x40 + (byte - 0x80) = code) (rest : List Nat) :
    decodeFrom (some ⟨1, bits, low, high⟩) (byte :: rest) =
      Char.ofNat code :: decodeFrom none rest := by
  rw [decodeFrom_of_within hlow hhigh, if_pos (Nat.le_refl 1), hcode]

theorem decodeFrom_next {missing bits low high byte next : Nat} (hlow : low ≤ byte)
    (hhigh : byte ≤ high) (hnext : bits * 0x40 + (byte - 0x80) = next) (rest : List Nat) :
    decodeFrom (some ⟨missing + 2, bits, low, high⟩) (byte :: rest) =
      decodeFrom (some ⟨missing + 1, next, 0x80, 0xBF⟩) rest := by
  rw [decodeFrom_of_within hlow hhigh, if_neg (by simp), hnext]
  rfl

/-! ## First bytes -/

section StartOf

variable {lead : Nat}

theorem startOf_two (hleast : 2 ≤ lead) (hmost : lead < 0x20) :
    startOf (0xC0 + lead) = .open ⟨1, lead, 0x80, 0xBF⟩ := by
  rw [startOf, if_neg (by omega), if_neg (by omega), if_pos (by omega), Nat.add_sub_cancel_left]

theorem startOf_three (hmost : lead < 0x10) :
    startOf (0xE0 + lead) =
      .open ⟨2, lead, if lead = 0 then 0xA0 else 0x80, if lead = 0xD then 0x9F else 0xBF⟩ := by
  have hhigh : 0xE0 + lead = 0xED ↔ lead = 0xD := by omega
  rw [startOf, if_neg (by omega), if_neg (by omega), if_neg (by omega), if_pos (by omega),
    Nat.add_sub_cancel_left]
  simp only [beq_iff_eq, Nat.add_eq_left, hhigh]

theorem startOf_four (hmost : lead < 5) :
    startOf (0xF0 + lead) =
      .open ⟨3, lead, if lead = 0 then 0x90 else 0x80, if lead = 4 then 0x8F else 0xBF⟩ := by
  have hhigh : 0xF0 + lead = 0xF4 ↔ lead = 4 := by omega
  rw [startOf, if_neg (by omega), if_neg (by omega), if_neg (by omega), if_neg (by omega),
    if_pos (by omega), Nat.add_sub_cancel_left]
  simp only [beq_iff_eq, Nat.add_eq_left, hhigh]

end StartOf

/-! ## Characters -/

/-- Code points of characters are below the last one, and none is a surrogate. -/
theorem toNat_of_char (c : Char) : c.toNat < 0xD800 ∨ 0xDFFF < c.toNat ∧ c.toNat < 0x110000 :=
  c.valid

theorem decodeFrom_utf8Bytes (c : Char) (rest : List Nat) :
    decodeFrom none (utf8Bytes c ++ rest) = c :: decodeFrom none rest := by
  have hvalid := toNat_of_char c
  have hself : Char.ofNat c.toNat = c := Char.ofNat_toNat c
  rw [utf8Bytes]
  generalize c.toNat = code at hvalid hself
  split_ifs with hone htwo hthree
  · have hstart : startOf code = .whole c := by rw [startOf, if_pos hone, hself]
    exact decodeFrom_of_whole hstart rest
  · calc decodeFrom none ((0xC0 + code / 0x40) :: (0x80 + code % 0x40) :: rest)
        = decodeFrom (some ⟨1, code / 0x40, 0x80, 0xBF⟩) ((0x80 + code % 0x40) :: rest) :=
          decodeFrom_of_open (startOf_two (by omega) (by omega)) _
      _ = Char.ofNat code :: decodeFrom none rest :=
          decodeFrom_last (by omega) (by omega) (by omega) rest
      _ = c :: decodeFrom none rest := by rw [hself]
  · calc decodeFrom none ((0xE0 + code / 0x1000) :: (0x80 + code / 0x40 % 0x40) ::
          (0x80 + code % 0x40) :: rest)
        = decodeFrom (some ⟨2, code / 0x1000, _, _⟩)
            ((0x80 + code / 0x40 % 0x40) :: (0x80 + code % 0x40) :: rest) :=
          decodeFrom_of_open (startOf_three (by omega)) _
      _ = decodeFrom (some ⟨1, code / 0x40, 0x80, 0xBF⟩) ((0x80 + code % 0x40) :: rest) :=
          decodeFrom_next (by split <;> omega) (by split <;> omega) (by omega) _
      _ = Char.ofNat code :: decodeFrom none rest :=
          decodeFrom_last (by omega) (by omega) (by omega) rest
      _ = c :: decodeFrom none rest := by rw [hself]
  · calc decodeFrom none ((0xF0 + code / 0x40000) :: (0x80 + code / 0x1000 % 0x40) ::
          (0x80 + code / 0x40 % 0x40) :: (0x80 + code % 0x40) :: rest)
        = decodeFrom (some ⟨3, code / 0x40000, _, _⟩) ((0x80 + code / 0x1000 % 0x40) ::
            (0x80 + code / 0x40 % 0x40) :: (0x80 + code % 0x40) :: rest) :=
          decodeFrom_of_open (startOf_four (by omega)) _
      _ = decodeFrom (some ⟨2, code / 0x1000, 0x80, 0xBF⟩)
            ((0x80 + code / 0x40 % 0x40) :: (0x80 + code % 0x40) :: rest) :=
          decodeFrom_next (by split <;> omega) (by split <;> omega) (by omega) _
      _ = decodeFrom (some ⟨1, code / 0x40, 0x80, 0xBF⟩) ((0x80 + code % 0x40) :: rest) :=
          decodeFrom_next (by omega) (by omega) (by omega) _
      _ = Char.ofNat code :: decodeFrom none rest :=
          decodeFrom_last (by omega) (by omega) (by omega) rest
      _ = c :: decodeFrom none rest := by rw [hself]

/-- The bytes of a text are read as the text. -/
theorem decodeUtf8_flatMap_utf8Bytes (text : List Char) :
    decodeUtf8 (text.flatMap utf8Bytes) = text := by
  rw [decodeUtf8]
  induction text with
  | nil => rfl
  | cons c text ih => rw [List.flatMap_cons, decodeFrom_utf8Bytes, ih]

end Phrasebook.Text
