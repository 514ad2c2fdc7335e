import Mathlib
import Phrasebook.Proofs.Text.Utf8
import Phrasebook.Service.Path
import Phrasebook.Text.Quoted

/-!
# What a path writes

Every text can be written in a path: a character as itself, unless it has a meaning of its own
there, and any byte as a percent sign and two hexadecimal digits.  However an id is written behind
the path of the intents, the path leads to that id, unless there is a slash in it; then it leads to
no intent at all.
-/

namespace Phrasebook.Service

open Text

/-- A part of a path and the bytes that it writes.  Percent signs, and what would begin a query or a
fragment, are written by their bytes; any other character may be, and stands for itself if not. -/
inductive Spells : List Char → List Nat → Prop
  | nil : Spells [] []
  | plain {c : Char} {rest : List Char} {bytes : List Nat} : c ≠ '%' → c ≠ '?' → c ≠ '#' →
      Spells rest bytes → Spells (c :: rest) (utf8Bytes c ++ bytes)
  | escaped {high low : Char} {first second : Nat} {rest : List Char} {bytes : List Nat} :
      JsonText.hexValue? high = some first → JsonText.hexValue? low = some second →
      Spells rest bytes → Spells ('%' :: high :: low :: rest) ((first * 16 + second) :: bytes)

/-- A text as it is written in a path, in one of the ways. -/
def IsEncoded (text written : List Char) : Prop := Spells written (text.flatMap utf8Bytes)

/-! ## Reading -/

theorem pathBytes_cons {c : Char} (hc : c ≠ '%') (rest : List Char) :
    pathBytes (c :: rest) = utf8Bytes c ++ pathBytes rest := by
  match rest with
  | [] => rw [pathBytes, pathBytes, List.append_nil]
  | [d] => rw [pathBytes, pathBytes]
  | high :: low :: others => rw [pathBytes, if_neg hc]

namespace Spells

variable {written : List Char} {bytes : List Nat}

theorem pathBytes_eq (hspells : Spells written bytes) : pathBytes written = bytes := by
  induction hspells with
  | nil => rfl
  | plain hpercent _ _ _ ih => rw [pathBytes_cons hpercent, ih]
  | escaped hhigh hlow _ ih => rw [pathBytes, if_pos rfl, hhigh, hlow, ih]

/-- No query and no fragment begins in it. -/
theorem forall_mem (hspells : Spells written bytes) :
    ∀ c ∈ written, (c != '?' && c != '#') = true := by
  have hdigit : ∀ {c value}, JsonText.hexValue? c = some value →
      (c != '?' && c != '#') = true := by
    intro c value hvalue
    rw [Bool.and_eq_true, bne_iff_ne, bne_iff_ne]
    constructor <;> rintro rfl <;> cases hvalue
  induction hspells with
  | nil => nofun
  | plain _ hquery hfragment _ ih =>
      rw [List.forall_mem_cons]
      exact ⟨by simp [hquery, hfragment], ih⟩
  | escaped hhigh hlow _ ih =>
      rw [List.forall_mem_cons, List.forall_mem_cons, List.forall_mem_cons]
      exact ⟨rfl, hdigit hhigh, hdigit hlow, ih⟩

/-- Characters without a meaning of their own stand for themselves. -/
theorem behind (hspells : Spells written bytes) (text : List Char)
    (htext : text.all (fun c => c != '%' && c != '?' && c != '#') = true) :
    Spells (text ++ written) (text.flatMap utf8Bytes ++ bytes) := by
  induction text with
  | nil => exact hspells
  | cons c text ih =>
      simp only [List.all_cons, Bool.and_eq_true, bne_iff_ne] at htext
      obtain ⟨⟨⟨hpercent, hquery⟩, hfragment⟩, htext⟩ := htext
      rw [List.flatMap_cons, List.append_assoc]
      exact .plain hpercent hquery hfragment (ih htext)

end Spells

theorem isEncoded_self {text : List Char}
    (htext : text.all (fun c => c != '%' && c != '?' && c != '#') = true) :
    IsEncoded text text := by
  have hspells := Spells.nil.behind text htext
  rwa [List.append_nil, List.append_nil] at hspells

/-- Behind the path of the intents an id is read as it was meant. -/
theorem decodedPath_of_isEncoded {id written : String}
    (hwritten : IsEncoded id.toList written.toList) :
    decodedPath ("/api/intents/" ++ written) = intentsPath ++ id.toList := by
  have hspells : Spells ("/api/intents/" ++ written).toList
      ((intentsPath ++ id.toList).flatMap utf8Bytes) := by
    rw [String.toList_append, List.flatMap_append]
    exact hwritten.behind intentsPath (by decide)
  rw [decodedPath, List.takeWhile_eq_self_iff.mpr hspells.forall_mem, hspells.pathBytes_eq,
    decodeUtf8_flatMap_utf8Bytes]

/-! ## Writing -/

theorem hexValue?_hexDigit : ∀ value < 16, JsonText.hexValue? (hexDigit value) = some value := by
  decide

theorem lt_of_mem_utf8Bytes {c : Char} {byte : Nat} (hbyte : byte ∈ utf8Bytes c) : byte < 256 := by
  have hvalid := toNat_of_char c
  rw [utf8Bytes] at hbyte
  generalize c.toNat = code at hvalid hbyte
  split_ifs at hbyte <;> simp only [List.mem_cons, List.not_mem_nil, or_false] at hbyte <;> omega

theorem spells_hexDigits {bytes : List Nat} (hbytes : ∀ byte ∈ bytes, byte < 256)
    {written : List Char} {others : List Nat} (hwritten : Spells written others) :
    Spells (bytes.flatMap (fun byte => '%' :: hexDigits 2 byte) ++ written) (bytes ++ others) := by
  induction bytes with
  | nil => exact hwritten
  | cons byte bytes ih =>
      obtain ⟨hbyte, hbytes⟩ := List.forall_mem_cons.mp hbytes
      have hvalue : byte / 16 % 16 * 16 + byte % 16 = byte := by omega
      have hdigit : ∀ value, JsonText.hexValue? (hexDigit (value % 16)) = some (value % 16) :=
        fun value => hexValue?_hexDigit _ (Nat.mod_lt value (by decide))
      have hescaped := Spells.escaped (hdigit (byte / 16)) (hdigit byte) (ih hbytes)
      rwa [hvalue] at hescaped

/-- All characters of a text may be written by their bytes. -/
theorem isEncoded_percentEncoded (text : List Char) :
    IsEncoded text (text.flatMap percentEncoded) := by
  rw [IsEncoded]
  induction text with
  | nil => exact .nil
  | cons c text ih => exact spells_hexDigits (fun _ => lt_of_mem_utf8Bytes) ih

/-! ## Intents -/

theorem find?_fixedEndpoints_of_intent (id : List Char) :
    (fixedEndpoints.find? fun entry => intentsPath ++ id == entry.1.toList ||
      intentsPath ++ id == entry.1.toList ++ ['\n']) = none := rfl

/-- Behind the path of the intents stands an id, which is not empty and has no slash. -/
theorem endpoint?_intentsPath {id : String} (hid : id ≠ "") :
    endpoint? (intentsPath ++ id.toList) = if '/' ∈ id.toList then none else some (.intent id) := by
  have hempty : id.toList.isEmpty = false := by simpa using hid
  rw [endpoint?]
  simp only [find?_fixedEndpoints_of_intent, List.drop_left, hempty, Bool.not_false, Bool.and_true]
  by_cases hslash : '/' ∈ id.toList <;> simp [hslash]

/-- No path leads to an intent with a slash in its id. -/
theorem not_mem_of_endpoint? {path : List Char} {id : String}
    (hpath : endpoint? path = some (.intent id)) : '/' ∉ id.toList := by
  unfold endpoint? at hpath
  dsimp only at hpath
  split at hpath
  · rename_i fixed endpoint hfixed
    have hmem := List.mem_of_find?_eq_some hfixed
    cases hpath
    simp [fixedEndpoints] at hmem
  · split at hpath
    · rename_i hpart
      cases hpath
      simpa using (Bool.and_eq_true_iff.mp hpart).2
    · cases hpath

end Phrasebook.Service
