import Mathlib.Data.List.Basic

/-!
# Texts as bytes

The encoding of a text, and a decoder that puts a replacement character where bytes encode nothing.
-/

namespace NetLab.Library.Utf8

open List

/-- The bytes of a text. -/
def encode (text : String) : List UInt8 := text.toList.flatMap String.utf8EncodeChar

/-- What may follow a first byte: the range of the second byte, and how many bytes follow. -/
def following (first : UInt8) : Option (UInt8 × UInt8 × Nat) :=
  if 0xc2 ≤ first ∧ first ≤ 0xdf then some (0x80, 0xbf, 1)
  else if first = 0xe0 then some (0xa0, 0xbf, 2)
  else if first = 0xed then some (0x80, 0x9f, 2)
  else if 0xe1 ≤ first ∧ first ≤ 0xef then some (0x80, 0xbf, 2)
  else if first = 0xf0 then some (0x90, 0xbf, 3)
  else if 0xf1 ≤ first ∧ first ≤ 0xf3 then some (0x80, 0xbf, 3)
  else if first = 0xf4 then some (0x80, 0x8f, 3)
  else none

/-- How many bytes one replacement character stands for: the first one and those that continue it,
although they do not complete a character. -/
def invalidLength : List UInt8 → Nat
  | [] => 0
  | first :: rest =>
    match following first, rest with
    | some (least, most, count), second :: later =>
      if least ≤ second ∧ second ≤ most then
        2 + ((later.take (count - 1)).takeWhile fun byte => 0x80 ≤ byte && byte ≤ 0xbf).length
      else 1
    | _, _ => 1

def decodeFrom : (steps : Nat) → List UInt8 → List Char
  | 0, _ => []
  | _ + 1, [] => []
  | steps + 1, first :: rest =>
    match ByteArray.utf8DecodeChar? (first :: rest).toByteArray 0 with
    | some char => char :: decodeFrom steps ((first :: rest).drop char.utf8Size)
    | none => '\ufffd' :: decodeFrom steps ((first :: rest).drop (invalidLength (first :: rest)))

/-- The text of some bytes, in which replacement characters stand for what is not valid. -/
def decode (bytes : List UInt8) : String := String.ofList (decodeFrom bytes.length bytes)

theorem length_le_encode (chars : List Char) :
    chars.length ≤ (chars.flatMap String.utf8EncodeChar).length := by
  induction chars with
  | nil => exact Nat.le_refl 0
  | cons char rest ih =>
    have size := String.length_utf8EncodeChar char
    have positive := char.utf8Size_pos
    rw [flatMap_cons, length_append, length_cons]
    omega

/-- Characters are read back from their bytes. -/
theorem decodeFrom_encode (chars : List Char) {steps : Nat} (enough : chars.length ≤ steps) :
    decodeFrom steps (chars.flatMap String.utf8EncodeChar) = chars := by
  induction chars generalizing steps with
  | nil => cases steps <;> rfl
  | cons char rest ih =>
    obtain ⟨steps, rfl⟩ : ∃ fewer, steps = fewer + 1 :=
      Nat.exists_eq_add_one.mpr (Nat.lt_of_lt_of_le (Nat.succ_pos _) enough)
    have read : ByteArray.utf8DecodeChar?
        (String.utf8EncodeChar char ++ rest.flatMap String.utf8EncodeChar).toByteArray 0 =
          some char := by
      rw [toByteArray_append]
      exact ByteArray.utf8DecodeChar?_utf8EncodeChar_append
    have size := String.length_utf8EncodeChar char
    rw [flatMap_cons]
    cases bytes : String.utf8EncodeChar char ++ rest.flatMap String.utf8EncodeChar with
    | nil =>
      have none := congrArg List.length bytes
      have positive := char.utf8Size_pos
      rw [length_append, size, length_nil] at none
      omega
    | cons first later =>
      rw [bytes] at read
      rw [decodeFrom, read, ← bytes]
      dsimp only
      rw [← size, drop_left, ih (Nat.le_of_succ_le_succ enough)]

/-- A text is read back from its bytes. -/
@[simp] theorem decode_encode (text : String) : decode (encode text) = text := by
  rw [decode, encode, decodeFrom_encode _ (length_le_encode _), String.ofList_toList]

/-- Bytes stand for some characters, replacement characters among them. -/
theorem decode_ne_empty {bytes : List UInt8} (some_byte : bytes ≠ []) : decode bytes ≠ "" := by
  cases bytes with
  | nil => exact absurd rfl some_byte
  | cons first rest =>
    intro silent
    have none := congrArg String.toList silent
    rw [decode, String.toList_ofList, length_cons, decodeFrom] at none
    split at none <;> cases none

end NetLab.Library.Utf8
