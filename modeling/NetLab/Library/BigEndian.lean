import Mathlib.Data.List.Basic
import Mathlib.Tactic.Ring

/-!
# Big-endian fields

Numbers of a fixed width inside a sequence of bytes, most significant byte first.
`fieldAt_append` reads back a field at the position where it was written.
-/

namespace NetLab.Library

/-- The low bytes of a number, most significant first. -/
def bigEndian : (width value : Nat) → List UInt8
  | 0, _ => []
  | width + 1, value => UInt8.ofNat (value / 256 ^ width) :: bigEndian width value

/-- The number that bytes spell. -/
def bigEndianValue (bytes : List UInt8) : Nat :=
  bytes.foldl (fun value byte => 256 * value + byte.toNat) 0

/-- The number that bytes spell in two's complement. -/
def signedValue (bytes : List UInt8) : Int :=
  if 128 ≤ (bytes.headD 0).toNat then bigEndianValue bytes - 256 ^ bytes.length
  else bigEndianValue bytes

/-- Number of bits that a number needs. -/
def bitLength (value : Nat) : Nat := if value = 0 then 0 else value.log2 + 1

def fieldAt (width : Nat) (bytes : List UInt8) (position : Nat) : Option Nat :=
  let field := (bytes.drop position).take width
  if field.length = width then some (bigEndianValue field) else none

variable (width value : Nat)

theorem bigEndian_one : bigEndian 1 value = [UInt8.ofNat value] := by
  simp [bigEndian]

@[simp] theorem length_bigEndian : (bigEndian width value).length = width := by
  induction width with
  | zero => rfl
  | succ width ih => rw [bigEndian, List.length_cons, ih]

theorem foldl_bigEndian (start : Nat) :
    (bigEndian width value).foldl (fun value byte => 256 * value + byte.toNat) start =
      256 ^ width * start + value % 256 ^ width := by
  induction width generalizing start with
  | zero => simp [bigEndian, Nat.mod_one]
  | succ width ih =>
    have split : value % 256 ^ (width + 1) =
        value % 256 ^ width + 256 ^ width * (value / 256 ^ width % 256) := by
      rw [Nat.pow_succ, Nat.mod_mul]
    have byte : (UInt8.ofNat (value / 256 ^ width)).toNat = value / 256 ^ width % 256 :=
      UInt8.toNat_ofNat'
    rw [bigEndian, List.foldl_cons, ih, split, byte, Nat.pow_succ]
    ring

/-- A number is spelled by its bytes, as far as they are wide enough. -/
theorem bigEndianValue_bigEndian :
    bigEndianValue (bigEndian width value) = value % 256 ^ width := by
  unfold bigEndianValue
  rw [foldl_bigEndian, Nat.mul_zero, Nat.zero_add]

theorem lt_two_pow_bitLength : value < 2 ^ bitLength value := by
  unfold bitLength
  split
  case isTrue zero => simp [zero]
  case isFalse nonzero => exact Nat.lt_log2_self

theorem bitLength_le {value bits : Nat} (small : value < 2 ^ bits) : bitLength value ≤ bits := by
  unfold bitLength
  split
  case isTrue => exact Nat.zero_le bits
  case isFalse nonzero => exact Nat.succ_le_of_lt ((Nat.log2_lt nonzero).mpr small)

/-- As many bytes as hold the bits hold the number. -/
theorem lt_pow_of_bitLength {value width : Nat} (wide : bitLength value ≤ 8 * width) :
    value < 256 ^ width :=
  calc value < 2 ^ bitLength value := lt_two_pow_bitLength value
    _ ≤ 2 ^ (8 * width) := Nat.pow_le_pow_right (by decide) wide
    _ = 256 ^ width := by rw [Nat.pow_mul]

/-- With a bit to spare a number is its own two's complement. -/
theorem signedValue_bigEndian {value width : Nat} (wide : bitLength value < 8 * width) :
    signedValue (bigEndian width value) = value := by
  cases width with
  | zero => exact absurd wide (Nat.not_lt_zero _)
  | succ width =>
    have fits : value < 256 ^ (width + 1) := lt_pow_of_bitLength wide.le
    have half : value < 128 * 256 ^ width :=
      calc value < 2 ^ bitLength value := lt_two_pow_bitLength value
        _ ≤ 2 ^ (8 * width + 7) := Nat.pow_le_pow_right (by decide) (by omega)
        _ = 128 * 256 ^ width := by rw [Nat.pow_add, Nat.pow_mul, Nat.mul_comm]
    have top : (UInt8.ofNat (value / 256 ^ width)).toNat < 128 := by
      have small : value / 256 ^ width < 128 :=
        Nat.div_lt_of_lt_mul (by rw [Nat.mul_comm]; exact half)
      rw [UInt8.toNat_ofNat']
      exact lt_of_le_of_lt (Nat.mod_le _ _) small
    unfold signedValue
    rw [bigEndianValue_bigEndian, Nat.mod_eq_of_lt fits, bigEndian, List.headD_cons,
      if_neg (not_le.mpr top)]

/-- A field is read back at the position where it was written. -/
theorem fieldAt_append (front rest : List UInt8) {width value : Nat} (fits : value < 256 ^ width) :
    fieldAt width (front ++ (bigEndian width value ++ rest)) front.length = some value := by
  unfold fieldAt
  have field : ((front ++ (bigEndian width value ++ rest)).drop front.length).take width =
      bigEndian width value := by
    rw [List.drop_left]
    exact List.take_left' (length_bigEndian width value)
  dsimp only
  rw [field, if_pos (length_bigEndian width value), bigEndianValue_bigEndian,
    Nat.mod_eq_of_lt fits]

end NetLab.Library
