import Mathlib.Data.Nat.Digits.Lemmas

/-!
# Base-128 numbers in a byte string

A number is written in groups of seven bits, the most significant group first, and every
byte but the last one has its high bit set. `readBase128_append` reads numbers back from
any position at which one was written.
-/

namespace NetLab.Library

open List Nat

/-- Seven-bit groups of a number, the most significant one first. -/
def septets (value : Nat) : List Nat := (Nat.digits 128 value).reverse

/-- A number in base 128, with a mark on every byte but the last. -/
def base128 (value : Nat) : List UInt8 :=
  if value = 0 then [0]
  else
    (septets value).dropLast.map (fun septet => UInt8.ofNat septet ||| 0x80) ++
      ((septets value).getLast?.map UInt8.ofNat).toList

/-- Read numbers in base 128; `value` is what the bytes before have begun. -/
def readBase128 (value : Nat) : List UInt8 → List Nat
  | [] => []
  | byte :: rest =>
    let next := (value <<< 7) ||| (byte &&& 0x7f).toNat
    if byte &&& 0x80 = 0 then next :: readBase128 0 rest else readBase128 next rest

variable {septet : Nat} (value : Nat)

/-- A seven-bit group below a number shifted by seven bits. -/
theorem shift_or_septet (small : septet < 128) :
    (value <<< 7) ||| septet = 128 * value + septet := by
  rw [← shiftLeft_add_eq_or_of_lt (i := 7) small, shiftLeft_eq, mul_comm]

theorem unmarked_septet (small : septet < 128) :
    (UInt8.ofNat septet &&& 0x7f).toNat = septet ∧ UInt8.ofNat septet &&& 0x80 = 0 := by
  have every : ∀ septet : Fin 128, (UInt8.ofNat septet.val &&& 0x7f).toNat = septet.val ∧
      UInt8.ofNat septet.val &&& 0x80 = 0 := by decide +kernel
  exact every ⟨septet, small⟩

theorem marked_septet (small : septet < 128) :
    ((UInt8.ofNat septet ||| 0x80) &&& 0x7f).toNat = septet ∧
      (UInt8.ofNat septet ||| 0x80) &&& 0x80 ≠ 0 := by
  have every : ∀ septet : Fin 128, ((UInt8.ofNat septet.val ||| 0x80) &&& 0x7f).toNat = septet.val ∧
      (UInt8.ofNat septet.val ||| 0x80) &&& 0x80 ≠ 0 := by decide +kernel
  exact every ⟨septet, small⟩

theorem readBase128_marked {groups : List Nat} (small : ∀ septet ∈ groups, septet < 128)
    (value : Nat) (rest : List UInt8) :
    readBase128 value (groups.map (fun septet => UInt8.ofNat septet ||| 0x80) ++ rest) =
      readBase128 (groups.foldl (fun value septet => 128 * value + septet) value) rest := by
  induction groups generalizing value with
  | nil => rfl
  | cons septet groups ih =>
    have fits := small septet mem_cons_self
    obtain ⟨group, marked⟩ := marked_septet fits
    rw [map_cons, cons_append, readBase128, group, if_neg marked,
      shift_or_septet value fits, foldl_cons]
    exact ih (fun other member => small other (mem_cons_of_mem _ member)) _

/-- A number is its groups. -/
theorem foldl_septets :
    (septets value).foldl (fun value septet => 128 * value + septet) 0 = value := by
  unfold septets
  rw [foldl_reverse]
  have folded : ∀ digits : List Nat,
      digits.foldr (fun septet value => 128 * value + septet) 0 = Nat.ofDigits 128 digits := by
    intro digits
    induction digits with
    | nil => rfl
    | cons digit digits ih => rw [foldr_cons, ih, ofDigits_cons, add_comm]
  rw [folded, ofDigits_digits]

theorem readBase128_append (rest : List UInt8) :
    readBase128 0 (base128 value ++ rest) = value :: readBase128 0 rest := by
  by_cases zero : value = 0
  · subst zero
    rfl
  · have nonempty : septets value ≠ [] := fun empty =>
      zero (digits_eq_nil_iff_eq_zero.mp (reverse_eq_nil_iff.mp empty))
    have small : ∀ septet ∈ septets value, septet < 128 := fun septet member =>
      digits_lt_base (by decide) (mem_reverse.mp member)
    have lastSmall := small _ (getLast_mem nonempty)
    obtain ⟨unmarked, last⟩ := unmarked_septet lastSmall
    have whole := foldl_septets value
    rw [← dropLast_append_getLast nonempty, foldl_append, foldl_cons, foldl_nil] at whole
    rw [base128, if_neg zero, getLast?_eq_some_getLast nonempty, Option.map_some,
      Option.toList_some, append_assoc,
      readBase128_marked fun septet member => small septet (mem_of_mem_dropLast member)]
    rw [singleton_append, readBase128, unmarked, if_pos last, shift_or_septet _ lastSmall, whole]

/-- Numbers written one behind the other are read back. -/
theorem readBase128_flatMap (values : List Nat) :
    readBase128 0 (values.flatMap base128) = values := by
  induction values with
  | nil => rfl
  | cons value values ih => rw [flatMap_cons, readBase128_append, ih]

end NetLab.Library
