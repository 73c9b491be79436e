import NetLab.Library.Blanks
import NetLab.Library.DottedText

/-!
# Integers in texts

How a scripting language writes an integer, and what it reads as one: digits of any script with single
underscores between them, a sign before and blanks around them.
-/

namespace NetLab.Library

open List

/-- Characters that are digits, the plain ones among them. -/
structure Digits where
  value : Char → Option Nat
  plain : ∀ char, char.isDigit = true → value char = some (char.toNat - '0'.toNat)

def plainDigits : Digits where
  value char := if char.isDigit then some (char.toNat - '0'.toNat) else none
  plain _ digit := if_pos digit

/-- Most digits that are read. -/
def mostDigits : Nat := 4300

def writeInt (number : Int) : List Char :=
  if number < 0 then '-' :: numeral number.natAbs else numeral number.natAbs

section Reading

variable (digits : Digits)

/-- The number that digits stand for, if there are not too many. -/
def readDigits (text : List Char) : Option Nat :=
  let groups := text.splitOn '_'
  if (groups.all fun group => group ≠ [] && group.all fun char => (digits.value char).isSome) &&
      groups.flatten.length ≤ mostDigits then
    some (groups.flatten.foldl (fun value char => 10 * value + (digits.value char).getD 0) 0)
  else none

/-- `int()` of a text. -/
def readInt (text : List Char) : Option Int :=
  match ((text.dropWhile isSpace).reverse.dropWhile isSpace).reverse with
  | '-' :: body => (readDigits digits body).map fun value : Nat => -(value : Int)
  | '+' :: body => (readDigits digits body).map Int.ofNat
  | body => (readDigits digits body).map Int.ofNat

end Reading

/-! ## Reading what is written -/

theorem strip_of_solid {text : List Char} (solid : ∀ char ∈ text, isSpace char = false) :
    ((text.dropWhile isSpace).reverse.dropWhile isSpace).reverse = text := by
  have keeps : ∀ {text : List Char}, (∀ char ∈ text, isSpace char = false) →
      text.dropWhile isSpace = text := by
    intro text solid
    cases text with
    | nil => rfl
    | cons first rest => exact dropWhile_cons_of_neg (by simp [solid first mem_cons_self])
  rw [keeps solid, keeps fun char inside => solid char (mem_reverse.mp inside),
    reverse_reverse]

theorem isSpace_of_isDigit {char : Char} (digit : char.isDigit = true) : isSpace char = false := by
  have range : 48 ≤ char.toNat ∧ char.toNat ≤ 57 := Char.isDigit_iff_toNat.mp digit
  unfold isSpace
  simp only [Bool.or_eq_false_iff, Bool.and_eq_false_iff, beq_eq_false_iff_ne,
    decide_eq_false_iff_not]
  omega

variable {digits : Digits}

theorem readDigits_numeral {number : Nat} (short : (numeral number).length ≤ mostDigits) :
    readDigits digits (numeral number) = some number := by
  have whole : (numeral number).splitOn '_' = [numeral number] :=
    splitOn_eq_singleton fun inside => absurd (isDigit_of_mem_numeral inside) (by decide)
  have known : ∀ char ∈ numeral number,
      digits.value char = some (char.toNat - '0'.toNat) := fun char inside =>
    digits.plain char (isDigit_of_mem_numeral inside)
  have legal : ((numeral number).all fun char => (digits.value char).isSome) = true :=
    all_eq_true.mpr fun char inside => by rw [known char inside]; rfl
  have same : (numeral number).foldl
      (fun value char => 10 * value + (digits.value char).getD 0) 0 = number := by
    conv_rhs => rw [← numeralValue_numeral number, numeralValue, Nat.ofDigitChars_eq_foldl]
    refine foldl_ext _ _ _ fun value char inside => ?_
    rw [known char inside]
    rfl
  unfold readDigits
  simp [whole, numeral_ne_nil, legal, short, same]

/-- An integer is read back from its text. -/
theorem readInt_writeInt {number : Int} (short : (numeral number.natAbs).length ≤ mostDigits) :
    readInt digits (writeInt number) = some number := by
  have solid : ∀ char ∈ numeral number.natAbs, isSpace char = false := fun char inside =>
    isSpace_of_isDigit (isDigit_of_mem_numeral inside)
  by_cases negative : number < 0
  · have text : writeInt number = '-' :: numeral number.natAbs := if_pos negative
    have visible : ∀ char ∈ '-' :: numeral number.natAbs, isSpace char = false := by
      intro char inside
      rcases mem_cons.mp inside with rfl | later
      · decide
      · exact solid char later
    rw [readInt, text, strip_of_solid visible]
    change (readDigits digits (numeral number.natAbs)).map (fun value : Nat => -(value : Int)) = _
    rw [readDigits_numeral short, Option.map_some]
    congr 1
    omega
  · have text : writeInt number = numeral number.natAbs := if_neg negative
    have same : (number.natAbs : Int) = number := by omega
    rw [readInt, text, strip_of_solid solid]
    split
    · rename_i body minus
      have inside : '-' ∈ numeral number.natAbs := minus ▸ mem_cons_self
      exact absurd (isDigit_of_mem_numeral inside) (by decide)
    · rename_i body plus
      have inside : '+' ∈ numeral number.natAbs := plus ▸ mem_cons_self
      exact absurd (isDigit_of_mem_numeral inside) (by decide)
    · rw [readDigits_numeral short, Option.map_some]
      exact congrArg some same

end NetLab.Library
