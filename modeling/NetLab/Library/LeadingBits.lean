import Mathlib.Algebra.Order.Ring.Nat
import Mathlib.Data.Nat.Bitwise

/-!
# Leading bits of a word

The leading bits of a number of a given width, and the masks that keep them. Numbers agree on a
number of leading bits if and only if they are equal under the mask of that length, and a longer
agreement contains every shorter one.
-/

namespace NetLab.Library

open Nat

/-- The number that the first `length` bits of a word form. -/
def leadingBits (width length value : Nat) : Nat := value % 2 ^ width / 2 ^ (width - length)

/-- The mask that keeps the first `length` bits of a word. -/
def leadingMask (width length : Nat) : Nat :=
  ((2 ^ width - 1) <<< (width - length)) &&& (2 ^ width - 1)

section LeadingBits

variable {width length shorter value other : Nat}

theorem testBit_leadingMask (position : Nat) : (leadingMask width length).testBit position =
    decide (width - length ≤ position ∧ position < width) := by
  simp only [leadingMask, testBit_and, testBit_shiftLeft, testBit_two_pow_sub_one]
  by_cases low : width - length ≤ position
  · simp only [ge_iff_le, low, decide_true, Bool.true_and, true_and]
    by_cases inside : position < width
    · have within : position - (width - length) < width := by omega
      simp [inside, within]
    · simp [inside]
  · simp [low]

theorem leadingBits_eq_iff : leadingBits width length value = leadingBits width length other ↔
    ∀ position, width - length ≤ position → position < width →
      value.testBit position = other.testBit position := by
  constructor
  · intro same position low high
    have bit := congrArg (fun bits => bits.testBit (position - (width - length))) same
    simp only [leadingBits, testBit_div_two_pow, testBit_mod_two_pow] at bit
    have back : position - (width - length) + (width - length) = position := by omega
    simpa [back, high] using bit
  · intro bits
    apply eq_of_testBit_eq
    intro position
    simp only [leadingBits, testBit_div_two_pow, testBit_mod_two_pow]
    by_cases high : position + (width - length) < width
    · simp [high, bits _ (le_add_left _ _) high]
    · simp [high]

theorem and_leadingMask_eq_iff :
    value &&& leadingMask width length = other &&& leadingMask width length ↔
      leadingBits width length value = leadingBits width length other := by
  rw [leadingBits_eq_iff]
  constructor
  · intro same position low high
    have bit := congrArg (fun masked => masked.testBit position) same
    simpa [testBit_and, testBit_leadingMask, low, high] using bit
  · intro bits
    apply eq_of_testBit_eq
    intro position
    simp only [testBit_and, testBit_leadingMask]
    by_cases within : width - length ≤ position ∧ position < width
    · rw [bits position within.1 within.2]
    · rw [decide_eq_false within, Bool.and_false, Bool.and_false]

end LeadingBits

end NetLab.Library
