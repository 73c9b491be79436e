import NetLab.Library.DottedText
import NetLab.Network.Filter
import Mathlib

/-!
# Reading dotted addresses

Splitting a text at its dots is a well-founded recursion, which does not evaluate in a
proof. `dottedFields` is the same recursion with fuel; `ipToInt_of_fields` gives the value
of an address whose fields it has split.
-/

namespace NetLab.Network

open NetLab.Library List

/-- The fields of a text between its dots: `fields` are those before `first`, in reverse,
and the field from there on has no dot before `here`. -/
def dottedFields (text : String) :
    (fuel : Nat) → (first here : String.Pos.Raw) → (fields : List String) → Option (List String)
  | 0, _, _, _ => none
  | fuel + 1, first, here, fields =>
    if here.atEnd text then some (first.extract text here :: fields).reverse
    else if here.get text == (0 : String.Pos.Raw).get "." then
      let after := here.next text
      dottedFields text fuel after after
        (first.extract text (after.unoffsetBy ((0 : String.Pos.Raw).next ".")) :: fields)
    else dottedFields text fuel first ((here.unoffsetBy 0).next text) fields

theorem splitOnAux_of_dottedFields {text : String} {fuel : Nat} {first here : String.Pos.Raw}
    {fields result : List String} (split : dottedFields text fuel first here fields = some result) :
    text.splitOnAux "." first here 0 fields = result := by
  induction fuel generalizing first here fields with
  | zero => cases split
  | succ fuel ih =>
    rw [String.splitOnAux]
    unfold dottedFields at split
    split at split
    case isTrue done =>
        rw [if_pos done]
        exact Option.some.inj split
    case isFalse more =>
        rw [if_neg more]
        have single : ((0 : String.Pos.Raw).next ".").atEnd "." = true := by decide +kernel
        split at split
        case isTrue dot =>
            rw [if_pos dot]
            dsimp only
            rw [if_pos single]
            exact ih split
        case isFalse other =>
            rw [if_neg other]
            exact ih split

theorem ipToInt_of_fields {address : String} {a b c d : Nat} (fuel : Nat)
    (split : dottedFields address fuel 0 0 [] = some [a.repr, b.repr, c.repr, d.repr]) :
    ipToInt address = some ((a <<< 24) ||| (b <<< 16) ||| (c <<< 8) ||| d) := by
  have fields : address.splitOn "." = [a.repr, b.repr, c.repr, d.repr] := by
    unfold String.splitOn
    rw [if_neg (by decide)]
    exact splitOnAux_of_dottedFields split
  unfold ipToInt
  rw [fields]
  simp

example : ipToInt "10.0.2.1" = some 0x0a000201 :=
  ipToInt_of_fields (a := 10) (b := 0) (c := 2) (d := 1) 9 (by decide +kernel)

open String in
/-- Splitting at the dots from a place inside the text: `before` is split already, and the
field under the place begins with `field`. -/
theorem splitOnAux_dot (before field rest : List Char) (fields : List String) :
    splitOnAux (ofList (before ++ field ++ rest)) "." ⟨utf8Len before⟩
        ⟨utf8Len before + utf8Len field⟩ 0 fields =
      fields.reverse ++ (List.splitOnPPrepend (· == '.') rest field.reverse).map ofList := by
  have single : ((0 : String.Pos.Raw).next ".").atEnd "." = true := by decide +kernel
  have dot : (0 : String.Pos.Raw).get "." = '.' := by decide +kernel
  induction rest generalizing before field fields with
  | nil =>
    have atEnd := (atEnd_of_valid (before ++ field) []).mpr rfl
    rw [utf8Len_append] at atEnd
    rw [splitOnAux, if_pos atEnd]
    dsimp only
    rw [extract_of_valid before field []]
    simp
  | cons char rest ih =>
    have notEnd : ¬ Pos.Raw.atEnd (ofList (before ++ field ++ char :: rest))
        ⟨utf8Len before + utf8Len field⟩ := by
      have valid := atEnd_of_valid (before ++ field) (char :: rest)
      rw [utf8Len_append] at valid
      exact fun atEnd => cons_ne_nil _ _ (valid.mp atEnd)
    have here := get_of_valid (before ++ field) (char :: rest)
    have next := next_of_valid (before ++ field) char rest
    have read := extract_of_valid before field (char :: rest)
    rw [utf8Len_append] at here next
    rw [splitOnAux, if_neg notEnd, here, dot, headD_cons, splitOnPPrepend_cons_eq_if]
    cases isDot : char == '.' with
    | true =>
      obtain rfl := eq_of_beq isDot
      have unoffset : (⟨utf8Len before + utf8Len field + Char.utf8Size '.'⟩ :
          Pos.Raw).unoffsetBy ((0 : Pos.Raw).next ".") = ⟨utf8Len before + utf8Len field⟩ := by
        have width : (0 : Pos.Raw).next "." = ⟨Char.utf8Size '.'⟩ := by decide +kernel
        rw [width]
        exact congrArg Pos.Raw.mk (Nat.add_sub_cancel ..)
      have later := ih (before ++ field ++ ['.']) [] (ofList field :: fields)
      have shape : before ++ field ++ ['.'] ++ [] ++ rest = before ++ field ++ '.' :: rest := by
        simp
      rw [shape] at later
      simp only [utf8Len_append, utf8Len_cons, utf8Len_nil, Nat.zero_add, Nat.add_zero,
        reverse_cons, reverse_nil] at later
      rw [if_pos rfl, if_pos rfl, next, if_pos single, unoffset, read, later]
      simp
    | false =>
      have later := ih before (field ++ [char]) fields
      have shape : before ++ (field ++ [char]) ++ rest = before ++ field ++ char :: rest := by
        simp
      rw [shape] at later
      simp only [utf8Len_append, utf8Len_cons, utf8Len_nil, Nat.zero_add,
        reverse_append, reverse_singleton, singleton_append] at later
      rw [if_neg (by simp), if_neg (by simp), ← later, ← Nat.add_assoc, ← next]
      rfl

theorem splitOn_dot (text : String) : text.splitOn "." = (dotFields text).map String.ofList := by
  unfold String.splitOn dotFields
  rw [if_neg (by decide)]
  have split := splitOnAux_dot [] [] text.toList []
  simpa [splitOn_eq_splitOnP] using split

/-- Reading the fields of the text that spells some numbers. -/
theorem mapM_toNat?_dotted {numbers : List Nat} (nonempty : numbers ≠ []) :
    ((dotted numbers).splitOn ".").mapM String.toNat? = some numbers := by
  have read : ∀ numbers : List Nat,
      (numbers.map fun value => String.ofList (numeral value)).mapM String.toNat? =
        some numbers := by
    intro numbers
    induction numbers with
    | nil => rfl
    | cons value rest ih =>
      have spelled : String.toNat? (String.ofList (numeral value)) = some value :=
        Nat.toNat?_repr value
      rw [map_cons, mapM_cons, spelled, ih]
      rfl
  rw [splitOn_dot, dotFields_dotted nonempty, map_map]
  exact read numbers

/-- The value of an address that is spelled by its fields. -/
theorem ipToInt_dotted (a b c d : Nat) :
    ipToInt (dotted [a, b, c, d]) = some ((a <<< 24) ||| (b <<< 16) ||| (c <<< 8) ||| d) := by
  unfold ipToInt
  rw [mapM_toNat?_dotted (cons_ne_nil _ _)]

theorem join_octets {address : Nat} (small : address < 2 ^ 32) :
    ((address >>> 24 &&& 0xff) <<< 24) ||| ((address >>> 16 &&& 0xff) <<< 16) |||
      ((address >>> 8 &&& 0xff) <<< 8) ||| (address >>> 0 &&& 0xff) = address := by
  refine Nat.eq_of_testBit_eq fun position => ?_
  have octet : ∀ bit, (0xff : Nat).testBit bit = decide (bit < 8) :=
    fun bit => Nat.testBit_two_pow_sub_one 8 bit
  have beyond : 32 ≤ position → address.testBit position = false := fun high =>
    Nat.testBit_lt_two_pow (small.trans_le (Nat.pow_le_pow_right (by decide) high))
  have back : ∀ shift ≤ position, shift + (position - shift) = position :=
    fun _ => Nat.add_sub_of_le
  simp only [Nat.testBit_or, Nat.testBit_shiftLeft, Nat.testBit_and, Nat.testBit_shiftRight, octet]
  grind

end NetLab.Network
