import Mathlib.Data.List.Basic

/-!
# Dotted numerals

Texts made of fields between dots, as addresses and object identifiers are. Splitting
and joining are inverse to each other, and so are writing and reading a numeral.
-/

namespace NetLab.Library

open List

def dotFields (text : String) : List (List Char) := text.toList.splitOn '.'

def joinDots (fields : List (List Char)) : String := String.ofList (['.'].intercalate fields)

/-- Decimal spelling of a number. -/
def numeral (value : Nat) : List Char := Nat.toDigits 10 value

def isNumeral (field : List Char) : Bool := !field.isEmpty && field.all Char.isDigit

/-- The number that decimal digits spell. -/
def numeralValue (field : List Char) : Nat := Nat.ofDigitChars 10 field 0

/-- The text that spells some numbers. -/
def dotted (numbers : List Nat) : String := joinDots (numbers.map numeral)

@[simp] theorem numeralValue_numeral (value : Nat) : numeralValue (numeral value) = value :=
  Nat.ofDigitChars_ten_toDigits

theorem numeral_injective : Function.Injective numeral := fun left right same => by
  rw [← numeralValue_numeral left, same, numeralValue_numeral]

theorem numeral_ne_nil (value : Nat) : numeral value ≠ [] := Nat.toDigits_ne_nil

theorem isDigit_of_mem_numeral {value : Nat} {char : Char} (member : char ∈ numeral value) :
    char.isDigit = true :=
  Nat.isDigit_of_mem_toDigits (by decide) (by decide) member

@[simp] theorem isNumeral_numeral (value : Nat) : isNumeral (numeral value) = true := by
  have digits : (numeral value).all Char.isDigit = true :=
    all_eq_true.mpr fun _ member => isDigit_of_mem_numeral member
  simp [isNumeral, numeral_ne_nil, digits]

theorem dot_notMem_of_isNumeral {field : List Char} (numeric : isNumeral field = true) :
    '.' ∉ field := by
  intro member
  have digits := (Bool.and_eq_true_iff.mp numeric).2
  have digit := all_eq_true.mp digits '.' member
  revert digit
  decide

@[simp] theorem joinDots_dotFields (text : String) : joinDots (dotFields text) = text := by
  unfold joinDots dotFields
  rw [intercalate_splitOn, String.ofList_toList]

theorem dotFields_joinDots {fields : List (List Char)} (dotless : ∀ field ∈ fields, '.' ∉ field)
    (nonempty : fields ≠ []) : dotFields (joinDots fields) = fields := by
  unfold joinDots dotFields
  rw [String.toList_ofList, splitOn_intercalate '.' dotless nonempty]

theorem dotFields_injective : Function.Injective dotFields := fun left right same => by
  rw [← joinDots_dotFields left, same, joinDots_dotFields]

theorem dotFields_append (first second : String) :
    dotFields (first ++ "." ++ second) = dotFields first ++ dotFields second := by
  unfold dotFields
  rw [String.toList_append, String.toList_append, append_assoc]
  exact splitOn_append_cons_self first.toList second.toList

theorem joinDots_append {first second : List (List Char)} (firstNonempty : first ≠ [])
    (secondNonempty : second ≠ []) :
    joinDots (first ++ second) = joinDots first ++ "." ++ joinDots second := by
  unfold joinDots
  rw [← String.toList_inj]
  simp only [String.toList_append, String.toList_ofList]
  induction first with
  | nil => exact absurd rfl firstNonempty
  | cons field first ih =>
    cases first with
    | nil =>
      rw [singleton_append, intercalate_cons_of_ne_nil secondNonempty, intercalate_singleton]
      rfl
    | cons next first =>
      have others := ih (cons_ne_nil next first)
      rw [cons_append, cons_append, intercalate_cons_cons,
        intercalate_cons_cons, ← cons_append, others]
      simp only [append_assoc]

/-- A text is another one, or has the other one and a dot at its front, if and only if its
fields begin with the fields of the other one. -/
theorem dotFields_prefix_iff (base text : String) :
    dotFields base <+: dotFields text ↔ text = base ∨ (base ++ ".").toList <+: text.toList := by
  constructor
  · rintro ⟨tail, shape⟩
    rcases eq_or_ne tail [] with rfl | more
    · rw [append_nil] at shape
      exact .inl (dotFields_injective shape).symm
    · have spelled := congrArg joinDots shape
      have fields : dotFields base ≠ [] := splitOn_ne_nil '.' base.toList
      rw [joinDots_append fields more, joinDots_dotFields, joinDots_dotFields] at spelled
      exact .inr ⟨(joinDots tail).toList, by rw [← String.toList_append, spelled]⟩
  · rintro (rfl | ⟨tail, shape⟩)
    · exact prefix_rfl
    · have spelled : base ++ "." ++ String.ofList tail = text := by
        rw [← String.toList_inj, String.toList_append, String.toList_ofList, shape]
      exact ⟨dotFields (String.ofList tail), by rw [← dotFields_append, spelled]⟩

theorem dotFields_dotted {numbers : List Nat} (nonempty : numbers ≠ []) :
    dotFields (dotted numbers) = numbers.map numeral := by
  refine dotFields_joinDots (fun field member => ?_) (by simpa using nonempty)
  obtain ⟨value, -, rfl⟩ := mem_map.mp member
  exact dot_notMem_of_isNumeral (isNumeral_numeral value)

/-- Numbers are told apart by the texts that spell them. -/
theorem dotted_inj {left right : List Nat} (leftNonempty : left ≠ []) (rightNonempty : right ≠ []) :
    dotted left = dotted right ↔ left = right := by
  refine ⟨fun same => ?_, congrArg dotted⟩
  have fields := congrArg dotFields same
  rw [dotFields_dotted leftNonempty, dotFields_dotted rightNonempty] at fields
  exact map_injective_iff.mpr numeral_injective fields

end NetLab.Library
