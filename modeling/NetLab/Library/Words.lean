import NetLab.Library.Blanks
import Mathlib.Data.List.Infix

/-!
# Words of a line

Words without blanks are read back from a line that has a single blank between each two, and the stem
of such a line is the line of all words but the last.
-/

namespace NetLab.Library

open List

variable {list : List String}

def Solid (word : String) : Prop := word ≠ "" ∧ ∀ char ∈ word.toList, isSpace char = false

instance (word : String) : Decidable (Solid word) :=
  haveI : Decidable (∀ char ∈ word.toList, isSpace char = false) := List.decidableBAll _ _
  inferInstanceAs (Decidable (_ ∧ _))

/-- A line with a blank between each two words. -/
def unwords (list : List String) : String := " ".intercalate list

def stem (line : String) : String :=
  match line.toList.reverse.dropWhile fun char => char ≠ ' ' with
  | [] => line
  | _ :: front => String.ofList front.reverse

def Starts (start line : String) : Prop := start.toList <+: line.toList

instance (start line : String) : Decidable (Starts start line) :=
  inferInstanceAs (Decidable (start.toList <+: line.toList))

variable {word : String}

theorem unwords_cons {later : List String} (more : later ≠ []) :
    unwords (word :: later) = word ++ " " ++ unwords later :=
  String.intercalate_cons_of_ne_nil more

theorem unwords_snoc (more : list ≠ []) (word : String) :
    unwords (list ++ [word]) = unwords list ++ " " ++ word := by
  have last : unwords [word] = word := String.intercalate_singleton
  rw [unwords, String.intercalate_append_of_ne_nil more (by simp)]
  exact congrArg (unwords list ++ " " ++ ·) last

theorem unmarked_of_mem_splitOnP {Value : Type} {test : Value → Bool} {values piece : List Value}
    (inside : piece ∈ values.splitOnP test) : ∀ value ∈ piece, test value = false := by
  induction values generalizing piece with
  | nil =>
    rw [splitOnP_nil, mem_singleton] at inside
    rw [inside]
    exact nofun
  | cons first rest ih =>
    rw [splitOnP_cons_eq_if_modifyHead] at inside
    split at inside
    case isTrue =>
        rcases mem_cons.mp inside with rfl | later
        · exact nofun
        · exact ih later
    case isFalse unmarked =>
        cases split : rest.splitOnP test with
        | nil => exact absurd split (splitOnP_ne_nil _ _)
        | cons head tail =>
          rw [split, modifyHead_cons] at inside
          rcases mem_cons.mp inside with rfl | later
          · intro value here
            rcases mem_cons.mp here with rfl | behind
            · exact Bool.eq_false_iff.mpr unmarked
            · exact ih (split ▸ mem_cons_self) value behind
          · exact ih (split ▸ mem_cons_of_mem _ later)

theorem solid_of_mem_words {text : String} (inside : word ∈ words text) : Solid word := by
  obtain ⟨chars, kept, rfl⟩ := mem_map.mp inside
  obtain ⟨piece, filled⟩ := mem_filter.mp kept
  refine ⟨fun empty => ?_, fun char here => ?_⟩
  · have none : chars = [] := by simpa using congrArg String.toList empty
    rw [none] at filled
    simp at filled
  · rw [String.toList_ofList] at here
    exact unmarked_of_mem_splitOnP piece char here

theorem exists_mem_splitOnP {Value : Type} {test : Value → Bool} {values : List Value}
    {value : Value} (inside : value ∈ values) (unmarked : test value = false) :
    ∃ piece ∈ values.splitOnP test, piece ≠ [] := by
  induction values with
  | nil => cases inside
  | cons first rest ih =>
    rw [splitOnP_cons_eq_if_modifyHead]
    split
    case isTrue marked =>
        have later : value ∈ rest := by
          refine (mem_cons.mp inside).resolve_left fun same => ?_
          rw [same, marked] at unmarked
          cases unmarked
        obtain ⟨piece, found, filled⟩ := ih later
        exact ⟨piece, mem_cons_of_mem _ found, filled⟩
    case isFalse =>
        cases split : rest.splitOnP test with
        | nil => exact absurd split (splitOnP_ne_nil _ _)
        | cons head tail => exact ⟨first :: head, mem_cons_self, cons_ne_nil _ _⟩

theorem words_ne_nil {text : String} {char : Char} (inside : char ∈ text.toList)
    (visible : isSpace char = false) : words text ≠ [] := by
  obtain ⟨piece, found, filled⟩ := exists_mem_splitOnP inside visible
  have kept : piece ∈ (text.toList.splitOnP isSpace).filter fun word => word ≠ [] :=
    mem_filter.mpr ⟨found, decide_eq_true filled⟩
  exact ne_nil_of_mem (mem_map.mpr ⟨piece, kept, rfl⟩)

theorem words_append (solid : Solid word) (rest : String) :
    words (word ++ " " ++ rest) = word :: words rest := by
  have shape : (word ++ " " ++ rest).toList = word.toList ++ ' ' :: rest.toList := by simp
  have filled : word.toList ≠ [] := fun none => solid.1 (String.toList_eq_nil_iff.mp none)
  rw [words, shape, splitOnP_append_cons_of_forall_mem solid.2 ' ' (by decide),
    filter_cons_of_pos (by simpa using filled), map_cons, String.ofList_toList]
  rfl

theorem words_of_solid (solid : Solid word) : words word = [word] := by
  have filled : word.toList ≠ [] := fun none => solid.1 (String.toList_eq_nil_iff.mp none)
  rw [words, splitOnP_eq_singleton solid.2, filter_cons_of_pos (by simpa using filled)]
  simp

/-- The words of a line are read back. -/
theorem words_unwords (solid : ∀ word ∈ list, Solid word) : words (unwords list) = list := by
  induction list with
  | nil => rfl
  | cons word later ih =>
    have first := solid word mem_cons_self
    cases later with
    | nil => exact words_of_solid first
    | cons next rest =>
      rw [unwords_cons (cons_ne_nil next rest), words_append first,
        ih fun word inside => solid word (mem_cons_of_mem _ inside)]

theorem unwords_injective {left right : List String} (solid : ∀ word ∈ left, Solid word)
    (solid' : ∀ word ∈ right, Solid word) (same : unwords left = unwords right) : left = right := by
  rw [← words_unwords solid, same, words_unwords solid']

theorem stem_unwords (more : list ≠ []) (solid : Solid word) :
    stem (unwords (list ++ [word])) = unwords list := by
  have shape : (unwords (list ++ [word])).toList.reverse =
      word.toList.reverse ++ ' ' :: (unwords list).toList.reverse := by
    rw [unwords_snoc more]
    simp
  have skipped : ∀ char ∈ word.toList.reverse, decide (char ≠ ' ') = true := by
    intro char inside
    have visible := solid.2 char (mem_reverse.mp inside)
    refine decide_eq_true fun blank => ?_
    rw [blank] at visible
    exact absurd visible (by decide)
  unfold stem
  rw [shape, dropWhile_append_of_pos skipped,
    dropWhile_cons_of_neg (by decide)]
  dsimp only
  rw [reverse_reverse, String.ofList_toList]

/-- A line of words starts with every line of its first words. -/
theorem starts_unwords (more : list ≠ []) (later : List String) :
    Starts (unwords list) (unwords (list ++ later)) := by
  cases later with
  | nil => rw [append_nil]; exact prefix_rfl
  | cons word rest =>
    unfold Starts unwords
    rw [String.intercalate_append_of_ne_nil more (by simp), String.toList_append,
      String.toList_append, append_assoc]
    exact prefix_append ..

end NetLab.Library
