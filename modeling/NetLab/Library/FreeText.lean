import NetLab.Library.Words
import Mathlib.Data.List.DropRight
import Mathlib.Data.List.Flatten

/-!
# Free text in a line

Some words of a line are followed by text that is not split into words. The text after the first of
them is found from the left; its words are those of the line after that word.
-/

namespace NetLab.Library

open List

/-- What follows the first word with a property, without the blanks between them. The characters
before are those of a word that is not at its end yet. -/
def textAfter (test : String → Bool) (word : List Char) : List Char → Option (List Char)
  | [] => if word ≠ [] ∧ test (String.ofList word) then some [] else none
  | char :: rest =>
    if isSpace char then
      if word ≠ [] ∧ test (String.ofList word) then some (rest.dropWhile isSpace)
      else textAfter test [] rest
    else textAfter test (word ++ [char]) rest

/-- What follows the first word with a property in a line. -/
def freeText (test : String → Bool) (line : String) : Option String :=
  (textAfter test [] line.toList).map String.ofList

/-! ## Words and blanks -/

variable {word chars : List Char} {Value : Type} (text : String)

theorem words_of_blank (char : Char) (blank : isSpace char = true)
    (solid : ∀ char ∈ word, isSpace char = false) (rest : List Char) :
    words (String.ofList (word ++ char :: rest)) =
      (if word = [] then [] else [String.ofList word]) ++ words (String.ofList rest) := by
  rw [words, words, String.toList_ofList, String.toList_ofList,
    splitOnP_append_cons_of_forall_mem solid char blank]
  split
  · rename_i empty
    rw [empty, filter_cons_of_neg (by simp)]
    rfl
  · rename_i filled
    rw [filter_cons_of_pos (by simpa using filled)]
    rfl

theorem words_of_solid_chars (solid : ∀ char ∈ word, isSpace char = false) :
    words (String.ofList word) = if word = [] then [] else [String.ofList word] := by
  rw [words, String.toList_ofList, splitOnP_eq_singleton solid]
  split
  · rename_i empty
    rw [empty]
    rfl
  · rename_i filled
    rw [filter_cons_of_pos (by simpa using filled)]
    rfl

theorem words_dropWhile (chars : List Char) :
    words (String.ofList (chars.dropWhile isSpace)) = words (String.ofList chars) := by
  induction chars with
  | nil => rfl
  | cons char rest ih =>
    by_cases blank : isSpace char = true
    · rw [dropWhile_cons_of_pos blank, ih]
      exact (words_of_blank char blank (fun _ inside => absurd inside not_mem_nil) rest).symm
    · rw [dropWhile_cons_of_neg blank]

/-- Characters of the words of a text are those that are no blanks. -/
theorem flatten_splitOnP (test : Value → Bool) (values : List Value) :
    (values.splitOnP test).flatten = values.filter fun value => !test value := by
  induction values with
  | nil => rfl
  | cons first rest ih =>
    rw [splitOnP_cons_eq_if_modifyHead]
    split
    · rename_i marked
      rw [flatten_cons, ih, filter_cons_of_neg (by simp [marked])]
      rfl
    · rename_i unmarked
      rw [filter_cons_of_pos (by simp [unmarked]), ← ih]
      cases split : rest.splitOnP test with
      | nil => exact absurd split (splitOnP_ne_nil _ _)
      | cons head tail => rfl

theorem flatMap_words :
    (words text).flatMap String.toList = text.toList.filter fun char => !isSpace char := by
  rw [← flatten_splitOnP, words, flatMap_map]
  induction text.toList.splitOnP isSpace with
  | nil => rfl
  | cons piece pieces ih =>
    by_cases filled : piece = []
    · rw [filter_cons_of_neg (by simpa using filled), ih, filled]
      rfl
    · rw [filter_cons_of_pos (by simpa using filled), flatMap_cons, ih, String.toList_ofList]
      rfl

/-- A text that starts a line and has no blank at its start. -/
def Begun (chars : List Char) : Prop := ∀ char ∈ chars.head?, isSpace char = false

theorem begun_dropWhile (chars : List Char) : Begun (chars.dropWhile isSpace) := by
  intro char first
  exact Bool.eq_false_iff.mpr fun blank => by
    have := head?_dropWhile_not isSpace chars
    rw [first] at this
    simp [blank] at this

/-! ## Trimming -/

theorem toList_strip : (strip text).toList = (text.toList.dropWhile isSpace).rdropWhile isSpace :=
  String.toList_ofList

theorem dropWhile_of_begun (begun : Begun chars) : chars.dropWhile isSpace = chars := by
  cases chars with
  | nil => rfl
  | cons char rest => exact dropWhile_cons_of_neg (by simp [begun char rfl])

theorem toList_strip_of_begun {text : String} (begun : Begun text.toList) :
    (strip text).toList = text.toList.rdropWhile isSpace := by
  rw [toList_strip, dropWhile_of_begun begun]

theorem begun_of_prefix {front : List Char} (starts : front <+: chars) (begun : Begun chars) :
    Begun front := by
  obtain ⟨rest, rfl⟩ := starts
  cases front with
  | nil => exact nofun
  | cons char others => exact fun other first => begun other first

theorem begun_strip : Begun (strip text).toList := by
  rw [toList_strip]
  exact begun_of_prefix ( rdropWhile_prefix isSpace _) (begun_dropWhile _)

theorem strip_strip : strip (strip text) = strip text := by
  refine String.toList_injective ?_
  rw [toList_strip_of_begun (begun_strip text), toList_strip, rdropWhile_idempotent]

/-- Trimming the end stops in the part that is not blank. -/
theorem rdropWhile_append {test : Value → Bool} (front : List Value) {later : List Value}
    (visible : ∃ value ∈ later, test value = false) :
    (front ++ later).rdropWhile test = front ++ later.rdropWhile test := by
  have filled : ¬ (later.reverse.dropWhile test).isEmpty = true := by
    rw [List.isEmpty_iff, dropWhile_eq_nil_iff]
    obtain ⟨value, inside, unmarked⟩ := visible
    intro all
    rw [all value (mem_reverse.mpr inside)] at unmarked
    cases unmarked
  rw [List.rdropWhile, reverse_append, dropWhile_append, if_neg filled,
    reverse_append, reverse_reverse]
  rfl

theorem visible_of_begun (begun : Begun chars) (filled : chars ≠ []) :
    ∃ char ∈ chars, isSpace char = false := by
  cases chars with
  | nil => exact absurd rfl filled
  | cons char rest => exact ⟨char, mem_cons_self, begun char rfl⟩

/-- Trimming drops blanks only. -/
theorem mem_strip {text : String} (begun : Begun text.toList) {char : Char}
    (inside : char ∈ text.toList) (visible : isSpace char = false) :
    char ∈ (strip text).toList := by
  have whole : text.toList.rdropWhile isSpace ++ text.toList.rtakeWhile isSpace = text.toList :=
    rdropWhile_append_rtakeWhile
  rw [← whole] at inside
  rw [toList_strip_of_begun begun]
  refine (mem_append.mp inside).resolve_right fun dropped => ?_
  have blank := mem_rtakeWhile_imp dropped
  rw [visible] at blank
  cases blank

theorem prefix_rdropWhile {test : Value → Bool} {front chars : List Value} {last : Value}
    (visible : test last = false) (starts : front ++ [last] <+: chars) :
    front ++ [last] <+: chars.rdropWhile test := by
  obtain ⟨later, rfl⟩ := starts
  rw [append_assoc, rdropWhile_append front ⟨last, by simp, visible⟩]
  refine prefix_append_right_inj front |>.mpr ?_
  obtain ⟨rest, shape⟩ := rdropWhile_prefix test ([last] ++ later)
  cases kept : ([last] ++ later).rdropWhile test with
  | nil =>
    have blank := rdropWhile_eq_nil_iff.mp kept last (by simp)
    rw [visible] at blank
    cases blank
  | cons first others =>
    rw [kept] at shape
    have same : first = last := (List.cons.inj shape).1
    rw [same]
    exact prefix_append [last] others

theorem mem_unwords {list : List String} {char : Char} (inside : char ∈ (unwords list).toList) :
    char = ' ' ∨ ∃ word ∈ list, char ∈ word.toList := by
  induction list with
  | nil => cases inside
  | cons word later ih =>
    by_cases last : later = []
    · rw [last] at inside
      have single : unwords [word] = word := String.intercalate_singleton
      rw [single] at inside
      exact .inr ⟨word, mem_cons_self, inside⟩
    · rw [unwords_cons last, String.toList_append, String.toList_append] at inside
      rcases mem_append.mp inside with front | back
      · rcases mem_append.mp front with first | blank
        · exact .inr ⟨word, mem_cons_self, first⟩
        · exact .inl (mem_singleton.mp blank)
      · rcases ih back with blank | ⟨other, here, found⟩
        · exact .inl blank
        · exact .inr ⟨other, mem_cons_of_mem _ here, found⟩

/-! ## Where the text is -/

theorem textAfter_append {test : String → Bool} (before : List Char)
    (solid : ∀ char ∈ word, isSpace char = false) (rest : List Char) :
    textAfter test before (word ++ rest) = textAfter test (before ++ word) rest := by
  induction word generalizing before with
  | nil => rw [append_nil]; rfl
  | cons char later ih =>
    have visible : isSpace char = false := solid char mem_cons_self
    have next := ih (before ++ [char]) fun other inside =>
      solid other (mem_cons_of_mem _ inside)
    rw [cons_append, textAfter, if_neg (by simp [visible]), next, append_assoc]
    rfl

/-- What follows the first word of a line, if that has the property. -/
theorem freeText_of_first {test : String → Bool} {word text : String} (solid : Solid word)
    (marks : test word = true) (begun : Begun text.toList) :
    freeText test (word ++ " " ++ text) = some text := by
  have shape : (word ++ " " ++ text).toList = word.toList ++ ' ' :: text.toList := by simp
  have filled : word.toList ≠ [] := fun none => solid.1 (String.toList_eq_nil_iff.mp none)
  have marked : word.toList ≠ [] ∧ test (String.ofList word.toList) = true := by
    rw [String.ofList_toList]
    exact ⟨filled, marks⟩
  rw [freeText, shape, textAfter_append [] solid.2, nil_append, textAfter,
    if_pos (by decide), if_pos marked, dropWhile_of_begun begun, Option.map_some,
    String.ofList_toList]

theorem words_of_textAfter {test : String → Bool} {rest text : List Char}
    (solid : ∀ char ∈ word, isSpace char = false) (found : textAfter test word rest = some text) :
    Begun text ∧ ∃ front marked, test marked = true ∧
      words (String.ofList (word ++ rest)) = front ++ marked :: words (String.ofList text) := by
  induction rest generalizing word with
  | nil =>
    rw [textAfter] at found
    split at found
    · rename_i marks
      cases found
      refine ⟨nofun, [], String.ofList word, marks.2, ?_⟩
      rw [append_nil, words_of_solid_chars solid, if_neg marks.1]
      rfl
    · cases found
  | cons char rest ih =>
    rw [textAfter] at found
    split at found
    · rename_i blank
      rw [words_of_blank char blank solid]
      split at found
      · rename_i marks
        cases found
        refine ⟨begun_dropWhile rest, [], String.ofList word, marks.2, ?_⟩
        rw [if_neg marks.1, words_dropWhile]
        rfl
      · obtain ⟨begun, front, marked, marks, split⟩ :=
          ih (fun _ inside => absurd inside not_mem_nil) found
        refine ⟨begun, (if word = [] then [] else [String.ofList word]) ++ front, marked, marks, ?_⟩
        rw [append_assoc]
        exact congrArg _ split
    · rename_i visible
      have longer : ∀ other ∈ word ++ [char], isSpace other = false := by
        intro other inside
        rcases mem_append.mp inside with old | new
        · exact solid other old
        · rw [mem_singleton.mp new]
          exact Bool.eq_false_iff.mpr visible
      obtain ⟨begun, front, marked, marks, split⟩ := ih longer found
      refine ⟨begun, front, marked, marks, ?_⟩
      rw [← split, append_assoc]
      rfl

theorem suffix_of_textAfter {test : String → Bool} {rest text : List Char}
    (found : textAfter test word rest = some text) : text <:+ rest := by
  induction rest generalizing word with
  | nil =>
    rw [textAfter] at found
    split at found
    · cases found
      exact suffix_rfl
    · cases found
  | cons char rest ih =>
    rw [textAfter] at found
    split at found
    · split at found
      · cases found
        exact (dropWhile_suffix isSpace).trans (suffix_cons char rest)
      · exact (ih found).trans (suffix_cons char rest)
    · exact (ih found).trans (suffix_cons char rest)

section

variable {test : String → Bool} {line text : String} (found : freeText test line = some text)
include found

theorem suffix_of_freeText : text.toList <:+ line.toList := by
  obtain ⟨chars, after, rfl⟩ := Option.map_eq_some_iff.mp found
  rw [String.toList_ofList]
  exact suffix_of_textAfter after

theorem words_of_freeText :
    Begun text.toList ∧
      ∃ front marked, test marked = true ∧ words line = front ++ marked :: words text := by
  obtain ⟨chars, after, rfl⟩ := Option.map_eq_some_iff.mp found
  have read := words_of_textAfter (fun _ inside => absurd inside not_mem_nil) after
  rw [nil_append, String.ofList_toList] at read
  rw [String.toList_ofList]
  exact read

end

/-- Of two endings with the same words, neither of which starts with a blank, none is longer. -/
theorem eq_of_suffix {first second : List Char} (longer : first <:+ second) (begun : Begun second)
    (same : words (String.ofList first) = words (String.ofList second)) : first = second := by
  obtain ⟨front, rfl⟩ := longer
  have visible := congrArg (List.flatMap String.toList) same
  rw [flatMap_words, flatMap_words, String.toList_ofList, String.toList_ofList,
    filter_append] at visible
  have blank : front.filter (fun char => !isSpace char) = [] :=
    self_eq_append_left.mp visible
  cases front with
  | nil => rfl
  | cons char rest =>
    have shown : isSpace char = false := begun char rfl
    rw [filter_cons_of_pos (by simp [shown])] at blank
    cases blank

/-- A line of words ends with every line of its last words. -/
theorem ends_unwords (front later : List String) :
    (unwords later).toList <:+ (unwords (front ++ later)).toList := by
  by_cases none : front = []
  · rw [none]
    exact suffix_rfl
  by_cases last : later = []
  · rw [last]
    exact nil_suffix
  · unfold unwords
    rw [String.intercalate_append_of_ne_nil none last, String.toList_append]
    exact suffix_append ..

/-- A line of words does not start with a blank. -/
theorem begun_unwords {list : List String} (solid : ∀ word ∈ list, Solid word) :
    Begun (unwords list).toList := by
  cases list with
  | nil => exact nofun
  | cons word later =>
    obtain ⟨filled, visible⟩ := solid word mem_cons_self
    have starts : word.toList <+: (unwords (word :: later)).toList := by
      have first : Starts (unwords [word]) (unwords ([word] ++ later)) :=
        starts_unwords (cons_ne_nil word []) later
      have single : unwords [word] = word := String.intercalate_singleton
      rw [single] at first
      exact first
    obtain ⟨rest, shape⟩ := starts
    rw [← shape]
    cases chars : word.toList with
    | nil => exact absurd (String.toList_eq_nil_iff.mp chars) filled
    | cons char others =>
      rintro _ ⟨⟩
      exact visible char (chars ▸ mem_cons_self)

/-- A text that a line of words ends with, and whose words are the last ones, has a single blank
between each two. -/
theorem spaced_of_suffix {text : String} {front : List String} (begun : Begun text.toList)
    (suffix : text.toList <:+ (unwords (front ++ words text)).toList) :
    unwords (words text) = text := by
  have solid : ∀ word ∈ words text, Solid word := fun _ => solid_of_mem_words
  have same : words (unwords (words text)) = words text := words_unwords solid
  have ends := ends_unwords front (words text)
  rcases suffix_or_suffix_of_suffix suffix ends with short | long
  · refine (String.toList_injective (eq_of_suffix short (begun_unwords solid) ?_)).symm
    rw [String.ofList_toList, String.ofList_toList, same]
  · refine String.toList_injective (eq_of_suffix long begun ?_)
    rw [String.ofList_toList, String.ofList_toList, same]

end NetLab.Library

