import NetLab.Library.Integers
import Mathlib.Data.Finset.Sort

/-!
# VLAN ranges

The notation `1,10,20-30` for a set of VLANs. `read_formatVlanRange` says that a set is read back
from its text, which lists the runs of the set.
-/

namespace NetLab.Vlan

open NetLab.Library List

/-- Digits, and the characters that are taken for digits before a number is read. -/
structure Numerals extends Digits where
  isDigit : Char → Bool
  decimal : ∀ char, (value char).isSome → isDigit char = true

def plainNumerals : Numerals where
  toDigits := plainDigits
  isDigit := Char.isDigit
  decimal char known := by
    by_contra other
    simp [plainDigits, other] at known

/-- VLANs a trunk carries by default. -/
def allVlans : List Nat := List.range' 1 4094

def strip (text : List Char) : List Char :=
  ((text.dropWhile isSpace).reverse.dropWhile isSpace).reverse

section Parsing

variable (numerals : Numerals)

/-- One part of a VLAN list. A range with an end that is no number raises, and so do characters
that are called digits and have no value. -/
def parseVlanPart (part : List Char) : Option (List Nat) :=
  if '-' ∈ part then
    let low := part.takeWhile (· ≠ '-')
    let high := (part.dropWhile (· ≠ '-')).drop 1
    match readInt numerals.toDigits (strip low), readInt numerals.toDigits (strip high) with
    | some first, some last => some (List.range' first.toNat (last + 1 - first).toNat)
    | _, _ => none
  else if part ≠ [] && part.all numerals.isDigit then
    (readInt numerals.toDigits part).map fun vlan => [vlan.toNat]
  else some []

/-- The VLANs of a list such as `1,10,20-30`. -/
def parseVlanRange (text : List Char) : Option (List Nat) :=
  if text = [] ∨ strip text = "all".toList then some allVlans
  else if strip text = "none".toList then some []
  else ((text.splitOn ',').mapM fun part => parseVlanPart numerals (strip part)).map List.flatten

end Parsing

/-- The runs of a sorted list, the first of them from `start` and up to `prev` so far. -/
def runs (start prev : Nat) : List Nat → List (Nat × Nat)
  | [] => [(start, prev)]
  | vlan :: rest =>
    if vlan = prev + 1 then runs start vlan rest else (start, prev) :: runs vlan vlan rest

def formatRun (run : Nat × Nat) : List Char :=
  if run.1 ≠ run.2 then numeral run.1 ++ '-' :: numeral run.2 else numeral run.1

/-- `1-3,10-12,20` for the set of these VLANs. -/
def formatVlanRange (vlans : Finset Nat) : List Char :=
  match vlans.sort (· ≤ ·) with
  | [] => "none".toList
  | first :: rest => [','].intercalate ((runs first first rest).map formatRun)

/-- The runs are those of the set: in order, and with a VLAN missing between any two. -/
structure ListsRuns (vlans : Finset Nat) (listed : List (Nat × Nat)) : Prop where
  proper : ∀ run ∈ listed, run.1 ≤ run.2
  apart : listed.Pairwise fun run later => run.2 + 1 < later.1
  covers : ∀ vlan, vlan ∈ vlans ↔ ∃ run ∈ listed, run.1 ≤ vlan ∧ vlan ≤ run.2

/-! ## Runs -/

theorem runs_spec {start prev : Nat} {rest : List Nat} (ordered : start ≤ prev)
    (sorted : (prev :: rest).Pairwise (· < ·)) :
    (∀ run ∈ runs start prev rest, start ≤ run.1 ∧ run.1 ≤ run.2) ∧
      (runs start prev rest).Pairwise (fun run later => run.2 + 1 < later.1) ∧
      ∀ vlan, (∃ run ∈ runs start prev rest, run.1 ≤ vlan ∧ vlan ≤ run.2) ↔
        (start ≤ vlan ∧ vlan ≤ prev) ∨ vlan ∈ rest := by
  induction rest generalizing start prev with
  | nil => simp [runs, ordered]
  | cons vlan rest ih =>
    obtain ⟨above, sorted⟩ := pairwise_cons.mp sorted
    have later : prev < vlan := above vlan mem_cons_self
    rw [runs]
    split
    · rename_i next
      obtain ⟨proper, apart, covers⟩ := ih (show start ≤ vlan by omega) sorted
      refine ⟨proper, apart, fun other => (covers other).trans ?_⟩
      rw [mem_cons, ← or_assoc]
      exact or_congr_left (by omega)
    · rename_i gap
      obtain ⟨proper, apart, covers⟩ := ih (le_refl vlan) sorted
      refine ⟨?_, pairwise_cons.mpr ⟨fun run inside => ?_, apart⟩, fun other => ?_⟩
      · rintro run (_ | ⟨_, inside⟩)
        · exact ⟨le_rfl, ordered⟩
        · have := proper run inside
          omega
      · have := proper run inside
        omega
      · rw [exists_mem_cons_iff, covers, mem_cons]
        exact or_congr_right (or_congr_left (by omega))

theorem exists_runs (vlans : Finset Nat) : ∃ listed, ListsRuns vlans listed ∧
    formatVlanRange vlans =
      if listed = [] then "none".toList else [','].intercalate (listed.map formatRun) := by
  have sorted : (vlans.sort (· ≤ ·)).Pairwise (· < ·) := (Finset.sortedLT_sort vlans).pairwise
  have members : ∀ vlan, vlan ∈ vlans ↔ vlan ∈ vlans.sort (· ≤ ·) := fun vlan =>
    (Finset.mem_sort _).symm
  unfold formatVlanRange
  cases list : vlans.sort (· ≤ ·) with
  | nil => exact ⟨[], ⟨by simp, .nil, by simp [members, list]⟩, rfl⟩
  | cons first rest =>
    obtain ⟨proper, apart, covers⟩ := runs_spec le_rfl (list ▸ sorted)
    refine ⟨runs first first rest, ⟨fun run inside => (proper run inside).2, apart, fun vlan => ?_⟩,
      ?_⟩
    · rw [covers, members, list, mem_cons]
      exact or_congr_left (by omega)
    · have some : runs first first rest ≠ [] := fun empty => by
        have := (covers first).mpr (.inl ⟨le_rfl, le_rfl⟩)
        simp [empty] at this
      exact (if_neg some).symm

/-! ## Reading runs -/

section Reading

variable {numerals : Numerals}

theorem readInt_numeral {vlan : Nat} (short : (numeral vlan).length ≤ mostDigits) :
    readInt numerals.toDigits (numeral vlan) = some (vlan : Int) := by
  have written : readInt numerals.toDigits (writeInt vlan) = some (vlan : Int) :=
    readInt_writeInt short
  exact written

theorem strip_numeral (vlan : Nat) : strip (numeral vlan) = numeral vlan :=
  strip_of_solid fun _ inside => isSpace_of_isDigit (isDigit_of_mem_numeral inside)

/-- Texts of runs are digits and a dash. -/
theorem mem_formatRun {run : Nat × Nat} {char : Char} (inside : char ∈ formatRun run) :
    char.isDigit = true ∨ char = '-' := by
  unfold formatRun at inside
  split at inside
  · rcases mem_append.mp inside with low | dash | ⟨-, high⟩
    · exact .inl (isDigit_of_mem_numeral low)
    · exact .inr rfl
    · exact .inl (isDigit_of_mem_numeral (by assumption))
  · exact .inl (isDigit_of_mem_numeral inside)

theorem formatRun_ne_nil (run : Nat × Nat) : formatRun run ≠ [] := by
  unfold formatRun
  split <;> simp [numeral_ne_nil]

theorem strip_formatRun (run : Nat × Nat) : strip (formatRun run) = formatRun run := by
  refine strip_of_solid fun char inside => ?_
  rcases mem_formatRun inside with digit | rfl
  · exact isSpace_of_isDigit digit
  · decide

theorem dash_notMem_numeral (vlan : Nat) : '-' ∉ numeral vlan := fun inside =>
  absurd (isDigit_of_mem_numeral inside) (by decide)

theorem parseVlanPart_formatRun {run : Nat × Nat} (proper : run.1 ≤ run.2)
    (first : (numeral run.1).length ≤ mostDigits) (last : (numeral run.2).length ≤ mostDigits) :
    parseVlanPart numerals (formatRun run) = some (List.range' run.1 (run.2 + 1 - run.1)) := by
  unfold formatRun
  by_cases single : run.1 = run.2
  · have digits : (numeral run.1).all numerals.isDigit = true :=
      all_eq_true.mpr fun char inside => numerals.decimal char (by
        rw [numerals.plain char (isDigit_of_mem_numeral inside)]
        rfl)
    rw [if_neg (not_not.mpr single), parseVlanPart, if_neg (dash_notMem_numeral _), digits,
      if_pos (by simp [numeral_ne_nil]), readInt_numeral first, ← single]
    simp
  · have low : (numeral run.1 ++ '-' :: numeral run.2).takeWhile (· ≠ '-') = numeral run.1 := by
      rw [takeWhile_append_of_pos fun char inside => by
        simpa using ne_of_mem_of_not_mem inside (dash_notMem_numeral run.1)]
      simp
    have high : ((numeral run.1 ++ '-' :: numeral run.2).dropWhile (· ≠ '-')).drop 1 =
        numeral run.2 := by
      rw [dropWhile_append_of_pos fun char inside => by
        simpa using ne_of_mem_of_not_mem inside (dash_notMem_numeral run.1)]
      simp
    rw [if_pos single, parseVlanPart, if_pos (by simp), low, high]
    dsimp only
    have count : ((run.2 : Int) + 1 - run.1).toNat = run.2 + 1 - run.1 := by omega
    rw [strip_numeral, strip_numeral, readInt_numeral first, readInt_numeral last]
    dsimp only
    rw [Int.toNat_natCast, count]

theorem mem_intercalate {parts : List (List Char)} {char : Char}
    (inside : char ∈ [','].intercalate parts) : char = ',' ∨ ∃ part ∈ parts, char ∈ part := by
  induction parts with
  | nil => cases inside
  | cons part rest ih =>
    by_cases last : rest = []
    · subst last
      exact .inr ⟨part, mem_cons_self, by simpa using inside⟩
    · rw [intercalate_cons_of_ne_nil last, mem_append, mem_append, mem_singleton] at inside
      rcases inside with (here | comma) | later
      · exact .inr ⟨part, mem_cons_self, here⟩
      · exact .inl comma
      · exact (ih later).imp_right fun ⟨part, isPart, here⟩ => ⟨part, .tail _ isPart, here⟩

/-- Reading runs that are joined by commas. -/
theorem parseVlanRange_runs {listed : List (Nat × Nat)} (some : listed ≠ [])
    (proper : ∀ run ∈ listed, run.1 ≤ run.2)
    (short : ∀ run ∈ listed,
      (numeral run.1).length ≤ mostDigits ∧ (numeral run.2).length ≤ mostDigits) :
    parseVlanRange numerals ([','].intercalate (listed.map formatRun)) =
      .some (listed.map fun run => List.range' run.1 (run.2 + 1 - run.1)).flatten := by
  have legal : ∀ char ∈ [','].intercalate (listed.map formatRun),
      char = ',' ∨ char.isDigit = true ∨ char = '-' := fun char inside =>
    (mem_intercalate inside).imp_right fun ⟨part, isPart, inside⟩ => by
      obtain ⟨run, -, rfl⟩ := mem_map.mp isPart
      exact mem_formatRun inside
  have solid : strip ([','].intercalate (listed.map formatRun)) =
      [','].intercalate (listed.map formatRun) := by
    refine strip_of_solid fun char inside => ?_
    rcases legal char inside with rfl | digit | rfl
    · decide
    · exact isSpace_of_isDigit digit
    · decide
  have noWord : ∀ word : List Char, (∃ char ∈ word, char ≠ ',' ∧ char.isDigit = false ∧ char ≠ '-') →
      [','].intercalate (listed.map formatRun) ≠ word := by
    rintro word ⟨char, inside, notComma, notDigit, notDash⟩ rfl
    rcases legal char inside with comma | digit | dash
    · exact notComma comma
    · simp [digit] at notDigit
    · exact notDash dash
  have split : ([','].intercalate (listed.map formatRun)).splitOn ',' = listed.map formatRun := by
    refine splitOn_intercalate ',' (fun part isPart comma => ?_) (by simpa using some)
    obtain ⟨run, -, rfl⟩ := mem_map.mp isPart
    rcases mem_formatRun comma with digit | dash
    · exact absurd digit (by decide)
    · exact absurd dash (by decide)
  have parts : ∀ {some : List (Nat × Nat)}, some ⊆ listed →
      (some.map formatRun).mapM (fun part => parseVlanPart numerals (strip part)) =
        .some (some.map fun run => List.range' run.1 (run.2 + 1 - run.1)) := by
    intro some within
    induction some with
    | nil => rfl
    | cons run rest ih =>
      obtain ⟨here, within⟩ := cons_subset.mp within
      obtain ⟨first, last⟩ := short run here
      rw [map_cons, mapM_cons, strip_formatRun,
        parseVlanPart_formatRun (proper run here) first last, ih within, map_cons]
      simp only [Option.bind_eq_bind, Option.bind_some, Option.pure_def]
  rw [parseVlanRange, solid, if_neg, if_neg (noWord _ ⟨'n', by decide, by decide, rfl, by decide⟩),
    split, parts fun _ => id]
  · rfl
  · rintro (empty | all)
    · obtain ⟨run, inside⟩ := exists_mem_of_ne_nil _ some
      have isPart := mem_map_of_mem (f := formatRun) inside
      rw [← split, empty] at isPart
      exact formatRun_ne_nil run (by simpa using isPart)
    · exact noWord _ ⟨'l', by decide, by decide, rfl, by decide⟩ all

/-- A set is read back from its text, which lists its runs. -/
theorem read_formatVlanRange (numerals : Numerals) (vlans : Finset Nat)
    (short : ∀ vlan ∈ vlans, (numeral vlan).length ≤ mostDigits) :
    (∃ listed, ListsRuns vlans listed ∧ formatVlanRange vlans =
      if listed = [] then "none".toList else [','].intercalate (listed.map formatRun)) ∧
    ∃ read, parseVlanRange numerals (formatVlanRange vlans) = some read ∧
      ∀ vlan, vlan ∈ read ↔ vlan ∈ vlans := by
  obtain ⟨listed, lists, text⟩ := exists_runs vlans
  refine ⟨⟨listed, lists, text⟩, ?_⟩
  by_cases none : listed = []
  · refine ⟨[], by rw [text, if_pos none]; rfl, fun vlan => ?_⟩
    rw [lists.covers, none]
    simp
  · have known : ∀ run ∈ listed, run.1 ∈ vlans ∧ run.2 ∈ vlans := fun run inside =>
      ⟨(lists.covers _).mpr ⟨run, inside, le_rfl, lists.proper run inside⟩,
        (lists.covers _).mpr ⟨run, inside, lists.proper run inside, le_rfl⟩⟩
    refine ⟨_, by
      rw [text, if_neg none]
      exact parseVlanRange_runs none lists.proper fun run inside =>
        (known run inside).imp (short _) (short _), fun vlan => ?_⟩
    rw [lists.covers, ← flatMap_def, mem_flatMap]
    refine exists_congr fun run => and_congr_right fun inside => ?_
    have := lists.proper run inside
    rw [mem_range'_1]
    omega

theorem read_three_runs : ∃ read,
    parseVlanRange plainNumerals (formatVlanRange {1, 2, 3, 10, 20, 21}) = some read ∧
      ∀ vlan, vlan ∈ read ↔ vlan ∈ ({1, 2, 3, 10, 20, 21} : Finset Nat) :=
  (read_formatVlanRange plainNumerals {1, 2, 3, 10, 20, 21} (by decide)).2

example : parseVlanRange plainNumerals "1, 10,20-22".toList = some [1, 10, 20, 21, 22] := by
  decide +kernel

end Reading

end NetLab.Vlan
