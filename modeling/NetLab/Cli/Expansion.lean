import NetLab.Cli.Dispatch
import NetLab.Cli.Switch
import NetLab.Library.FreeText

/-!
# What abbreviations do to a line

A line that is spelled out stays as it is when it is spelled out again. Words of free text are
spelled out like any others, and the blanks between them are lost, so a description is kept as it
was typed exactly if it has single blanks and no word that stands for another one after the word
before it.
-/

namespace NetLab.Cli

open NetLab.Library NetLab.Config Pattern List Option

/-! ## Letters -/

def Plain (text : String) : Prop := ∀ char ∈ text.toList, char.toNat < 128

instance (text : String) : Decidable (Plain text) :=
  List.decidableBAll (fun char : Char => char.toNat < 128) text.toList

/-- The lower case of a plain text. -/
def lowered (text : String) : String := String.ofList (text.toList.map Char.toLower)

/-- What is relied on of the lower case of a text: blanks stay where they are, and plain characters
have their plain lower case; and a pattern takes a letter for itself. -/
structure Letters.Lawful (letters : Letters) : Prop where
  blank : ∀ first second : String,
    letters.lower (first ++ " " ++ second) = letters.lower first ++ " " ++ letters.lower second
  solid : ∀ word, Solid word → Solid (letters.lower word)
  plain : ∀ word, Plain word → letters.lower word = lowered word
  starts : ∀ start rest, Plain start →
    (lowered start).toList <+: (letters.lower (start ++ rest)).toList
  alike : ∀ char, letters.alike char char = true

section Expansion

variable {letters : Letters}

theorem Letters.Lawful.unwords (lawful : letters.Lawful) (list : List String) :
    letters.lower (unwords list) = Library.unwords (list.map letters.lower) := by
  induction list with
  | nil => exact lawful.plain "" (by decide)
  | cons word later ih =>
    by_cases last : later = []
    · rw [last]
      have single : ∀ word, Library.unwords [word] = word := fun _ => String.intercalate_singleton
      rw [map_cons, map_nil, single, single]
    · rw [unwords_cons last, lawful.blank, ih, map_cons, unwords_cons (by simpa using last)]

/-! ## The tables -/

/-- Keys of the table. -/
def expansionKeys : List String := laterWords.map Prod.fst

def expandAfter (letters : Letters) (key token : String) : String :=
  match (wordsAfter key).lookup (letters.lower token) with
  | some full => full
  | none =>
    if key = "interface" ∨ key = "show interfaces" then
      (expandInterface letters token).getD token
    else token

def keyOf (context : String) : String :=
  if context ∈ expansionKeys then context else lastWord context

variable {marked token word : String} {rest result : List String}
  {deviceType line full key : String}

theorem wordsAfter_of_not_mem (unknown : key ∉ expansionKeys) : wordsAfter key = [] := by
  have missing : laterWords.lookup key = none := by
    rw [lookup_eq_none_iff]
    intro entry inside
    refine bne_iff_ne.mpr fun same => unknown ?_
    exact mem_map.mpr ⟨entry, inside, same.symm⟩
  rw [wordsAfter, missing]
  rfl

theorem mem_laterWords_of_mem (found : (wordsAfter key).lookup word = some full) :
    ∃ entry ∈ laterWords, entry.1 = key ∧ wordsAfter key = entry.2 ∧ (word, full) ∈ entry.2 := by
  cases table : laterWords.lookup key with
  | none =>
    rw [wordsAfter, table] at found
    cases found
  | some list =>
    have same : wordsAfter key = list := by
      rw [wordsAfter, table]
      rfl
    rw [same] at found
    obtain ⟨before, after, shape, -⟩ := lookup_eq_some_iff.mp table
    refine ⟨(key, list), ?_, rfl, same, ?_⟩
    · rw [shape]
      simp
    · obtain ⟨before, after, shape, -⟩ := lookup_eq_some_iff.mp found
      rw [shape]
      simp

theorem expandWord_eq (context token : String) :
    expandWord letters context token = expandAfter letters (keyOf context) token := by
  have special : ∀ key, key ∉ expansionKeys → ¬ (key = "interface" ∨ key = "show interfaces") := by
    rintro key unknown (rfl | rfl)
    · exact unknown (by decide +kernel)
    · exact unknown (by decide +kernel)
  have lasts : ∀ key ∈ expansionKeys, lastWord key = key ∨ lastWord key ∉ expansionKeys := by
    decide +kernel
  rw [expandWord, keyOf]
  by_cases known : context ∈ expansionKeys
  · rw [if_pos known, expandAfter]
    rcases lasts context known with same | unknown
    · rw [same]
      cases found : (wordsAfter context).lookup (letters.lower token) with
      | some full => simp only [expandWord.go, found]
      | none =>
        simp only [expandWord.go, found]
        split
        · cases expandInterface letters token with
          | none => rfl
          | some full => rfl
        · rfl
    · cases found : (wordsAfter context).lookup (letters.lower token) with
      | some full => simp only [expandWord.go, found]
      | none =>
        simp only [expandWord.go, found, wordsAfter_of_not_mem unknown, lookup_nil,
          if_neg (special _ unknown)]
  · rw [if_neg known, expandAfter]
    cases found : (wordsAfter (lastWord context)).lookup (letters.lower token) with
    | some full => simp only [expandWord.go, wordsAfter_of_not_mem known, lookup_nil, found]
    | none =>
      simp only [expandWord.go, wordsAfter_of_not_mem known, lookup_nil, found,
        if_neg (special _ known)]

/-! ## Words that are spelled out -/

theorem table_fixed : ∀ entry ∈ laterWords, ∀ pair ∈ entry.2, Solid pair.2 ∧ Plain pair.2 ∧
    (entry.2.lookup (lowered pair.2) = none ∨ entry.2.lookup (lowered pair.2) = some pair.2) ∧
    (entry.1 ∈ ["interface", "show interfaces"] →
      fullPrefixes.any (startsWith (lowered pair.2)) = true ∨
        ∀ other ∈ wordsAfter "interface", startsWith (lowered pair.2) other.1 = false) := by
  decide +kernel

/-- Types of interfaces are spelled out to full ones, which stand for nothing else. -/
theorem interface_fixed : ∀ entry ∈ wordsAfter "interface", Solid entry.2 ∧ Plain entry.2 ∧
    lowered entry.2 ∈ fullPrefixes ∧ ∀ key ∈ ["interface", "show interfaces"],
      ∀ pair ∈ wordsAfter key, ¬ (lowered entry.2).toList <+: pair.1.toList := by
  decide +kernel

theorem expandInterface_eq_some (expanded : expandInterface letters token = some full) :
    ∃ entry ∈ wordsAfter "interface",
      full = entry.2 ++ String.ofList (token.toList.drop entry.1.length) := by
  rw [expandInterface] at expanded
  split at expanded
  · cases expanded
  · obtain ⟨entry, found, rfl⟩ := map_eq_some_iff.mp expanded
    exact ⟨entry, mem_of_find?_eq_some found, rfl⟩

theorem expandInterface_of_full (lawful : letters.Lawful) {entry : String × String}
    (inside : entry ∈ wordsAfter "interface") (rest : String) :
    expandInterface letters (entry.2 ++ rest) = none := by
  obtain ⟨-, plain, full, -⟩ := interface_fixed entry inside
  have any : fullPrefixes.any (startsWith (letters.lower (entry.2 ++ rest))) = true :=
    any_eq_true.mpr ⟨_, full, isPrefixOf_iff_prefix.mpr (lawful.starts entry.2 rest plain)⟩
  rw [expandInterface]
  exact if_pos any

theorem expandInterface_of_table (lawful : letters.Lawful) {entry : String × List (String × String)}
    (listed : entry ∈ laterWords) (special : entry.1 = "interface" ∨ entry.1 = "show interfaces")
    {pair : String × String} (inside : pair ∈ entry.2) :
    expandInterface letters pair.2 = none := by
  obtain ⟨-, plain, -, apart⟩ := table_fixed entry listed pair inside
  rw [expandInterface, lawful.plain _ plain]
  rcases apart (by simpa using special) with full | none
  · exact if_pos full
  · split
    · rfl
    · rw [find?_eq_none.mpr fun other known => by simp [none other known]]
      rfl

theorem lookup_of_full (lawful : letters.Lawful) {entry : String × String}
    (inside : entry ∈ wordsAfter "interface") (rest : String)
    (special : key = "interface" ∨ key = "show interfaces") :
    (wordsAfter key).lookup (letters.lower (entry.2 ++ rest)) = none := by
  obtain ⟨-, plain, -, apart⟩ := interface_fixed entry inside
  rw [lookup_eq_none_iff]
  intro pair known
  refine bne_iff_ne.mpr fun same => apart key (by simpa using special) pair known ?_
  rw [← same]
  exact lawful.starts entry.2 rest plain

/-- A word that is spelled out stays so. -/
theorem expandAfter_idempotent (lawful : letters.Lawful) (key token : String) :
    expandAfter letters key (expandAfter letters key token) = expandAfter letters key token := by
  cases found : (wordsAfter key).lookup (letters.lower token) with
  | some full =>
    have once : expandAfter letters key token = full := by rw [expandAfter, found]
    obtain ⟨entry, listed, rfl, table, inside⟩ := mem_laterWords_of_mem found
    obtain ⟨-, plain, fixed, -⟩ := table_fixed entry listed _ inside
    rw [once, expandAfter, table, lawful.plain full plain]
    rcases fixed with none | same
    · simp only [none]
      split
      · rename_i special
        have whole : expandInterface letters full = Option.none :=
          expandInterface_of_table lawful listed special inside
        rw [whole]
        rfl
      · rfl
    · simp only [same]
  | none =>
    by_cases special : key = "interface" ∨ key = "show interfaces"
    · cases expanded : expandInterface letters token with
      | none =>
        have once : expandAfter letters key token = token := by
          rw [expandAfter, found]
          simp only [if_pos special, expanded, getD_none]
        rw [once, once]
      | some full =>
        have once : expandAfter letters key token = full := by
          rw [expandAfter, found]
          simp only [if_pos special, expanded, getD_some]
        obtain ⟨entry, inside, rfl⟩ := expandInterface_eq_some expanded
        rw [once, expandAfter, lookup_of_full lawful inside _ special]
        simp only [if_pos special, expandInterface_of_full lawful inside, getD_none]
    · have once : expandAfter letters key token = token := by
        rw [expandAfter, found]
        exact if_neg special
      rw [once, once]

theorem solid_expandAfter (solid : Solid token) (key : String) :
    Solid (expandAfter letters key token) := by
  rw [expandAfter]
  split
  · rename_i full found
    obtain ⟨entry, listed, -, -, inside⟩ := mem_laterWords_of_mem found
    exact (table_fixed entry listed _ inside).1
  split
  · cases expanded : expandInterface letters token with
    | none => exact solid
    | some full =>
      obtain ⟨entry, inside, rfl⟩ := expandInterface_eq_some expanded
      obtain ⟨⟨filled, visible⟩, -⟩ := interface_fixed entry inside
      refine ⟨fun empty => filled ?_, fun char here => ?_⟩
      · exact (String.append_eq_empty_iff.mp empty).1
      · rw [getD_some, String.toList_append, String.toList_ofList] at here
        rcases mem_append.mp here with start | rest
        · exact visible char start
        · exact solid.2 char (mem_of_mem_drop rest)
  · exact solid

theorem first_fixed : ∀ pair ∈ firstWords, Solid pair.2 ∧ Plain pair.2 ∧
    (firstWords.lookup (lowered pair.2) = none ∨
      firstWords.lookup (lowered pair.2) = some pair.2) := by
  decide +kernel

/-- The first word, spelled out. -/
def expandFirst (letters : Letters) (token : String) : String :=
  (firstWords.lookup (letters.lower token)).getD token

theorem mem_firstWords_of_lookup (found : firstWords.lookup word = some full) :
    (word, full) ∈ firstWords := by
  obtain ⟨before, after, shape, -⟩ := lookup_eq_some_iff.mp found
  rw [shape]
  simp

theorem expandFirst_idempotent (lawful : letters.Lawful) (token : String) :
    expandFirst letters (expandFirst letters token) = expandFirst letters token := by
  cases found : firstWords.lookup (letters.lower token) with
  | none =>
    have once : expandFirst letters token = token := by
      rw [expandFirst, found]
      rfl
    rw [once, once]
  | some full =>
    have once : expandFirst letters token = full := by
      rw [expandFirst, found]
      rfl
    obtain ⟨-, plain, none | same⟩ := first_fixed _ (mem_firstWords_of_lookup found)
    · rw [once, expandFirst, lawful.plain full plain, none]
      rfl
    · rw [once, expandFirst, lawful.plain full plain, same]
      rfl

theorem solid_expandFirst (solid : Solid token) : Solid (expandFirst letters token) := by
  rw [expandFirst]
  cases found : firstWords.lookup (letters.lower token) with
  | none => exact solid
  | some full => exact (first_fixed _ (mem_firstWords_of_lookup found)).1

/-! ## Lines -/

/-- The words after some that are spelled out already, spelled out one after the other. -/
def expandRest (letters : Letters) (result rest : List String) : List String :=
  rest.foldl (fun result token =>
    result ++ [expandWord letters (letters.lower (joinWords result)) token]) result

theorem expandRest_cons (result : List String) (token : String) (rest : List String) :
    expandRest letters result (token :: rest) = expandRest letters
        (result ++ [expandWord letters (letters.lower (joinWords result)) token]) rest := rfl

theorem expandRest_append (result first second : List String) :
    expandRest letters result (first ++ second) =
      expandRest letters (expandRest letters result first) second :=
  foldl_append

/-- Words that are spelled out already stay, and each other word is spelled out to one. -/
theorem expandRest_shape (result rest : List String) :
    ∃ later, expandRest letters result rest = result ++ later ∧ later.length = rest.length := by
  induction rest generalizing result with
  | nil => exact ⟨[], (append_nil result).symm, rfl⟩
  | cons token rest ih =>
    obtain ⟨later, shape, length⟩ :=
      ih (result ++ [expandWord letters (letters.lower (joinWords result)) token])
    refine ⟨expandWord letters (letters.lower (joinWords result)) token :: later, ?_, ?_⟩
    · rw [expandRest_cons, shape, append_assoc]
      rfl
    · rw [length_cons, length, length_cons]

theorem solid_expandWord (solid : Solid token) (context : String) :
    Solid (expandWord letters context token) := by
  rw [expandWord_eq]
  exact solid_expandAfter solid _

theorem solid_expandRest (solid : ∀ word ∈ result, Solid word)
    (solid' : ∀ word ∈ rest, Solid word) : ∀ word ∈ expandRest letters result rest, Solid word := by
  induction rest generalizing result with
  | nil => exact solid
  | cons token rest ih =>
    rw [expandRest_cons]
    refine ih ?_ fun word inside => solid' word (mem_cons_of_mem _ inside)
    intro word inside
    rcases mem_append.mp inside with old | new
    · exact solid word old
    · rw [mem_singleton.mp new]
      exact solid_expandWord (solid' token mem_cons_self) _

/-- Words that are spelled out stay so behind the same words. -/
theorem expandRest_idempotent (lawful : letters.Lawful) {later : List String}
    (expanded : expandRest letters result rest = result ++ later) :
    expandRest letters result later = result ++ later := by
  induction rest generalizing result later with
  | nil =>
    have none : later = [] := self_eq_append_right.mp expanded
    rw [none, append_nil]
    rfl
  | cons token rest ih =>
    rw [expandRest_cons] at expanded
    obtain ⟨others, shape, -⟩ := @expandRest_shape letters
      (result ++ [expandWord letters (letters.lower (joinWords result)) token]) rest
    rw [shape, append_assoc, append_cancel_left_eq] at expanded
    subst expanded
    have again : expandWord letters (letters.lower (joinWords result))
        (expandWord letters (letters.lower (joinWords result)) token) =
          expandWord letters (letters.lower (joinWords result)) token := by
      rw [expandWord_eq, expandWord_eq, expandAfter_idempotent lawful]
    rw [singleton_append, expandRest_cons, again, ih shape, append_assoc]
    rfl

/-- Lines of these types of devices are left alone, and of two others the ones that name `ether`. -/
def Exempt (letters : Letters) (deviceType line : String) : Prop :=
  deviceType ∈ ["apresia", "juniper", "yamaha", "fortigate", "alb"] ∨
    deviceType ∈ ["sir", "srs"] ∧ namesEther letters (words line) = true

theorem expandAbbreviation_of_exempt (exempt : Exempt letters deviceType line) :
    expandAbbreviation letters line deviceType = line := by
  rw [expandAbbreviation]
  rcases exempt with listed | ether
  · exact if_pos listed
  · rw [if_pos ether, ite_self]

theorem expandAbbreviation_of_blank (blank : words line = []) :
    expandAbbreviation letters line deviceType = line := by
  rw [expandAbbreviation, blank, ite_self, ite_self]

theorem expandAbbreviation_of_cons {first : String} (ordinary : ¬ Exempt letters deviceType line)
    (shape : words line = first :: rest) :
    expandAbbreviation letters line deviceType =
      unwords (expandRest letters [expandFirst letters first] rest) := by
  rw [expandAbbreviation, if_neg fun listed => ordinary (.inl listed),
    if_neg fun ether => ordinary (.inr ether), shape]
  rfl

theorem solid_expanded {first : String} (shape : words line = first :: rest) :
    ∀ word ∈ expandRest letters [expandFirst letters first] rest, Solid word := by
  have solid : ∀ word ∈ first :: rest, Solid word := by
    rw [← shape]
    exact fun _ => solid_of_mem_words
  refine solid_expandRest ?_ fun word inside => solid word (mem_cons_of_mem _ inside)
  intro word inside
  rw [mem_singleton.mp inside]
  exact solid_expandFirst (solid first mem_cons_self)

theorem expandAbbreviation_idempotent (lawful : letters.Lawful) (deviceType line : String) :
    expandAbbreviation letters (expandAbbreviation letters line deviceType) deviceType =
      expandAbbreviation letters line deviceType := by
  by_cases exempt : Exempt letters deviceType line
  · rw [expandAbbreviation_of_exempt exempt, expandAbbreviation_of_exempt exempt]
  cases shape : words line with
  | nil => rw [expandAbbreviation_of_blank shape, expandAbbreviation_of_blank shape]
  | cons first rest =>
    obtain ⟨later, expanded, -⟩ :=
      @expandRest_shape letters [expandFirst letters first] rest
    have read : words (expandAbbreviation letters line deviceType) =
        expandFirst letters first :: later := by
      rw [expandAbbreviation_of_cons exempt shape, words_unwords (solid_expanded shape), expanded]
      rfl
    by_cases exempt' : Exempt letters deviceType (expandAbbreviation letters line deviceType)
    · exact expandAbbreviation_of_exempt exempt'
    · rw [expandAbbreviation_of_cons exempt' read, expandFirst_idempotent lawful,
        expandRest_idempotent lawful expanded, expandAbbreviation_of_cons exempt shape, expanded]

/-! ## Free text -/

/-- Words that free text follows. -/
def textWords : List String := ["description", "remark", "banner", "name", "password"]

/-- The word is one that free text follows. -/
def opensText (letters : Letters) (word : String) : Bool := letters.lower word ∈ textWords

/-- Such words stand for themselves everywhere. -/
theorem textWords_unknown : ∀ word ∈ textWords, firstWords.lookup word = none ∧
    (∀ entry ∈ laterWords, entry.2.lookup word = none) ∧
    ∀ entry ∈ wordsAfter "interface", startsWith word entry.1 = false := by
  decide +kernel

theorem expansionKeys_closed : ∀ key ∈ expansionKeys, ∀ word ∈ textWords, word ∉ words key := by
  decide +kernel

theorem expandFirst_of_opensText (opens : opensText letters word = true) :
    expandFirst letters word = word := by
  rw [expandFirst, (textWords_unknown _ (of_decide_eq_true opens)).1]
  rfl

theorem expandWord_of_opensText (opens : opensText letters word = true) (context : String) :
    expandWord letters context word = word := by
  obtain ⟨-, unknown, apart⟩ := textWords_unknown _ (of_decide_eq_true opens)
  have whole : expandInterface letters word = none := by
    rw [expandInterface]
    split
    · rfl
    · rw [find?_eq_none.mpr fun entry inside => by simp [apart entry inside]]
      rfl
  rw [expandWord_eq, expandAfter]
  split
  · rename_i full found
    obtain ⟨entry, listed, -, table, -⟩ := mem_laterWords_of_mem found
    rw [table, unknown entry listed] at found
    cases found
  · rw [whole, getD_none, ite_self]

theorem keyOf_of_opensText (lawful : letters.Lawful) (solid : ∀ word ∈ result, Solid word)
    {last : String} (opens : opensText letters marked = true) (inside : marked ∈ result)
    (ends : result.getLast? = some last) :
    keyOf (letters.lower (joinWords result)) = letters.lower last := by
  have context : letters.lower (joinWords result) = unwords (result.map letters.lower) :=
    lawful.unwords result
  have read : words (unwords (result.map letters.lower)) = result.map letters.lower :=
    words_unwords fun word mapped => by
      obtain ⟨origin, here, rfl⟩ := mem_map.mp mapped
      exact lawful.solid origin (solid origin here)
  have unknown : unwords (result.map letters.lower) ∉ expansionKeys := by
    intro known
    refine expansionKeys_closed _ known _ (of_decide_eq_true opens) ?_
    rw [read]
    exact mem_map.mpr ⟨marked, inside, rfl⟩
  rw [context, keyOf, if_neg unknown, lastWord]
  split
  · rw [read, getLast?_map, ends]
    rfl
  · rename_i single
    obtain ⟨front, rfl⟩ := getLast?_eq_some_iff.mp ends
    by_cases alone : front = []
    · rw [alone]
      exact String.intercalate_singleton
    · refine absurd ?_ single
      rw [map_append, map_cons, map_nil, unwords_snoc (by simpa using alone)]
      simp

/-- The word stands for itself behind another one. -/
def Fixed (letters : Letters) (previous word : String) : Prop :=
  expandAfter letters (letters.lower previous) word = word

/-- Words of free text stay exactly if each stands for itself behind the one before it. -/
theorem expandRest_eq_iff (lawful : letters.Lawful) (solid : ∀ word ∈ result, Solid word)
    (solid' : ∀ word ∈ rest, Solid word) {last : String} (opens : opensText letters marked = true)
    (inside : marked ∈ result) (ends : result.getLast? = some last) :
    expandRest letters result rest = result ++ rest ↔ (last :: rest).IsChain (Fixed letters) := by
  induction rest generalizing result last with
  | nil => exact iff_of_true (append_nil result).symm (.singleton last)
  | cons token rest ih =>
    have key := keyOf_of_opensText lawful solid opens inside ends
    have expanded : expandWord letters (letters.lower (joinWords result)) token =
        expandAfter letters (letters.lower last) token := by
      rw [expandWord_eq, key]
    rw [expandRest_cons, expanded, isChain_cons_cons]
    by_cases fixed : expandAfter letters (letters.lower last) token = token
    · have longer : ∀ word ∈ result ++ [token], Solid word := by
        intro word here
        rcases mem_append.mp here with old | new
        · exact solid word old
        · rw [mem_singleton.mp new]
          exact solid' token mem_cons_self
      have next := ih longer (fun word here => solid' word (mem_cons_of_mem _ here))
        (mem_append_left [token] inside) (getLast?_concat)
      have shape : result ++ token :: rest = (result ++ [token]) ++ rest := by simp
      rw [fixed, shape, next]
      exact (and_iff_right fixed).symm
    · refine iff_of_false (fun same => fixed ?_) fun both => fixed both.1
      obtain ⟨later, shape, -⟩ := @expandRest_shape letters
        (result ++ [expandAfter letters (letters.lower last) token]) rest
      rw [shape, append_assoc, append_cancel_left_eq] at same
      exact head_eq_of_cons_eq same

theorem fixed_of_opensText (opens : opensText letters marked = true) (word : String) :
    Fixed letters marked word := by
  have closed : ∀ word ∈ textWords, word ∉ expansionKeys := by decide +kernel
  have unknown := closed _ (of_decide_eq_true opens)
  have special : ¬ (letters.lower marked = "interface" ∨
      letters.lower marked = "show interfaces") := by
    rintro (same | same)
    · exact unknown (by rw [same]; decide +kernel)
    · exact unknown (by rw [same]; decide +kernel)
  rw [Fixed, expandAfter, wordsAfter_of_not_mem unknown]
  exact if_neg special

theorem isChain_opensText (opens : opensText letters marked = true) (words : List String) :
    (marked :: words).IsChain (Fixed letters) ↔ words.IsChain (Fixed letters) := by
  cases words with
  | nil => exact iff_of_true (.singleton marked) .nil
  | cons first later =>
    rw [isChain_cons_cons]
    exact and_iff_right (fixed_of_opensText opens first)

/-- How a line with free text is spelled out: the words of the text one after the other, behind
some words that end with the one that opens it. -/
theorem expandAbbreviation_of_text {front : List String} {text : List String}
    (ordinary : ¬ Exempt letters deviceType line) (opens : opensText letters marked = true)
    (shape : words line = front ++ marked :: text) :
    ∃ result, (∀ word ∈ result ++ [marked], Solid word) ∧
      expandAbbreviation letters line deviceType =
        unwords (expandRest letters (result ++ [marked]) text) := by
  have solid : ∀ word ∈ front ++ marked :: text, Solid word := by
    rw [← shape]
    exact fun _ => solid_of_mem_words
  have markedSolid : Solid marked := solid marked (by simp)
  cases front with
  | nil =>
    refine ⟨[], ?_, ?_⟩
    · intro word inside
      rw [mem_singleton.mp inside]
      exact markedSolid
    · rw [expandAbbreviation_of_cons ordinary shape, expandFirst_of_opensText opens]
      rfl
  | cons first later =>
    have cut : words line = first :: (later ++ marked :: text) := shape
    refine ⟨expandRest letters [expandFirst letters first] later, ?_, ?_⟩
    · intro word inside
      rcases mem_append.mp inside with old | new
      · refine solid_expandRest ?_ (fun word here => solid word (by simp [here])) word old
        intro word here
        rw [mem_singleton.mp here]
        exact solid_expandFirst (solid first (by simp))
      · rw [mem_singleton.mp new]
        exact markedSolid
    · rw [expandAbbreviation_of_cons ordinary cut, expandRest_append, expandRest_cons,
        expandWord_of_opensText opens]

theorem words_suffix_iff (lawful : letters.Lawful) {text : List String}
    (opens : opensText letters marked = true) (solid : ∀ word ∈ result ++ [marked], Solid word)
    (solid' : ∀ word ∈ text, Solid word) :
    text <:+ words (unwords (expandRest letters (result ++ [marked]) text)) ↔
      text.IsChain (Fixed letters) := by
  have inside : marked ∈ result ++ [marked] := by simp
  rw [words_unwords (solid_expandRest solid solid'), ← isChain_opensText opens,
    ← expandRest_eq_iff lawful solid solid' opens inside getLast?_concat]
  obtain ⟨later, shape, length⟩ := @expandRest_shape letters (result ++ [marked]) text
  rw [shape, append_cancel_left_eq]
  constructor
  · intro suffix
    have ends : later <:+ result ++ [marked] ++ later := suffix_append ..
    exact (suffix_of_suffix_length_le ends suffix length.le).eq_of_length length
  · intro same
    rw [same]
    exact suffix_append ..

end Expansion

end NetLab.Cli
