import NetLab.Cli.Expansion

/-!
# Descriptions as they are typed

The description of an interface is what the branch for configuration finds behind the word, after
the line is trimmed and spelled out.
-/

namespace NetLab.Cli

open List

open NetLab.Library NetLab.Config Pattern

variable {text : String}

section Descriptions

variable {Other : Type}

/-! ## The branch for descriptions -/

/-- What a `description` command has behind the word. -/
def descriptionText (letters : Letters) (command : String) : Option String :=
  (seq [wordAs letters.alike "description", blanks]
    ⟨none, (strip command).toList⟩).head?.bind fun place =>
      if place.rest = [] ∨ '\n' ∈ place.rest then none
      else some (strip (String.ofList place.rest))

def Switch.describe (switch : Switch Other) (name text : String) : Switch Other :=
  { switch with
    interfaces := switch.interfaces.insert name
      (((switch.interfaces.lookup name).getD .empty).insert "desc" (.text text)) }

/-- Handlers whose branch for configuration takes descriptions of the selected interface first. -/
def describingHandlers (base : Handlers (Switch Other)) : Handlers (Switch Other) :=
  { switchHandlers base with
    config := fun command device =>
      match device.rest.currentIf with
      | none => base.config command device
      | some name =>
        if device.mode = "config-if" ∧ name ≠ "" then
          match descriptionText base.letters command with
          | some text => ("", { device with rest := device.rest.describe name text })
          | none =>
            if isMatch (seq [exact "no", blanks, exact "description", someBlanks, atEnd])
                (comparedForm base command) then
              ("", { device with rest := device.rest.describe name "" })
            else base.config command device
        else base.config command device }

variable (base : Handlers (Switch Other))

def descriptionAfter (line : String) (device : Device (Switch Other)) (name : String) :
    Option Setting :=
  ((process (describingHandlers base) line device).2.rest.interfaces.lookup name).bind
    (OrderedMap.lookup · "desc")

/-- The line is a `description` command with a text, all on one line, for a type of device that
takes such commands. -/
structure Describes (deviceType line text : String) : Prop where
  line : line = "description " ++ text
  begun : Begun text.toList
  filled : text ≠ ""
  oneLine : '\n' ∉ text.toList
  ordinary : deviceType ∉ vendorTypes

/-- An interface is selected and configured. -/
structure Selected (device : Device (Switch Other)) (name : String) : Prop where
  mode : device.mode = "config-if"
  current : device.rest.currentIf = some name
  named : name ≠ ""

/-! ## What is promised, and what it takes -/

/-- Lines are spelled out once and for all, free text keeps its words and its blanks, and so a
description is stored as it is typed. -/
structure Conservative (deviceType line : String) : Prop where
  idempotent : expandAbbreviation base.letters (expandAbbreviation base.letters line deviceType)
    deviceType = expandAbbreviation base.letters line deviceType
  tokens : ∀ text, freeText (opensText base.letters) line = some text →
    words text <:+ words (expandAbbreviation base.letters line deviceType)
  spacing : ∀ text, freeText (opensText base.letters) line = some text →
    text.toList <:+ (expandAbbreviation base.letters line deviceType).toList
  described : ∀ text, Describes deviceType line text → ∀ device : Device (Switch Other),
    device.deviceType = deviceType → ∀ name, Selected device name →
      descriptionAfter base line device name = some (.text text)

/-- Free text is left alone, or has a single blank between each two words, each of which stands for
itself behind the one before it; and a description is trimmed and asks for no help. -/
structure Careful (letters : Letters) (deviceType line : String) : Prop where
  text : Exempt letters deviceType line ∨ ∀ text, freeText (opensText letters) line = some text →
    unwords (words text) = text ∧ (words text).IsChain (Fixed letters)
  shown : ∀ text, Describes deviceType line text → '?' ∉ text.toList ∧ strip text = text

/-! ## Free text -/

variable {base} {letters : Letters} {deviceType line : String}

theorem text_kept_of_exempt (exempt : Exempt letters deviceType line)
    (found : freeText (opensText letters) line = some text) :
    words text <:+ words (expandAbbreviation letters line deviceType) ∧
      text.toList <:+ (expandAbbreviation letters line deviceType).toList := by
  obtain ⟨-, front, marked, -, shape⟩ := words_of_freeText found
  rw [expandAbbreviation_of_exempt exempt, shape]
  exact ⟨⟨front ++ [marked], by simp⟩, suffix_of_freeText found⟩

/-- The words and the blanks of a text stay exactly if the text is spaced and each of its words
stands for itself. -/
theorem text_kept_iff (lawful : letters.Lawful) (ordinary : ¬ Exempt letters deviceType line)
    (found : freeText (opensText letters) line = some text) :
    (words text <:+ words (expandAbbreviation letters line deviceType) ∧
        text.toList <:+ (expandAbbreviation letters line deviceType).toList) ↔
      unwords (words text) = text ∧ (words text).IsChain (Fixed letters) := by
  obtain ⟨begun, front, marked, opens, shape⟩ := words_of_freeText found
  have solid : ∀ word ∈ words text, Solid word := fun _ => solid_of_mem_words
  obtain ⟨result, solid', expanded⟩ := expandAbbreviation_of_text ordinary opens shape
  rw [expanded, words_suffix_iff lawful opens solid' solid]
  refine ⟨fun ⟨chain, suffix⟩ => ⟨?_, chain⟩, fun ⟨spaced, chain⟩ => ⟨chain, ?_⟩⟩
  all_goals
    have inside : marked ∈ result ++ [marked] := by simp
    have same := (expandRest_eq_iff lawful solid' solid opens inside getLast?_concat).mpr
      ((isChain_opensText opens _).mpr chain)
  · rw [same] at suffix
    exact spaced_of_suffix begun suffix
  · rw [same]
    have ends := ends_unwords (result ++ [marked]) (words text)
    rwa [spaced] at ends

/-! ## Descriptions -/

theorem lower_description (lawful : letters.Lawful) : opensText letters "description" = true := by
  have plain : letters.lower "description" = lowered "description" := lawful.plain _ (by decide)
  rw [opensText, plain]
  decide +kernel

theorem description_solid : Solid "description" := by decide +kernel

theorem description_append (text : String) :
    "description " ++ text = "description" ++ " " ++ text := by
  have split : "description " = "description" ++ " " := by decide
  rw [split]

theorem strip_description (begun : Begun text.toList) (filled : text ≠ "") :
    strip ("description " ++ text) = "description " ++ strip text := by
  have visible := visible_of_begun begun fun none => filled (String.toList_eq_nil_iff.mp none)
  have whole : Begun ("description " ++ text).toList := by
    rw [String.toList_append]
    rintro _ ⟨⟩
    decide
  refine String.toList_injective ?_
  rw [toList_strip_of_begun whole, String.toList_append, String.toList_append,
    toList_strip_of_begun begun, rdropWhile_append _ visible]

theorem strip_filled (begun : Begun text.toList) (filled : text ≠ "") : strip text ≠ "" := by
  obtain ⟨char, inside, visible⟩ :=
    visible_of_begun begun fun none => filled (String.toList_eq_nil_iff.mp none)
  intro empty
  have none : text.toList.rdropWhile isSpace = [] := by
    rw [← toList_strip_of_begun begun, empty]
    rfl
  have blank := rdropWhile_eq_nil_iff.mp none char inside
  rw [visible] at blank
  cases blank

theorem strip_oneLine (begun : Begun text.toList) (oneLine : '\n' ∉ text.toList) :
    '\n' ∉ (strip text).toList := by
  rw [toList_strip_of_begun begun]
  exact fun here => oneLine (( rdropWhile_prefix isSpace _).subset here)

theorem Describes.strip_line (describes : Describes deviceType line text) :
    strip line = "description " ++ strip text := by
  rw [describes.line, strip_description describes.begun describes.filled]

/-- A command that describes: the word, a blank and a text on one line. -/
structure DescribeCommand (command rest : String) : Prop where
  command : command = "description " ++ rest
  begun : Begun rest.toList
  filled : rest ≠ ""
  oneLine : '\n' ∉ rest.toList

theorem Describes.commandOf (lawful : letters.Lawful) (describes : Describes deviceType line text) :
    ∃ rest, DescribeCommand (expandAbbreviation letters (strip line) deviceType) rest := by
  have filled := strip_filled describes.begun describes.filled
  have oneLine := strip_oneLine describes.begun describes.oneLine
  have begun := begun_strip text
  have opens := lower_description lawful
  by_cases exempt : Exempt letters deviceType (strip line)
  · rw [expandAbbreviation_of_exempt exempt, describes.strip_line]
    exact ⟨strip text, rfl, begun, filled, oneLine⟩
  have shape : words (strip line) = "description" :: words (strip text) := by
    rw [describes.strip_line, description_append]
    exact words_append description_solid (strip text)
  obtain ⟨later, expanded, length⟩ :=
    @expandRest_shape letters ["description"] (words (strip text))
  have solid : ∀ word ∈ later, Solid word := by
    intro word inside
    have all := @solid_expanded letters _ _ _ shape
    rw [expandFirst_of_opensText opens, expanded] at all
    exact all word (mem_append_right _ inside)
  have more : later ≠ [] := by
    intro none
    obtain ⟨char, inside, visible⟩ :=
      visible_of_begun begun fun none => filled (String.toList_eq_nil_iff.mp none)
    rw [none] at length
    exact words_ne_nil inside visible (eq_nil_of_length_eq_zero length.symm)
  refine ⟨unwords later, ?_, begun_unwords solid, ?_, ?_⟩
  · rw [expandAbbreviation_of_cons exempt shape, expandFirst_of_opensText opens, expanded]
    exact unwords_cons more
  · intro empty
    have read := words_unwords solid
    rw [empty] at read
    exact more read.symm
  · intro inside
    rcases mem_unwords inside with blank | ⟨word, here, found⟩
    · exact absurd blank (by decide)
    · have visible := (solid word here).2 _ found
      exact absurd visible (by decide)

section

variable {command rest : String} (lawful : letters.Lawful)
  (describes : DescribeCommand command rest)
include lawful describes

theorem DescribeCommand.read : descriptionText letters command = some (strip rest) := by
  obtain ⟨rfl, begun, filled, oneLine⟩ := describes
  have begun' := begun_strip rest
  have shape : (strip ("description " ++ rest)).toList =
      "description".toList ++ ' ' :: (strip rest).toList := by
    rw [strip_description begun filled, String.toList_append]
    rfl
  obtain ⟨last, matched⟩ :=
    wordAs_self lawful.alike "description".toList (' ' :: (strip rest).toList) none
  have places : seq [wordAs letters.alike "description", blanks]
      ⟨none, (strip ("description " ++ rest)).toList⟩ = [⟨some ' ', (strip rest).toList⟩] := by
    rw [shape, seq_cons, wordAs, matched, flatMap_singleton, seq_cons,
      blanks_of_single (by decide) begun', flatMap_singleton, seq_nil]
  have whole : ¬ ((strip rest).toList = [] ∨ '\n' ∈ (strip rest).toList) := by
    rintro (none | inside)
    · exact strip_filled begun filled (String.toList_eq_nil_iff.mp none)
    · exact strip_oneLine begun oneLine inside
  rw [descriptionText, places, head?_cons, Option.bind_some, if_neg whole,
    String.ofList_toList, strip_strip]

theorem DescribeCommand.starts :
    "description".toList <+: (strip (letters.lower command)).toList := by
  obtain ⟨rfl, -, -, -⟩ := describes
  have plain := lawful.starts "description" (" " ++ rest) (by decide)
  have same : (lowered "description").toList = "descriptio".toList ++ ['n'] := by decide +kernel
  have split : "description " ++ rest = "description" ++ (" " ++ rest) := by
    rw [← String.append_assoc]
    rfl
  rw [← split, same] at plain
  have begun : Begun (letters.lower ("description " ++ rest)).toList := by
    obtain ⟨later, shape⟩ := plain
    rw [← shape]
    rintro _ ⟨⟩
    decide
  rw [toList_strip_of_begun begun]
  exact prefix_rdropWhile (by decide) plain

end

theorem config_describing {device : Device (Switch Other)} {name command text : String}
    (selected : Selected device name) (read : descriptionText base.letters command = some text) :
    (describingHandlers base).config command device =
      ("", { device with rest := device.rest.describe name text }) := by
  simp only [describingHandlers, selected.current, read]
  exact if_pos ⟨selected.mode, selected.named⟩

theorem descriptionAfter_of_command (lawful : base.letters.Lawful) {text rest name : String}
    {device : Device (Switch Other)} (describes : Describes device.deviceType line text)
    (selected : Selected device name) (noHelp : '?' ∉ text.toList)
    (spelledOut : DescribeCommand (commandOf base line device) rest) :
    descriptionAfter base line device name = some (.text (strip rest)) := by
  have commands : Commands line := by
    rw [Commands, describes.strip_line]
    refine ⟨fun empty => ?_, fun inside => ?_⟩
    · exact absurd (String.append_eq_empty_iff.mp empty).1 (by decide)
    · rw [String.toList_append] at inside
      rcases mem_append.mp inside with front | back
      · exact absurd front (by decide)
      · rw [toList_strip_of_begun describes.begun] at back
        exact noHelp (( rdropWhile_prefix isSpace _).subset back)
  have begins : "description".toList <+: (spelled base line device).toList :=
    spelledOut.starts lawful
  have valid : validateCommand base.letters device.deviceType device.mode
      (spelled base line device) = none := by
    refine validateCommand_of_foreign (foreign_of_start begins (by decide +kernel)) ?_
    rw [selected.mode]
    decide
  have unstored : channelGroup base.letters (spelled base line device) = none := by
    have apart : Foreign checkedStarts (spelled base line device) :=
      foreign_of_start begins (by decide +kernel)
    rw [channelGroup, numberAfter_of_not_match (apart.isMatch (by decide : "channel-group" ∈ _) _)]
    rfl
  have same : groupJoined (describingHandlers base) (spelled (describingHandlers base) line device)
      device = device := by
    have none : channelGroup (describingHandlers base).letters
        (spelled (describingHandlers base) line device) = none := unstored
    rw [groupJoined, none]
  have accepted : validateCommand (describingHandlers base).letters device.deviceType device.mode
      (spelled (describingHandlers base) line device) = none := valid
  have foreign : Foreign commandStarts (spelled (describingHandlers base) line device) :=
    foreign_of_start begins (by decide +kernel)
  have configuring : device.mode ∈ configModes := by
    rw [selected.mode]
    decide +kernel
  have unstaged : device.mode ≠ "config-tftp-file" := by
    rw [selected.mode]
    decide
  have read : descriptionText base.letters (commandOf (describingHandlers base) line device) =
      some (strip rest) := spelledOut.read lawful
  rw [descriptionAfter, process_of_commands _ commands, accepted]
  dsimp only
  rw [same, runValid_of_foreign foreign _ describes.ordinary configuring unstaged,
    config_describing selected read]
  dsimp only [Switch.describe]
  rw [OrderedMap.lookup_insert_self, Option.bind_some, OrderedMap.lookup_insert_self]

theorem Describes.freeText (lawful : letters.Lawful) (describes : Describes deviceType line text) :
    freeText (opensText letters) line = some text := by
  rw [describes.line, description_append]
  exact freeText_of_first description_solid (lower_description lawful) describes.begun

theorem Careful.spelledOut (lawful : letters.Lawful) (careful : Careful letters deviceType line)
    (describes : Describes deviceType line text) :
    expandAbbreviation letters (strip line) deviceType = line := by
  obtain ⟨-, trimmed⟩ := careful.shown text describes
  have whole : strip line = line := by
    rw [describes.strip_line, trimmed, describes.line]
  rw [whole]
  by_cases exempt : Exempt letters deviceType line
  · exact expandAbbreviation_of_exempt exempt
  obtain ⟨spaced, chain⟩ :=
    (careful.text.resolve_left exempt) text (describes.freeText lawful)
  have opens := lower_description lawful
  have shape : words line = "description" :: words text := by
    rw [describes.line, description_append]
    exact words_append description_solid text
  have same : expandRest letters ["description"] (words text) = ["description"] ++ words text := by
    refine (expandRest_eq_iff lawful ?_ (fun _ => solid_of_mem_words) opens mem_cons_self
      rfl).mpr ((isChain_opensText opens _).mpr chain)
    intro word inside
    rw [mem_singleton.mp inside]
    exact description_solid
  have more : words text ≠ [] := by
    intro none
    rw [none] at spaced
    exact describes.filled spaced.symm
  rw [expandAbbreviation_of_cons exempt shape, expandFirst_of_opensText opens, same, describes.line]
  calc
    unwords ("description" :: words text)
      = "description" ++ " " ++ unwords (words text) := unwords_cons more
    _ = "description " ++ text := by rw [spaced, description_append]

/-- A device on which an interface is selected and nothing is stored. -/
def selectedDevice (deviceType : String) (other : Other) : Device (Switch Other) :=
  ⟨"config-if", deviceType, none, none, ⟨.empty, .empty, some "lan0", none, .empty, other⟩⟩

theorem selectedDevice_selected (deviceType : String) (other : Other) :
    Selected (selectedDevice deviceType other) "lan0" := ⟨rfl, rfl, by decide⟩

/-- Lines are spelled out conservatively exactly if their free text and their descriptions are
written with care. -/
theorem conservative_iff [Inhabited Other] (base : Handlers (Switch Other))
    (lawful : base.letters.Lawful) (deviceType line : String) :
    Conservative base deviceType line ↔ Careful base.letters deviceType line := by
  constructor
  · intro conservative
    refine ⟨?_, fun text describes => ?_⟩
    · by_cases exempt : Exempt base.letters deviceType line
      · exact .inl exempt
      · exact .inr fun text found => (text_kept_iff lawful exempt found).mp
          ⟨conservative.tokens text found, conservative.spacing text found⟩
    · have stored := conservative.described text describes (selectedDevice deviceType default) rfl
        "lan0" (selectedDevice_selected deviceType default)
      by_cases help : '?' ∈ text.toList
      · have idle : ¬ Commands line := by
          intro commands
          refine commands.2 ?_
          rw [describes.strip_line, String.toList_append]
          exact mem_append_right _ (mem_strip describes.begun help (by decide))
        obtain ⟨reply, kept⟩ := process_of_not_commands (describingHandlers base) idle
          (selectedDevice deviceType default)
        rw [descriptionAfter, kept] at stored
        cases stored
      · refine ⟨help, ?_⟩
        obtain ⟨rest, spelledOut⟩ := describes.commandOf lawful
        rw [descriptionAfter_of_command lawful describes
          (selectedDevice_selected deviceType default) help spelledOut] at stored
        rw [← Setting.text.inj (Option.some.inj stored), strip_strip]
  · intro careful
    have kept : ∀ text, freeText (opensText base.letters) line = some text →
        words text <:+ words (expandAbbreviation base.letters line deviceType) ∧
          text.toList <:+ (expandAbbreviation base.letters line deviceType).toList := by
      intro text found
      by_cases exempt : Exempt base.letters deviceType line
      · exact text_kept_of_exempt exempt found
      · exact (text_kept_iff lawful exempt found).mpr
          ((careful.text.resolve_left exempt) text found)
    refine ⟨expandAbbreviation_idempotent lawful deviceType line,
      fun text found => (kept text found).1, fun text found => (kept text found).2, ?_⟩
    · rintro text describes device rfl name selected
      obtain ⟨noHelp, trimmed⟩ := careful.shown text describes
      have spelledOut : DescribeCommand (commandOf base line device) text := by
        refine ⟨?_, describes.begun, describes.filled, describes.oneLine⟩
        rw [commandOf, careful.spelledOut lawful describes]
        exact describes.line
      rw [descriptionAfter_of_command lawful describes selected noHelp spelledOut, trimmed]

end Descriptions

/-! ## Plain letters -/

theorem isSpace_of_small {char : Char} (low : 97 ≤ char.toNat) (high : char.toNat ≤ 122) :
    isSpace char = false := by
  simp only [isSpace, Bool.or_eq_false_iff, Bool.and_eq_false_iff, decide_eq_false_iff_not,
    beq_eq_false_iff_ne]
  omega

theorem isSpace_toLower {char : Char} (visible : isSpace char = false) :
    isSpace char.toLower = false := by
  delta Char.toLower
  split
  · rename_i upper
    have low : 65 ≤ char.val.toNat := upper.1
    have high : char.val.toNat ≤ 90 := upper.2
    have code : (char.val + ('a'.val - 'A'.val)).toNat = char.val.toNat + 32 := by
      have shift : ('a'.val - 'A'.val).toNat = 32 := by decide
      rw [UInt32.toNat_add, shift]
      omega
    refine isSpace_of_small ?_ ?_
    · change 97 ≤ (char.val + ('a'.val - 'A'.val)).toNat
      omega
    · change (char.val + ('a'.val - 'A'.val)).toNat ≤ 122
      omega
  · exact visible

theorem plainLetters_lawful : plainLetters.Lawful where
  blank first second := by simp [plainLetters, String.append_assoc]
  solid word solid := by
    refine ⟨fun empty => solid.1 ?_, fun char inside => ?_⟩
    · simpa [plainLetters] using congrArg String.toList empty
    · rw [plainLetters, String.toList_ofList] at inside
      obtain ⟨origin, here, rfl⟩ := mem_map.mp inside
      exact isSpace_toLower (solid.2 origin here)
  plain _ _ := rfl
  starts start rest _ := by
    rw [lowered, plainLetters, String.toList_ofList, String.toList_ofList, String.toList_append,
      map_append]
    exact prefix_append ..
  alike char := decide_eq_true rfl

instance (letters : Letters) : DecidableRel (Fixed letters) := fun previous word =>
  inferInstanceAs (Decidable (expandAfter letters (letters.lower previous) word = word))

theorem uplink_conservative : Conservative silentBase "catalyst" "description uplink to core" := by
  have found : freeText (opensText plainLetters) "description uplink to core" =
      some "uplink to core" := by decide +kernel
  refine (conservative_iff silentBase plainLetters_lawful _ _).mpr ⟨.inr ?_, ?_⟩
  · intro text here
    cases found.symm.trans here
    exact ⟨by decide +kernel, by decide +kernel⟩
  · intro text describes
    cases found.symm.trans (describes.freeText plainLetters_lawful)
    exact ⟨by decide +kernel, by decide +kernel⟩

theorem interface_in_text_changed :
    ¬ Conservative silentBase "catalyst" "description interface gi1/0/1" := by
  intro conservative
  have kept := conservative.tokens "interface gi1/0/1" (by decide +kernel)
  exact absurd kept (by decide +kernel)

end NetLab.Cli
