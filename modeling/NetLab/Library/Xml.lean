import Mathlib.Data.List.Infix

/-!
# Reading elements

A reader for elements with attributes, references, comments and literal sections. Elements that are
written without any escaping are read back if their texts are plain.
-/

namespace NetLab.Library.Xml

open List Option

/-! ## Characters -/

/-- Characters that may stand in a document. -/
def isXmlChar (char : Char) : Bool :=
  let code := char.toNat
  code == 9 || code == 10 || code == 13 || (0x20 ≤ code && code ≤ 0xd7ff) ||
    (0xe000 ≤ code && code ≤ 0xfffd) || 0x10000 ≤ code

def isBlank (char : Char) : Bool := char = ' ' || char = '\t' || char = '\n' || char = '\r'

/-- Ranges of characters that start a name. -/
def nameStarts : List (Nat × Nat) :=
  [(0x3a, 0x3a), (0x41, 0x5a), (0x5f, 0x5f), (0x61, 0x7a), (0xc0, 0xd6), (0xd8, 0xf6),
    (0xf8, 0x2ff), (0x370, 0x37d), (0x37f, 0x1fff), (0x200c, 0x200d), (0x2070, 0x218f),
    (0x2c00, 0x2fef), (0x3001, 0xd7ff), (0xf900, 0xfdcf), (0xfdf0, 0xfffd), (0x10000, 0xeffff)]

/-- Ranges of the other characters of a name. -/
def nameOthers : List (Nat × Nat) :=
  [(0x2d, 0x2e), (0x30, 0x39), (0xb7, 0xb7), (0x300, 0x36f), (0x203f, 0x2040)]

def inRanges (ranges : List (Nat × Nat)) (char : Char) : Bool :=
  ranges.any fun range => range.1 ≤ char.toNat && char.toNat ≤ range.2

def isNameStart (char : Char) : Bool := inRanges nameStarts char

def isNameChar (char : Char) : Bool := isNameStart char || inRanges nameOthers char

/-! ## Elements -/

/-- An element with its attributes, the text before its first child, and its children. -/
inductive Node where
  | node (name : String) (attributes : List (String × String)) (text : String)
      (children : List Node)

namespace Node

def name : Node → String
  | node name _ _ _ => name

def text : Node → String
  | node _ _ text _ => text

def children : Node → List Node
  | node _ _ _ children => children

def child (element : Node) (name : String) : Option Node :=
  element.children.find? fun child => child.name = name

def childrenNamed (element : Node) (name : String) : List Node :=
  element.children.filter fun child => child.name = name

end Node

def renderAttribute (entry : String × String) : List Char :=
  ' ' :: (entry.1.toList ++ '=' :: '"' :: (entry.2.toList ++ ['"']))

mutual

/-- An element as it is written, without escaping. -/
def render : Node → List Char
  | .node name attributes text children =>
    '<' :: (name.toList ++ (attributes.flatMap renderAttribute ++ '>' :: (text.toList ++
      (renderAll children ++ '<' :: '/' :: (name.toList ++ ['>'])))))

def renderAll : List Node → List Char
  | [] => []
  | child :: rest => render child ++ renderAll rest

end

/-! ## The reader -/

def reference (name : List Char) : Option Char :=
  if name = "lt".toList then some '<'
  else if name = "gt".toList then some '>'
  else if name = "amp".toList then some '&'
  else if name = "quot".toList then some '"'
  else if name = "apos".toList then some '\''
  else
    let number : Option Nat :=
      match name with
      | '#' :: 'x' :: digits =>
        if digits ≠ [] ∧ digits.all (fun digit => digit.isDigit ||
            ('a' ≤ digit.toLower && digit.toLower ≤ 'f')) then
          some (digits.foldl (fun value digit => 16 * value +
            if digit.isDigit then digit.toNat - '0'.toNat
            else digit.toLower.toNat - 'a'.toNat + 10) 0)
        else none
      | '#' :: digits =>
        if digits ≠ [] ∧ digits.all Char.isDigit then
          some (digits.foldl (fun value digit => 10 * value + (digit.toNat - '0'.toNat)) 0)
        else none
      | _ => none
    (number.map Char.ofNat).filter fun char =>
      isXmlChar char && decide (some char.toNat = number)

def unescape (text : List Char) : Option (List Char) :=
  go none text
where
  go : Option (List Char) → List Char → Option (List Char)
    | none, [] => some []
    | some _, [] => none
    | none, '&' :: rest => go (some []) rest
    | none, char :: rest => (go none rest).map (char :: ·)
    | some name, ';' :: rest =>
      (reference name.reverse).bind fun char => (go none rest).map (char :: ·)
    | some name, char :: rest => go (some (char :: name)) rest

structure Tag where
  name : String
  attributes : List (String × String)

/-- An element whose end tag is still to come. Its children are kept in reverse. -/
structure Frame where
  tag : Tag
  text : List Char
  children : List Node

/-- Where in a document the reader is. Characters since then are kept in reverse. -/
inductive Mode where
  | content (pending : List Char)
  | opening
  | name (letters : List Char)
  | gap (tag : Tag)
  | key (tag : Tag) (letters : List Char)
  | keyGap (tag : Tag) (key : String)
  | equals (tag : Tag) (key : String)
  | value (tag : Tag) (key : String) (quote : Char) (letters : List Char)
  | finished (tag : Tag)
  | slash (tag : Tag)
  | closing (letters : List Char)
  | special (letters : List Char)

structure Reader where
  mode : Mode
  frames : List Frame
  root : Option Node

/-- Add a text to the innermost element. Behind its first child it is dropped. -/
def addText (text : List Char) (reader : Reader) : Option Reader :=
  match reader.frames with
  | [] => if text.all isBlank then some reader else none
  | frame :: rest =>
    some (if frame.children.isEmpty then
      { reader with frames := { frame with text := frame.text ++ text } :: rest } else reader)

/-- The characters before some markup are complete. -/
def flush (pending : List Char) (reader : Reader) : Option Reader :=
  if "]]>".toList <:+: pending.reverse then none
  else (unescape pending.reverse).bind fun text => addText text reader

/-- An element is complete. -/
def addNode (node : Node) (reader : Reader) : Option Reader :=
  match reader.frames with
  | [] => if reader.root.isSome then none else some { reader with root := some node }
  | frame :: rest =>
    some { reader with frames := { frame with children := node :: frame.children } :: rest }

/-- A start tag is complete. -/
def openTag (tag : Tag) (reader : Reader) : Option Reader :=
  if reader.frames.isEmpty ∧ reader.root.isSome then none
  else some { reader with mode := .content [], frames := ⟨tag, [], []⟩ :: reader.frames }

/-- The innermost element ends. -/
def closeTag (reader : Reader) : Option Reader :=
  match reader.frames with
  | [] => none
  | frame :: rest =>
    addNode (.node frame.tag.name frame.tag.attributes (String.ofList frame.text)
      frame.children.reverse) { reader with mode := .content [], frames := rest }

def endTag (name : String) (reader : Reader) : Option Reader :=
  if (reader.frames.head?.map fun frame => frame.tag.name) = some name then closeTag reader
  else none

/-- A character in a start tag behind the name or an attribute. -/
def inTag (tag : Tag) (char : Char) (reader : Reader) : Option Reader :=
  if isBlank char then some { reader with mode := .gap tag }
  else if char = '/' then some { reader with mode := .slash tag }
  else if char = '>' then openTag tag reader
  else none

/-- The end of a comment, a literal section or an instruction. -/
def endSpecial (letters : List Char) (reader : Reader) : Option Reader :=
  let text := letters.reverse
  if "!--".toList <+: text then
    if "--".toList <:+ text.drop 3 ∧ ¬ "--".toList <:+: (text.drop 3).dropLast then
      some { reader with mode := .content [] }
    else some { reader with mode := .special ('>' :: letters) }
  else if "![CDATA[".toList <+: text ∧ "]]".toList <:+ text.drop 8 then
    (addText ((text.drop 8).take (text.length - 10)) reader).map fun added =>
      { added with mode := .content [] }
  else if "?".toList <+: text ∧ "?".toList <:+ text.drop 1 then
    some { reader with mode := .content [] }
  else some { reader with mode := .special ('>' :: letters) }

def step (reader : Reader) (char : Char) : Option Reader :=
  if !isXmlChar char then none
  else
    match reader.mode with
    | .content pending =>
      if char = '<' then
        (flush pending reader).map fun flushed => { flushed with mode := .opening }
      else some { reader with mode := .content (char :: pending) }
    | .opening =>
      if char = '/' then some { reader with mode := .closing [] }
      else if char = '!' ∨ char = '?' then some { reader with mode := .special [char] }
      else if isNameStart char then some { reader with mode := .name [char] }
      else none
    | .name letters =>
      if isNameChar char then some { reader with mode := .name (char :: letters) }
      else inTag ⟨String.ofList letters.reverse, []⟩ char reader
    | .gap tag =>
      if isNameStart char then some { reader with mode := .key tag [char] }
      else inTag tag char reader
    | .key tag letters =>
      if isNameChar char then some { reader with mode := .key tag (char :: letters) }
      else if char = '=' then
        some { reader with mode := .equals tag (String.ofList letters.reverse) }
      else if isBlank char then
        some { reader with mode := .keyGap tag (String.ofList letters.reverse) }
      else none
    | .keyGap tag key =>
      if char = '=' then some { reader with mode := .equals tag key }
      else if isBlank char then some reader
      else none
    | .equals tag key =>
      if char = '"' ∨ char = '\'' then some { reader with mode := .value tag key char [] }
      else if isBlank char then some reader
      else none
    | .value tag key quote letters =>
      if char = quote then
        if key ∈ tag.attributes.map Prod.fst then none
        else
          (unescape letters.reverse).map fun value =>
            { reader with
              mode := .finished ⟨tag.name, tag.attributes ++ [(key, String.ofList value)]⟩ }
      else if char = '<' then none
      else
        some { reader with
          mode := .value tag key quote ((if isBlank char then ' ' else char) :: letters) }
    | .finished tag => inTag tag char reader
    | .slash tag => if char = '>' then (openTag tag reader).bind closeTag else none
    | .closing letters =>
      if char = '>' then endTag (String.ofList (letters.dropWhile isBlank).reverse) reader
      else some { reader with mode := .closing (char :: letters) }
    | .special letters =>
      if char = '>' then endSpecial letters reader
      else some { reader with mode := .special (char :: letters) }

/-- A carriage return, with a line feed after it or not, is a line feed. -/
def normalizeEnds : List Char → List Char
  | [] => []
  | '\r' :: '\n' :: rest => '\n' :: normalizeEnds rest
  | '\r' :: rest => '\n' :: normalizeEnds rest
  | char :: rest => char :: normalizeEnds rest

def readFrom (reader : Reader) (chars : List Char) : Option Reader := chars.foldlM step reader

/-- The document is complete. -/
def finish (reader : Reader) : Option Node :=
  match reader.mode, reader.frames with
  | .content pending, [] => (flush pending reader).bind Reader.root
  | _, _ => none

/-- The element in a document. There is none if the document is not well formed. -/
def readXml (text : List Char) : Option Node :=
  (readFrom ⟨.content [], [], none⟩ (normalizeEnds text)).bind finish

/-! ## Plain texts -/

/-- A character that stands for itself. -/
def PlainChar (char : Char) : Prop :=
  isXmlChar char = true ∧ char ≠ '<' ∧ char ≠ '&' ∧ char ≠ '\r'

def PlainText (text : List Char) : Prop :=
  (∀ char ∈ text, PlainChar char) ∧ ¬ "]]>".toList <:+: text

def PlainValue (value : List Char) : Prop :=
  ∀ char ∈ value, PlainChar char ∧ char ≠ '"' ∧ char ≠ '\t' ∧ char ≠ '\n'

def PlainName : List Char → Prop
  | [] => False
  | first :: rest => isNameStart first = true ∧ ∀ char ∈ rest, isNameChar char = true

instance : DecidablePred PlainChar := fun _ => inferInstanceAs (Decidable (_ ∧ _))

instance : DecidablePred PlainText := fun text =>
  haveI : Decidable (∀ char ∈ text, PlainChar char) := List.decidableBAll _ _
  inferInstanceAs (Decidable (_ ∧ _))

instance : DecidablePred PlainValue := fun value =>
  List.decidableBAll (fun char => PlainChar char ∧ char ≠ '"' ∧ char ≠ '\t' ∧ char ≠ '\n') value

instance : DecidablePred PlainName
  | [] => isFalse id
  | _ :: rest =>
    haveI : Decidable (∀ char ∈ rest, isNameChar char = true) := List.decidableBAll _ _
    inferInstanceAs (Decidable (_ ∧ _))

mutual

/-- All names, texts and values in an element stand for themselves. -/
def Node.Plain : Node → Prop
  | .node name attributes text children =>
    PlainName name.toList ∧
      (∀ entry ∈ attributes, PlainName entry.1.toList ∧ PlainValue entry.2.toList) ∧
      (attributes.map Prod.fst).Nodup ∧ PlainText text.toList ∧ AllPlain children

def AllPlain : List Node → Prop
  | [] => True
  | child :: rest => child.Plain ∧ AllPlain rest

end

variable {char : Char} (reader : Reader)

theorem xmlChar_of_nameStart (start : isNameStart char = true) : isXmlChar char = true := by
  simp only [isNameStart, inRanges, nameStarts, List.any_cons, List.any_nil, Bool.or_false,
    Bool.or_eq_true, Bool.and_eq_true, decide_eq_true_eq] at start
  simp only [isXmlChar, Bool.or_eq_true, Bool.and_eq_true, decide_eq_true_eq, beq_iff_eq]
  omega

theorem xmlChar_of_nameChar (inName : isNameChar char = true) : isXmlChar char = true := by
  rw [isNameChar, Bool.or_eq_true] at inName
  rcases inName with start | other
  · exact xmlChar_of_nameStart start
  · simp only [inRanges, nameOthers, List.any_cons, List.any_nil, Bool.or_false,
      Bool.or_eq_true, Bool.and_eq_true, decide_eq_true_eq] at other
    simp only [isXmlChar, Bool.or_eq_true, Bool.and_eq_true, decide_eq_true_eq, beq_iff_eq]
    omega

theorem nameChar_of_nameStart (start : isNameStart char = true) : isNameChar char = true := by
  rw [isNameChar, start, Bool.true_or]

theorem PlainName.nameChar {name : List Char} (plain : PlainName name) :
    ∀ char ∈ name, isNameChar char = true := by
  cases name with
  | nil => exact plain.elim
  | cons first rest =>
    rw [List.forall_mem_cons]
    exact ⟨nameChar_of_nameStart plain.1, plain.2⟩

theorem ne_of_nameChar {other : Char} (inName : isNameChar char = true)
    (outside : isNameChar other = false) : char ≠ other := by
  rintro rfl
  rw [inName] at outside
  cases outside

theorem not_blank_of_nameChar (inName : isNameChar char = true) : isBlank char = false := by
  simp [isBlank, ne_of_nameChar inName (show isNameChar ' ' = false by decide),
    ne_of_nameChar inName (show isNameChar '\t' = false by decide),
    ne_of_nameChar inName (show isNameChar '\n' = false by decide),
    ne_of_nameChar inName (show isNameChar '\r' = false by decide)]

theorem unescape_plain {text : List Char} (plain : ∀ char ∈ text, char ≠ '&') :
    unescape text = some text := by
  rw [unescape]
  induction text with
  | nil => rfl
  | cons first rest ih =>
    rw [List.forall_mem_cons] at plain
    rw [unescape.go, ih plain.2]
    · rfl
    · exact fun same => plain.1 same

theorem readFrom_cons (char : Char) (rest : List Char) :
    readFrom reader (char :: rest) = (step reader char).bind fun next => readFrom next rest := rfl

theorem readFrom_append (first second : List Char) : readFrom reader (first ++ second) =
      (readFrom reader first).bind fun next => readFrom next second :=
  List.foldlM_append

theorem readFrom_singleton (char : Char) : readFrom reader [char] = step reader char := by
  rw [readFrom_cons]
  cases step reader char with
  | none => rfl
  | some next => rfl

/-! ## Steps -/

section Steps

variable {frames : List Frame} {root : Option Node}

theorem read_run (mode : List Char → Mode) {keeps : Char → Prop} (one : ∀ before char, keeps char →
      step ⟨mode before, frames, root⟩ char = some ⟨mode (char :: before), frames, root⟩)
    {text : List Char} (kept : ∀ char ∈ text, keeps char) (before : List Char) :
    readFrom ⟨mode before, frames, root⟩ text =
      some ⟨mode (text.reverse ++ before), frames, root⟩ := by
  induction text generalizing before with
  | nil => rfl
  | cons first rest ih =>
    rw [List.forall_mem_cons] at kept
    rw [readFrom_cons, one before first kept.1, Option.bind_some, ih kept.2,
      List.reverse_cons, List.append_assoc]
    rfl

theorem read_content {text : List Char} (plain : ∀ char ∈ text, PlainChar char)
    (pending : List Char) :
    readFrom ⟨.content pending, frames, root⟩ text =
      some ⟨.content (text.reverse ++ pending), frames, root⟩ := by
  refine read_run Mode.content (fun before char plain => ?_) plain pending
  simp [step, plain.1, plain.2.1]

section

variable {letters : List Char} (plain : ∀ char ∈ letters, isNameChar char = true)
include plain

theorem read_name (before : List Char) : readFrom ⟨.name before, frames, root⟩ letters =
      some ⟨.name (letters.reverse ++ before), frames, root⟩ := by
  refine read_run Mode.name (fun before char inName => ?_) plain before
  simp [step, inName, xmlChar_of_nameChar inName]

theorem read_key (tag : Tag) (before : List Char) :
    readFrom ⟨.key tag before, frames, root⟩ letters =
      some ⟨.key tag (letters.reverse ++ before), frames, root⟩ := by
  refine read_run (Mode.key tag) (fun before char inName => ?_) plain before
  simp [step, inName, xmlChar_of_nameChar inName]

theorem read_closing (before : List Char) : readFrom ⟨.closing before, frames, root⟩ letters =
      some ⟨.closing (letters.reverse ++ before), frames, root⟩ := by
  refine read_run Mode.closing (fun before char inName => ?_) plain before
  simp [step, xmlChar_of_nameChar inName, ne_of_nameChar inName
    (show isNameChar '>' = false by decide)]

end

theorem read_value {value : List Char} (plain : PlainValue value) (tag : Tag) (key : String)
    (before : List Char) :
    readFrom ⟨.value tag key '"' before, frames, root⟩ value =
      some ⟨.value tag key '"' (value.reverse ++ before), frames, root⟩ := by
  refine read_run (Mode.value tag key '"') (fun before char plain => ?_) plain before
  obtain ⟨⟨legal, notStart, -, notReturn⟩, notQuote, notTab, notLine⟩ := plain
  by_cases space : char = ' '
  · subst space
    simp [step, isBlank, legal]
  · simp [step, legal, notStart, notQuote, isBlank, space, notTab, notLine, notReturn]

theorem read_attribute {key value : String} (plainKey : PlainName key.toList)
    (plainValue : PlainValue value.toList) {tag : Tag} (new : key ∉ tag.attributes.map Prod.fst) :
    readFrom ⟨.finished tag, frames, root⟩ (renderAttribute (key, value)) =
      some ⟨.finished ⟨tag.name, tag.attributes ++ [(key, value)]⟩, frames, root⟩ := by
  have blank : step ⟨.finished tag, frames, root⟩ ' ' = some ⟨.gap tag, frames, root⟩ := rfl
  rw [renderAttribute, readFrom_cons, blank, bind_some]
  cases letters : key.toList with
  | nil =>
    rw [letters] at plainKey
    exact plainKey.elim
  | cons first rest =>
    rw [letters] at plainKey
    have start : step ⟨.gap tag, frames, root⟩ first = some ⟨.key tag [first], frames, root⟩ := by
      simp [step, plainKey.1, xmlChar_of_nameStart plainKey.1]
    have equals : step ⟨.key tag (rest.reverse ++ [first]), frames, root⟩ '=' =
        some ⟨.equals tag key, frames, root⟩ := by
      have outside : isNameChar '=' = false := by decide
      have legal : isXmlChar '=' = true := by decide
      have same : String.ofList (rest.reverse ++ [first]).reverse = key := by
        rw [reverse_append, reverse_reverse, reverse_singleton,
          singleton_append, ← letters, String.ofList_toList]
      simp [step, outside, legal, ← same]
    have quote : step ⟨.equals tag key, frames, root⟩ '"' =
        some ⟨.value tag key '"' [], frames, root⟩ := rfl
    have ends : step ⟨.value tag key '"' (value.toList.reverse ++ []), frames, root⟩ '"' =
        some ⟨.finished ⟨tag.name, tag.attributes ++ [(key, value)]⟩, frames, root⟩ := by
      have decoded : unescape value.toList = some value.toList :=
        unescape_plain fun char inside => (plainValue char inside).1.2.2.1
      have legal : isXmlChar '"' = true := by decide
      simp only [step, legal, Bool.not_true, if_true, if_neg new, append_nil,
        reverse_reverse, decoded, map_some, String.ofList_toList]
      rfl
    rw [cons_append, readFrom_cons, start, bind_some, readFrom_append,
      read_key plainKey.2, bind_some, readFrom_cons, equals, bind_some,
      readFrom_cons, quote, bind_some, readFrom_append, read_value plainValue,
      bind_some, readFrom_singleton, ends]

theorem read_attributes {attributes : List (String × String)} {tag : Tag}
    (plain : ∀ entry ∈ attributes, PlainName entry.1.toList ∧ PlainValue entry.2.toList)
    (distinct : ((tag.attributes ++ attributes).map Prod.fst).Nodup) :
    readFrom ⟨.finished tag, frames, root⟩ (attributes.flatMap renderAttribute) =
      some ⟨.finished ⟨tag.name, tag.attributes ++ attributes⟩, frames, root⟩ := by
  induction attributes generalizing tag with
  | nil =>
    rw [append_nil]
    rfl
  | cons entry rest ih =>
    rw [forall_mem_cons] at plain
    have regroup : tag.attributes ++ entry :: rest = (tag.attributes ++ [entry]) ++ rest := by
      rw [append_assoc]
      rfl
    have new : entry.1 ∉ tag.attributes.map Prod.fst := by
      rw [map_append, map_cons, nodup_append] at distinct
      intro inside
      exact distinct.2.2 _ inside _ mem_cons_self rfl
    rw [flatMap_cons, readFrom_append, read_attribute plain.1.1 plain.1.2 new,
      bind_some, ih plain.2 (by rw [← regroup]; exact distinct), regroup]

theorem step_name {letters : List Char} (outside : isNameChar char = false) :
    step ⟨.name letters, frames, root⟩ char =
      step ⟨.finished ⟨String.ofList letters.reverse, []⟩, frames, root⟩ char := by
  simp [step, outside, inTag, openTag]

theorem read_startTag {name : String} {attributes : List (String × String)}
    (plainName : PlainName name.toList)
    (plain : ∀ entry ∈ attributes, PlainName entry.1.toList ∧ PlainValue entry.2.toList)
    (distinct : (attributes.map Prod.fst).Nodup) :
    readFrom ⟨.opening, frames, root⟩
        (name.toList ++ (attributes.flatMap renderAttribute ++ ['>'])) =
      openTag ⟨name, attributes⟩ ⟨.opening, frames, root⟩ := by
  cases letters : name.toList with
  | nil =>
    rw [letters] at plainName
    exact plainName.elim
  | cons first rest =>
    rw [letters] at plainName
    have start : step ⟨.opening, frames, root⟩ first = some ⟨.name [first], frames, root⟩ := by
      have inName := nameChar_of_nameStart plainName.1
      simp [step, plainName.1, xmlChar_of_nameStart plainName.1,
        ne_of_nameChar inName (show isNameChar '/' = false by decide),
        ne_of_nameChar inName (show isNameChar '!' = false by decide),
        ne_of_nameChar inName (show isNameChar '?' = false by decide)]
    have same : String.ofList (rest.reverse ++ [first]).reverse = name := by
      rw [reverse_append, reverse_reverse, reverse_singleton,
        singleton_append, ← letters, String.ofList_toList]
    -- Behind the name comes a blank or the end of the tag.
    have behind : ∀ tail : List Char, tail = attributes.flatMap renderAttribute ++ ['>'] →
        readFrom ⟨.name (rest.reverse ++ [first]), frames, root⟩ tail =
          readFrom ⟨.finished ⟨name, []⟩, frames, root⟩ tail := by
      intro tail shape
      have blank : isNameChar ' ' = false := by decide
      have greater : isNameChar '>' = false := by decide
      cases attributes with
      | nil => rw [shape, flatMap_nil, nil_append, readFrom_cons, readFrom_cons,
          step_name greater, same]
      | cons entry others => rw [shape, flatMap_cons, renderAttribute, cons_append,
          cons_append, readFrom_cons, readFrom_cons, step_name blank, same]
    have ends : step ⟨.finished ⟨name, attributes⟩, frames, root⟩ '>' =
        openTag ⟨name, attributes⟩ ⟨.opening, frames, root⟩ := rfl
    rw [cons_append, readFrom_cons, start, bind_some, readFrom_append,
      read_name plainName.2, bind_some, behind _ rfl, readFrom_append,
      read_attributes plain (by exact distinct), bind_some, readFrom_singleton]
    exact ends

theorem read_endTag {name : String} (plainName : PlainName name.toList) :
    readFrom ⟨.closing [], frames, root⟩ (name.toList ++ ['>']) =
      endTag name ⟨.closing name.toList.reverse, frames, root⟩ := by
  have trimmed : (name.toList.reverse).dropWhile isBlank = name.toList.reverse := by
    cases letters : name.toList.reverse with
    | nil => rfl
    | cons last others =>
      have inside : last ∈ name.toList := by
        rw [← mem_reverse, letters]
        exact mem_cons_self
      have notBlank := not_blank_of_nameChar (plainName.nameChar last inside)
      rw [dropWhile_cons_of_neg (by rw [notBlank]; exact Bool.false_ne_true)]
  have legal : isXmlChar '>' = true := by decide
  rw [readFrom_append, read_closing plainName.nameChar, bind_some, readFrom_singleton, append_nil]
  simp [step, legal, trimmed]

/-- The characters before the next markup complete to these elements. -/
def Settles (reader : Reader) (frames : List Frame) (root : Option Node) : Prop :=
  ∃ pending before, reader = ⟨.content pending, before, root⟩ ∧
    flush pending reader = some ⟨.content pending, frames, root⟩

theorem Settles.opening {reader : Reader} (settles : Settles reader frames root) :
    step reader '<' = some ⟨.opening, frames, root⟩ := by
  obtain ⟨pending, before, rfl, flushed⟩ := settles
  have legal : isXmlChar '<' = true := by decide
  simp [step, legal, flushed]

/-- Nothing is pending inside an element with children. -/
theorem settles_children {frame : Frame} (parent : frame.children ≠ []) :
    Settles ⟨.content [], frame :: frames, root⟩ (frame :: frames) root := by
  refine ⟨[], frame :: frames, rfl, ?_⟩
  have filled : frame.children.isEmpty = false := by
    rw [isEmpty_eq_false_iff]
    exact parent
  have decoded : unescape [] = some [] := rfl
  simp [flush, decoded, addText, filled]

theorem settles_text {text : List Char} (plain : PlainText text) (tag : Tag) :
    Settles ⟨.content text.reverse, ⟨tag, [], []⟩ :: frames, root⟩
      (⟨tag, text, []⟩ :: frames) root := by
  refine ⟨text.reverse, ⟨tag, [], []⟩ :: frames, rfl, ?_⟩
  have decoded : unescape text = some text := unescape_plain fun char inside =>
    (plain.1 char inside).2.2.1
  rw [flush, reverse_reverse, if_neg plain.2, decoded, bind_some]
  rfl

end Steps

/-! ## Reading what is written -/

theorem render_eq (name : String) (attributes : List (String × String)) (text : String)
    (children : List Node) :
    render (.node name attributes text children) =
      '<' :: ((name.toList ++ (attributes.flatMap renderAttribute ++ ['>'])) ++ (text.toList ++
        (renderAll children ++ '<' :: '/' :: (name.toList ++ ['>'])))) := by
  simp [render]

mutual

theorem read_render : ∀ (node : Node), node.Plain → ∀ (reader : Reader) (frames : List Frame)
    (root : Option Node), Settles reader frames root → (frames ≠ [] ∨ root = none) →
      readFrom reader (render node) = addNode node ⟨.content [], frames, root⟩
  | .node name attributes text children, plain, reader, frames, root, settles, place => by
    obtain ⟨plainName, plainAttributes, distinct, plainText, plainChildren⟩ := plain
    have opens : openTag ⟨name, attributes⟩ ⟨.opening, frames, root⟩ =
        some ⟨.content [], ⟨⟨name, attributes⟩, [], []⟩ :: frames, root⟩ := by
      rw [openTag, if_neg]
      rintro ⟨outside, done⟩
      rcases place with inside | free
      · exact inside (isEmpty_iff.mp outside)
      · rw [free] at done
        cases done
    have settled : Settles ⟨.content (text.toList.reverse ++ []),
        ⟨⟨name, attributes⟩, [], []⟩ :: frames, root⟩
        (⟨⟨name, attributes⟩, text.toList, []⟩ :: frames) root := by
      rw [append_nil]
      exact settles_text plainText _
    obtain ⟨next, read, settledAll⟩ := read_renderAll children plainChildren _ _ _ _ settled
    have slash : step ⟨.opening, ⟨⟨name, attributes⟩, text.toList, children.reverse ++ []⟩ ::
        frames, root⟩ '/' = some ⟨.closing [],
          ⟨⟨name, attributes⟩, text.toList, children.reverse ++ []⟩ :: frames, root⟩ := rfl
    rw [render_eq, readFrom_cons, settles.opening, bind_some, readFrom_append,
      read_startTag plainName plainAttributes distinct, opens, bind_some,
      readFrom_append, read_content plainText.1, bind_some, readFrom_append, read,
      bind_some, readFrom_cons, settledAll.opening, bind_some, readFrom_cons,
      slash, bind_some, read_endTag plainName]
    simp [endTag, closeTag]

theorem read_renderAll : ∀ (children : List Node), AllPlain children → ∀ (reader : Reader)
    (frame : Frame) (rest : List Frame) (root : Option Node),
      Settles reader (frame :: rest) root → ∃ next,
        readFrom reader (renderAll children) = some next ∧
          Settles next ({ frame with children := children.reverse ++ frame.children } :: rest) root
  | [], _, reader, frame, rest, root, settles => ⟨reader, rfl, settles⟩
  | child :: others, plain, reader, frame, rest, root, settles => by
    have first := read_render child plain.1 reader (frame :: rest) root settles
      (.inl (cons_ne_nil _ _))
    obtain ⟨next, read, settledAll⟩ := read_renderAll others plain.2
      ⟨.content [], { frame with children := child :: frame.children } :: rest, root⟩ _ _ _
      (settles_children (cons_ne_nil _ _))
    refine ⟨next, ?_, ?_⟩
    · rw [renderAll, readFrom_append, first]
      exact read
    · rw [reverse_cons, append_assoc]
      exact settledAll

end

theorem normalizeEnds_eq {text : List Char} (plain : '\r' ∉ text) : normalizeEnds text = text := by
  induction text with
  | nil => rfl
  | cons first rest ih =>
    rw [mem_cons, not_or] at plain
    rw [normalizeEnds, ih plain.2]
    · exact fun _ same => absurd same.symm plain.1
    · exact fun same => plain.1 same.symm

theorem no_return_nameChar {name : List Char} (plain : PlainName name) : '\r' ∉ name := by
  intro inside
  exact absurd (plain.nameChar _ inside) (by decide)

mutual

theorem no_return_render : ∀ (node : Node), node.Plain → '\r' ∉ render node
  | .node name attributes text children, plain => by
    obtain ⟨plainName, plainAttributes, -, plainText, plainChildren⟩ := plain
    have inText : '\r' ∉ text.toList := fun inside => (plainText.1 _ inside).2.2.2 rfl
    have inAttributes : '\r' ∉ attributes.flatMap renderAttribute := by
      rw [mem_flatMap]
      rintro ⟨entry, listed, inside⟩
      have inKey := no_return_nameChar (plainAttributes entry listed).1
      have inValue : '\r' ∉ entry.2.toList := fun inside =>
        ((plainAttributes entry listed).2 _ inside).1.2.2.2 rfl
      simp [renderAttribute, inKey, inValue] at inside
    simp [render, no_return_nameChar plainName, inText, inAttributes,
      no_return_renderAll children plainChildren]

theorem no_return_renderAll : ∀ (children : List Node), AllPlain children →
    '\r' ∉ renderAll children
  | [], _ => not_mem_nil
  | child :: rest, plain => by
    rw [renderAll, mem_append, not_or]
    exact ⟨no_return_render child plain.1, no_return_renderAll rest plain.2⟩

end

theorem readXml_render {node : Node} (plain : node.Plain) : readXml (render node) = some node := by
  have settles : Settles ⟨.content [], [], none⟩ [] none := ⟨[], [], rfl, rfl⟩
  have added : addNode node ⟨.content [], [], none⟩ = some ⟨.content [], [], some node⟩ := rfl
  rw [readXml, normalizeEnds_eq (no_return_render node plain),
    read_render node plain _ _ _ settles (.inr rfl), added]
  rfl

end NetLab.Library.Xml
