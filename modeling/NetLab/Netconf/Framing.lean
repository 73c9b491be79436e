import Mathlib.Data.List.Infix
import NetLab.Library.Utf8
import NetLab.Snmp.ObjectIds

/-!
# Messages in chunks

A message is sent in chunks, each behind a header with its length. What has been received is kept in
a buffer, from which whole messages are taken. `serveChunked_eq` says that a stream gives its messages
however it is cut into pieces.
-/

namespace NetLab.Netconf

open List

open NetLab.Library NetLab.Snmp

variable {digits : List Char}

/-! ## Bytes -/

def ascii (chars : List Char) : List UInt8 := chars.map Char.toUInt8

/-- A position in a list, where a negative one counts from the end. -/
def clip (length : Nat) (position : Int) : Nat :=
  if position < 0 then (length + position).toNat else position.toNat

/-- Part of a list between two positions. -/
def slice (buf : List UInt8) (start stop : Int) : List UInt8 :=
  (buf.drop (clip buf.length start)).take (clip buf.length stop - clip buf.length start)

/-- Part of a list from a position on. -/
def sliceFrom (buf : List UInt8) (start : Int) : List UInt8 := buf.drop (clip buf.length start)

/-- Position of the first such byte from a position on. -/
def findByte (buf : List UInt8) (byte : UInt8) (start : Int) : Option Nat :=
  ((sliceFrom buf start).idxOf? byte).map fun index => clip buf.length start + index

/-- `int()` of bytes. -/
def byteInt (bytes : List UInt8) : Option Int :=
  let isBlank : UInt8 → Bool := fun byte => (9 ≤ byte && byte ≤ 13) || byte == 32
  let stripped := ((bytes.dropWhile isBlank).reverse.dropWhile isBlank).reverse
  pyInt (stripped.map fun byte => Char.ofNat byte.toNat)

/-! ## Framing -/

def newline : UInt8 := 0x0a

def chunkHeader (size : Nat) : List UInt8 := ascii ('\n' :: '#' :: (numeral size ++ ['\n']))

/-- What ends a message. -/
def endOfChunks : List UInt8 := ascii ['\n', '#', '#', '\n']

/-- `frame_chunked`. -/
def frameChunked (payload : String) : List UInt8 :=
  let data := Utf8.encode payload
  chunkHeader data.length ++ data ++ endOfChunks

/-- The loop of `unframe_chunked`, for at most `fuel` rounds. -/
def unframeLoop : (fuel : Nat) → (buf out : List UInt8) → (position : Int) →
    Option (Option String × List UInt8)
  | 0, _, _, _ => none
  | fuel + 1, buf, out, position =>
    if (ascii ['\n', '#']).isPrefixOf (sliceFrom buf position) = false then some (none, buf)
    else
      match findByte buf newline (position + 2) with
      | none => some (none, buf)
      | some found =>
        let header := slice buf (position + 2) found
        if header = ascii ['#'] then some (some (Utf8.decode out), sliceFrom buf (found + 1))
        else
          match byteInt header with
          | none => some (none, buf)
          | some size =>
            if buf.length < found + 1 + size then some (none, buf)
            else
              unframeLoop fuel buf (out ++ slice buf (found + 1) (found + 1 + size))
                (found + 1 + size)

/-- `unframe_chunked`: a message, if there is one, and what is left of the buffer. It gives nothing
if it has not ended after `fuel` rounds. -/
def unframeChunked (fuel : Nat) (buf : List UInt8) : Option (Option String × List UInt8) :=
  unframeLoop fuel buf [] 0

/-- All messages that can be taken from a buffer, and what is left of it. -/
def takeMessages : (fuel : Nat) → List UInt8 → Option (List String × List UInt8)
  | 0, _ => none
  | fuel + 1, buf =>
    match unframeChunked (fuel + 1) buf with
    | none => none
    | some (none, _) => some ([], buf)
    | some (some message, rest) =>
      (takeMessages fuel rest).map fun later => (message :: later.1, later.2)

/-- One piece that is received: the messages so far and the buffer. -/
def receivePiece (fuel : Nat) (session : List String × List UInt8) (piece : List UInt8) :
    Option (List String × List UInt8) :=
  (takeMessages fuel (session.2 ++ piece)).map fun taken => (session.1 ++ taken.1, taken.2)

/-- The messages that `serve_connection` takes from the pieces that it receives. -/
def serveChunked (fuel : Nat) (pieces : List (List UInt8)) : Option (List String × List UInt8) :=
  pieces.foldlM (receivePiece fuel) ([], [])

/-! ## Messages -/

/-- A message whose bytes are split into chunks. -/
structure Chunked where
  text : String
  chunks : List (List UInt8)
  whole : chunks.flatten = Utf8.encode text

def encodeChunk (chunk : List UInt8) : List UInt8 := chunkHeader chunk.length ++ chunk

/-- The bytes that are sent for chunks. -/
def encodeChunks (chunks : List (List UInt8)) : List UInt8 :=
  chunks.flatMap encodeChunk ++ endOfChunks

/-- The bytes that are sent for a message. -/
def Chunked.frame (message : Chunked) : List UInt8 := encodeChunks message.chunks

/-! ## Positions -/

@[simp] theorem clip_natCast (length position : Nat) : clip length position = position := by
  rw [clip, if_neg (Int.not_lt.mpr (Int.natCast_nonneg position)), Int.toNat_natCast]

section Slices

variable (front rest : List UInt8)

@[simp] theorem sliceFrom_append : sliceFrom (front ++ rest) front.length = rest := by
  rw [sliceFrom, clip_natCast, drop_left]

theorem findByte_append (byte : UInt8) : findByte (front ++ rest) byte front.length =
    (rest.idxOf? byte).map fun index => front.length + index := by
  rw [findByte, sliceFrom_append, clip_natCast]

theorem slice_append (middle : List UInt8) :
    slice (front ++ (middle ++ rest)) front.length (front ++ middle).length = middle := by
  rw [slice, clip_natCast, clip_natCast, drop_left, length_append,
    Nat.add_sub_cancel_left, take_left]

end Slices

theorem idxOf_newline {header : List UInt8} (oneLine : newline ∉ header) (rest : List UInt8) :
    (header ++ newline :: rest).idxOf? newline = some header.length := by
  induction header with
  | nil => simp [idxOf?_cons]
  | cons first later ih =>
    have different : newline ≠ first := fun same => oneLine (same ▸ mem_cons_self)
    have oneLine : newline ∉ later := fun inside => oneLine (mem_cons_of_mem _ inside)
    rw [cons_append, idxOf?_cons, if_neg (by simpa using Ne.symm different),
      ih oneLine, Option.map_some, length_cons]

/-! ## Headers -/

theorem digit_byte {char : Char} (digit : char.isDigit = true) :
    Char.ofNat char.toUInt8.toNat = char ∧ 48 ≤ char.toUInt8.toNat ∧ char.toUInt8.toNat ≤ 57 := by
  have range := Char.isDigit_iff_toNat.mp digit
  have same : char.toUInt8.toNat = char.toNat := by
    rw [Char.toUInt8, UInt32.toNat_toUInt8]
    exact Nat.mod_eq_of_lt (Nat.lt_of_le_of_lt range.2 (by decide))
  rw [same]
  exact ⟨Char.ofNat_toNat char, range.1, range.2⟩

theorem map_ofNat_digits (all : ∀ char ∈ digits, char.isDigit = true) :
    (ascii digits).map (fun byte => Char.ofNat byte.toNat) = digits := by
  rw [ascii, map_map]
  conv_rhs => rw [← map_id digits]
  exact map_congr_left fun char member => (digit_byte (all char member)).1

theorem strip_of_none {Value : Type} {test : Value → Bool} {values : List Value}
    (none : ∀ value ∈ values, test value = false) :
    ((values.dropWhile test).reverse.dropWhile test).reverse = values := by
  have keeps : ∀ {values : List Value}, (∀ value ∈ values, test value = false) →
      values.dropWhile test = values := by
    intro values none
    cases values with
    | nil => rfl
    | cons first rest => exact dropWhile_cons_of_neg (by simp [none first mem_cons_self])
  rw [keeps none, keeps fun value inside => none value (mem_reverse.mp inside), reverse_reverse]

theorem isDigit_of_isNumeral (numeric : isNumeral digits = true) :
    ∀ char ∈ digits, char.isDigit = true := by
  rw [isNumeral, Bool.and_eq_true] at numeric
  exact all_eq_true.mp numeric.2

/-- `int()` reads digits. -/
theorem pyInt_digits (numeric : isNumeral digits = true) :
    pyInt digits = some (numeralValue digits : Int) := by
  have all := isDigit_of_isNumeral numeric
  have visible : ∀ char ∈ digits, char.isWhitespace = false := by
    intro char member
    have digit := all char member
    by_contra blank
    rw [Bool.not_eq_false, Char.isWhitespace] at blank
    simp only [Bool.or_eq_true, decide_eq_true_eq] at blank
    rcases blank with ((rfl | rfl) | rfl) | rfl
    all_goals exact absurd digit (by decide)
  have plain : '_' ∉ digits := fun member => absurd (all _ member) (by decide)
  have value : pyDigits digits = some (numeralValue digits) := by
    simp [pyDigits, splitOn_eq_singleton plain, numeric]
  rw [pyInt, strip_of_none visible]
  split
  · exact absurd (all '-' mem_cons_self) (by decide)
  · exact absurd (all '+' mem_cons_self) (by decide)
  · rw [value]
    rfl

/-- The size in a header is read. -/
theorem byteInt_digits (numeric : isNumeral digits = true) :
    byteInt (ascii digits) = some (numeralValue digits : Int) := by
  have all := isDigit_of_isNumeral numeric
  have visible : ∀ byte ∈ ascii digits, ((9 ≤ byte && byte ≤ 13) || byte == 32) = false := by
    intro byte inside
    obtain ⟨char, member, rfl⟩ := mem_map.mp inside
    have range := (digit_byte (all char member)).2
    generalize char.toUInt8 = byte at range ⊢
    simp only [Bool.or_eq_false_iff, Bool.and_eq_false_iff, decide_eq_false_iff_not,
      beq_eq_false_iff_ne, UInt8.le_iff_toNat_le, ne_eq, ← UInt8.toNat_inj]
    refine ⟨.inr ?_, ?_⟩ <;> simp <;> omega
  rw [byteInt, strip_of_none visible, map_ofNat_digits all, pyInt_digits numeric]

theorem byteInt_numeral (value : Nat) : byteInt (ascii (numeral value)) = some (value : Int) := by
  rw [byteInt_digits (isNumeral_numeral value), numeralValue_numeral]

theorem notMem_digits (numeric : isNumeral digits = true) {byte : UInt8} (low : byte.toNat < 48) :
    byte ∉ ascii digits := by
  intro inside
  obtain ⟨char, member, same⟩ := mem_map.mp inside
  have range := digit_byte (isDigit_of_isNumeral numeric char member)
  rw [same] at range
  exact absurd range.2.1 (Nat.not_le.mpr low)

theorem newline_notMem_numeral (value : Nat) : newline ∉ ascii (numeral value) :=
  notMem_digits (isNumeral_numeral value) (by decide)

theorem digits_ne_end (numeric : isNumeral digits = true) : ascii digits ≠ ascii ['#'] := by
  intro same
  have low : '#'.toUInt8.toNat < 48 := by decide
  exact notMem_digits numeric low (same ▸ mem_singleton_self _)

theorem numeral_ne_end (value : Nat) : ascii (numeral value) ≠ ascii ['#'] :=
  digits_ne_end (isNumeral_numeral value)

/-! ## One round -/

/-- The mark before a header. -/
def mark : List UInt8 := ascii ['\n', '#']

section Round

variable {fuel : Nat} {front header rest out : List UInt8}

theorem startsWith_mark (front rest : List UInt8) :
    (ascii ['\n', '#']).isPrefixOf (sliceFrom (front ++ (mark ++ rest)) front.length) = true := by
  rw [sliceFrom_append]
  exact isPrefixOf_iff_prefix.mpr (prefix_append _ _)

theorem length_mark (front : List UInt8) : (front.length + 2 : Int) = (front ++ mark).length := by
  rw [length_append]
  rfl

theorem findByte_header (oneLine : newline ∉ header) :
    findByte (front ++ (mark ++ (header ++ newline :: rest))) newline (front.length + 2) =
      some (front ++ (mark ++ header)).length := by
  rw [length_mark, ← append_assoc, findByte_append, idxOf_newline oneLine, Option.map_some,
    ← append_assoc, @length_append _ (front ++ mark)]

theorem slice_header : slice (front ++ (mark ++ (header ++ newline :: rest))) (front.length + 2)
      ((front ++ (mark ++ header)).length : Nat) = header := by
  rw [length_mark, ← append_assoc, ← append_assoc front mark header]
  exact slice_append (front ++ mark) (newline :: rest) header

theorem length_found (front header : List UInt8) : ((front ++ (mark ++ header)).length + 1 : Int) =
      (front ++ (mark ++ (header ++ [newline]))).length := by
  simp only [length_append, length_singleton]
  omega

theorem regroup (front header rest : List UInt8) : front ++ (mark ++ (header ++ newline :: rest)) =
    front ++ (mark ++ (header ++ [newline])) ++ rest := by
  simp

theorem unframeLoop_end : unframeLoop (fuel + 1) (front ++ (endOfChunks ++ rest)) out front.length =
    some (some (Utf8.decode out), rest) := by
  have shape : endOfChunks ++ rest = mark ++ (ascii ['#'] ++ newline :: rest) := rfl
  rw [shape, unframeLoop, startsWith_mark, if_neg (by decide), findByte_header (by decide)]
  dsimp only
  rw [slice_header, if_pos rfl, length_found, regroup, sliceFrom_append]

theorem chunk_shape (chunk rest : List UInt8) : encodeChunk chunk ++ rest =
    mark ++ (ascii (numeral chunk.length) ++ newline :: (chunk ++ rest)) := by
  have header : chunkHeader chunk.length = mark ++ (ascii (numeral chunk.length) ++ [newline]) := by
    rw [chunkHeader, ascii, map_cons, map_cons, map_append]
    rfl
  rw [encodeChunk, header]
  simp only [append_assoc, cons_append, nil_append]

theorem unframeLoop_size (size : Nat) (rest : List UInt8) :
    unframeLoop (fuel + 1) (front ++ (mark ++ (ascii (numeral size) ++ newline :: rest))) out
        front.length =
      let header := mark ++ (ascii (numeral size) ++ [newline])
      if rest.length < size then
        some (none, front ++ (mark ++ (ascii (numeral size) ++ newline :: rest)))
      else
        unframeLoop fuel (front ++ header ++ rest) (out ++ rest.take size)
          (front ++ header ++ rest.take size).length := by
  rw [unframeLoop, startsWith_mark, if_neg (by decide), findByte_header (newline_notMem_numeral _)]
  dsimp only
  rw [slice_header, if_neg (numeral_ne_end _), byteInt_numeral, length_found, regroup]
  generalize front ++ (mark ++ (ascii (numeral size) ++ [newline])) = before
  rw [length_append]
  dsimp only
  by_cases short : rest.length < size
  · rw [if_pos short, if_pos (by omega)]
  · have whole := length_take_of_le (Nat.not_lt.mp short)
    have finish : (before.length + size : Int) = (before ++ rest.take size).length := by
      rw [length_append, whole, Int.natCast_add]
    have cut : slice (before ++ rest) before.length (before.length + size) = rest.take size := by
      conv_lhs => rw [← take_append_drop size rest]
      rw [finish]
      exact slice_append before (rest.drop size) (rest.take size)
    rw [if_neg short, if_neg (by omega), cut, finish]

theorem unframeLoop_chunk (chunk : List UInt8) :
    unframeLoop (fuel + 1) (front ++ (encodeChunk chunk ++ rest)) out front.length =
      unframeLoop fuel (front ++ encodeChunk chunk ++ rest) (out ++ chunk)
        (front ++ encodeChunk chunk).length := by
  have header : front ++ encodeChunk chunk =
      front ++ (mark ++ (ascii (numeral chunk.length) ++ [newline])) ++ chunk := by
    have shape := chunk_shape chunk []
    rw [append_nil, append_nil] at shape
    rw [shape, regroup]
  have whole : ¬ (chunk ++ rest).length < chunk.length :=
    Nat.not_lt.mpr (length_append ▸ Nat.le_add_right ..)
  rw [chunk_shape, unframeLoop_size]
  dsimp only
  rw [if_neg whole, take_left, header, append_assoc _ chunk rest]

theorem unframeLoop_short (short : ¬ mark <+: rest) :
    unframeLoop (fuel + 1) (front ++ rest) out front.length = some (none, front ++ rest) := by
  rw [unframeLoop, sliceFrom_append, if_pos]
  exact eq_false_of_ne_true fun starts => short ( isPrefixOf_iff_prefix.mp starts)

/-- Nothing is taken before a header is complete. -/
theorem unframeLoop_open (oneLine : newline ∉ rest) :
    unframeLoop (fuel + 1) (front ++ (mark ++ rest)) out front.length =
      some (none, front ++ (mark ++ rest)) := by
  have absent : rest.idxOf? newline = none := idxOf?_eq_none_iff.mpr oneLine
  rw [unframeLoop, startsWith_mark, if_neg (by decide), length_mark, ← append_assoc,
    findByte_append, absent]
  rfl

end Round

/-! ## Incomplete messages -/

theorem prefix_append_cases {Value : Type} {cut first second : List Value}
    (begins : cut <+: first ++ second) :
    (cut <+: first ∧ cut ≠ first) ∨ ∃ more, cut = first ++ more ∧ more <+: second := by
  rcases prefix_or_prefix_of_prefix begins (prefix_append first second) with
    inside | ⟨more, rfl⟩
  · by_cases whole : cut = first
    · exact .inr ⟨[], by rw [whole, append_nil], nil_prefix⟩
    · exact .inl ⟨inside, whole⟩
  · exact .inr ⟨more, rfl, (prefix_append_right_inj first).mp begins⟩

section Incomplete

variable {fuel : Nat} {front cut out : List UInt8}

/-- A header that is cut short is waited for. -/
theorem unframeLoop_cutHeader {header body : List UInt8} (unbroken : newline ∉ header)
    (inside : cut <+: mark ++ (header ++ newline :: body)) :
    unframeLoop (fuel + 1) (front ++ cut) out front.length = some (none, front ++ cut) ∨
      ∃ more, cut = mark ++ (header ++ newline :: more) ∧ more <+: body := by
  rcases prefix_append_cases inside with ⟨early, short⟩ | ⟨rest, rfl, inHeader⟩
  · refine .inl (unframeLoop_short fun whole => short ?_)
    exact early.eq_of_length_le whole.length_le
  rcases prefix_append_cases inHeader with ⟨early, -⟩ | ⟨more, rfl, behind⟩
  · exact .inl (unframeLoop_open fun break_ => unbroken (early.subset break_))
  cases more with
  | nil => exact .inl (unframeLoop_open (by rwa [append_nil]))
  | cons first more =>
    obtain ⟨rfl, begun⟩ := cons_prefix_cons.mp behind
    exact .inr ⟨more, rfl, begun⟩

theorem unframeLoop_cutChunk {chunk : List UInt8} (inside : cut <+: encodeChunk chunk)
    (incomplete : cut ≠ encodeChunk chunk) :
    unframeLoop (fuel + 1) (front ++ cut) out front.length = some (none, front ++ cut) := by
  have shape := chunk_shape chunk []
  rw [append_nil, append_nil] at shape
  rw [shape] at inside incomplete
  rcases unframeLoop_cutHeader (newline_notMem_numeral _) inside with waits | ⟨more, rfl, begun⟩
  · exact waits
  · have short : more.length < chunk.length := by
      refine lt_of_le_of_ne begun.length_le fun same => incomplete ?_
      rw [begun.eq_of_length same]
    rw [unframeLoop_size]
    exact if_pos short

theorem unframeLoop_cutEnd (inside : cut <+: endOfChunks) (incomplete : cut ≠ endOfChunks) :
    unframeLoop (fuel + 1) (front ++ cut) out front.length = some (none, front ++ cut) := by
  have shape : endOfChunks = mark ++ (ascii ['#'] ++ [newline]) := rfl
  rw [shape] at inside incomplete
  rcases unframeLoop_cutHeader (by decide) inside with waits | ⟨more, rfl, begun⟩
  · exact waits
  · rw [prefix_nil.mp begun] at incomplete
    exact absurd rfl incomplete

end Incomplete

/-! ## Whole messages -/

theorem length_encodeChunk (chunk : List UInt8) : 3 ≤ (encodeChunk chunk).length := by
  rw [encodeChunk, chunkHeader, ascii]
  simp only [length_append, length_map, length_cons, length_nil]
  omega

theorem unframeLoop_whole (chunks : List (List UInt8)) {fuel : Nat} {front rest out : List UInt8}
    (enough : (encodeChunks chunks).length < fuel) :
    unframeLoop fuel (front ++ (encodeChunks chunks ++ rest)) out front.length =
      some (some (Utf8.decode (out ++ chunks.flatten)), rest) := by
  induction chunks generalizing fuel front out with
  | nil =>
    obtain ⟨fuel, rfl⟩ := Nat.exists_eq_add_one.mpr (Nat.zero_lt_of_lt enough)
    rw [flatten_nil, append_nil]
    exact unframeLoop_end
  | cons chunk chunks ih =>
    obtain ⟨fuel, rfl⟩ := Nat.exists_eq_add_one.mpr (Nat.zero_lt_of_lt enough)
    have longer := length_encodeChunk chunk
    have fewer : (encodeChunks chunks).length < fuel := by
      rw [encodeChunks, flatMap_cons, append_assoc, length_append] at enough
      rw [encodeChunks]
      omega
    have later : chunks.flatMap encodeChunk ++ (endOfChunks ++ rest) =
        encodeChunks chunks ++ rest := by
      rw [encodeChunks, append_assoc]
    rw [encodeChunks, flatMap_cons, append_assoc, append_assoc, later,
      unframeLoop_chunk, flatten_cons, ← append_assoc out]
    exact ih fewer

/-- Nothing is taken of a message that is not complete. -/
theorem unframeLoop_cut (chunks : List (List UInt8)) {fuel : Nat} {front cut out : List UInt8}
    (inside : cut <+: encodeChunks chunks) (incomplete : cut ≠ encodeChunks chunks)
    (enough : cut.length < fuel) :
    unframeLoop fuel (front ++ cut) out front.length = some (none, front ++ cut) := by
  induction chunks generalizing fuel front cut out with
  | nil =>
    obtain ⟨fuel, rfl⟩ := Nat.exists_eq_add_one.mpr (Nat.zero_lt_of_lt enough)
    exact unframeLoop_cutEnd inside incomplete
  | cons chunk chunks ih =>
    obtain ⟨fuel, rfl⟩ := Nat.exists_eq_add_one.mpr (Nat.zero_lt_of_lt enough)
    rw [encodeChunks, flatMap_cons, append_assoc] at inside incomplete
    rcases prefix_append_cases inside with ⟨early, short⟩ | ⟨more, rfl, behind⟩
    · exact unframeLoop_cutChunk early short
    · have longer := length_encodeChunk chunk
      rw [length_append] at enough
      rw [unframeLoop_chunk, ← append_assoc]
      exact ih behind (fun whole => incomplete (by rw [whole, encodeChunks])) (by omega)

theorem unframeChunked_whole (message : Chunked) (rest : List UInt8) {fuel : Nat}
    (enough : message.frame.length < fuel) :
    unframeChunked fuel (message.frame ++ rest) = some (some message.text, rest) := by
  have taken := @unframeLoop_whole message.chunks fuel [] rest [] enough
  rw [nil_append, nil_append, message.whole, Utf8.decode_encode] at taken
  exact taken

theorem unframeChunked_cut {message : Chunked} {cut : List UInt8} (inside : cut <+: message.frame)
    (incomplete : cut ≠ message.frame) {fuel : Nat} (enough : cut.length < fuel) :
    unframeChunked fuel cut = some (none, cut) :=
  @unframeLoop_cut message.chunks fuel [] cut [] inside incomplete enough

theorem unframeChunked_nil (fuel : Nat) : unframeChunked (fuel + 1) [] = some (none, []) := by
  rw [unframeChunked, unframeLoop]
  rfl

/-! ## Streams -/

/-- The bytes that are sent for messages. -/
def encodeMessages (messages : List Chunked) : List UInt8 := messages.flatMap Chunked.frame

/-- A buffer in which the next message is not complete yet. -/
def Waits (messages : List Chunked) (buf : List UInt8) : Prop :=
  match messages with
  | [] => buf = []
  | message :: _ => buf <+: message.frame ∧ buf ≠ message.frame

theorem length_frame (message : Chunked) : 0 < message.frame.length := by
  rw [Chunked.frame, encodeChunks, length_append]
  exact Nat.add_pos_right _ (by decide)

/-- A buffer that holds everything that is sent, and waits, is empty. -/
theorem Waits.eq_nil {messages : List Chunked} {buf : List UInt8} (waits : Waits messages buf)
    (all : buf = encodeMessages messages) : messages = [] := by
  cases messages with
  | nil => rfl
  | cons message rest =>
    rw [encodeMessages, flatMap_cons] at all
    refine absurd (waits.1.eq_of_length_le ?_) waits.2
    rw [all, length_append]
    exact Nat.le_add_right ..

theorem takeMessages_prefix (messages : List Chunked) {buf : List UInt8}
    (begins : buf <+: encodeMessages messages) {fuel : Nat} (enough : buf.length < fuel) :
    ∃ done left rest, messages = done ++ left ∧ buf = encodeMessages done ++ rest ∧
      Waits left rest ∧ takeMessages fuel buf = some (done.map Chunked.text, rest) := by
  induction messages generalizing buf fuel with
  | nil =>
    obtain ⟨fuel, rfl⟩ := Nat.exists_eq_add_one.mpr (Nat.zero_lt_of_lt enough)
    have empty : buf = [] := prefix_nil.mp begins
    refine ⟨[], [], [], rfl, empty, rfl, ?_⟩
    rw [takeMessages, empty, unframeChunked_nil]
    rfl
  | cons message messages ih =>
    obtain ⟨fuel, rfl⟩ := Nat.exists_eq_add_one.mpr (Nat.zero_lt_of_lt enough)
    rw [encodeMessages, flatMap_cons] at begins
    rcases prefix_append_cases begins with ⟨inside, incomplete⟩ | ⟨more, rfl, behind⟩
    · refine ⟨[], message :: messages, buf, rfl, rfl, ⟨inside, incomplete⟩, ?_⟩
      rw [takeMessages, unframeChunked_cut inside incomplete enough]
      rfl
    · have longer := length_frame message
      rw [length_append] at enough
      obtain ⟨done, left, rest, rfl, rfl, waits, taken⟩ := @ih more behind fuel (by omega)
      refine ⟨message :: done, left, rest, rfl, ?_, waits, ?_⟩
      · rw [encodeMessages, encodeMessages, flatMap_cons, append_assoc]
      · rw [takeMessages, unframeChunked_whole message _ (by omega)]
        dsimp only
        rw [taken]
        rfl

theorem receivePieces (pieces : List (List UInt8)) {left : List Chunked} {buf : List UInt8}
    (texts : List String) (waits : Waits left buf)
    (begins : buf ++ pieces.flatten <+: encodeMessages left) {fuel : Nat}
    (enough : (buf ++ pieces.flatten).length < fuel) :
    ∃ done later rest, left = done ++ later ∧ buf ++ pieces.flatten = encodeMessages done ++ rest ∧
      Waits later rest ∧ pieces.foldlM (receivePiece fuel) (texts, buf) =
        some (texts ++ done.map Chunked.text, rest) := by
  induction pieces generalizing left buf texts with
  | nil =>
    refine ⟨[], left, buf, rfl, append_nil buf, waits, ?_⟩
    rw [map_nil, append_nil]
    rfl
  | cons piece pieces ih =>
    rw [flatten_cons, ← append_assoc] at begins enough ⊢
    have fits : (buf ++ piece).length < fuel := by
      rw [length_append] at enough
      omega
    obtain ⟨done, left, rest, rfl, shape, waits, taken⟩ :=
      takeMessages_prefix left ((prefix_append _ _).trans begins) fits
    rw [shape, append_assoc, encodeMessages, encodeMessages, flatMap_append] at begins
    rw [shape, append_assoc, length_append] at enough
    obtain ⟨done', later, rest', rfl, shape', waits', received⟩ :=
      ih (texts ++ done.map Chunked.text) waits ((prefix_append_right_inj _).mp begins) (by omega)
    refine ⟨done ++ done', later, rest', (append_assoc ..).symm, ?_, waits', ?_⟩
    · rw [shape, append_assoc, shape', encodeMessages, encodeMessages, encodeMessages,
        flatMap_append, append_assoc]
    · rw [foldlM_cons, receivePiece, taken, Option.map_some, map_append, ← append_assoc texts]
      exact received

/-- The messages of a stream are received in order and with nothing left over, however the stream is
cut into pieces. -/
theorem serveChunked_eq (messages : List Chunked) {pieces : List (List UInt8)}
    (cut : pieces.flatten = encodeMessages messages) {fuel : Nat}
    (enough : pieces.flatten.length < fuel) :
    serveChunked fuel pieces = some (messages.map Chunked.text, []) := by
  have waits : Waits messages [] := by
    cases messages with
    | nil => rfl
    | cons message rest =>
      refine ⟨ nil_prefix, fun whole => ?_⟩
      have longer := length_frame message
      rw [← whole] at longer
      exact Nat.lt_irrefl 0 longer
  have begins : [] ++ pieces.flatten <+: encodeMessages messages := by rw [nil_append, cut]
  obtain ⟨done, later, rest, rfl, shape, waits', received⟩ :=
    receivePieces pieces [] waits begins (by rwa [nil_append])
  rw [nil_append, cut, encodeMessages, flatMap_append] at shape
  obtain rfl := waits'.eq_nil (append_cancel_left shape).symm
  obtain rfl : rest = [] := waits'
  rw [serveChunked, received, nil_append, append_nil]

def Chunked.single (text : String) : Chunked := ⟨text, [Utf8.encode text], append_nil _⟩

theorem frame_single (text : String) : (Chunked.single text).frame = frameChunked text := by
  rw [Chunked.frame, Chunked.single, encodeChunks, flatMap_singleton]
  rfl

/-- A stream of messages in chunks is received however it is cut, and a message that is framed is
taken from the beginning of a buffer. -/
theorem messages_received (messages : List Chunked) {pieces : List (List UInt8)}
    (cut : pieces.flatten = encodeMessages messages) {fuel : Nat}
    (enough : pieces.flatten.length < fuel) (text : String) (rest : List UInt8) :
    serveChunked fuel pieces = some (messages.map Chunked.text, []) ∧
      unframeChunked (fuel + (frameChunked text).length) (frameChunked text ++ rest) =
        some (some text, rest) := by
  refine ⟨serveChunked_eq messages cut enough, ?_⟩
  rw [← frame_single]
  exact unframeChunked_whole (Chunked.single text) rest (by omega)

/-- A message of two characters in two chunks, the second of which begins inside a character. The
pieces end inside a header and inside a character. -/
def splitMessage : Chunked := ⟨"aé", [[0x61, 0xc3], [0xa9]], by decide⟩

theorem split_received :
    serveChunked 30 [[0x0a, 0x23], [0x32, 0x0a, 0x61], [0xc3, 0x0a, 0x23, 0x31, 0x0a],
        [0xa9, 0x0a, 0x23, 0x23, 0x0a]] = some (["aé"], []) ∧
      unframeChunked (30 + (frameChunked "#").length) (frameChunked "#" ++ [0x0a]) =
        some (some "#", [0x0a]) :=
  messages_received [splitMessage] (by decide) (by decide) "#" [0x0a]

end NetLab.Netconf
