import NetLab.Bgp.Machine
import NetLab.Library.BigEndian

/-!
# UPDATE messages of external speakers

`_parse_update` reads the body of an UPDATE at its positions and fails where a read goes
past the end. Well-formed messages are described by their fields; `parseUpdate_encode`
says that the announced networks of a well-formed message are read back, and that its
withdrawn routes make no difference.
-/

namespace NetLab.Bgp

open NetLab.Library NetLab.Network List

/-- Ways in which reading a message fails. -/
inductive WireError where
  | indexError
  | structError
  | osError
deriving DecidableEq

/-- A byte of a message. -/
def byteAt (body : List UInt8) (position : Nat) : Except WireError UInt8 :=
  match body[position]? with
  | some byte => .ok byte
  | none => .error .indexError

/-- A number in a message. -/
def unpackAt (width : Nat) (body : List UInt8) (position : Nat) : Except WireError Nat :=
  match fieldAt width body position with
  | some value => .ok value
  | none => .error .structError

/-- Dotted form of an address. -/
def inetNtoa (bytes : List UInt8) : String := ".".intercalate (bytes.map fun byte => toString byte)

/-- Numbers of one segment of an AS path. -/
def readNumbers : (count : Nat) → (value : List UInt8) → Except WireError (List Nat)
  | 0, _ => .ok []
  | count + 1, value => do
    let number ← unpackAt 4 value 0
    let later ← readNumbers count (value.drop 4)
    pure (number :: later)

def readAsPath : (value : List UInt8) → Except WireError (List Nat)
  | [] => .ok []
  | [_] => .error .indexError
  | _ :: count :: rest => do
    let numbers ← readNumbers count.toNat rest
    let later ← readAsPath (rest.drop (4 * count.toNat))
    pure (numbers ++ later)
termination_by value => value.length
decreasing_by simp only [length_drop, length_cons]; omega

/-- Read one attribute; an unknown one or one of the wrong size is skipped. -/
def ParsedUpdate.read (attributes : ParsedUpdate String) (code : UInt8) (value : List UInt8) :
    Except WireError (ParsedUpdate String) :=
  if code = 1 ∧ value ≠ [] then
    .ok { attributes with
      origin := if value.head? = some 1 then .egp
        else if value.head? = some 2 then .incomplete else .igp }
  else if code = 2 then do
    let asPath ← readAsPath value
    pure { attributes with asPath := attributes.asPath ++ asPath }
  else if code = 3 ∧ value.length = 4 then .ok { attributes with nextHop := some (inetNtoa value) }
  else if code = 4 ∧ value.length = 4 then
    .ok { attributes with med := bigEndianValue value }
  else if code = 5 ∧ value.length = 4 then
    .ok { attributes with localPref := bigEndianValue value }
  else .ok attributes

/-- The length field of an attribute takes two bytes. -/
def extendedLength (flags : UInt8) : Bool := flags &&& 0x10 != 0

def parseAttributes (body : List UInt8) (attrsEnd position : Nat)
    (attributes : ParsedUpdate String) : Except WireError (ParsedUpdate String) :=
  if position < attrsEnd then do
    let flags ← byteAt body position
    let code ← byteAt body (position + 1)
    if extendedLength flags then
      let length ← unpackAt 2 body (position + 2)
      let attributes ← attributes.read code ((body.drop (position + 4)).take length)
      parseAttributes body attrsEnd (position + 4 + length) attributes
    else
      let length ← byteAt body (position + 2)
      let attributes ← attributes.read code ((body.drop (position + 3)).take length.toNat)
      parseAttributes body attrsEnd (position + 3 + length.toNat) attributes
  else .ok attributes
termination_by attrsEnd - position

/-- Read networks; an address of more than four bytes is refused. -/
def parsePrefixes : (nlri : List UInt8) → Except WireError (List Prefix)
  | [] => .ok []
  | length :: rest => do
    let count := (length.toNat + 7) / 8
    let raw := rest.take count
    if 4 < raw.length then .error .osError
    else
      let later ← parsePrefixes (rest.drop count)
      pure (⟨inetNtoa (raw ++ List.replicate (4 - raw.length) 0), length.toNat⟩ :: later)
termination_by nlri => nlri.length
decreasing_by simp only [length_drop, length_cons]; omega

/-- `_parse_update`; a body that is too short for its lengths is skipped. The withdrawn
routes are passed over. -/
def parseUpdate (body : List UInt8) : Except WireError (Option (ParsedUpdate String)) :=
  if body.length < 4 then .ok none
  else do
    let withdrawnLength ← unpackAt 2 body 0
    let offset := 2 + withdrawnLength
    if body.length < offset + 2 then pure none
    else
      let attrsLength ← unpackAt 2 body offset
      let attrsEnd := offset + 2 + attrsLength
      if body.length < attrsEnd then pure none
      else
        let attributes ← parseAttributes body attrsEnd (offset + 2) {}
        let prefixes ← parsePrefixes (body.drop attrsEnd)
        pure (some { attributes with prefixes := prefixes })

/-! ## Well-formed messages -/

/-- A network in a message: its length and as many bytes of its address as that needs. -/
structure Nlri where
  length : Nat
  bytes : List UInt8
  short : length ≤ 32
  sized : bytes.length = (length + 7) / 8

/-- The network that a field stands for. -/
def Nlri.destination (nlri : Nlri) : Prefix :=
  ⟨inetNtoa (nlri.bytes ++ List.replicate (4 - nlri.bytes.length) 0), nlri.length⟩

/-- The bytes of a network. -/
def Nlri.encode (nlri : Nlri) : List UInt8 := UInt8.ofNat nlri.length :: nlri.bytes

/-- A segment of an AS path. -/
structure Segment where
  kind : UInt8
  numbers : List UInt32
  short : numbers.length < 256

/-- The bytes of a segment. -/
def Segment.encode (segment : Segment) : List UInt8 :=
  segment.kind :: UInt8.ofNat segment.numbers.length ::
    segment.numbers.flatMap fun number => bigEndian 4 number.toNat

/-- A path attribute. Its length fits its length field, and the value of an AS path is a
sequence of segments. -/
structure PathAttribute where
  flags : UInt8
  code : UInt8
  value : List UInt8
  sized : value.length < if extendedLength flags then 65536 else 256
  path : code = 2 → ∃ segments : List Segment, value = segments.flatMap Segment.encode

/-- The bytes of an attribute. -/
def PathAttribute.encode (attr : PathAttribute) : List UInt8 :=
  attr.flags :: attr.code ::
    (bigEndian (if extendedLength attr.flags then 2 else 1) attr.value.length ++ attr.value)

/-- An UPDATE whose parts fit their length fields. -/
structure UpdateMessage where
  withdrawn : List Nlri := []
  attributes : List PathAttribute := []
  announced : List Nlri := []
  withdrawnSized : (withdrawn.flatMap Nlri.encode).length < 65536
  attributesSized : (attributes.flatMap PathAttribute.encode).length < 65536

namespace UpdateMessage

variable (message : UpdateMessage)

def withdrawnPrefixes : List Prefix := message.withdrawn.map Nlri.destination

def announcedPrefixes : List Prefix := message.announced.map Nlri.destination

/-- The body of the message. -/
def encode : List UInt8 :=
  bigEndian 2 (message.withdrawn.flatMap Nlri.encode).length ++
    (message.withdrawn.flatMap Nlri.encode ++
      (bigEndian 2 (message.attributes.flatMap PathAttribute.encode).length ++
        (message.attributes.flatMap PathAttribute.encode ++ message.announced.flatMap Nlri.encode)))

end UpdateMessage

/-! ## Reading well-formed messages -/

theorem byteAt_of_shape {body front rest : List UInt8} {byte : UInt8} {position : Nat}
    (shape : body = front ++ byte :: rest) (here : front.length = position) :
    byteAt body position = .ok byte := by
  subst shape here
  simp [byteAt]

theorem unpackAt_of_shape {body front rest : List UInt8} {width value position : Nat}
    (shape : body = front ++ (bigEndian width value ++ rest)) (here : front.length = position)
    (fits : value < 256 ^ width) : unpackAt width body position = .ok value := by
  subst shape here
  unfold unpackAt
  rw [fieldAt_append front rest fits]

theorem parsePrefixes_encode (networks : List Nlri) :
    parsePrefixes (networks.flatMap Nlri.encode) = .ok (networks.map Nlri.destination) := by
  induction networks with
  | nil => rw [flatMap_nil, parsePrefixes, map_nil]
  | cons first rest ih =>
    have length : (UInt8.ofNat first.length).toNat = first.length := by
      have short := first.short
      rw [UInt8.toNat_ofNat']
      omega
    have fits : ¬ 4 < first.bytes.length := by
      have short := first.short
      have sized := first.sized
      omega
    rw [flatMap_cons, Nlri.encode, cons_append, parsePrefixes, length, ← first.sized, take_left, drop_left, if_neg fits, ih]
    rfl

variable (attr : PathAttribute) (attributes : ParsedUpdate String) (numbers : List UInt32)
  (message : UpdateMessage)

theorem readNumbers_encode (rest : List UInt8) :
    readNumbers numbers.length ((numbers.flatMap fun number => bigEndian 4 number.toNat) ++ rest) =
      .ok (numbers.map UInt32.toNat) := by
  induction numbers with
  | nil => rfl
  | cons first later ih =>
    have here : unpackAt 4 (bigEndian 4 first.toNat ++
        ((later.flatMap fun number => bigEndian 4 number.toNat) ++ rest)) 0 = .ok first.toNat :=
      unpackAt_of_shape (nil_append _).symm rfl first.toNat_lt
    rw [length_cons, flatMap_cons, append_assoc, readNumbers, here,
      drop_left' (length_bigEndian 4 first.toNat)]
    change (readNumbers later.length _ >>= _) = _
    rw [ih]
    rfl

theorem length_flatMap_bigEndian :
    (numbers.flatMap fun number => bigEndian 4 number.toNat).length = 4 * numbers.length := by
  induction numbers with
  | nil => rfl
  | cons first rest ih =>
    rw [flatMap_cons, length_append, length_bigEndian, ih, length_cons]
    omega

theorem readAsPath_encode (segments : List Segment) : readAsPath (segments.flatMap Segment.encode) =
      .ok (segments.flatMap fun segment => segment.numbers.map UInt32.toNat) := by
  induction segments with
  | nil => rw [flatMap_nil, readAsPath, flatMap_nil]
  | cons first rest ih =>
    have count : (UInt8.ofNat first.numbers.length).toNat = first.numbers.length := by
      have short := first.short
      rw [UInt8.toNat_ofNat']
      omega
    rw [flatMap_cons, Segment.encode, cons_append, cons_append, readAsPath, count,
      readNumbers_encode, drop_left' (length_flatMap_bigEndian first.numbers)]
    change (readAsPath (rest.flatMap Segment.encode) >>= _) = _
    rw [ih]
    rfl

theorem read_isOk : ∃ next, attributes.read attr.code attr.value = .ok next := by
  unfold ParsedUpdate.read
  by_cases path : attr.code = 2
  · obtain ⟨segments, same⟩ := attr.path path
    rw [if_neg fun both => by simp [path] at both, if_pos path, same, readAsPath_encode]
    exact ⟨_, rfl⟩
  · rw [if_neg path]
    split_ifs <;> exact ⟨_, rfl⟩

theorem parseAttributes_step {body front remaining : List UInt8} {attr : PathAttribute}
    (placed : body = front ++ (attr.encode ++ remaining)) {stop : Nat}
    (inside : front.length < stop) {attributes next : ParsedUpdate String}
    (read : attributes.read attr.code attr.value = .ok next) :
    parseAttributes body stop front.length attributes =
      parseAttributes body stop (front.length + attr.encode.length) next := by
  have shape : body = front ++ attr.flags :: attr.code ::
      (bigEndian (if extendedLength attr.flags then 2 else 1) attr.value.length ++
        (attr.value ++ remaining)) := by
    rw [placed, PathAttribute.encode]
    simp
  have flags : byteAt body front.length = .ok attr.flags := byteAt_of_shape shape rfl
  have code : byteAt body (front.length + 1) = .ok attr.code :=
    byteAt_of_shape (shape.trans (append_assoc front [attr.flags] _).symm) (by simp)
  have sized := attr.sized
  have value : ∀ width, (if extendedLength attr.flags then 2 else 1) = width →
      ((body.drop (front.length + 2 + width)).take attr.value.length = attr.value ∧
        front.length + attr.encode.length = front.length + 2 + width + attr.value.length) := by
    rintro width rfl
    refine ⟨?_, by simp [PathAttribute.encode]; omega⟩
    have start : body = (front ++ [attr.flags, attr.code] ++
        bigEndian (if extendedLength attr.flags then 2 else 1) attr.value.length) ++
          (attr.value ++ remaining) := by
      rw [shape]
      simp
    rw [start, drop_left' (by simp; omega), take_left]
  rw [parseAttributes, if_pos inside, flags]
  change (byteAt body (front.length + 1) >>= _) = _
  rw [code]
  dsimp only [Except.bind, bind]
  cases extended : extendedLength attr.flags with
  | true =>
    rw [extended] at shape sized value
    have length : unpackAt 2 body (front.length + 2) = .ok attr.value.length :=
      unpackAt_of_shape (shape.trans (append_assoc front [attr.flags, attr.code] _).symm)
        (by simp) sized
    obtain ⟨field, behind⟩ := value 2 rfl
    rw [if_pos rfl, length]
    dsimp only
    rw [field, read, behind]
  | false =>
    rw [extended] at shape sized value
    have count : (UInt8.ofNat attr.value.length).toNat = attr.value.length := by
      rw [UInt8.toNat_ofNat']
      exact Nat.mod_eq_of_lt sized
    rw [if_neg Bool.false_ne_true, bigEndian_one, singleton_append] at shape
    have length : byteAt body (front.length + 2) = .ok (UInt8.ofNat attr.value.length) :=
      byteAt_of_shape (shape.trans (append_assoc front [attr.flags, attr.code] _).symm) (by simp)
    obtain ⟨field, behind⟩ := value 1 rfl
    rw [if_neg Bool.false_ne_true, length]
    dsimp only
    rw [count, field, read, behind]

def PathAttribute.effect (attributes : ParsedUpdate String) (attr : PathAttribute) :
    ParsedUpdate String :=
  match attributes.read attr.code attr.value with
  | .ok next => next
  | .error _ => attributes

theorem read_eq_effect : attributes.read attr.code attr.value = .ok (attr.effect attributes) := by
  obtain ⟨next, read⟩ := read_isOk attr attributes
  rw [PathAttribute.effect, read]

/-- The attributes of a well-formed message are read one after the other. -/
theorem parseAttributes_encode (front : List UInt8) (encoded : List PathAttribute)
    (rest : List UInt8) (attributes : ParsedUpdate String) :
    parseAttributes (front ++ (encoded.flatMap PathAttribute.encode ++ rest))
      (front.length + (encoded.flatMap PathAttribute.encode).length) front.length attributes =
        .ok (encoded.foldl (fun attributes attr => attr.effect attributes) attributes) := by
  induction encoded generalizing front attributes with
  | nil =>
    rw [flatMap_nil, length_nil, Nat.add_zero, parseAttributes, if_neg (lt_irrefl _)]
    rfl
  | cons attr later ih =>
    have behind := ih (front ++ attr.encode) (attr.effect attributes)
    rw [append_assoc, length_append, Nat.add_assoc] at behind
    rw [flatMap_cons, append_assoc, length_append]
    have inside : front.length < front.length +
        (attr.encode.length + (later.flatMap PathAttribute.encode).length) := by
      rw [PathAttribute.encode, length_cons]
      omega
    rw [parseAttributes_step rfl inside (read_eq_effect attr attributes)]
    exact behind

/-- What a well-formed message is read as. -/
def UpdateMessage.parsed (message : UpdateMessage) : ParsedUpdate String :=
  { message.attributes.foldl (fun attributes attr => attr.effect attributes) {} with
    prefixes := message.announcedPrefixes }

theorem parseUpdate_encode_eq : parseUpdate message.encode = .ok (some message.parsed) := by
  generalize withdrawnShape : message.withdrawn.flatMap Nlri.encode = withdrawn
  generalize attributesShape : message.attributes.flatMap PathAttribute.encode = attributes
  have withdrawnSized := message.withdrawnSized
  have attributesSized := message.attributesSized
  rw [withdrawnShape] at withdrawnSized
  rw [attributesShape] at attributesSized
  have shape : message.encode = bigEndian 2 withdrawn.length ++ (withdrawn ++
      (bigEndian 2 attributes.length ++
        (attributes ++ message.announced.flatMap Nlri.encode))) := by
    rw [UpdateMessage.encode, withdrawnShape, attributesShape]
  have size := congrArg List.length shape
  simp only [length_append, length_bigEndian] at size
  have first : unpackAt 2 message.encode 0 = .ok withdrawn.length :=
    unpackAt_of_shape (shape.trans (nil_append _).symm) rfl withdrawnSized
  have second : unpackAt 2 message.encode (2 + withdrawn.length) = .ok attributes.length :=
    unpackAt_of_shape (shape.trans (append_assoc _ _ _).symm) (by simp) attributesSized
  have front : message.encode = (bigEndian 2 withdrawn.length ++ withdrawn ++
      bigEndian 2 attributes.length) ++ (attributes ++ message.announced.flatMap Nlri.encode) := by
    rw [shape]
    simp only [append_assoc]
  have parsed := parseAttributes_encode (bigEndian 2 withdrawn.length ++ withdrawn ++
    bigEndian 2 attributes.length) message.attributes (message.announced.flatMap Nlri.encode) {}
  rw [attributesShape, ← front] at parsed
  have position : (bigEndian 2 withdrawn.length ++ withdrawn ++
      bigEndian 2 attributes.length).length = 2 + withdrawn.length + 2 := by
    rw [length_append, length_append, length_bigEndian, length_bigEndian]
  rw [position] at parsed
  have rest : message.encode.drop (2 + withdrawn.length + 2 + attributes.length) =
      message.announced.flatMap Nlri.encode := by
    rw [front, ← append_assoc]
    exact drop_left' (by rw [length_append, position])
  unfold parseUpdate
  rw [if_neg (by omega), first]
  dsimp only [Except.bind, bind]
  rw [if_neg (by omega), second]
  dsimp only
  rw [if_neg (by omega), parsed]
  dsimp only
  rw [rest, parsePrefixes_encode]
  rfl

/-- A well-formed message is read, and the networks it announces are read back. -/
theorem parseUpdate_encode : ∃ update : ParsedUpdate String,
    parseUpdate message.encode = .ok (some update) ∧ update.prefixes = message.announcedPrefixes :=
  ⟨message.parsed, parseUpdate_encode_eq message, rfl⟩

end NetLab.Bgp
