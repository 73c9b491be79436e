import NetLab.Snmp.ObjectIds

/-!
# Responses over the wire

What the encoder makes of a response is a nest of frames, and a frame is read back whatever
stands behind it. `encodeResponse_reads` says what the decoder finds in a response that was
built; `intact_iff` says which replies are built and come back as they were.
-/

namespace NetLab.Snmp

open List

open NetLab.Library

variable {bytes : List UInt8} {items : List (List UInt8)} {tag : UInt8}

variable {contents : List UInt8} {value : Int} {α β : Type}

/-- A sequence that succeeds succeeds in each of its parts. -/
theorem ok_of_bind {ε : Type} {made : Except ε α} {next : α → Except ε β} {result : β}
    (bound : (made >>= next) = .ok result) :
    ∃ value, made = .ok value ∧ next value = .ok result := by
  cases made with
  | error error => cases bound
  | ok value => exact ⟨value, rfl, bound⟩

/-! ## Frames -/

def Frames (tag : UInt8) (contents bytes : List UInt8) : Prop :=
  ∀ rest, readTlv (bytes ++ rest) = .ok (tag, contents, rest)

theorem Frames.ne_nil {bytes : List UInt8} (frames : Frames tag contents bytes) : bytes ≠ [] := by
  rintro rfl
  have read := frames []
  simp [readTlv] at read

theorem lengthBytes_lt {length : Nat} (small : length ≤ maxSize) :
    (bitLength length + 7) / 8 < 128 := by
  have bits : bitLength length ≤ 63 :=
    bitLength_le (lt_of_le_of_lt small (by decide))
  omega

theorem frames_tlv {bytes : List UInt8} (made : tlv tag contents = .ok bytes) :
    Frames tag contents bytes := by
  unfold tlv at made
  simp only at made
  split at made
  case isFalse => cases made
  case isTrue room =>
      cases made
      intro rest
      have small : contents.length ≤ maxSize := by
        refine le_trans ?_ room
        simp only [length_cons, length_append]
        omega
      rw [cons_append, append_assoc]
      unfold encodeLength
      split
      case isTrue short =>
          have byte : (UInt8.ofNat contents.length).toNat = contents.length := by
            rw [UInt8.toNat_ofNat', Nat.mod_eq_of_lt (by omega)]
          have unmarked := (unmarked_septet short).2
          rw [singleton_append, readTlv, if_neg (by simpa using unmarked), byte,
            take_left, drop_left]
      case isFalse long =>
          have width := lengthBytes_lt small
          generalize wide : (bitLength contents.length + 7) / 8 = size at width
          have fits : contents.length < 256 ^ size := lt_pow_of_bitLength (by omega)
          have head : UInt8.ofNat (0x80 ||| size) = UInt8.ofNat size ||| 0x80 := by
            rw [UInt8.ofNat_or, UInt8.or_comm]
            rfl
          obtain ⟨group, marked⟩ := marked_septet width
          simp only [cons_append, length_bigEndian]
          rw [readTlv, head, if_pos marked]
          simp only [group]
          rw [take_left' (length_bigEndian size _), drop_left' (length_bigEndian size _),
            bigEndianValue_bigEndian, Nat.mod_eq_of_lt fits, take_left, drop_left]

/-! ## Integers and texts -/

/-- An integer that is encoded is not negative, and it is read back. -/
theorem decodeInt_integerContents (made : integerContents value tag = .ok contents) :
    0 ≤ value ∧ decodeInt contents = value := by
  unfold integerContents at made
  split at made
  case h_1 => cases made
  case h_2 =>
      cases made
      exact ⟨le_rfl, by decide⟩
  case h_3 value _ =>
      refine ⟨Int.natCast_nonneg _, ?_⟩
      generalize width : max 1 ((bitLength value + 8) / 8) = bytes at made
      have wide : bitLength value < 8 * bytes := by omega
      have signed := signedValue_bigEndian wide
      have plain : ¬ ((bigEndian bytes value).headD 0 &&& 0x80 ≠ 0 ∧ tag = tagInteger) := by
        rintro ⟨high, -⟩
        have low : ((bigEndian bytes value).headD 0).toNat < 128 := by
          by_contra top
          have fits : bigEndianValue (bigEndian bytes value) < 256 ^ bytes := by
            rw [bigEndianValue_bigEndian]
            exact Nat.mod_lt _ (Nat.pow_pos (by decide))
          rw [signedValue, if_pos (not_lt.mp top), length_bigEndian] at signed
          have bound : ((bigEndianValue (bigEndian bytes value) : Nat) : Int) < 256 ^ bytes := by
            exact_mod_cast fits
          omega
        have unmarked := (unmarked_septet low).2
        rw [UInt8.ofNat_toNat] at unmarked
        exact high unmarked
      simp only [if_neg plain, Except.ok.injEq] at made
      subst made
      have nonempty : bigEndian bytes value ≠ [] := by
        intro empty
        have length := length_bigEndian bytes value
        rw [empty, length_nil] at length
        omega
      rw [decodeInt, if_neg nonempty, signed]
      rfl

theorem encodeInt_reads (made : encodeInt value tag = .ok bytes) :
    0 ≤ value ∧ ∃ contents, Frames tag contents bytes ∧ decodeInt contents = value := by
  obtain ⟨contents, inside, framed⟩ := ok_of_bind made
  obtain ⟨nonneg, decoded⟩ := decodeInt_integerContents inside
  exact ⟨nonneg, contents, frames_tlv framed, decoded⟩

theorem decodeText_toUTF8 (replaced : List UInt8 → String) (text : String) :
    decodeText replaced text.toUTF8.data.toList = text := by
  simp [decodeText, String.fromUTF8?, text.isValidUTF8, String.fromUTF8]

/-! ## Variables -/

/-- The types whose values are numbers below 2^32. -/
def isUnsigned32 (tag : UInt8) : Bool :=
  tag == tagCounter32 || tag == tagGauge32 || tag == tagTimeticks

namespace Answer

def unsigned32 : Answer → Option String
  | .value .counter32 text | .value .gauge32 text | .value .timeticks text => some text
  | _ => none

def Encodable : Answer → Prop
  | .noSuchObject | .endOfMibView => True
  | .value type text =>
    match type with
    | .integer | .timeticks | .counter32 | .gauge32 => ∃ value, pyInt text.toList = some value ∧ 0 ≤ value
    | .oid => ∃ contents, oidContents text = .ok contents
    | .ipAddress => ∃ contents, addressContents text = .ok contents
    | .string | .other _ => True

/-- The number of a counter, a gauge or a time is below 2^32. -/
def Within (answer : Answer) : Prop :=
  ∀ text, answer.unsigned32 = some text → ∀ value, pyInt text.toList = some value → value < 2 ^ 32

end Answer

/-- A field of a variable is read back with its tag, and as a number if the tag is that of a
counter, a gauge or a time. -/
structure AnswerReads (answer : Answer) (bytes : List UInt8) (tag : UInt8)
    (contents : List UInt8) : Prop where
  frames : Frames tag contents bytes
  encodable : answer.Encodable
  unsigned : isUnsigned32 tag = true → ∃ text, answer.unsigned32 = some text ∧
    pyInt text.toList = some (decodeInt contents) ∧ 0 ≤ decodeInt contents
  counted : ∀ text, answer.unsigned32 = some text → isUnsigned32 tag = true

theorem encodeNumber_reads {text : String} (made : encodeNumber text tag = .ok bytes) :
    ∃ contents, Frames tag contents bytes ∧
      pyInt text.toList = some (decodeInt contents) ∧ 0 ≤ decodeInt contents := by
  unfold encodeNumber at made
  split at made
  case h_1 => cases made
  case h_2 value read =>
      obtain ⟨nonneg, contents, frames, rfl⟩ := encodeInt_reads made
      exact ⟨contents, frames, read, nonneg⟩

theorem frames_of_bind {made : Except EncodeError (List UInt8)}
    (framed : (made >>= tlv tag) = .ok bytes) :
    ∃ contents, made = .ok contents ∧ Frames tag contents bytes := by
  obtain ⟨contents, inside, framed⟩ := ok_of_bind framed
  exact ⟨contents, inside, frames_tlv framed⟩

theorem encodeAnswer_reads {answer : Answer} (made : encodeAnswer answer = .ok bytes) :
    ∃ tag contents, AnswerReads answer bytes tag contents := by
  have number : ∀ text tag, isUnsigned32 tag = true → answer.unsigned32 = some text →
      ((∃ value, pyInt text.toList = some value ∧ 0 ≤ value) → answer.Encodable) →
      encodeNumber text tag = .ok bytes →
      ∃ tag contents, AnswerReads answer bytes tag contents := by
    intro text tag counter shown encodable made
    obtain ⟨contents, frames, read, nonneg⟩ := encodeNumber_reads made
    exact ⟨tag, contents, frames, encodable ⟨_, read, nonneg⟩, fun _ => ⟨text, shown, read, nonneg⟩,
      fun _ _ => counter⟩
  have plain : ∀ tag contents, isUnsigned32 tag = false → answer.unsigned32 = none →
      answer.Encodable → Frames tag contents bytes →
      ∃ tag contents, AnswerReads answer bytes tag contents := by
    intro tag contents other silent encodable frames
    refine ⟨tag, contents, frames, encodable, fun counter => ?_, fun text shown => ?_⟩
    · rw [other] at counter
      cases counter
    · rw [silent] at shown
      cases shown
  cases answer with
  | noSuchObject => exact plain tagNoSuchObject [] rfl rfl trivial (frames_tlv made)
  | endOfMibView => exact plain tagEndOfMibView [] rfl rfl trivial (frames_tlv made)
  | value type text =>
    cases type with
    | integer =>
      obtain ⟨contents, frames, read, nonneg⟩ := encodeNumber_reads made
      exact plain _ _ rfl rfl ⟨_, read, nonneg⟩ frames
    | string => exact plain _ _ rfl rfl trivial (frames_tlv made)
    | oid =>
      obtain ⟨contents, packed, frames⟩ := frames_of_bind made
      exact plain _ _ rfl rfl ⟨contents, packed⟩ frames
    | timeticks => exact number text _ rfl rfl id made
    | counter32 => exact number text _ rfl rfl id made
    | gauge32 => exact number text _ rfl rfl id made
    | ipAddress =>
      obtain ⟨contents, packed, frames⟩ := frames_of_bind made
      exact plain _ _ rfl rfl ⟨contents, packed⟩ frames
    | other name => exact plain _ _ rfl rfl trivial (frames_tlv made)

/-- The tag of a variable's value and its contents as a number. -/
def readNumber (varbind : List UInt8) : Except DecodeError (UInt8 × Int) := do
  let (_, _, rest) ← readTlv varbind
  let (tag, contents, _) ← readTlv rest
  return (tag, decodeInt contents)

/-- What is read in the frame of a variable. -/
structure VarbindReads (varbind : Varbind) (bytes : List UInt8) (oid : List UInt8) (tag : UInt8)
    (contents body : List UInt8) : Prop where
  frames : Frames tagSequence body bytes
  packed : oidContents varbind.oid = .ok oid
  readOid : readOid body = .ok (decodeOid oid)
  readNumber : readNumber body = .ok (tag, decodeInt contents)
  answer : ∃ value, AnswerReads varbind.answer value tag contents

theorem encodeVarbind_reads {varbind : Varbind} (made : encodeVarbind varbind = .ok bytes) :
    ∃ oid tag contents body, VarbindReads varbind bytes oid tag contents body := by
  obtain ⟨oidBytes, oidMade, made⟩ := ok_of_bind made
  obtain ⟨valueBytes, answerMade, made⟩ := ok_of_bind made
  obtain ⟨oid, packed, oidFrames⟩ := frames_of_bind oidMade
  obtain ⟨tag, contents, reads⟩ := encodeAnswer_reads answerMade
  have valueFrames := reads.frames []
  rw [append_nil] at valueFrames
  refine ⟨oid, tag, contents, oidBytes ++ valueBytes, frames_tlv made, packed, ?_, ?_, valueBytes,
    reads⟩
  · rw [NetLab.Snmp.readOid, oidFrames valueBytes]
    rfl
  · rw [NetLab.Snmp.readNumber, oidFrames valueBytes]
    change (readTlv valueBytes >>= _) = _
    rw [valueFrames]
    rfl

/-! ## Messages -/

/-- Each item of a successful traversal succeeded. -/
theorem forall₂_of_mapM {ε : Type} {act : α → Except ε β} {items : List α} {results : List β}
    (made : items.mapM act = .ok results) :
    List.Forall₂ (fun item result => act item = .ok result) items results := by
  induction items generalizing results with
  | nil =>
    cases made
    exact .nil
  | cons item items ih =>
    rw [mapM_cons] at made
    obtain ⟨result, first, made⟩ := ok_of_bind made
    obtain ⟨rest, others, made⟩ := ok_of_bind made
    cases made
    exact .cons first (ih others)

theorem readVarbinds_flatten {read : List UInt8 → Except DecodeError α} {values : List α}
    (reads : List.Forall₂ (fun bytes value => ∃ body, Frames tagSequence body bytes ∧
      read body = .ok value) items values) {fuel : Nat} (enough : items.length ≤ fuel) :
    readVarbinds read fuel items.flatten = .ok values := by
  induction reads generalizing fuel with
  | nil => cases fuel <;> rfl
  | @cons bytes value items values first others ih =>
    obtain ⟨body, frames, valueRead⟩ := first
    cases fuel with
    | zero => simp at enough
    | succ fuel =>
      have rest := ih (Nat.le_of_succ_le_succ enough)
      obtain ⟨byte, tail, shape⟩ := exists_cons_of_ne_nil
        (append_ne_nil_of_left_ne_nil frames.ne_nil items.flatten)
      have opened := frames items.flatten
      rw [flatten_cons]
      rw [shape] at opened ⊢
      rw [readVarbinds]
      simp [opened, valueRead, rest, bind, Except.bind, pure, Except.pure]
      intro empty
      cases empty

theorem length_le_flatten (nonempty : ∀ bytes ∈ items, bytes ≠ []) :
    items.length ≤ items.flatten.length := by
  induction items with
  | nil => exact le_rfl
  | cons bytes items ih =>
    have first := length_pos_of_ne_nil (nonempty bytes mem_cons_self)
    have others := ih fun other member => nonempty other (mem_cons_of_mem _ member)
    simp only [length_cons, flatten_cons, length_append]
    omega

theorem frames_nonempty {property : List UInt8 → α → Prop} {values : List α}
    (reads : List.Forall₂ (fun bytes value => ∃ body,
      Frames tagSequence body bytes ∧ property body value) items values) :
    ∀ bytes ∈ items, bytes ≠ [] := by
  induction reads with
  | nil => simp
  | cons first _ ih =>
    obtain ⟨_, frames, _⟩ := first
    exact forall_mem_cons.mpr ⟨frames.ne_nil, ih⟩

/-- What the decoder returns for a response besides the object identifiers. -/
def Response.header (response : Response) : Header where
  version := response.version
  community := response.community
  pduType := pduResponse
  requestId := response.requestId
  param2 := response.errorStatus
  param3 := response.errorIndex

/-- Numbers of the values of a message, with their tags. -/
def responseNumbers (replaced : List UInt8 → String) (data : List UInt8) :
    Except DecodeError (List (UInt8 × Int)) := do
  let (_, list) ← openMessage replaced data
  readVarbinds readNumber list.length list

theorem openMessage_encodeResponse {response : Response} {data : List UInt8}
    (made : encodeResponse response = .ok data) (replaced : List UInt8 → String) :
    0 ≤ response.requestId ∧ ∃ items, response.varbinds.mapM encodeVarbind = .ok items ∧
      openMessage replaced data = .ok (response.header, items.flatten) := by
  obtain ⟨items, itemsMade, made⟩ := ok_of_bind made
  obtain ⟨list, listMade, made⟩ := ok_of_bind made
  obtain ⟨requestId, requestIdMade, made⟩ := ok_of_bind made
  obtain ⟨errorStatus, errorStatusMade, made⟩ := ok_of_bind made
  obtain ⟨errorIndex, errorIndexMade, made⟩ := ok_of_bind made
  obtain ⟨pdu, pduMade, made⟩ := ok_of_bind made
  obtain ⟨version, versionMade, made⟩ := ok_of_bind made
  obtain ⟨community, communityMade, made⟩ := ok_of_bind made
  obtain ⟨nonneg, requestIdContents, requestIdFrames, requestIdRead⟩ := encodeInt_reads requestIdMade
  obtain ⟨-, statusContents, statusFrames, statusRead⟩ := encodeInt_reads errorStatusMade
  obtain ⟨-, indexContents, indexFrames, indexRead⟩ := encodeInt_reads errorIndexMade
  obtain ⟨-, versionContents, versionFrames, versionRead⟩ := encodeInt_reads versionMade
  have whole := frames_tlv made []
  have pduFrames := frames_tlv pduMade []
  have listFrames := frames_tlv listMade []
  rw [append_nil] at whole pduFrames listFrames
  refine ⟨nonneg, items, itemsMade, ?_⟩
  unfold openMessage
  rw [whole]
  change (readTlv (version ++ community ++ pdu) >>= _) = _
  rw [append_assoc, versionFrames]
  change (readTlv (community ++ pdu) >>= _) = _
  rw [frames_tlv communityMade]
  change (readTlv pdu >>= _) = _
  rw [pduFrames]
  change (readTlv (requestId ++ errorStatus ++ errorIndex ++ list) >>= _) = _
  rw [append_assoc, append_assoc, requestIdFrames]
  change (readTlv (errorStatus ++ (errorIndex ++ list)) >>= _) = _
  rw [statusFrames]
  change (readTlv (errorIndex ++ list) >>= _) = _
  rw [indexFrames]
  change (readTlv list >>= _) = _
  rw [listFrames]
  change Except.ok _ = _
  rw [versionRead, requestIdRead, statusRead, indexRead, decodeText_toUTF8]
  rfl

/-- What the decoder finds in the variables of a response that was built. -/
structure ItemReads (varbind : Varbind) (oid : String) (number : UInt8 × Int) : Prop where
  packed : (oidContents varbind.oid).map decodeOid = .ok oid
  encodable : varbind.answer.Encodable
  unsigned : isUnsigned32 number.1 = true → ∃ text, varbind.answer.unsigned32 = some text ∧
    pyInt text.toList = some number.2 ∧ 0 ≤ number.2
  counted : ∀ text, varbind.answer.unsigned32 = some text → isUnsigned32 number.1 = true

theorem exists_readings {varbinds : List Varbind}
    (made : List.Forall₂ (fun varbind bytes => encodeVarbind varbind = .ok bytes) varbinds items) :
    ∃ readings : List (String × (UInt8 × Int)),
      List.Forall₂ (fun varbind reading => ItemReads varbind reading.1 reading.2) varbinds readings ∧
      List.Forall₂ (fun bytes reading => ∃ body, Frames tagSequence body bytes ∧
        readOid body = .ok reading.1 ∧ readNumber body = .ok reading.2) items readings := by
  induction made with
  | nil => exact ⟨[], .nil, .nil⟩
  | cons first _ ih =>
    obtain ⟨readings, varbindReads, itemReads⟩ := ih
    obtain ⟨oid, tag, contents, body, reads⟩ := encodeVarbind_reads first
    obtain ⟨_, answer⟩ := reads.answer
    refine ⟨(decodeOid oid, tag, decodeInt contents) :: readings, .cons ?_ varbindReads,
      .cons ⟨body, reads.frames, reads.readOid, reads.readNumber⟩ itemReads⟩
    exact ⟨by rw [reads.packed]; rfl, answer.encodable, answer.unsigned, answer.counted⟩

theorem encodeResponse_reads {response : Response} {data : List UInt8}
    (made : encodeResponse response = .ok data) (replaced : List UInt8 → String) :
    0 ≤ response.requestId ∧ ∃ readings : List (String × (UInt8 × Int)),
      List.Forall₂ (fun varbind reading => ItemReads varbind reading.1 reading.2)
        response.varbinds readings ∧
      decodeRequest replaced data = .ok (response.header, readings.map Prod.fst) ∧
      responseNumbers replaced data = .ok (readings.map Prod.snd) := by
  obtain ⟨nonneg, items, itemsMade, opened⟩ := openMessage_encodeResponse made replaced
  obtain ⟨readings, varbindReads, itemReads⟩ := exists_readings (forall₂_of_mapM itemsMade)
  have enough := length_le_flatten (frames_nonempty itemReads)
  refine ⟨nonneg, readings, varbindReads, ?_, ?_⟩
  · have oids : readVarbinds readOid items.flatten.length items.flatten =
        .ok (readings.map Prod.fst) := readVarbinds_flatten
      (forall₂_map_right_iff.mpr
        (itemReads.imp fun _ _ ⟨body, frames, oid, _⟩ => ⟨body, frames, oid⟩)) enough
    rw [decodeRequest, opened]
    change (readVarbinds readOid items.flatten.length items.flatten >>= _) = _
    rw [oids]
    rfl
  · have numbers : readVarbinds readNumber items.flatten.length items.flatten =
        .ok (readings.map Prod.snd) := readVarbinds_flatten
      (forall₂_map_right_iff.mpr
        (itemReads.imp fun _ _ ⟨body, frames, _, number⟩ => ⟨body, frames, number⟩)) enough
    rw [responseNumbers, opened]
    exact numbers

/-! ## When nothing is in the way -/

/-- Nothing but a lack of memory stops the encoder. -/
def OnlyRoom {α : Type} (made : Except EncodeError α) : Prop :=
  ∀ error, made = .error error → error = .memory

theorem onlyRoom_ok {made : Except EncodeError α} {value : α} (ok : made = .ok value) :
    OnlyRoom made := by
  rintro error rfl
  cases ok

theorem OnlyRoom.bind {made : Except EncodeError α} {next : α → Except EncodeError β}
    (first : OnlyRoom made) (then_ : ∀ value, OnlyRoom (next value)) :
    OnlyRoom (made >>= next) := by
  intro error failed
  cases made with
  | error other =>
    cases failed
    exact first _ rfl
  | ok value => exact then_ value error failed

theorem onlyRoom_tlv (tag : UInt8) (value : List UInt8) : OnlyRoom (tlv tag value) := by
  intro error failed
  unfold tlv at failed
  simp only at failed
  split at failed <;> cases failed
  rfl

theorem onlyRoom_encodeInt (nonneg : 0 ≤ value) (tag : UInt8) : OnlyRoom (encodeInt value tag) := by
  refine OnlyRoom.bind ?_ fun contents => onlyRoom_tlv tag contents
  unfold integerContents
  split
  case h_1 => omega
  case h_2 => exact onlyRoom_ok rfl
  case h_3 => exact onlyRoom_ok rfl

theorem onlyRoom_encodeNumber {text : String} (read : pyInt text.toList = some value)
    (nonneg : 0 ≤ value) (tag : UInt8) : OnlyRoom (encodeNumber text tag) := by
  rw [encodeNumber, read]
  exact onlyRoom_encodeInt nonneg tag

theorem onlyRoom_encodeAnswer {answer : Answer} (encodable : answer.Encodable) :
    OnlyRoom (encodeAnswer answer) := by
  cases answer with
  | noSuchObject => exact onlyRoom_tlv tagNoSuchObject []
  | endOfMibView => exact onlyRoom_tlv tagEndOfMibView []
  | value type text =>
    cases type with
    | integer | timeticks | counter32 | gauge32 =>
      obtain ⟨value, read, nonneg⟩ := encodable
      exact onlyRoom_encodeNumber read nonneg _
    | string | other => exact onlyRoom_tlv _ _
    | oid | ipAddress =>
      obtain ⟨contents, packed⟩ := encodable
      exact OnlyRoom.bind (onlyRoom_ok packed) fun contents => onlyRoom_tlv _ contents

theorem onlyRoom_encodeVarbind {varbind : Varbind} (packed : oidContents varbind.oid = .ok contents)
    (encodable : varbind.answer.Encodable) : OnlyRoom (encodeVarbind varbind) :=
  OnlyRoom.bind (OnlyRoom.bind (onlyRoom_ok packed) fun contents => onlyRoom_tlv _ contents)
    fun _ => OnlyRoom.bind (onlyRoom_encodeAnswer encodable) fun _ => onlyRoom_tlv _ _

theorem OnlyRoom.mapM {act : α → Except EncodeError β} {items : List α}
    (each : ∀ item ∈ items, OnlyRoom (act item)) : OnlyRoom (items.mapM act) := by
  induction items with
  | nil => exact onlyRoom_ok rfl
  | cons item items ih =>
    rw [mapM_cons]
    exact OnlyRoom.bind (each item mem_cons_self) fun _ =>
      OnlyRoom.bind (ih fun other member => each other (mem_cons_of_mem _ member)) fun _ =>
        onlyRoom_ok rfl

theorem onlyRoom_encodeResponse {response : Response} (version : 0 ≤ response.version)
    (requestId : 0 ≤ response.requestId) (errorStatus : 0 ≤ response.errorStatus)
    (errorIndex : 0 ≤ response.errorIndex)
    (varbinds : ∀ varbind ∈ response.varbinds,
      (∃ contents, oidContents varbind.oid = .ok contents) ∧ varbind.answer.Encodable) :
    OnlyRoom (encodeResponse response) := by
  refine OnlyRoom.bind (OnlyRoom.mapM fun varbind member => ?_) fun items => ?_
  · obtain ⟨⟨contents, packed⟩, encodable⟩ := varbinds varbind member
    exact onlyRoom_encodeVarbind packed encodable
  refine OnlyRoom.bind (onlyRoom_tlv _ _) fun list => ?_
  refine OnlyRoom.bind (onlyRoom_encodeInt requestId _) fun _ => ?_
  refine OnlyRoom.bind (onlyRoom_encodeInt errorStatus _) fun _ => ?_
  refine OnlyRoom.bind (onlyRoom_encodeInt errorIndex _) fun _ => ?_
  refine OnlyRoom.bind (onlyRoom_tlv _ _) fun _ => ?_
  refine OnlyRoom.bind (onlyRoom_encodeInt version _) fun _ => ?_
  exact OnlyRoom.bind (onlyRoom_tlv _ _) fun _ => onlyRoom_tlv _ _

/-! ## Replies -/

/-- A variable of a reply: its object identifier and the agent's answer. -/
structure Entry where
  first : Nat
  second : Nat
  rest : List Nat
  answer : Answer

namespace Entry

variable (entry : Entry)

def oid : String := dotted (entry.first :: entry.second :: entry.rest)

def varbind : Varbind := ⟨entry.oid, entry.answer⟩

/-- The first two arcs can be taken out of one byte again. -/
def Packs : Prop := entry.second < 40 ∧ entry.first * 40 + entry.second < 256

end Entry

/-- The reply to a request; its request-id is any Integer32. -/
structure Reply where
  version : Nat
  community : String
  requestId : Int
  entries : List Entry
  integer32 : -2 ^ 31 ≤ requestId ∧ requestId < 2 ^ 31

namespace Reply

variable (reply : Reply)

def response : Response where
  version := reply.version
  community := reply.community
  requestId := reply.requestId
  varbinds := reply.entries.map Entry.varbind

/-- The datagram is built, the decoder finds the fields of the reply in it, and its counters,
gauges and times are below 2^32. -/
def Intact (replaced : List UInt8 → String) : Prop :=
  ∃ data numbers, encodeResponse reply.response = .ok data ∧
    decodeRequest replaced data = .ok (reply.response.header, reply.entries.map Entry.oid) ∧
    responseNumbers replaced data = .ok numbers ∧
    ∀ number ∈ numbers, isUnsigned32 number.1 = true → 0 ≤ number.2 ∧ number.2 < 2 ^ 32

end Reply

/-- What an identifier that is found tells about the packing. -/
theorem ItemReads.packs_iff {entry : Entry} {oid : String} {number : UInt8 × Int}
    (reads : ItemReads entry.varbind oid number) : oid = entry.oid ↔ entry.Packs := by
  have packed := reads.packed
  unfold Entry.Packs
  rw [← roundTrips_dotted_iff entry.first entry.second entry.rest, RoundTrips]
  constructor
  · rintro rfl
    exact packed
  · intro same
    exact Except.ok.inj (packed.symm.trans same)

theorem ItemReads.within_iff {varbind : Varbind} {oid : String} {number : UInt8 × Int}
    (reads : ItemReads varbind oid number) :
    (isUnsigned32 number.1 = true → 0 ≤ number.2 ∧ number.2 < 2 ^ 32) ↔ varbind.answer.Within := by
  constructor
  · intro range text shown value read
    have counter := reads.counted text shown
    obtain ⟨text', shown', read', -⟩ := reads.unsigned counter
    obtain rfl := Option.some.inj (shown.symm.trans shown')
    obtain rfl := Option.some.inj (read.symm.trans read')
    exact (range counter).2
  · intro within counter
    obtain ⟨text, shown, read, nonneg⟩ := reads.unsigned counter
    exact ⟨nonneg, within text shown number.2 read⟩

/-- What is found in a reply that was built is what the reply says, under the same conditions
variable by variable. -/
theorem readings_iff {entries : List Entry} {readings : List (String × (UInt8 × Int))}
    (reads : List.Forall₂ (fun entry reading => ItemReads (Entry.varbind entry) reading.1 reading.2)
      entries readings) :
    (readings.map Prod.fst = entries.map Entry.oid ∧ ∀ number ∈ readings.map Prod.snd,
        isUnsigned32 number.1 = true → 0 ≤ number.2 ∧ number.2 < 2 ^ 32) ↔
      ∀ entry ∈ entries, entry.Packs ∧ entry.answer.Encodable ∧ entry.answer.Within := by
  induction reads with
  | nil => simp
  | @cons entry reading entries readings first _ ih =>
    have packs := first.packs_iff
    have within := first.within_iff
    have encodable : entry.answer.Encodable := first.encodable
    simp only [map_cons, List.cons.injEq, forall_mem_cons]
    rw [← ih, packs, within]
    change (_ ∧ _) ∧ entry.answer.Within ∧ _ ↔ _
    tauto

/-- Unless memory runs out, a reply comes back as it was if and only if its request-id is not
negative, the first two arcs of each identifier are taken apart again, and the encoder has a
form for each answer and no counter, gauge or time has reached 2^32. -/
theorem Reply.intact_iff (replaced : List UInt8 → String) (reply : Reply)
    (room : encodeResponse reply.response ≠ .error .memory) :
    reply.Intact replaced ↔ 0 ≤ reply.requestId ∧
      ∀ entry ∈ reply.entries, entry.Packs ∧ entry.answer.Encodable ∧ entry.answer.Within := by
  constructor
  · rintro ⟨data, numbers, made, decoded, counted, range⟩
    obtain ⟨nonneg, readings, reads, oids, found⟩ := encodeResponse_reads made replaced
    obtain rfl := Except.ok.inj (found.symm.trans counted)
    have same := congrArg Prod.snd (Except.ok.inj (oids.symm.trans decoded))
    exact ⟨nonneg, (readings_iff (forall₂_map_left_iff.mp reads)).mp ⟨same, range⟩⟩
  · rintro ⟨nonneg, entries⟩
    have onlyRoom : OnlyRoom (encodeResponse reply.response) := by
      refine onlyRoom_encodeResponse (Int.natCast_nonneg _) nonneg le_rfl le_rfl fun varbind member => ?_
      obtain ⟨entry, inside, rfl⟩ := mem_map.mp member
      obtain ⟨packs, encodable, -⟩ := entries entry inside
      have contents := (oidContents_dotted entry.first entry.second entry.rest).trans
        (if_pos packs.2)
      exact ⟨⟨_, contents⟩, encodable⟩
    cases made : encodeResponse reply.response with
    | error error => exact absurd (onlyRoom error made ▸ made) room
    | ok data =>
      obtain ⟨-, readings, reads, oids, found⟩ := encodeResponse_reads made replaced
      obtain ⟨same, range⟩ := (readings_iff (forall₂_map_left_iff.mp reads)).mpr entries
      exact ⟨data, _, made, by rw [oids, same], found, range⟩

def uptimeReply (requestId : Int) (integer32 : -2 ^ 31 ≤ requestId ∧ requestId < 2 ^ 31)
    (ticks : String) : Reply :=
  { version := 1, community := "public", requestId, integer32
    entries := [⟨1, 3, [6, 1, 2, 1, 1, 3, 0], .value .timeticks ticks⟩] }

theorem Reply.intact_iff_uptime :
    (uptimeReply 4660 (by decide) "4294967295").Intact (fun _ => "") ↔ 0 ≤ (4660 : Int) ∧
      ∀ entry ∈ (uptimeReply 4660 (by decide) "4294967295").entries,
        entry.Packs ∧ entry.answer.Encodable ∧ entry.answer.Within :=
  Reply.intact_iff (fun _ => "") (uptimeReply 4660 (by decide) "4294967295") (by decide +kernel)

/-- Nothing is sent for a negative request-id, and a time that has reached 2^32 is sent as it
is. -/
theorem Reply.negative_and_overgrown :
    (encodeResponse (uptimeReply (-1) (by decide) "0").response = .error .overflow ∧
        ¬ (uptimeReply (-1) (by decide) "0").Intact fun _ => "") ∧
      ((encodeResponse (uptimeReply 1 (by decide) "4294967296").response).toOption.map
          (responseNumbers fun _ => "") = some (.ok [(tagTimeticks, 2 ^ 32)]) ∧
        ¬ (uptimeReply 1 (by decide) "4294967296").Intact fun _ => "") := by
  have negative : encodeResponse (uptimeReply (-1) (by decide) "0").response = .error .overflow := by
    decide +kernel
  have overgrown : (encodeResponse (uptimeReply 1 (by decide) "4294967296").response).toOption.map
      (responseNumbers fun _ => "") = some (.ok [(tagTimeticks, 2 ^ 32)]) := by
    decide +kernel
  refine ⟨⟨negative, ?_⟩, overgrown, ?_⟩
  · rintro ⟨data, numbers, made, -⟩
    cases negative.symm.trans made
  · rintro ⟨data, numbers, made, -, counted, range⟩
    rw [made] at overgrown
    have found := Except.ok.inj (counted.symm.trans (Option.some.inj overgrown))
    have bound := (range (tagTimeticks, 2 ^ 32) (found ▸ mem_cons_self) (by decide)).2
    exact absurd bound (by decide)

end NetLab.Snmp
