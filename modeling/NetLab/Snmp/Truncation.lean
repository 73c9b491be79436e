import NetLab.Snmp.Wire

/-!
# Truncated requests

The reader of tags and lengths slices without a check, so what is left of a request is mostly read
as if it were whole. `truncation_noticed_iff` says which prefixes of a request fail.
-/

namespace NetLab.Snmp

open NetLab.Library List

/-- A tag and length octets, in the short or the long form, for this many bytes. -/
inductive Announces (count : Nat) : List UInt8 → Prop where
  | short (tag byte : UInt8) (small : byte &&& 0x80 = 0) (announced : byte.toNat = count) :
      Announces count [tag, byte]
  | long (tag byte : UInt8) (octets : List UInt8) (marked : byte &&& 0x80 ≠ 0)
      (size : (byte &&& 0x7f).toNat = octets.length) (announced : bigEndianValue octets = count) :
      Announces count (tag :: byte :: octets)

/-- A tag, length octets and as many bytes as they announce. -/
structure Tlv where
  header : List UInt8
  contents : List UInt8
  announces : Announces contents.length header

namespace Tlv

def tag (frame : Tlv) : UInt8 := frame.header.headD 0

def bytes (frame : Tlv) : List UInt8 := frame.header ++ frame.contents

theorem two_le_header (frame : Tlv) : 2 ≤ frame.header.length := by
  obtain ⟨header, contents, announces⟩ := frame
  cases announces <;> simp

theorem length_bytes (frame : Tlv) :
    frame.bytes.length = frame.header.length + frame.contents.length :=
  length_append

end Tlv

theorem take_contents (contents rest : List UInt8) (count : Nat) :
    ((contents ++ rest).take count).take contents.length = contents.take count ∧
      ((contents ++ rest).take count).drop contents.length =
        rest.take (count - contents.length) := by
  constructor
  · rw [take_take, take_append_of_le_length (Nat.min_le_left ..), Nat.min_comm,
      ← take_take, take_length]
  · rw [drop_take, drop_left]

theorem readTlv_take (frame : Tlv) (rest : List UInt8) (count : Nat) :
    readTlv ((frame.bytes ++ rest).take count) = if count < 2 then .error .index
      else .ok (frame.tag, frame.contents.take (count - frame.header.length),
        rest.take (count - frame.bytes.length)) := by
  obtain ⟨header, contents, announces⟩ := frame
  match count with
  | 0 => rfl
  | 1 => cases announces <;> rfl
  | count + 2 =>
    rw [if_neg (by omega)]
    cases announces with
    | short tag byte small announced =>
      obtain ⟨here, behind⟩ := take_contents contents rest count
      change readTlv (tag :: byte :: (contents ++ rest).take count) = _
      rw [readTlv, if_neg (not_not.mpr small), announced, here, behind]
      simp [Tlv.tag, Tlv.bytes]
    | long tag byte octets marked size announced =>
      have octetsLeft := take_contents octets (contents ++ rest) count
      obtain ⟨here, behind⟩ := take_contents contents rest (count - octets.length)
      change readTlv (tag :: byte :: (octets ++ contents ++ rest).take count) = _
      rw [append_assoc, readTlv, if_pos marked, size]
      dsimp only
      rw [octetsLeft.1, octetsLeft.2]
      by_cases whole : octets.length ≤ count
      · rw [take_of_length_le whole, announced, here, behind]
        simp [Tlv.tag, Tlv.bytes]
        omega
      · have none : count - octets.length = 0 := by omega
        simp [Tlv.tag, Tlv.bytes, none]
        omega

/-- A request: frames within frames, as the decoder opens them. -/
structure Request where
  message : Tlv
  version : Tlv
  community : Tlv
  pdu : Tlv
  requestId : Tlv
  param2 : Tlv
  param3 : Tlv
  list : Tlv
  varbinds : List Tlv
  isSequence : message.tag = tagSequence
  inMessage : message.contents = version.bytes ++ (community.bytes ++ pdu.bytes)
  inPdu : pdu.contents = requestId.bytes ++ (param2.bytes ++ (param3.bytes ++ list.bytes))
  inList : list.contents = varbinds.flatMap Tlv.bytes
  inVarbind : ∀ varbind ∈ varbinds, ∃ oid value : Tlv, varbind.contents = oid.bytes ++ value.bytes

namespace Request

def datagram (request : Request) : List UInt8 := request.message.bytes

/-- Where the list of variables starts. -/
def listAt (request : Request) : Nat :=
  request.message.header.length + request.version.bytes.length + request.community.bytes.length +
    request.pdu.header.length + request.requestId.bytes.length + request.param2.bytes.length +
    request.param3.bytes.length

end Request

/-- The first bytes end within the header of one of the variables, or in the two bytes behind it. -/
def EndsInHeader (varbinds : List Tlv) (count : Nat) : Prop :=
  ∃ before varbind after, varbinds = before ++ varbind :: after ∧
    (before.flatMap Tlv.bytes).length < count ∧
      count < (before.flatMap Tlv.bytes).length + varbind.header.length + 2

/-- The first bytes of a request end before the length of the list of variables, or where a variable
starts. -/
def Request.Noticed (request : Request) (count : Nat) : Prop :=
  count < request.listAt + 2 ∨
    EndsInHeader request.varbinds (count - (request.listAt + request.list.header.length))

theorem readOid_take {varbind : Tlv}
    (inVarbind : ∃ oid value : Tlv, varbind.contents = oid.bytes ++ value.bytes) (count : Nat) :
    (∃ error, readOid (varbind.contents.take count) = .error error) ↔ count < 2 := by
  obtain ⟨oid, value, contents⟩ := inVarbind
  rw [readOid, contents, readTlv_take]
  split
  · exact iff_of_true ⟨_, rfl⟩ (by assumption)
  · refine iff_of_false ?_ (by assumption)
    rintro ⟨error, failed⟩
    cases failed

theorem readVarbinds_take {varbinds : List Tlv}
    (inVarbind : ∀ varbind ∈ varbinds, ∃ oid value : Tlv,
      varbind.contents = oid.bytes ++ value.bytes) {count fuel : Nat}
    (enough : ((varbinds.flatMap Tlv.bytes).take count).length ≤ fuel) :
    (∃ error, readVarbinds readOid fuel ((varbinds.flatMap Tlv.bytes).take count) =
      .error error) ↔ EndsInHeader varbinds count := by
  induction varbinds generalizing count fuel with
  | nil =>
    refine iff_of_false ?_ ?_
    · rintro ⟨error, failed⟩
      cases fuel <;> simp [readVarbinds] at failed
    · rintro ⟨before, varbind, after, list, -⟩
      simp at list
  | cons varbind rest ih =>
    have header := varbind.two_le_header
    have length := varbind.length_bytes
    have behind : EndsInHeader (varbind :: rest) count ↔
        (0 < count ∧ count < varbind.header.length + 2) ∨
          EndsInHeader rest (count - varbind.bytes.length) := by
      constructor
      · rintro ⟨_ | ⟨first, before⟩, found, after, list, above, below⟩
        · obtain ⟨rfl, rfl⟩ := List.cons.inj list
          exact .inl ⟨by simpa using above, by simpa using below⟩
        · obtain ⟨rfl, rfl⟩ := List.cons.inj list
          rw [flatMap_cons, length_append] at above below
          exact .inr ⟨before, found, after, rfl, by omega, by omega⟩
      · rintro (⟨above, below⟩ | ⟨before, found, after, rfl, above, below⟩)
        · exact ⟨[], varbind, rest, rfl, by simpa using above, by simpa using below⟩
        · refine ⟨varbind :: before, found, after, rfl, ?_, ?_⟩ <;>
            rw [flatMap_cons, length_append] <;> omega
    rw [flatMap_cons] at enough ⊢
    rcases Nat.eq_zero_or_pos count with rfl | some
    · have none : ¬ EndsInHeader rest 0 := by
        rintro ⟨_, _, _, _, above, _⟩
        omega
      rw [behind, take_zero]
      refine iff_of_false ?_ (by simpa using none)
      rintro ⟨error, failed⟩
      cases fuel <;> simp [readVarbinds] at failed
    · have read := readTlv_take varbind (rest.flatMap Tlv.bytes) count
      generalize left : (varbind.bytes ++ rest.flatMap Tlv.bytes).take count = bytes at enough read
      have size : min count (varbind.bytes.length + (rest.flatMap Tlv.bytes).length) =
          bytes.length := by rw [← left, length_take, length_append]
      obtain ⟨first, others, rfl⟩ : ∃ first others, bytes = first :: others :=
        exists_cons_of_length_pos (by omega)
      obtain ⟨fuel, rfl⟩ : ∃ less, fuel = less + 1 :=
        ⟨fuel - 1, by rw [length_cons] at enough; omega⟩
      rw [readVarbinds, read, behind]
      swap
      · simp
      by_cases short : count < 2
      · rw [if_pos short]
        exact iff_of_true ⟨_, rfl⟩ (.inl ⟨some, by omega⟩)
      rw [if_neg short]
      have here := readOid_take (inVarbind varbind mem_cons_self) (count - varbind.header.length)
      change (∃ error, (readOid (varbind.contents.take (count - varbind.header.length)) >>= _) =
        .error error) ↔ _
      cases oid : readOid (varbind.contents.take (count - varbind.header.length)) with
      | error error =>
        have cut := here.mp ⟨error, oid⟩
        exact iff_of_true ⟨_, rfl⟩ (.inl ⟨some, by omega⟩)
      | ok oid =>
        have whole : ¬ count - varbind.header.length < 2 := fun cut => by
          obtain ⟨error, failed⟩ := here.mpr cut
          rw [oid] at failed
          cases failed
        have fewer : ((rest.flatMap Tlv.bytes).take (count - varbind.bytes.length)).length ≤
            fuel := by
          rw [length_cons] at enough size
          rw [length_take]
          omega
        have later := ih (fun varbind inside => inVarbind varbind (.tail _ inside)) fewer
        rw [or_iff_right (by omega), ← later]
        change (∃ error, (readVarbinds readOid fuel _ >>= _) = .error error) ↔ _
        cases readVarbinds readOid fuel
            ((rest.flatMap Tlv.bytes).take (count - varbind.bytes.length)) with
        | error error => exact iff_of_true ⟨_, rfl⟩ ⟨_, rfl⟩
        | ok oids =>
          refine iff_of_false ?_ ?_
          all_goals
            rintro ⟨error, failed⟩
            cases failed

theorem bind_readTlv_take {α : Type} (frame : Tlv) (rest : List UInt8) (count : Nat)
    (next : UInt8 × List UInt8 × List UInt8 → Except DecodeError α) :
    (readTlv ((frame.bytes ++ rest).take count) >>= next) = if count < 2 then .error .index
      else next (frame.tag, frame.contents.take (count - frame.header.length),
        rest.take (count - frame.bytes.length)) := by
  rw [readTlv_take]
  split <;> rfl

theorem openMessage_take (replaced : List UInt8 → String) (request : Request) (count : Nat) :
    (count < request.listAt + 2 ∧
        ∃ error, openMessage replaced (request.datagram.take count) = .error error) ∨
      (request.listAt + 2 ≤ count ∧ ∃ header, openMessage replaced (request.datagram.take count) =
          .ok (header, request.list.contents.take
            (count - (request.listAt + request.list.header.length)))) := by
  have header := request.message.two_le_header
  have pduHeader := request.pdu.two_le_header
  have datagram : request.datagram = request.message.bytes ++ [] := (append_nil _).symm
  have inMessage : request.message.contents = request.version.bytes ++
      (request.community.bytes ++ (request.pdu.bytes ++ [])) := by
    rw [request.inMessage, append_nil]
  have inPdu : request.pdu.contents = request.requestId.bytes ++ (request.param2.bytes ++
      (request.param3.bytes ++ (request.list.bytes ++ []))) := by
    rw [request.inPdu, append_nil]
  unfold Request.listAt
  obtain ⟨result, opened⟩ : ∃ result, openMessage replaced (request.datagram.take count) = result :=
    ⟨_, rfl⟩
  rw [opened]
  simp only [openMessage, datagram, bind_readTlv_take, request.isSequence, inMessage, inPdu, ne_eq,
    not_true_eq_false, if_false] at opened
  -- One reading after the other: message, version, community, PDU and its four fields.
  iterate 8
    split at opened
    · exact .inl ⟨by omega, _, opened.symm⟩
  have left : count - (request.message.header.length + request.version.bytes.length +
      request.community.bytes.length + request.pdu.header.length +
      request.requestId.bytes.length + request.param2.bytes.length +
      request.param3.bytes.length + request.list.header.length) = count -
      request.message.header.length - request.version.bytes.length -
      request.community.bytes.length - request.pdu.header.length -
      request.requestId.bytes.length - request.param2.bytes.length -
      request.param3.bytes.length - request.list.header.length := by omega
  rw [left]
  exact .inr ⟨by omega, _, opened.symm⟩

/-- Of the prefixes of a request, those fail that end before the length of the list of variables or
in the header of a variable, and the reader accepts whatever has two bytes. -/
theorem truncation_noticed_iff (replaced : List UInt8 → String) :
    (∀ (request : Request) (count : Nat),
      (∀ result, decodeRequest replaced (request.datagram.take count) ≠ .ok result) ↔
        request.Noticed count) ∧
    ∀ bytes : List UInt8,
      (∀ result, readTlv bytes = .ok result → ∃ (frame : Tlv) (rest : List UInt8),
        bytes = frame.bytes ++ rest) ↔
      bytes.length < 2 ∨ ∃ (frame : Tlv) (rest : List UInt8), bytes = frame.bytes ++ rest := by
  refine ⟨fun request count => ?_, fun bytes => ?_⟩
  · rcases openMessage_take replaced request count with ⟨early, error, failed⟩ | ⟨late, header, opened⟩
    · refine iff_of_true (fun result decoded => ?_) (.inl early)
      rw [decodeRequest, failed] at decoded
      cases decoded
    · rw [Request.Noticed, or_iff_right (by omega), ← readVarbinds_take request.inVarbind le_rfl,
        decodeRequest, opened, request.inList]
      change (∀ result, (readVarbinds readOid _ _ >>= _) ≠ .ok result) ↔ _
      cases readVarbinds readOid _ _ with
      | error error => exact iff_of_true (fun _ decoded => by cases decoded) ⟨_, rfl⟩
      | ok oids =>
        refine iff_of_false (fun never => never _ rfl) ?_
        rintro ⟨error, failed⟩
        cases failed
  · match bytes with
    | [] | [_] => exact iff_of_true (fun _ read => by cases read) (.inl (by simp))
    | tag :: length :: rest =>
      have accepted : ∃ result, readTlv (tag :: length :: rest) = .ok result := by
        rw [readTlv]
        split <;> exact ⟨_, rfl⟩
      rw [or_iff_right (by simp)]
      obtain ⟨result, read⟩ := accepted
      exact ⟨fun complete => complete result read, fun complete _ _ => complete⟩

section Cut

/-- A frame of the short form. -/
def shortTlv (tag : UInt8) (contents : List UInt8) (small : contents.length < 128) : Tlv where
  header := [tag, UInt8.ofNat contents.length]
  contents := contents
  announces := by
    have size : (UInt8.ofNat contents.length).toNat = contents.length := by
      rw [UInt8.toNat_ofNat', Nat.mod_eq_of_lt (by omega)]
    exact .short tag _ (unmarked_septet small).2 size

/-- The variable `1.3.6.1.2.1.1.1.0`, without a value. -/
def sysDescrOid : Tlv := shortTlv 0x06 [0x2b, 6, 1, 2, 1, 1, 1, 0] (by decide)

def sysDescrVarbind : Tlv :=
  shortTlv 0x30 (sysDescrOid.bytes ++ (shortTlv 0x05 [] (by decide)).bytes) (by decide)

def numberTlv (value : UInt8) : Tlv := shortTlv 0x02 [value] (by simp)

def describeSystem : Request where
  message := shortTlv 0x30 ((numberTlv 1).bytes ++ ((shortTlv 0x04 [112, 117, 98] (by decide)).bytes ++
    (shortTlv 0xa0 ((numberTlv 7).bytes ++ ((numberTlv 0).bytes ++ ((numberTlv 0).bytes ++
      (shortTlv 0x30 sysDescrVarbind.bytes (by decide)).bytes))) (by decide)).bytes)) (by decide)
  version := numberTlv 1
  community := shortTlv 0x04 [112, 117, 98] (by decide)
  pdu := shortTlv 0xa0 ((numberTlv 7).bytes ++ ((numberTlv 0).bytes ++ ((numberTlv 0).bytes ++
    (shortTlv 0x30 sysDescrVarbind.bytes (by decide)).bytes))) (by decide)
  requestId := numberTlv 7
  param2 := numberTlv 0
  param3 := numberTlv 0
  list := shortTlv 0x30 sysDescrVarbind.bytes (by decide)
  varbinds := [sysDescrVarbind]
  isSequence := rfl
  inMessage := rfl
  inPdu := rfl
  inList := rfl
  inVarbind := by
    intro varbind inside
    rw [mem_singleton.mp inside]
    exact ⟨sysDescrOid, shortTlv 0x05 [] (by decide), rfl⟩

/-- Without its last six bytes the request is still read, with a shorter identifier. -/
theorem cutRequest_decoded : describeSystem.datagram.length = 37 ∧
    ∃ header, decodeRequest (fun _ => "") (describeSystem.datagram.take 31) =
      .ok (header, ["1.3.6.1.2"]) :=
  ⟨rfl, _, rfl⟩

end Cut

end NetLab.Snmp
