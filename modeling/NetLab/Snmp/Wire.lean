import NetLab.Library.Base128
import NetLab.Library.BigEndian
import NetLab.Library.DottedText

/-!
# SNMP over the wire

The encoder and the decoder of SNMPv2c messages, byte for byte. A byte string of the source
has at most `maxSize` bytes, and building a longer one fails. Object identifiers and values
are the texts that the source passes around; what a text means where a number is expected is
`pyInt`. How invalid UTF-8 is replaced is a parameter.
-/

namespace NetLab.Snmp

open NetLab.Library

/-- How an encoder fails. -/
inductive EncodeError where
  | overflow
  | value
  | memory
deriving DecidableEq

/-- How a decoder fails. -/
inductive DecodeError where
  | index
  | value
deriving DecidableEq

def tagInteger : UInt8 := 0x02
def tagOctetString : UInt8 := 0x04
def tagOid : UInt8 := 0x06
def tagSequence : UInt8 := 0x30
def tagIpAddress : UInt8 := 0x40
def tagCounter32 : UInt8 := 0x41
def tagGauge32 : UInt8 := 0x42
def tagTimeticks : UInt8 := 0x43
def tagNoSuchObject : UInt8 := 0x80
def tagEndOfMibView : UInt8 := 0x82
def pduResponse : UInt8 := 0xa2

/-- Largest size of a byte string. -/
def maxSize : Nat := 2 ^ 63 - 1

/-! ## Numbers in texts -/

/-- Digits, with single underscores between them. -/
def pyDigits (text : List Char) : Option Nat :=
  let groups := text.splitOn '_'
  if groups.all isNumeral then some (numeralValue groups.flatten) else none

/-- `int()` of a text. -/
def pyInt (text : List Char) : Option Int :=
  let stripped := ((text.dropWhile Char.isWhitespace).reverse.dropWhile Char.isWhitespace).reverse
  match stripped with
  | '-' :: digits => (pyDigits digits).map fun value => -(value : Int)
  | '+' :: digits => (pyDigits digits).map Int.ofNat
  | digits => (pyDigits digits).map Int.ofNat

/-! ## Encoding -/

/-- Length octets. -/
def encodeLength (length : Nat) : List UInt8 :=
  if length < 0x80 then [UInt8.ofNat length]
  else
    let body := bigEndian ((bitLength length + 7) / 8) length
    UInt8.ofNat (0x80 ||| body.length) :: body

def tlv (tag : UInt8) (value : List UInt8) : Except EncodeError (List UInt8) :=
  let encoded := tag :: (encodeLength value.length ++ value)
  if encoded.length ≤ maxSize then .ok encoded else .error .memory

/-- Contents of an integer; the encoder has no form for negative ones. -/
def integerContents (value : Int) (tag : UInt8) : Except EncodeError (List UInt8) :=
  match value with
  | .negSucc _ => .error .overflow
  | .ofNat 0 => .ok [0]
  | .ofNat value =>
    let body := bigEndian (max 1 ((bitLength value + 8) / 8)) value
    .ok (if body.headD 0 &&& 0x80 ≠ 0 ∧ tag = tagInteger then 0 :: body else body)

def encodeInt (value : Int) (tag : UInt8) : Except EncodeError (List UInt8) := do
  tlv tag (← integerContents value tag)

/-- Arcs of an object identifier; empty fields are dropped, those at the ends included. A
field with a sign is no arc. -/
def oidArcs (oid : String) : Option (List Nat) :=
  ((dotFields oid).filter fun field => !field.isEmpty).mapM pyDigits

/-- Contents of an object identifier: the first two arcs share a byte. -/
def oidContents (oid : String) : Except EncodeError (List UInt8) :=
  match oidArcs oid with
  | none => .error .value
  | some arcs =>
    let first := arcs.getD 0 0 * 40 + arcs.getD 1 0
    if first < 256 then .ok (UInt8.ofNat first :: (arcs.drop 2).flatMap base128)
    else .error .value

def encodeOid (oid : String) : Except EncodeError (List UInt8) := do
  tlv tagOid (← oidContents oid)

def addressContents (ip : String) : Except EncodeError (List UInt8) :=
  match (dotFields ip).mapM pyInt with
  | none => .error .value
  | some parts =>
    if parts.all fun part => decide (0 ≤ part ∧ part < 256) then
      .ok (parts.map fun part => UInt8.ofNat part.toNat)
    else .error .value

def encodeIpAddress (ip : String) : Except EncodeError (List UInt8) := do
  tlv tagIpAddress (← addressContents ip)

/-- Types under which the agent reports values; a name that is not listed is sent as text. -/
inductive ValueType where
  | integer
  | string
  | oid
  | timeticks
  | counter32
  | gauge32
  | ipAddress
  | other (name : String)
deriving DecidableEq

def encodeText (text : String) : Except EncodeError (List UInt8) :=
  tlv tagOctetString text.toUTF8.data.toList

/-- An integer that is given as a text. -/
def encodeNumber (text : String) (tag : UInt8) : Except EncodeError (List UInt8) :=
  match pyInt text.toList with
  | none => .error .value
  | some value => encodeInt value tag

def encodeValue (type : ValueType) (value : String) : Except EncodeError (List UInt8) :=
  match type with
  | .integer => encodeNumber value tagInteger
  | .string => encodeText value
  | .oid => encodeOid value
  | .timeticks => encodeNumber value tagTimeticks
  | .counter32 => encodeNumber value tagCounter32
  | .gauge32 => encodeNumber value tagGauge32
  | .ipAddress => encodeIpAddress value
  | .other _ => encodeText value

/-- What a response says about a variable. -/
inductive Answer where
  | noSuchObject
  | endOfMibView
  | value (type : ValueType) (value : String)
deriving DecidableEq

/-- A variable of a response. -/
structure Varbind where
  oid : String
  answer : Answer
deriving DecidableEq

def encodeAnswer : Answer → Except EncodeError (List UInt8)
  | .noSuchObject => tlv tagNoSuchObject []
  | .endOfMibView => tlv tagEndOfMibView []
  | .value type value => encodeValue type value

def encodeVarbind (varbind : Varbind) : Except EncodeError (List UInt8) := do
  let oid ← encodeOid varbind.oid
  let value ← encodeAnswer varbind.answer
  tlv tagSequence (oid ++ value)

/-- The fields of a response. -/
structure Response where
  version : Int
  community : String
  requestId : Int
  varbinds : List Varbind
  errorStatus : Int := 0
  errorIndex : Int := 0

def encodeResponse (response : Response) : Except EncodeError (List UInt8) := do
  let items ← response.varbinds.mapM encodeVarbind
  let list ← tlv tagSequence items.flatten
  let requestId ← encodeInt response.requestId tagInteger
  let errorStatus ← encodeInt response.errorStatus tagInteger
  let errorIndex ← encodeInt response.errorIndex tagInteger
  let pdu ← tlv pduResponse (requestId ++ errorStatus ++ errorIndex ++ list)
  let version ← encodeInt response.version tagInteger
  let community ← encodeText response.community
  tlv tagSequence (version ++ community ++ pdu)

/-! ## Decoding -/

/-- The tag and the contents at the front, and the bytes behind; slices end where the bytes
end. -/
def readTlv : List UInt8 → Except DecodeError (UInt8 × List UInt8 × List UInt8)
  | tag :: length :: rest =>
    if length &&& 0x80 ≠ 0 then
      let size := (length &&& 0x7f).toNat
      let count := bigEndianValue (rest.take size)
      let body := rest.drop size
      .ok (tag, body.take count, body.drop count)
    else .ok (tag, rest.take length.toNat, rest.drop length.toNat)
  | _ => .error .index

def decodeInt (value : List UInt8) : Int := if value = [] then 0 else signedValue value

/-- The text of an object identifier. -/
def decodeOid : List UInt8 → String
  | [] => ""
  | first :: rest => dotted (first.toNat / 40 :: first.toNat % 40 :: readBase128 0 rest)

/-- UTF-8, with `replaced` for bytes that are none. -/
def decodeText (replaced : List UInt8 → String) (value : List UInt8) : String :=
  (String.fromUTF8? ⟨value.toArray⟩).getD (replaced value)

/-- What the decoder returns besides the object identifiers. -/
structure Header where
  version : Int
  community : String
  pduType : UInt8
  requestId : Int
  param2 : Int
  param3 : Int
deriving DecidableEq

/-- The header of a message and the contents of its variable list. -/
def openMessage (replaced : List UInt8 → String) (data : List UInt8) :
    Except DecodeError (Header × List UInt8) := do
  let (tag, message, _) ← readTlv data
  if tag ≠ tagSequence then throw .value
  let (_, version, message) ← readTlv message
  let (_, community, message) ← readTlv message
  let (pduType, pdu, _) ← readTlv message
  let (_, requestId, pdu) ← readTlv pdu
  let (_, param2, pdu) ← readTlv pdu
  let (_, param3, pdu) ← readTlv pdu
  let (_, list, _) ← readTlv pdu
  return ({ version := decodeInt version, community := decodeText replaced community, pduType
            requestId := decodeInt requestId, param2 := decodeInt param2
            param3 := decodeInt param3 }, list)

/-- Apply a reader to each variable of a list. A variable takes more than one byte, so the
number of bytes bounds the loop. -/
def readVarbinds {α : Type} (read : List UInt8 → Except DecodeError α) :
    (fuel : Nat) → List UInt8 → Except DecodeError (List α)
  | 0, _ => .ok []
  | _ + 1, [] => .ok []
  | fuel + 1, bytes => do
    let (_, varbind, rest) ← readTlv bytes
    let one ← read varbind
    return one :: (← readVarbinds read fuel rest)

/-- The object identifier of a variable. -/
def readOid (varbind : List UInt8) : Except DecodeError String := do
  let (_, oid, _) ← readTlv varbind
  return decodeOid oid

def decodeRequest (replaced : List UInt8 → String) (data : List UInt8) :
    Except DecodeError (Header × List String) := do
  let (header, list) ← openMessage replaced data
  return (header, ← readVarbinds readOid list.length list)

end NetLab.Snmp
