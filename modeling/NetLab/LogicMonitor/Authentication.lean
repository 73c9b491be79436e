import NetLab.Library.Integers

/-!
# Signed requests to the monitoring API

A request carries an access ID, a signature and the epoch it was signed at. The signature covers
method, epoch, body and path one after the other with nothing between them, by the formula of the
real service.
-/

namespace NetLab.LogicMonitor

open NetLab.Library

/-- What an API request is: the signed parts but the epoch. -/
structure Request where
  method : List Char
  requestBody : List Char
  resourcePath : List Char
deriving DecidableEq

/-- What the check rests on: the keyed hash as printed, the shared access data, and whether an
epoch, as a number, is within `LMV1_TIME_SKEW_SECONDS` of the present moment. The number may be too
large to be compared. -/
structure Surroundings where
  hmac : (key data : List Char) → List Char
  accessId : List Char
  accessKey : List Char
  isFresh : Int → Option Bool
  digits : Digits

variable (surroundings : Surroundings)

/-- `compute_lmv1_signature`. -/
def computeLmv1Signature (epoch : List Char) (request : Request) : List Char :=
  surroundings.hmac surroundings.accessKey
    (request.method ++ epoch ++ request.requestBody ++ request.resourcePath)

/-- `parse_authorization_header`: access ID, signature and epoch. -/
def parseAuthorizationHeader (header : List Char) : Option (List Char × List Char × List Char) :=
  if "LMv1 ".toList.isPrefixOf header then
    match (header.drop 5).splitOn ':' with
    | [accessId, signature, epoch] => some (accessId, signature, epoch)
    | _ => none
  else none

inductive Verdict where
  | malformed
  | unknownAccessId
  | badEpoch
  | expired
  | signatureMismatch
  | ok
  /-- An exception leaves the check. -/
  | raised
deriving DecidableEq

def isAscii (text : List Char) : Bool := text.all fun char => char.toNat < 128

/-- `verify_lmv1_auth` at one moment. The signatures are compared as texts of plain ASCII only. -/
def verifyLmv1Auth (header : List Char) (request : Request) : Verdict :=
  match parseAuthorizationHeader header with
  | none => .malformed
  | some (accessId, signature, epoch) =>
    if accessId ≠ surroundings.accessId then .unknownAccessId
    else
      match readInt surroundings.digits epoch with
      | none => .badEpoch
      | some epochVal =>
        match surroundings.isFresh epochVal with
        | none => .raised
        | some false => .expired
        | some true =>
          if ¬ isAscii signature then .raised
          else if computeLmv1Signature surroundings epoch request = signature then .ok
          else .signatureMismatch

/-- Different texts have different signatures. -/
def CollisionFree : Prop :=
  ∀ first second, surroundings.hmac surroundings.accessKey first =
    surroundings.hmac surroundings.accessKey second → first = second

/-- A signature can be compared, and the time of an epoch computed. -/
def Comparable (header : List Char) : Prop :=
  ∀ accessId signature epoch, parseAuthorizationHeader header = some (accessId, signature, epoch) →
    isAscii signature = true ∧
      ∀ epochVal, readInt surroundings.digits epoch = some epochVal →
        surroundings.isFresh epochVal ≠ none

variable {surroundings}

/-- What the signature of an accepted header says. -/
theorem verify_ok_iff (header : List Char) (request : Request) :
    verifyLmv1Auth surroundings header request = .ok ↔
      ∃ signature epoch epochVal,
        parseAuthorizationHeader header = some (surroundings.accessId, signature, epoch) ∧
        readInt surroundings.digits epoch = some epochVal ∧
        surroundings.isFresh epochVal = some true ∧
        isAscii signature = true ∧
        computeLmv1Signature surroundings epoch request = signature := by
  unfold verifyLmv1Auth
  cases parsed : parseAuthorizationHeader header with
  | none => simp
  | some parts =>
    obtain ⟨accessId, signature, epoch⟩ := parts
    by_cases known : accessId = surroundings.accessId
    · cases number : readInt surroundings.digits epoch with
      | none => simp [known, number]
      | some epochVal =>
        rcases fresh : surroundings.isFresh epochVal with _ | _ | _
        · simp [known, number, fresh]
        · simp [known, number, fresh]
        · by_cases plain : isAscii signature = true
          · by_cases signed : computeLmv1Signature surroundings epoch request = signature
            · simp [known, number, fresh, plain, signed]
            · simp [known, number, fresh, plain, signed, Ne.symm signed]
          · have unsigned : signature = computeLmv1Signature surroundings epoch request →
                isAscii (computeLmv1Signature surroundings epoch request) = false := by
              rintro rfl
              simpa using plain
            simpa [known, number, fresh, plain] using unsigned
    · simp [known]

/-- The signature of one text under the default key. -/
def signature : String :=
  "ZGExMmVhNmE0YWYyZDBhYzNiZmQzMTM5MTliODFiMThhOGNkYjM2OWQzMjkyMmVmZDZiZTgwYmZlYjQ2ZDBkNA=="

/-- The default access data at the beginning of the epoch; other texts than that one stand for
their signatures. -/
def atEpoch : Surroundings where
  hmac _ data := if data = "GET0ab/c".toList then signature.toList else '!' :: data
  accessId := "emulator-access-id".toList
  accessKey := "emulator-access-key".toList
  isFresh epochVal := some (decide (epochVal.natAbs ≤ 300000))
  digits := plainDigits

def signed : List Char := ("LMv1 emulator-access-id:" ++ signature ++ ":0").toList

/-- A header is accepted for two requests, and one with a letter that is not ASCII raises. -/
example :
    verifyLmv1Auth atEpoch signed ⟨"GET".toList, "ab".toList, "/c".toList⟩ = .ok ∧
    verifyLmv1Auth atEpoch signed ⟨"GET".toList, "a".toList, "b/c".toList⟩ = .ok ∧
    verifyLmv1Auth atEpoch "LMv1 emulator-access-id:é:0".toList ⟨"GET".toList, [], "/c".toList⟩ =
      .raised := by
  decide +kernel

theorem collisionFree_atEpoch : CollisionFree atEpoch := by
  have plain : signature.toList.head? ≠ some '!' := by decide +kernel
  intro first second same
  dsimp only [atEpoch] at same
  split at same <;> split at same
  · simp_all
  · exact absurd (congrArg List.head? same) plain
  · exact absurd (congrArg List.head? same).symm plain
  · exact (List.cons.inj same).2

end NetLab.LogicMonitor
