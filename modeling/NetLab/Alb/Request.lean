import NetLab.Alb.Device
import NetLab.Library.Cuts
import NetLab.Library.Utf8

/-!
# Requests

What a listener reads of a request: its path, its host and its cookies. A cookie may name the member
that served the client before.
-/

namespace NetLab.Alb

open NetLab.Library NetLab.Cli List

abbrev Bytes := List UInt8

def lineEnd : Bytes := [13, 10]

/-- What stands behind the header block of a message. -/
def blankLine : Bytes := [13, 10, 13, 10]

def linesOf : Bytes → List Bytes
  | [] => [[]]
  | [last] => [[last]]
  | first :: second :: rest =>
    if first = 13 ∧ second = 10 then [] :: linesOf rest
    else (linesOf (second :: rest)).modifyHead fun line => first :: line

def isBlankByte (byte : UInt8) : Bool := byte = 32 || (9 ≤ byte && byte ≤ 13)

def stripBytes (bytes : Bytes) : Bytes :=
  ((bytes.dropWhile isBlankByte).reverse.dropWhile isBlankByte).reverse

def lowerByte (byte : UInt8) : UInt8 := if 65 ≤ byte ∧ byte ≤ 90 then byte + 32 else byte

/-- A header line starts with a name, in either case. -/
def hasName (name : String) (line : Bytes) : Bool :=
  (Utf8.encode name).isPrefixOf (line.map lowerByte)

/-- The text behind the first colon of a header line. -/
def headerValue (line : Bytes) : String :=
  Utf8.decode (stripBytes ((line.dropWhile fun byte => byte ≠ 58).drop 1))

def requestPath (line : Bytes) : String :=
  match (Utf8.decode line).toList.splitOn ' ' with
  | _ :: path :: _ => String.ofList (path.takeWhile fun char => char ≠ '?')
  | _ => "/"

/-- Names and values in the text of a `Cookie` line. -/
def cookiePairs (text : String) : List (String × String) :=
  (text.toList.splitOn ';').filterMap fun part => keyValue (strip (String.ofList part)).toList

structure Request where
  path : String
  host : String := ""
  cookies : OrderedMap String String := .empty

def Request.readLine (request : Request) (line : Bytes) : Request :=
  if hasName "host:" line then { request with host := headerValue line }
  else if hasName "cookie:" line then
    { request with
      cookies := (cookiePairs (headerValue line)).foldl (fun cookies pair =>
        cookies.insert pair.1 pair.2) request.cookies }
  else request

def headerBlock (bytes : Bytes) : Bytes := ((cutAt blankLine bytes).map Prod.fst).getD bytes

/-- `_parse_request`. -/
def parseRequest (buf : Bytes) : Request :=
  match linesOf (headerBlock buf) with
  | [] => { path := "/" }
  | first :: rest => rest.foldl Request.readLine { path := requestPath first }

/-! ## Members in cookies -/

/-- `_encode_member`. -/
def encodeMember (address : String × Int) : String :=
  address.1 ++ ":" ++ String.ofList (writeInt address.2)

/-- `_decode_member`: the last colon stands before the port. -/
def decodeMember (digits : Digits) (token : String) : Option (String × Int) :=
  let reversed := token.toList.reverse
  match reversed.dropWhile fun char => char ≠ ':' with
  | [] => none
  | _ :: ip =>
    (readInt digits (reversed.takeWhile fun char => char ≠ ':').reverse).map fun port =>
      (String.ofList ip.reverse, port)

theorem colon_notMem_writeInt (number : Int) : ':' ∉ writeInt number := by
  have digits : ∀ value : Nat, ':' ∉ numeral value := fun value inside =>
    absurd (isDigit_of_mem_numeral inside) (by decide)
  unfold writeInt
  split
  case isTrue =>
      intro inside
      rcases mem_cons.mp inside with sign | later
      · exact absurd sign (by decide)
      · exact digits _ later
  case isFalse => exact digits _

/-- A member is read back from its cookie. -/
theorem decode_encodeMember (digits : Digits) {address : String × Int}
    (short : (numeral address.2.natAbs).length ≤ mostDigits) :
    decodeMember digits (encodeMember address) = some address := by
  have solid : ∀ char ∈ (writeInt address.2).reverse, (decide (char ≠ ':')) = true := by
    intro char inside
    refine decide_eq_true fun same => ?_
    exact colon_notMem_writeInt address.2 (same ▸ mem_reverse.mp inside)
  have text : (encodeMember address).toList.reverse =
      (writeInt address.2).reverse ++ ':' :: address.1.toList.reverse := by
    simp [encodeMember]
  have behind : ((writeInt address.2).reverse ++ ':' :: address.1.toList.reverse).dropWhile
      (fun char => decide (char ≠ ':')) = ':' :: address.1.toList.reverse := by
    rw [dropWhile_append_of_pos solid, dropWhile_cons_of_neg (by decide)]
  have before : ((writeInt address.2).reverse ++ ':' :: address.1.toList.reverse).takeWhile
      (fun char => decide (char ≠ ':')) = (writeInt address.2).reverse := by
    rw [takeWhile_append_of_pos solid, takeWhile_cons_of_neg (by decide), append_nil]
  unfold decodeMember
  rw [text]
  dsimp only
  rw [behind, before, reverse_reverse, readInt_writeInt short]
  dsimp only [Option.map_some]
  rw [reverse_reverse, String.ofList_toList]

/-! ## The cookie of a request -/

def blockCookies (block : Bytes) : List (String × String) :=
  (((linesOf block).drop 1).filter (hasName "cookie:")).flatMap fun line =>
    cookiePairs (headerValue line)

/-- The value of the last cookie of the load balancer in a header block. -/
def stickyCookie (block : Bytes) : Option String :=
  ((blockCookies block).filter fun pair => pair.1 = "AWSALB").getLast?.map Prod.snd

theorem not_cookie_of_host {line : Bytes} (host : hasName "host:" line = true) :
    hasName "cookie:" line = false := by
  have hostBytes : Utf8.encode "host:" = [104, 111, 115, 116, 58] := by decide
  have cookieBytes : Utf8.encode "cookie:" = [99, 111, 111, 107, 105, 101, 58] := by decide
  cases line with
  | nil => exact absurd host (by decide)
  | cons first rest =>
    rw [hasName, hostBytes, map_cons, isPrefixOf_cons_cons, Bool.and_eq_true, beq_iff_eq] at host
    rw [hasName, cookieBytes, map_cons, isPrefixOf_cons_cons, ← host.1]
    rfl

theorem lookup_foldl_insert (pairs : List (String × String)) (cookies : OrderedMap String String)
    (name : String) :
    (pairs.foldl (fun cookies pair => cookies.insert pair.1 pair.2) cookies).lookup name =
      ((pairs.filter fun pair => pair.1 = name).getLast?.map Prod.snd).or (cookies.lookup name) := by
  induction pairs generalizing cookies with
  | nil => rfl
  | cons pair rest ih =>
    rw [foldl_cons, ih, OrderedMap.lookup_insert, filter_cons]
    by_cases same : pair.1 = name
    · rw [if_pos same.symm, if_pos (decide_eq_true same), getLast?_cons]
      cases (rest.filter fun pair => pair.1 = name).getLast? <;> rfl
    · rw [if_neg (Ne.symm same), if_neg (by simpa using same)]

theorem lookup_cookies (name : String) (lines : List Bytes) (request : Request) :
    (lines.foldl Request.readLine request).cookies.lookup name =
      ((((lines.filter (hasName "cookie:")).flatMap fun line =>
        cookiePairs (headerValue line)).filter fun pair => pair.1 = name).getLast?.map Prod.snd).or
          (request.cookies.lookup name) := by
  induction lines generalizing request with
  | nil => rfl
  | cons line rest ih =>
    rw [foldl_cons, ih, filter_cons]
    unfold Request.readLine
    split
    case isTrue host =>
        rw [not_cookie_of_host host]
        rfl
    case isFalse =>
        split
        case isTrue cookie =>
            rw [lookup_foldl_insert, flatMap_cons, filter_append, getLast?_append,
              Option.map_or, Option.or_assoc]
        case isFalse => rfl

theorem cookie_parseRequest (buf : Bytes) :
    (parseRequest buf).cookies.lookup "AWSALB" = stickyCookie (headerBlock buf) := by
  unfold parseRequest stickyCookie blockCookies
  cases linesOf (headerBlock buf) with
  | nil => rfl
  | cons first rest =>
    dsimp only
    rw [lookup_cookies, OrderedMap.lookup_empty, Option.or_none, drop_one, tail_cons]

/-! ## Lines without line ends -/

theorem cutAt_blankLine_append {line : Bytes} (plain : 13 ∉ line) (rest : Bytes) :
    cutAt blankLine (line ++ rest) =
      (cutAt blankLine rest).map fun parts => (line ++ parts.1, parts.2) := by
  induction line with
  | nil => cases cut : cutAt blankLine rest <;> simp [cut]
  | cons byte later ih =>
    have other : ¬ blankLine <+: byte :: (later ++ rest) := by
      intro leads
      have same : (13 : UInt8) = byte := (cons_prefix_cons.mp leads).1
      exact plain (same ▸ mem_cons_self)
    rw [cons_append, cutAt, if_neg other, ih fun inside => plain (mem_cons_of_mem _ inside)]
    cases cutAt blankLine rest <;> rfl

theorem cutAt_blankLine_lineEnd {first : UInt8} (visible : first ≠ 13) (rest : Bytes) :
    cutAt blankLine (lineEnd ++ first :: rest) =
      (cutAt blankLine (first :: rest)).map fun parts => (lineEnd ++ parts.1, parts.2) := by
  have notReturn : ¬ blankLine <+: 13 :: 10 :: first :: rest := by
    intro leads
    have same : (13 : UInt8) = first :=
      (cons_prefix_cons.mp (cons_prefix_cons.mp (cons_prefix_cons.mp leads).2).2).1
    exact visible same.symm
  have notFeed : ¬ blankLine <+: 10 :: first :: rest := by
    intro leads
    exact absurd (cons_prefix_cons.mp leads).1 (by decide)
  change cutAt blankLine (13 :: 10 :: first :: rest) = _
  rw [cutAt, if_neg notReturn, cutAt, if_neg notFeed]
  cases cutAt blankLine (first :: rest) <;> rfl

theorem linesOf_plain {line : Bytes} (plain : 13 ∉ line) : linesOf line = [line] := by
  induction line with
  | nil => rfl
  | cons first later ih =>
    cases later with
    | nil => rfl
    | cons second rest =>
      have visible : ¬ (first = 13 ∧ second = 10) := fun ⟨same, _⟩ =>
        plain (same ▸ mem_cons_self)
      rw [linesOf, if_neg visible, ih fun inside => plain (mem_cons_of_mem _ inside)]
      rfl

theorem linesOf_append {line : Bytes} (plain : 13 ∉ line) (rest : Bytes) :
    linesOf (line ++ (lineEnd ++ rest)) = line :: linesOf rest := by
  induction line with
  | nil => rfl
  | cons first later ih =>
    have tail := ih fun inside => plain (mem_cons_of_mem _ inside)
    cases later with
    | nil =>
      have visible : ¬ (first = 13 ∧ (13 : UInt8) = 10) := fun both => absurd both.2 (by decide)
      change linesOf (first :: 13 :: 10 :: rest) = _
      rw [linesOf, if_neg visible]
      change (linesOf ([] ++ (lineEnd ++ rest))).modifyHead _ = _
      rw [tail]
      rfl
    | cons second further =>
      have visible : ¬ (first = 13 ∧ second = 10) := fun ⟨same, _⟩ =>
        plain (same ▸ mem_cons_self)
      change linesOf (first :: second :: (further ++ (lineEnd ++ rest))) = _
      rw [linesOf, if_neg visible]
      change (linesOf (second :: further ++ (lineEnd ++ rest))).modifyHead _ = _
      rw [tail]
      rfl

end NetLab.Alb
