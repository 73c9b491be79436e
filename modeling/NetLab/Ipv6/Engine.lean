import NetLab.Library.LeadingBits
import NetLab.Library.OrderedMap

/-!
# IPv6 engine

Connected and static routes of the devices, the choice of a next hop and the trace of a path.
Addresses are texts, read in the way of the standard library's `ipaddress`.
-/

namespace NetLab.Ipv6

open NetLab.Library

/-! ## Addresses -/

/-- A number in base ten with at most three digits and no leading zero. -/
def parseOctet (digits : List Char) : Option Nat :=
  if digits ≠ [] ∧ digits.length ≤ 3 ∧ (digits.all fun char => char.isDigit) = true ∧
      (digits.length = 1 ∨ digits.head? ≠ some '0') then
    let value := digits.foldl (fun value char => 10 * value + (char.toNat - '0'.toNat)) 0
    if value ≤ 255 then some value else none
  else none

def ipv4Address (text : List Char) : Option Nat :=
  match (text.splitOn '.').mapM parseOctet with
  | some [first, second, third, fourth] =>
    some (first * 2 ^ 24 + second * 2 ^ 16 + third * 2 ^ 8 + fourth)
  | _ => none

def hexDigit (char : Char) : Option Nat :=
  if char.isDigit then some (char.toNat - '0'.toNat)
  else if 'a' ≤ char ∧ char ≤ 'f' then some (char.toNat - 'a'.toNat + 10)
  else if 'A' ≤ char ∧ char ≤ 'F' then some (char.toNat - 'A'.toNat + 10)
  else none

/-- A group of at most four digits. -/
def parseHextet (digits : List Char) : Option Nat :=
  if digits = [] ∨ 4 < digits.length then none
  else (digits.mapM hexDigit).map fun values => values.foldl (fun value digit => 16 * value + digit) 0

/-- The groups between the colons; a last group with dots stands for two. -/
def hextetTexts (text : List Char) : Option (List (List Char)) :=
  let parts := text.splitOn ':'
  if parts.length < 3 then none
  else
    let last := parts.getLast?.getD []
    if '.' ∈ last then
      (ipv4Address last).map fun value => parts.dropLast ++
        [(Nat.toDigits 16 (value / 2 ^ 16)), (Nat.toDigits 16 (value % 2 ^ 16))]
    else some parts

def expandHextets (parts : List (List Char)) : Option (List (List Char)) :=
  let zeros : List Char := ['0']
  if 9 < parts.length then none
  else
    let inner := parts.dropLast.drop 1
    match inner.findIdx? List.isEmpty with
    | none =>
      if parts.length ≠ 8 ∨ parts.head? = some [] ∨ parts.getLast? = some [] then none
      else some parts
    | some index =>
      let before := parts.take (index + 1)
      let behind := parts.drop (index + 2)
      -- an empty group at an end stands next to the double colon only
      if (inner.drop (index + 1)).any List.isEmpty ∨ (before.head? = some [] ∧ before.length ≠ 1) ∨
          (behind.getLast? = some [] ∧ behind.length ≠ 1) then none
      else
        let front := before.filter fun part => !part.isEmpty
        let back := behind.filter fun part => !part.isEmpty
        if front.length + back.length < 8 then
          some (front ++ List.replicate (8 - (front.length + back.length)) zeros ++ back)
        else none

def ipv6Address (text : List Char) : Option Nat :=
  let plain := text.takeWhile fun char => char != '%'
  let scope := (text.dropWhile fun char => char != '%').drop 1
  -- a zone is passed over
  if plain ≠ text ∧ (scope = [] ∨ '%' ∈ scope ∨ '/' ∈ scope) then none
  else
    ((hextetTexts plain).bind expandHextets).bind fun parts =>
      (parts.mapM parseHextet).map fun values =>
        values.foldl (fun value hextet => 2 ^ 16 * value + hextet) 0

/-- An address with the width of its version. -/
def ipAddress (text : String) : Option (Nat × Nat) :=
  ((ipv4Address text.toList).map fun value => (32, value)).or
    ((ipv6Address text.toList).map fun value => (128, value))

/-- `_addr_in_cidr`; what cannot be read contains nothing and is nowhere. -/
def addrInCidr (addr network : String) (length : Nat) : Bool :=
  match ipAddress addr, ipAddress network with
  | some (width, value), some (width', base) =>
    width == width' && decide (length ≤ width) &&
      value &&& leadingMask width length == base &&& leadingMask width length
  | _, _ => false

/-! ## Forwarding -/

/-- A static route. -/
structure StaticRoute where
  dest : String
  length : Nat
  nextHop : String
deriving DecidableEq

/-- A connected network. -/
structure ConnectedNetwork where
  network : String
  length : Nat
deriving DecidableEq

/-- The tables of the engine, and the links between devices. -/
structure Ipv6Engine where
  deviceAddrs : OrderedMap String (OrderedMap String Nat) := .empty
  connected : String → List ConnectedNetwork := fun _ => []
  staticRoutes : String → List StaticRoute := fun _ => []
  getNeighbors : String → List String := fun _ => []

/-- One line of a trace. -/
structure Hop where
  device : String
  ip : Option String
  timeout : Bool := false
deriving DecidableEq

/-- The result of a trace, with the devices that were visited. -/
structure Trace where
  reachable : Bool
  reason : String
  hops : List Hop
  visited : List String
deriving DecidableEq

namespace Ipv6Engine

variable (engine : Ipv6Engine) (destAddr : String)

/-- `_find_device_owning_addr`. -/
def findDeviceOwningAddr (addr : String) : Option String :=
  engine.deviceAddrs.keys.find? fun device =>
    (engine.deviceAddrs.lookup device).any fun addrs => (addrs.lookup addr).isSome

def keepLonger (best : Option StaticRoute) (route : StaticRoute) : Option StaticRoute :=
  if addrInCidr destAddr route.dest route.length &&
      best.all fun kept => decide (kept.length < route.length) then
    some route
  else best

/-- `_resolve_next_hop`: the next device and its address. -/
def resolveNextHop (device : String) : Option String × Option String :=
  if (engine.connected device).any fun entry => addrInCidr destAddr entry.network entry.length then
    (some device, none)
  else
    match (engine.staticRoutes device).foldl (keepLonger destAddr) none with
    | none => (none, none)
    | some best => (engine.findDeviceOwningAddr best.nextHop, some best.nextHop)

/-- The loop of `trace_path`, with the devices visited and the lines so far. -/
def walk : (hopsLeft : Nat) → (visited : List String) → (current : String) → (hops : List Hop) →
    Trace
  | 0, visited, _, hops => ⟨false, "hop limit exceeded", hops, visited⟩
  | hopsLeft + 1, visited, current, hops =>
    if current ∈ visited then ⟨false, "routing loop detected", hops, visited⟩
    else
      match engine.resolveNextHop destAddr current with
      | (none, _) =>
        ⟨false, "no route to host", hops ++ [⟨current, none, true⟩], visited ++ [current]⟩
      | (some _, none) =>
        let destDevice := (engine.findDeviceOwningAddr destAddr).getD current
        ⟨true, "", hops ++ [⟨destDevice, some destAddr, false⟩], visited ++ [current]⟩
      | (some nextDevice, some nextHop) =>
        if nextDevice ∈ engine.getNeighbors current then
          walk hopsLeft (visited ++ [current]) nextDevice (hops ++ [⟨current, some nextHop, false⟩])
        else
          ⟨false, "next-hop unreachable", hops ++ [⟨current, none, true⟩], visited ++ [current]⟩

/-- `trace_path`. -/
def tracePath (source : String) (maxHops : Nat := 15) : Trace :=
  engine.walk destAddr maxHops [] source []

end Ipv6Engine

example : ipAddress "2001:db8::1" = some (128, 0x20010db8000000000000000000000001) := by
  decide +kernel

end NetLab.Ipv6
