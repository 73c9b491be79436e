import NetLab.Library.OrderedMap

/-!
# Prefix lists and distribute lists

The route filter shared by the routing engines. A prefix list is tried in
sequence order and denies by default; an unknown list permits everything.
-/

namespace NetLab.Network

open NetLab.Library

/-- A destination network: dotted address and prefix length. -/
structure Prefix where
  network : String
  length : Nat
deriving DecidableEq, Repr

/-- Numeric value of a dotted address, when its first four fields are numbers. -/
def ipToInt (address : String) : Option Nat :=
  match (address.splitOn ".").mapM String.toNat? with
  | some (a :: b :: c :: d :: _) => some ((a <<< 24) ||| (b <<< 16) ||| (c <<< 8) ||| d)
  | _ => none

/-- What a matching prefix-list entry does. -/
inductive FilterAction where
  | permit
  | deny
deriving DecidableEq

/-- One prefix-list entry. -/
structure PrefixListEntry where
  seq : Nat
  action : FilterAction
  network : String
  prefixLength : Nat
  ge : Option Nat := none
  le : Option Nat := none

/-- Routing protocols a distribute list can be attached to. -/
inductive Proto where
  | rip
  | ospf
  | bgp
  | eigrp
deriving DecidableEq

/-- Direction of a distribute list. -/
inductive Direction where
  | inbound
  | outbound
deriving DecidableEq

/-- Filters configured on one device. -/
structure DeviceFilters where
  prefixLists : OrderedMap String (List PrefixListEntry) := .empty
  distributeLists : OrderedMap (Proto × Direction) String := .empty

abbrev FilterEngine (Device : Type) := Device → DeviceFilters

/-- An entry matches on the leading bits and on the length; an address that cannot
be read matches nothing, as does an entry longer than 32 bits. -/
def matchEntry (entry : PrefixListEntry) (network : String) (prefixLength : Nat) : Bool :=
  if 32 < entry.prefixLength then false
  else
    match ipToInt network, ipToInt entry.network with
    | some candidate, some listed =>
      let mask := (0xffffffff <<< (32 - entry.prefixLength)) &&& 0xffffffff
      candidate &&& mask == listed &&& mask && (entry.ge.all fun bound => bound ≤ prefixLength) &&
        (entry.le.all fun bound => prefixLength ≤ bound) &&
        (entry.ge.isSome || entry.le.isSome || prefixLength == entry.prefixLength)
    | _, _ => false

namespace DeviceFilters

variable (filters : DeviceFilters)

def checkPrefixList (listName network : String) (prefixLength : Nat) : Bool :=
  match filters.prefixLists.lookup listName with
  | none => true
  | some entries =>
    match entries.find? fun entry => matchEntry entry network prefixLength with
    | some entry => entry.action == .permit
    | none => false

def permits (proto : Proto) (direction : Direction) (destination : Prefix) : Bool :=
  match filters.distributeLists.lookup (proto, direction) with
  | none => true
  | some listName =>
    listName == "" || filters.checkPrefixList listName destination.network destination.length

/-- Routes that pass the distribute list. -/
def filterRoutes {Route : Type} (destination : Route → Prefix) (proto : Proto)
    (direction : Direction) (routes : List Route) : List Route :=
  routes.filter fun route => filters.permits proto direction (destination route)

end DeviceFilters

end NetLab.Network
