import NetLab.Library.OrderedMap
import Mathlib.Logic.Function.Basic
import Mathlib.Algebra.GroupWithZero.Nat

/-!
# Links between emulated devices

`VirtualNetwork` holds the adjacency, interface and segment data that every
protocol engine reads before it delivers a packet. Devices are opaque keys. An
IPv4 address is the number it denotes; the set-valued fields of the source are
lists, in whatever order their iteration has.
-/

namespace NetLab.Network

open NetLab.Library

/-- Switchport mode of a VLAN port. -/
inductive PortMode where
  | access
  | trunk
deriving DecidableEq

/-- The part of a VLAN port that decides which VLANs cross it. -/
structure VlanPort where
  mode : PortMode
  accessVlan : Nat
  allowedVlans : List Nat

/-- An address and its prefix length. -/
structure DeviceIp where
  address : Nat
  prefixLength : Nat
deriving DecidableEq

/-- Links and interface state of all devices. -/
structure VirtualNetwork (Device : Type) where
  links : OrderedMap Device (List Device)
  interfaceLinks : Device → Device → Option String
  linkIfaces : Device → Device → List String
  downInterfaces : Device → List String
  subifVlans : Device → List Nat
  vlanPorts : Device → List VlanPort
  deviceIps : OrderedMap Device (List DeviceIp)

/-- Interface type prefixes accepted as abbreviations, longest spellings first. -/
def ifacePrefixes : List String :=
  ["tengigabitethernet", "gigabitethernet", "fastethernet", "ethernet", "tengige", "te", "gi",
    "fa", "eth", "et", "ge", "g", "e"]

/-- Text without the blanks around it. -/
def stripBlanks (text : List Char) : List Char :=
  ((text.dropWhile Char.isWhitespace).reverse.dropWhile Char.isWhitespace).reverse

def dropIfacePrefix (text : List Char) : List String → List Char
  | [] => text
  | candidate :: rest =>
    let spelling := candidate.toList
    let remainder := text.drop spelling.length
    let accepted := match remainder.head? with
      | none => true
      | some first => first.isDigit || first == ' '
    if spelling.isPrefixOf text && accepted then stripBlanks remainder
    else dropIfacePrefix text rest

/-- Interface name used for comparison: lower case, without its type prefix. -/
def normIface (name : String) : String :=
  String.ofList (dropIfacePrefix (stripBlanks (name.toList.map Char.toLower)) ifacePrefixes)

def prefixMask (prefixLength : Nat) : Nat := (0xffffffff <<< (32 - prefixLength)) &&& 0xffffffff

namespace VirtualNetwork

variable {Device : Type} [DecidableEq Device] (network : VirtualNetwork Device)

def getNeighbors (device : Device) : List Device := (network.links.lookup device).getD []

/-- Every local interface that leads from one device to another. -/
def ifacesBetween (device peer : Device) : List String :=
  network.linkIfaces device peer ++ (network.interfaceLinks device peer).toList

def upIfacesBetween (device peer : Device) : List String :=
  let down := (network.downInterfaces device).map normIface
  (network.ifacesBetween device peer).filter fun iface => decide (normIface iface ∉ down)

/-- Some recorded interface at `device` towards `peer` is up, or none is recorded. -/
private def endUp (device peer : Device) : Bool :=
  let ifaces := network.linkIfaces device peer
  let down := (network.downInterfaces device).map normIface
  ifaces.isEmpty || ifaces.any fun iface => decide (normIface iface ∉ down)

def shutBySpelling (device : Device) (iface : String) : Prop :=
  normIface iface ∈ (network.downInterfaces device).map normIface

/-- A pair of devices is joined by a live link; unknown interfaces count as up. -/
def edgeUp (device peer : Device) : Bool :=
  network.endUp device peer && network.endUp peer device

omit [DecidableEq Device] in
/-- A pair is up if each end has no recorded interface or one that is not shut. -/
theorem edgeUp_iff (device peer : Device) : network.edgeUp device peer = true ↔
    (network.linkIfaces device peer = [] ∨
      ∃ iface ∈ network.linkIfaces device peer, ¬ network.shutBySpelling device iface) ∧
    (network.linkIfaces peer device = [] ∨
      ∃ iface ∈ network.linkIfaces peer device, ¬ network.shutBySpelling peer iface) := by
  simp [edgeUp, endUp, shutBySpelling]

/-- Two tagged devices need a common 802.1Q tag. -/
def vlanTagsCompatible (first second : Device) : Bool :=
  let firstTags := network.subifVlans first
  let secondTags := network.subifVlans second
  firstTags.isEmpty || secondTags.isEmpty || firstTags.any fun tag => decide (tag ∈ secondTags)

def portVlans (device : Device) : List Nat :=
  (network.vlanPorts device).flatMap fun port =>
    match port.mode with
    | .access => [port.accessVlan]
    | .trunk => port.allowedVlans

/-- Two interface addresses count as one segment. -/
def sameSegment (first second : DeviceIp) : Bool :=
  let network1 := first.address &&& prefixMask first.prefixLength
  let network2 := second.address &&& prefixMask second.prefixLength
  let common := min first.prefixLength second.prefixLength
  (first.prefixLength == second.prefixLength && network1 == network2) ||
    (network1 &&& prefixMask common == network2 &&& prefixMask common &&
      (common ≥ 30 || first.prefixLength == second.prefixLength))

/-- Addresses configured on a device. -/
def ipsOf (device : Device) : List DeviceIp := (network.deviceIps.lookup device).getD []

/-- Two devices share a layer-2 segment: VLANs decide when both have them, then
tags, then addresses; a device without addresses is taken to share. -/
def sharesSegment (first second : Device) : Bool :=
  let firstVlans := network.portVlans first
  let secondVlans := network.portVlans second
  if !firstVlans.isEmpty && !secondVlans.isEmpty then
    firstVlans.any fun vlan => decide (vlan ∈ secondVlans)
  else if !network.vlanTagsCompatible first second then false
  else
    let firstIps := network.ipsOf first
    let secondIps := network.ipsOf second
    firstIps.isEmpty || secondIps.isEmpty ||
      firstIps.any fun left => secondIps.any fun right => sameSegment left right

/-- Neighbours reached over a live link. -/
def liveNeighbors (device : Device) : List Device :=
  (network.getNeighbors device).filter fun peer =>
    ((network.ifacesBetween device peer).isEmpty ||
      !(network.upIfacesBetween device peer).isEmpty) && network.edgeUp device peer

/-- Neighbours that a broadcast reaches directly. `segmentOnly` holds for the
protocols that do not leave a layer-2 segment. -/
def directReceivers (segmentOnly : Bool) (exclude : List Device) (source : Device) : List Device :=
  (network.getNeighbors source).filter fun peer =>
    decide (peer ∉ exclude) && network.edgeUp source peer &&
      ((network.downInterfaces source).isEmpty || (network.ifacesBetween source peer).isEmpty ||
        !(network.upIfacesBetween source peer).isEmpty) &&
      (!segmentOnly || network.sharesSegment source peer)

/-- Endpoints found behind devices that do not run the protocol. The search stops
when its queue is empty; `fuel` bounds the number of switches taken from it. -/
def relaySearch (runsProto : Device → Bool) (source : Device) :
    (fuel : Nat) → (visited queue : List Device) → List Device
  | 0, _, _ => []
  | _ + 1, _, [] => []
  | fuel + 1, visited, switch :: queue =>
    let fresh := (network.liveNeighbors switch).filter fun peer => decide (peer ∉ visited)
    let endpoints := fresh.filter fun peer => runsProto peer && network.sharesSegment source peer
    endpoints ++ relaySearch runsProto source fuel (visited ++ fresh)
      (queue ++ fresh.filter fun peer => !runsProto peer)

/-- Endpoints that a multicast reaches through switches. A switch enters the queue
once, so the number of link ends bounds the search. -/
def floodThroughSwitches (runsProto : Device → Bool) (source : Device) : List Device :=
  let direct := network.liveNeighbors source
  let bound := (network.links.values.map List.length).sum + 1
  network.relaySearch runsProto source bound (source :: direct)
    (direct.filter fun peer => !runsProto peer)

/-! ## Changes to the network -/

def addMember {α : Type} [DecidableEq α] (element : α) (set : List α) : List α :=
  if element ∈ set then set else set ++ [element]

theorem mem_addMember {α : Type} [DecidableEq α] {element other : α} {set : List α} :
    other ∈ addMember element set ↔ other ∈ set ∨ other = element := by
  unfold addMember
  split
  · constructor
    · exact Or.inl
    · rintro (member | rfl) <;> assumption
  · simp

/-- An interface name counts only if it is not empty. -/
def namedIface (iface : Option String) : Option String := iface.filter fun name => name != ""

def recordEnd (device peer : Device) (iface : Option String) : VirtualNetwork Device :=
  { network with
    links := network.links.insert device (addMember peer (network.getNeighbors device))
    interfaceLinks := fun other otherPeer =>
      if other = device ∧ otherPeer = peer then
        (namedIface iface).or (network.interfaceLinks other otherPeer)
      else network.interfaceLinks other otherPeer
    linkIfaces := fun other otherPeer =>
      if other = device ∧ otherPeer = peer then
        match namedIface iface with
        | none => network.linkIfaces other otherPeer
        | some name => addMember name (network.linkIfaces other otherPeer)
      else network.linkIfaces other otherPeer }

/-- Add a link between two devices, with the interfaces that are known. -/
def addLink (first second : Device) (firstIface secondIface : Option String) :
    VirtualNetwork Device :=
  (network.recordEnd first second firstIface).recordEnd second first secondIface

def discardPeer (links : OrderedMap Device (List Device)) (device peer : Device) :
    OrderedMap Device (List Device) :=
  links.insert device (((links.lookup device).getD []).filter fun other => decide (other ≠ peer))

def removeLink (first second : Device) : VirtualNetwork Device :=
  { network with links := discardPeer (discardPeer network.links first second) second first }

def unregister (device : Device) : VirtualNetwork Device :=
  { network with
    links := ((network.getNeighbors device).foldl (fun links peer => discardPeer links peer device)
      network.links).erase device }

/-- Devices connected through an interface, in any spelling of its name. -/
def getPeersOnInterface (device : Device) (iface : String) : List Device :=
  (network.getNeighbors device).filter fun peer =>
    (network.ifacesBetween device peer).any fun name => normIface name == normIface iface

/-- Shut an interface under the spelling given. -/
def interfaceDown (device : Device) (iface : String) : VirtualNetwork Device :=
  { network with
    downInterfaces := Function.update network.downInterfaces device
      (addMember iface (network.downInterfaces device)) }

/-- Take an interface out of the shut ones, under the spelling given. -/
def interfaceUp (device : Device) (iface : String) : VirtualNetwork Device :=
  { network with
    downInterfaces := Function.update network.downInterfaces device
      ((network.downInterfaces device).filter fun down => decide (down ≠ iface)) }

end VirtualNetwork

end NetLab.Network
