import NetLab.Bgp.Engine
import NetLab.Rib.StaticRoutes

/-!
# Tables and addresses of all devices

What the RIB and the ICMP engine read of the other engines: the routing tables, the
addresses of the interfaces, the links and the device types. Next hops are strings
throughout, because a table may hold an address, a router ID or a device name there.
Process IDs, hostnames, route types and other displayed data are left out.
-/

namespace NetLab.Rib

open NetLab.Library NetLab.Network

/-- An interface that has an address. -/
structure Iface where
  ip : String
  length : Nat := 24
deriving DecidableEq

/-- Interfaces that a device has registered, by name. -/
structure DeviceInfo where
  interfaces : OrderedMap String Iface := .empty

/-- Addresses of a device with their prefix lengths. -/
def DeviceInfo.ips (info : DeviceInfo) : OrderedMap String Nat :=
  info.interfaces.values.foldl (fun ips iface =>
    if iface.ip = "" then ips else ips.insert iface.ip iface.length) .empty

/-- An entry of a RIP table; a direct network was learned from `direct`. -/
structure RipTableRoute where
  destination : Prefix
  nextHop : String
  metric : Nat
  learnedFrom : String
deriving DecidableEq

/-- The part of a RIP process that is read. -/
structure RipTable where
  enabled : Bool := false
  table : List RipTableRoute := []

/-- A route that SPF computed, or one learned as external. -/
structure OspfTableRoute where
  destination : Prefix
  via : String
  nextHop : String
  metric : Nat
deriving DecidableEq

/-- The part of an OSPF process that is read. -/
structure OspfTable where
  enabled : Bool := false
  routerId : String := ""
  routes : List OspfTableRoute := []

/-- An entry of an EIGRP topology; a direct network was learned from `direct`. -/
structure EigrpTableRoute where
  destination : Prefix
  nextHop : String
  fd : Nat
  learnedFrom : String
  external : Bool := false
deriving DecidableEq

/-- The part of an EIGRP process that is read. -/
structure EigrpTable where
  enabled : Bool := false
  topology : List EigrpTableRoute := []

/-- `get_routes`: the topology without the direct networks. -/
def EigrpTable.getRoutes (node : EigrpTable) : List EigrpTableRoute :=
  if node.enabled then node.topology.filter fun route => decide (route.learnedFrom ≠ "direct")
  else []

/-- A best path of BGP. -/
structure BgpTableRoute where
  destination : Prefix
  nextHop : String
  med : Nat := 0
deriving DecidableEq

/-- The part of a BGP speaker that is read. -/
structure BgpTable where
  enabled : Bool := false
  locRib : List BgpTableRoute := []

/-- Everything that the RIB and the ICMP engine read. -/
structure Emulator where
  network : VirtualNetwork String
  deviceTypes : OrderedMap String String := .empty
  deviceIps : OrderedMap String DeviceInfo := .empty
  rib : OrderedMap String RibNode := .empty
  rip : OrderedMap String RipTable := .empty
  ospf : OrderedMap String OspfTable := .empty
  eigrp : OrderedMap String EigrpTable := .empty
  bgp : OrderedMap String BgpTable := .empty

/-- Two addresses agree in their leading bits; an address that cannot be read, or a
length over 32, agrees with nothing. -/
def ipInNetwork (ip network : String) (length : Nat) : Bool :=
  match ipToInt ip, ipToInt network with
  | some address, some base =>
    decide (length ≤ 32) && address &&& prefixMask length == base &&& prefixMask length
  | _, _ => false

namespace Emulator

variable (emulator : Emulator)

/-- What a device has registered; nothing for an unknown one. -/
def info (device : String) : DeviceInfo := (emulator.deviceIps.lookup device).getD {}

/-- Addresses of a device. -/
def ipsOf (device : String) : OrderedMap String Nat := (emulator.info device).ips

def owns (device ip : String) : Bool := ((emulator.ipsOf device).lookup ip).isSome

def findDeviceOwningIp (ip : String) : Option String :=
  emulator.deviceIps.keys.find? fun device => emulator.owns device ip

/-- The first device with an interface in the network of an address. -/
def findDeviceInNetwork (ip : String) : Option String :=
  emulator.deviceIps.keys.find? fun device =>
    (emulator.ipsOf device).entries.any fun entry => ipInNetwork ip entry.1 entry.2

/-- The name of the first interface in a network, or no name. -/
def ifaceForNetwork (device : String) (destination : Prefix) : String :=
  if 32 < destination.length then ""
  else
    let mask := prefixMask destination.length
    let network := Bgp.addressValue destination.network &&& mask
    ((emulator.info device).interfaces.entries.find? fun entry =>
      entry.2.ip != "" && Bgp.addressValue entry.2.ip &&& mask == network).elim "" Prod.fst

/-- The name of the first interface on whose network a next hop is, or no name. -/
def ifaceForNexthop (device nextHop : String) : String :=
  if nextHop = "" ∨ nextHop = "0.0.0.0" then ""
  else
    ((emulator.info device).interfaces.entries.find? fun entry =>
      entry.2.ip != "" && Bgp.addressValue entry.2.ip &&& prefixMask entry.2.length ==
          Bgp.addressValue nextHop &&& prefixMask entry.2.length).elim "" Prod.fst

def named (peer nextHop : String) : Bool :=
  peer == nextHop || (emulator.ospf.lookup peer).any fun node => node.routerId == nextHop

/-- The address of a peer on a network of a device, or what was given instead. -/
def sharedIp (device peer fallback : String) : String :=
  (((emulator.ipsOf peer).keys.find? fun ip =>
    (emulator.ipsOf device).entries.any fun entry => ipInNetwork ip entry.1 entry.2)).getD fallback

/-- A switch that does not route: it is passed through on layer 2. -/
def isTransit (device : String) : Bool :=
  (emulator.deviceTypes.lookup device).any (fun type =>
    decide (type ∈ ["catalyst", "apresia", "nexus", "srs"])) &&
    !(emulator.ospf.lookup device).any OspfTable.enabled

def liveLinks (device : String) : List String :=
  (emulator.network.getNeighbors device).filter fun peer => emulator.network.edgeUp device peer

/-- Search through transit switches; `fuel` bounds the number of queue entries taken. -/
def searchSegment : (fuel : Nat) → (visited queue : List String) → List String
  | 0, _, _ => []
  | _ + 1, _, [] => []
  | fuel + 1, visited, device :: queue =>
    if device ∈ visited then searchSegment fuel visited queue
    else if emulator.isTransit device then
      searchSegment fuel (device :: visited)
        (queue ++ (emulator.liveLinks device).filter fun peer =>
          decide (peer ∉ device :: visited))
    else device :: searchSegment fuel (device :: visited) queue

/-- Number of link ends. Every device is expanded once, so twice this many entries
enter the queue at most. -/
def linkEnds : Nat := (emulator.network.links.values.map List.length).sum

/-- Devices on the layer-2 segments of a device, reached through live links and transit
switches. -/
def l2SegmentPeers (device : String) : List String :=
  emulator.searchSegment (2 * emulator.linkEnds + 1) [device] (emulator.liveLinks device)

def resolveLearnedNextHop (device nextHop : String) : String :=
  if nextHop = "" ∨ nextHop = "0.0.0.0" then nextHop
  else
    match (emulator.network.getNeighbors device).find? fun peer => emulator.named peer nextHop with
    | some peer => emulator.sharedIp device peer nextHop
    | none =>
      match (emulator.l2SegmentPeers device).find? fun peer =>
          emulator.named peer nextHop || emulator.owns peer nextHop with
      | none => nextHop
      | some peer =>
        if emulator.named peer nextHop then emulator.sharedIp device peer nextHop else nextHop

end Emulator

end NetLab.Rib
