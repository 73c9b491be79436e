import NetLab.Library.Exploration
import NetLab.Network.VirtualNetwork

/-!
# Multicast over switches

A broadcast goes to the direct neighbours of its source and is relayed through devices that
do not speak its protocol. `broadcast_delivers` says who gets it, and that everyone gets it
at most once.
-/

namespace NetLab.Network

open NetLab.Library List

/-- Types of messages that are broadcast. -/
inductive MessageType where
  | ripUpdate
  | ripRequest
  | ripPacket
  | eigrpPacket
  | ospfHello
  | ospfLsa
  | stpBpdu
  | vrrpAdvert
  | hsrpHello
  | lacpPdu
  | other
deriving DecidableEq

namespace MessageType

def segmentOnly : MessageType → Bool
  | .other => false
  | _ => true

/-- Messages that switches pass on. -/
def relayed : MessageType → Bool
  | .ripUpdate | .ripRequest | .ripPacket | .eigrpPacket | .ospfHello | .ospfLsa => true
  | _ => false

theorem segmentOnly_of_relayed {type : MessageType} (relayed : type.relayed = true) :
    type.segmentOnly = true := by
  cases type <;> first | rfl | cases relayed

end MessageType

/-- The devices that speak the routing protocols. -/
structure Speakers (Device : Type) where
  ospfEnabled : Device → Bool
  ripNode : Device → Bool
  eigrpEnabled : Device → Bool

def Speakers.runsProto {Device : Type} (speakers : Speakers Device) : MessageType → Device → Bool
  | .ospfHello | .ospfLsa => speakers.ospfEnabled
  | .ripUpdate | .ripRequest | .ripPacket => speakers.ripNode
  | .eigrpPacket => speakers.eigrpEnabled
  | _ => fun _ => false

namespace VirtualNetwork

variable {Device : Type} [DecidableEq Device] (network : VirtualNetwork Device)

/-- The devices to which a broadcast is handed, in this order. -/
def broadcastToNeighbors (speakers : Speakers Device) (type : MessageType)
    (exclude : List Device) (source : Device) : List Device :=
  network.directReceivers type.segmentOnly exclude source ++
    if type.relayed then network.floodThroughSwitches (speakers.runsProto type) source else []

def LinksAreSets : Prop := ∀ device, (network.getNeighbors device).Nodup

/-- Reached over live links through devices that do not speak the protocol. -/
inductive Reaches (runsProto : Device → Bool) (source : Device) : Device → Prop
  | direct {peer : Device} (live : peer ∈ network.liveNeighbors source) :
      Reaches runsProto source peer
  | relay {switch peer : Device} (reached : Reaches runsProto source switch)
      (silent : runsProto switch = false) (live : peer ∈ network.liveNeighbors switch) :
      Reaches runsProto source peer

/-- A broadcast of a routing protocol ends, goes to every device at most once and to its
source only if that is linked to itself. Of the speakers it goes to those on the segment that
are reached, but for live neighbours that are excluded; of the other devices it goes to live
neighbours on the segment that are not excluded. -/
structure DeliversOnce (speakers : Speakers Device) (type : MessageType) (exclude : List Device)
    (source : Device) : Prop where
  ends : ∃ found, Explores network.liveNeighbors (fun device => !speakers.runsProto type device)
      (source :: network.liveNeighbors source)
      ((network.liveNeighbors source).filter fun device => !speakers.runsProto type device) found ∧
    network.broadcastToNeighbors speakers type exclude source =
      network.directReceivers true exclude source ++ found.filter fun device =>
        speakers.runsProto type device && network.sharesSegment source device
  once : (network.broadcastToNeighbors speakers type exclude source).Nodup
  other : source ∉ network.getNeighbors source →
    source ∉ network.broadcastToNeighbors speakers type exclude source
  speaking : ∀ device, device ≠ source → speakers.runsProto type device = true →
    (device ∈ network.broadcastToNeighbors speakers type exclude source ↔
      network.sharesSegment source device = true ∧
        network.Reaches (speakers.runsProto type) source device ∧
        ¬ (device ∈ network.liveNeighbors source ∧ device ∈ exclude))
  silent : ∀ device, speakers.runsProto type device = false →
    (device ∈ network.broadcastToNeighbors speakers type exclude source ↔
      device ∈ network.liveNeighbors source ∧ network.sharesSegment source device = true ∧
        device ∉ exclude)

variable {network}

/-! ## Direct neighbours -/

variable {device peer : Device}

theorem mem_liveNeighbors : peer ∈ network.liveNeighbors device ↔
    peer ∈ network.getNeighbors device ∧ (network.ifacesBetween device peer = [] ∨
      network.upIfacesBetween device peer ≠ []) ∧ network.edgeUp device peer = true := by
  simp [liveNeighbors]

/-- It is enough to look at the link table. -/
theorem linksAreSets_of_values (sets : ∀ peers ∈ network.links.values, peers.Nodup) :
    network.LinksAreSets := by
  intro device
  unfold getNeighbors
  cases found : network.links.lookup device with
  | none => exact .nil
  | some peers => exact sets peers (OrderedMap.mem_values_iff.mpr ⟨device, found⟩)

omit [DecidableEq Device] in
theorem upIfacesBetween_of_none_down (none : network.downInterfaces device = []) (peer : Device) :
    network.upIfacesBetween device peer = network.ifacesBetween device peer := by
  simp [upIfacesBetween, none]

theorem mem_directReceivers {exclude : List Device} {source : Device} :
    peer ∈ network.directReceivers true exclude source ↔
      peer ∈ network.liveNeighbors source ∧ network.sharesSegment source peer = true ∧
        peer ∉ exclude := by
  have down : (network.downInterfaces source = [] ∨ network.ifacesBetween source peer = [] ∨
      network.upIfacesBetween source peer ≠ []) ↔
        (network.ifacesBetween source peer = [] ∨ network.upIfacesBetween source peer ≠ []) := by
    constructor
    · rintro (none | live)
      · rw [upIfacesBetween_of_none_down none]
        exact eq_or_ne _ _
      · exact live
    · exact .inr
  rw [mem_liveNeighbors, ← down]
  simp only [directReceivers, mem_filter, Bool.and_eq_true, Bool.or_eq_true,
    decide_eq_true_eq, List.isEmpty_iff, Bool.not_eq_true', isEmpty_eq_false_iff,
    Bool.not_true, Bool.false_eq_true, false_or, or_assoc]
  tauto

/-! ## The relay -/

theorem relaySearch_eq (runsProto : Device → Bool) (source : Device) (fuel : Nat)
    (visited queue : List Device) :
    network.relaySearch runsProto source fuel visited queue =
      (explore network.liveNeighbors (fun device => !runsProto device) fuel visited queue).filter
        fun device => runsProto device && network.sharesSegment source device := by
  induction fuel generalizing visited queue with
  | zero => rfl
  | succ fuel ih =>
    cases queue with
    | nil => rfl
    | cons switch queue =>
      rw [relaySearch, explore, filter_append, ih]
      rfl

section Relay

variable (sets : network.LinksAreSets) (runsProto : Device → Bool) (source : Device)

include sets

theorem nodup_liveNeighbors (device : Device) : (network.liveNeighbors device).Nodup :=
  (sets device).filter _

/-- The number of link ends is enough for the relay to end. -/
theorem explores_live : Explores network.liveNeighbors (fun device => !runsProto device)
    (source :: network.liveNeighbors source)
    ((network.liveNeighbors source).filter fun device => !runsProto device)
    (explore network.liveNeighbors (fun device => !runsProto device)
      ((network.links.values.map List.length).sum + 1) (source :: network.liveNeighbors source)
      ((network.liveNeighbors source).filter fun device => !runsProto device)) := by
  have inside : ∀ device, ∀ peer ∈ network.liveNeighbors device,
      peer ∈ network.links.values.flatten.toFinset := by
    intro device peer member
    have linked := (mem_liveNeighbors.mp member).1
    unfold getNeighbors at linked
    cases found : network.links.lookup device with
    | none =>
      rw [found] at linked
      cases linked
    | some peers =>
      rw [found] at linked
      rw [mem_toFinset, mem_flatten]
      exact ⟨peers, OrderedMap.mem_values_iff.mpr ⟨device, found⟩, linked⟩
  refine explores_explore (nodup_liveNeighbors sets) inside ?_
  have size : network.links.values.flatten.toFinset.card ≤
      (network.links.values.map List.length).sum := by
    rw [← length_flatten]
    exact toFinset_card_le _
  have direct : (network.liveNeighbors source).toFinset ⊆
      network.links.values.flatten.toFinset := fun peer member =>
    inside source peer (mem_toFinset.mp member)
  have count : (network.liveNeighbors source).toFinset.card =
      (network.liveNeighbors source).length :=
    toFinset_card_of_nodup (nodup_liveNeighbors sets source)
  have queued := length_filter_le (fun device => !runsProto device) (network.liveNeighbors source)
  have shrinks := Finset.card_sdiff_add_card_eq_card direct
  have fewer : (network.links.values.flatten.toFinset \
      (source :: network.liveNeighbors source).toFinset).card ≤
        (network.links.values.flatten.toFinset \ (network.liveNeighbors source).toFinset).card := by
    refine Finset.card_le_card (Finset.sdiff_subset_sdiff (Finset.Subset.refl _) ?_)
    rw [toFinset_cons]
    exact Finset.subset_insert _ _
  omega

end Relay

theorem reachedFrom_iff {runsProto : Device → Bool} {source : Device} :
    ReachedFrom network.liveNeighbors (fun device => !runsProto device)
        (source :: network.liveNeighbors source)
        ((network.liveNeighbors source).filter fun device => !runsProto device) device ↔
      network.Reaches runsProto source device ∧ device ≠ source ∧
        device ∉ network.liveNeighbors source := by
  constructor
  · intro reached
    have new := reached.not_mem
    rw [mem_cons, not_or] at new
    refine ⟨?_, new⟩
    clear new
    induction reached with
    | start queued near _ =>
      obtain ⟨live, silent⟩ := mem_filter.mp queued
      exact .relay (.direct live) (by simpa using silent) near
    | pass _ silent near _ ih => exact .relay ih (by simpa using silent) near
  · rintro ⟨reached, away, behind⟩
    induction reached with
    | direct live => exact absurd live behind
    | @relay switch peer reached silent live ih =>
      have new : peer ∉ source :: network.liveNeighbors source := by simp [away, behind]
      by_cases atSource : switch = source
      · subst atSource
        exact absurd live behind
      by_cases direct : switch ∈ network.liveNeighbors source
      · exact .start (mem_filter.mpr ⟨direct, by simpa using silent⟩) live new
      · exact .pass (ih atSource direct) (by simpa using silent) live new

/-! ## Who gets a broadcast -/

section Broadcast

variable (sets : network.LinksAreSets) {speakers : Speakers Device} {type : MessageType}
  (relayed : type.relayed = true) (exclude : List Device) (source : Device)

include relayed in
theorem broadcast_of_relayed : network.broadcastToNeighbors speakers type exclude source =
    network.directReceivers true exclude source ++
      (explore network.liveNeighbors (fun device => !speakers.runsProto type device)
        ((network.links.values.map List.length).sum + 1) (source :: network.liveNeighbors source)
        ((network.liveNeighbors source).filter fun device => !speakers.runsProto type device)).filter
          fun device => speakers.runsProto type device && network.sharesSegment source device := by
  rw [broadcastToNeighbors, if_pos relayed, MessageType.segmentOnly_of_relayed relayed,
    floodThroughSwitches, relaySearch_eq]

include sets relayed

theorem mem_broadcast_iff : device ∈ network.broadcastToNeighbors speakers type exclude source ↔
      (device ∈ network.liveNeighbors source ∧ network.sharesSegment source device = true ∧
        device ∉ exclude) ∨
      (speakers.runsProto type device = true ∧ network.sharesSegment source device = true ∧
        network.Reaches (speakers.runsProto type) source device ∧ device ≠ source ∧
        device ∉ network.liveNeighbors source) := by
  have explores := explores_live sets (speakers.runsProto type) source
  rw [broadcast_of_relayed relayed, mem_append, mem_directReceivers, mem_filter,
    explores.mem_iff, reachedFrom_iff, Bool.and_eq_true]
  tauto

/-- Who gets a broadcast of a routing protocol. -/
theorem broadcast_delivers : network.DeliversOnce speakers type exclude source := by
  have explores := explores_live sets (speakers.runsProto type) source
  have members : ∀ device, device ∈ network.broadcastToNeighbors speakers type exclude source ↔ _ :=
    fun _ => mem_broadcast_iff sets relayed exclude source
  refine ⟨⟨_, explores, broadcast_of_relayed relayed exclude source⟩, ?_, ?_, ?_, ?_⟩
  · rw [broadcast_of_relayed relayed]
    refine nodup_append'.mpr ⟨(sets source).filter _,
      (explores.nodup (nodup_liveNeighbors sets)).filter _, fun device direct later => ?_⟩
    have live := (mem_directReceivers.mp direct).1
    have found := (explores.mem_iff device).mp (mem_filter.mp later).1
    exact (reachedFrom_iff.mp found).2.2 live
  · intro unlinked member
    rcases (members source).mp member with ⟨live, -⟩ | ⟨-, -, -, away, -⟩
    · exact unlinked (mem_liveNeighbors.mp live).1
    · exact away rfl
  · intro device away speaks
    rw [members]
    constructor
    · rintro (⟨live, shares, kept⟩ | ⟨-, shares, reached, -, behind⟩)
      · exact ⟨shares, .direct live, fun excluded => kept excluded.2⟩
      · exact ⟨shares, reached, fun excluded => behind excluded.1⟩
    · rintro ⟨shares, reached, kept⟩
      by_cases live : device ∈ network.liveNeighbors source
      · exact .inl ⟨live, shares, fun excluded => kept ⟨live, excluded⟩⟩
      · exact .inr ⟨speaks, shares, reached, away, live⟩
  · intro device silent
    rw [members, silent]
    simp

end Broadcast

/-! ## The order of neighbours -/

def SameLinks (network : VirtualNetwork Device) (links : OrderedMap Device (List Device)) : Prop :=
  ∀ device, ((links.lookup device).getD []).Perm (network.getNeighbors device)

def withLinks (network : VirtualNetwork Device) (links : OrderedMap Device (List Device)) :
    VirtualNetwork Device :=
  { network with links }

section Order

variable {links : OrderedMap Device (List Device)} (same : network.SameLinks links)

include same

theorem SameLinks.mem_getNeighbors :
    peer ∈ (network.withLinks links).getNeighbors device ↔ peer ∈ network.getNeighbors device :=
  (same device).mem_iff

theorem SameLinks.mem_liveNeighbors : peer ∈ (network.withLinks links).liveNeighbors device ↔
      peer ∈ network.liveNeighbors device := by
  rw [VirtualNetwork.mem_liveNeighbors, VirtualNetwork.mem_liveNeighbors, same.mem_getNeighbors]
  rfl

theorem SameLinks.reaches {runsProto : Device → Bool} {source : Device} :
    (network.withLinks links).Reaches runsProto source device ↔
      network.Reaches runsProto source device := by
  constructor
  · intro reached
    induction reached with
    | direct live => exact .direct (same.mem_liveNeighbors.mp live)
    | relay _ silent live ih => exact .relay ih silent (same.mem_liveNeighbors.mp live)
  · intro reached
    induction reached with
    | direct live => exact .direct (same.mem_liveNeighbors.mpr live)
    | relay _ silent live ih => exact .relay ih silent (same.mem_liveNeighbors.mpr live)

theorem SameLinks.mem_broadcast (sets : network.LinksAreSets) {speakers : Speakers Device}
    {type : MessageType} (relayed : type.relayed = true) {exclude other : List Device}
    (sameExclude : ∀ device, device ∈ other ↔ device ∈ exclude) {source : Device} :
    device ∈ (network.withLinks links).broadcastToNeighbors speakers type other source ↔
      device ∈ network.broadcastToNeighbors speakers type exclude source := by
  have reorderedSets : (network.withLinks links).LinksAreSets := fun device =>
    (same device).nodup_iff.mpr (sets device)
  rw [mem_broadcast_iff reorderedSets relayed, mem_broadcast_iff sets relayed,
    same.mem_liveNeighbors, same.reaches, sameExclude]
  rfl

end Order

/-! ## Small networks -/

/-- Router 0 and switch 1, and router 2 behind the switch. -/
def lineOfThree : VirtualNetwork Nat where
  links := ((OrderedMap.empty.insert 0 [1]).insert 1 [0, 2]).insert 2 [1]
  interfaceLinks _ _ := none
  linkIfaces _ _ := []
  downInterfaces _ := []
  subifVlans _ := []
  vlanPorts _ := []
  deviceIps := .empty

/-- Routers 0 and 2 speak RIP. -/
def endsSpeak : Speakers Nat where
  ospfEnabled _ := false
  ripNode device := device == 0 || device == 2
  eigrpEnabled _ := false

theorem lineOfThree_delivers : lineOfThree.DeliversOnce endsSpeak .ripPacket [] 0 :=
  broadcast_delivers (linksAreSets_of_values (by decide)) rfl [] 0

/-- Router 0 is linked to itself, to switch 1 and to router 2; the interface to router 2 is
shut, but the switch leads there too. -/
def triangle : VirtualNetwork Nat where
  links := ((OrderedMap.empty.insert 0 [0, 1, 2]).insert 1 [0, 2]).insert 2 [0, 1]
  interfaceLinks device peer := if device = 0 ∧ peer = 2 then some "Gi0/2" else none
  linkIfaces device peer := if device = 0 ∧ peer = 2 then ["Gi0/2"] else []
  downInterfaces device := if device = 0 then ["Gi0/2"] else []
  subifVlans _ := []
  vlanPorts _ := []
  deviceIps := .empty

/-- Switch 1 gets the message although it does not speak the protocol, the source gets its
own message, and router 2 gets it although it is excluded. -/
theorem triangle_delivers : triangle.broadcastToNeighbors endsSpeak .ripPacket [2] 0 = [0, 1, 2] ∧
      ¬ ∀ device ∈ triangle.broadcastToNeighbors endsSpeak .ripPacket [2] 0,
        device ≠ 0 ∧ endsSpeak.runsProto .ripPacket device = true ∧ device ∉ [2] := by
  decide +kernel

end VirtualNetwork

end NetLab.Network
