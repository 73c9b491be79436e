import NetLab.Library.Execution
import NetLab.Network.VirtualNetwork
import Mathlib.Data.Finset.Basic

/-!
# Liveness of physical links

The network records the interfaces of parallel links as one set for each end of a
pair, so which interface is wired to which is lost. `Wiring` keeps it: the cables
that were laid and the interfaces that are shut, names compared as the network
compares them. `edgeUp_iff_live` says when the two sets still give the answer that
the cables give.
-/

namespace NetLab.Network

open NetLab.Library NetLab.Execution List VirtualNetwork

/-- A link that was added, with the interface names that were given. -/
structure Cable (Device : Type) where
  first : Device
  second : Device
  firstIface : Option String
  secondIface : Option String

/-- The cables laid so far, and the interfaces of each device that are shut. -/
structure Wiring (Device : Type) where
  cables : List (Cable Device) := []
  shut : Device → Finset String := fun _ => ∅

/-- Operations on links and interfaces. -/
inductive LinkOp (Device : Type) where
  | addLink (first second : Device) (firstIface secondIface : Option String)
  | interfaceDown (device : Device) (iface : String)
  | interfaceUp (device : Device) (iface : String)

variable {Device : Type} [DecidableEq Device]

/-- The network after an operation. -/
def VirtualNetwork.apply (network : VirtualNetwork Device) : LinkOp Device → VirtualNetwork Device
  | .addLink first second firstIface secondIface =>
    network.addLink first second firstIface secondIface
  | .interfaceDown device iface => network.interfaceDown device iface
  | .interfaceUp device iface => network.interfaceUp device iface

def VirtualNetwork.unlinked : VirtualNetwork Device where
  links := .empty
  interfaceLinks _ _ := none
  linkIfaces _ _ := []
  downInterfaces _ := []
  subifVlans _ := []
  vlanPorts _ := []
  deviceIps := .empty

namespace Wiring

/-- The wiring after an operation. -/
def apply (wiring : Wiring Device) : LinkOp Device → Wiring Device
  | .addLink first second firstIface secondIface =>
    { wiring with
      cables := wiring.cables ++ [⟨first, second, namedIface firstIface, namedIface secondIface⟩] }
  | .interfaceDown device iface =>
    { wiring with
      shut := Function.update wiring.shut device (insert (normIface iface) (wiring.shut device)) }
  | .interfaceUp device iface =>
    { wiring with
      shut := Function.update wiring.shut device ((wiring.shut device).erase (normIface iface)) }

variable (wiring : Wiring Device)

def EndOpen (device : Device) (iface : Option String) : Prop :=
  ∀ name ∈ iface, normIface name ∉ wiring.shut device

/-- A cable from `device` with interface `near` to `peer` with interface `far`, in the
direction in which it was added or the other one. -/
def Laid (device peer : Device) (near far : Option String) : Prop :=
  (⟨device, peer, near, far⟩ : Cable Device) ∈ wiring.cables ∨
    ⟨peer, device, far, near⟩ ∈ wiring.cables

/-- Some cable between two devices has both ends open. -/
def LinkAlive (device peer : Device) : Prop :=
  ∃ near far, wiring.Laid device peer near far ∧ wiring.EndOpen device near ∧
    wiring.EndOpen peer far

omit [DecidableEq Device] in
theorem laid_comm (device peer : Device) (near far : Option String) :
    wiring.Laid device peer near far ↔ wiring.Laid peer device far near := or_comm

omit [DecidableEq Device] in
theorem linkAlive_comm (device peer : Device) :
    wiring.LinkAlive device peer ↔ wiring.LinkAlive peer device := by
  constructor
  all_goals
    rintro ⟨near, far, laid, nearOpen, farOpen⟩
    exact ⟨far, near, (wiring.laid_comm _ _ _ _).mp laid, farOpen, nearOpen⟩

end Wiring

/-! ## What the network still knows -/

/-- The network records the named ends of the cables, and regards every shut
interface as shut. -/
structure Records (network : VirtualNetwork Device) (wiring : Wiring Device) : Prop where
  ends : ∀ device peer name, name ∈ network.linkIfaces device peer ↔
    ∃ far, wiring.Laid device peer (some name) far
  shut : ∀ device name, normIface name ∈ wiring.shut device → network.shutBySpelling device name

namespace VirtualNetwork

theorem mem_linkIfaces_recordEnd (network : VirtualNetwork Device) (device peer : Device)
    (iface : Option String) (other otherPeer : Device) (name : String) :
    name ∈ (network.recordEnd device peer iface).linkIfaces other otherPeer ↔
      name ∈ network.linkIfaces other otherPeer ∨
        (other = device ∧ otherPeer = peer ∧ namedIface iface = some name) := by
  by_cases here : other = device ∧ otherPeer = peer
  · obtain ⟨rfl, rfl⟩ := here
    cases named : namedIface iface with
    | none => simp [recordEnd, named]
    | some given => simp [recordEnd, named, mem_addMember, eq_comm]
  · have elsewhere : ¬ (other = device ∧ otherPeer = peer ∧ namedIface iface = some name) :=
      fun same => here ⟨same.1, same.2.1⟩
    simp [recordEnd, here, elsewhere]

end VirtualNetwork

omit [DecidableEq Device] in
theorem Records.start : Records (.unlinked : VirtualNetwork Device) {} :=
  ⟨fun _ _ _ => by simp [unlinked, Wiring.Laid], fun _ _ impossible =>
    absurd impossible (Finset.notMem_empty _)⟩

section

variable {network : VirtualNetwork Device} {wiring : Wiring Device}
  (records : Records network wiring)
include records

theorem Records.apply (op : LinkOp Device) : Records (network.apply op) (wiring.apply op) := by
  cases op with
  | addLink first second firstIface secondIface =>
    refine ⟨fun device peer name => ?_, records.shut⟩
    change name ∈ ((network.recordEnd first second firstIface).recordEnd second first
      secondIface).linkIfaces device peer ↔ _
    rw [mem_linkIfaces_recordEnd, mem_linkIfaces_recordEnd, records.ends device peer name]
    simp only [Wiring.Laid, Wiring.apply, mem_append, mem_singleton, Cable.mk.injEq]
    constructor
    · rintro ((⟨far, laid⟩ | ⟨rfl, rfl, named⟩) | ⟨rfl, rfl, named⟩)
      · exact ⟨far, laid.imp .inl .inl⟩
      · exact ⟨_, .inl (.inr ⟨rfl, rfl, named.symm, rfl⟩)⟩
      · exact ⟨_, .inr (.inr ⟨rfl, rfl, rfl, named.symm⟩)⟩
    · rintro ⟨far, (laid | ⟨rfl, rfl, named, rfl⟩) | (laid | ⟨rfl, rfl, rfl, named⟩)⟩
      · exact .inl (.inl ⟨far, .inl laid⟩)
      · exact .inl (.inr ⟨rfl, rfl, named.symm⟩)
      · exact .inl (.inl ⟨far, .inr laid⟩)
      · exact .inr ⟨rfl, rfl, named.symm⟩
  | interfaceDown device iface =>
    refine ⟨records.ends, fun other name isShut => ?_⟩
    by_cases same : other = device
    · subst same
      simp only [Wiring.apply, Function.update_self, Finset.mem_insert] at isShut
      have spelled : ∀ spelling,
          spelling ∈ (network.interfaceDown other iface).downInterfaces other ↔
            spelling ∈ network.downInterfaces other ∨ spelling = iface := fun spelling => by
        simp [interfaceDown, mem_addMember]
      rcases isShut with isNew | old
      · exact mem_map.mpr ⟨iface, (spelled iface).mpr (.inr rfl), isNew.symm⟩
      · obtain ⟨spelling, member, norm⟩ := mem_map.mp (records.shut other name old)
        exact mem_map.mpr ⟨spelling, (spelled spelling).mpr (.inl member), norm⟩
    · have before : normIface name ∈ wiring.shut other := by
        simpa [Wiring.apply, same] using isShut
      simpa [VirtualNetwork.apply, shutBySpelling, interfaceDown,
        same] using records.shut other name before
  | interfaceUp device iface =>
    refine ⟨records.ends, fun other name isShut => ?_⟩
    by_cases same : other = device
    · subst same
      simp only [Wiring.apply, Function.update_self, Finset.mem_erase] at isShut
      obtain ⟨spelling, member, norm⟩ := mem_map.mp (records.shut other name isShut.2)
      refine mem_map.mpr ⟨spelling, ?_, norm⟩
      simp only [VirtualNetwork.apply, interfaceUp, Function.update_self,
        mem_filter, decide_eq_true_eq]
      exact ⟨member, by rintro rfl; exact isShut.1 norm.symm⟩
    · have before : normIface name ∈ wiring.shut other := by
        simpa [Wiring.apply, same] using isShut
      simpa [VirtualNetwork.apply, shutBySpelling, interfaceUp,
        same] using records.shut other name before

theorem Records.run (ops : List (LinkOp Device)) :
    Records (runFrom VirtualNetwork.apply network ops) (runFrom Wiring.apply wiring ops) := by
  induction ops generalizing network wiring with
  | nil => exact records
  | cons op rest ih => exact ih (records.apply op)

end

/-! ## When the answer is right -/

section Answer

variable (network : VirtualNetwork Device) (wiring : Wiring Device)

def Wiring.HasName (device peer : Device) : Prop := ∃ name far, wiring.Laid device peer (some name) far

/-- Some cable between two devices has a name at the first one of which no spelling is
still shut. -/
def NamedUp (device peer : Device) : Prop :=
  ∃ name far, wiring.Laid device peer (some name) far ∧ ¬ network.shutBySpelling device name

/-- Cables fail at opposite ends: none of them is alive, but one has its interface at
the first device up and another one its interface at the second. -/
def Crossed (device peer : Device) : Prop :=
  ¬ wiring.LinkAlive device peer ∧ NamedUp network wiring device peer ∧
    NamedUp network wiring peer device

/-- A live cable has no name at `device`, or one brought up under another spelling than
it was shut under, and every other interface named there is shut. -/
def Masked (device peer : Device) : Prop :=
  wiring.LinkAlive device peer ∧ wiring.HasName device peer ∧ ¬ NamedUp network wiring device peer

variable {network wiring}

omit [DecidableEq Device] in
/-- The answer in terms of the cables. -/
theorem edgeUp_iff_namedUp (records : Records network wiring) (device peer : Device) :
    network.edgeUp device peer = true ↔
      (wiring.HasName device peer → NamedUp network wiring device peer) ∧
      (wiring.HasName peer device → NamedUp network wiring peer device) := by
  have oneEnd : ∀ near far : Device, (network.linkIfaces near far = [] ∨
      ∃ iface ∈ network.linkIfaces near far, ¬ network.shutBySpelling near iface) ↔
      (wiring.HasName near far → NamedUp network wiring near far) := by
    intro near far
    constructor
    · rintro (none | ⟨name, member, up⟩) ⟨other, end', laid⟩
      · have member := (records.ends near far other).mpr ⟨end', laid⟩
        rw [none] at member
        exact absurd member not_mem_nil
      · obtain ⟨end'', laid'⟩ := (records.ends near far name).mp member
        exact ⟨name, end'', laid', up⟩
    · intro hasUp
      by_cases empty : network.linkIfaces near far = []
      · exact .inl empty
      · obtain ⟨name, member⟩ := exists_mem_of_ne_nil _ empty
        obtain ⟨end', laid⟩ := (records.ends near far name).mp member
        obtain ⟨upName, upEnd, upLaid, up⟩ := hasUp ⟨name, end', laid⟩
        exact .inr ⟨upName, (records.ends near far upName).mpr ⟨upEnd, upLaid⟩, up⟩
  rw [network.edgeUp_iff, oneEnd, oneEnd]

omit [DecidableEq Device] in
theorem edgeUp_comm (device peer : Device) :
    network.edgeUp device peer = network.edgeUp peer device := by
  rw [Bool.eq_iff_iff, network.edgeUp_iff, network.edgeUp_iff, and_comm]

omit [DecidableEq Device] in
theorem hasName_of_namedUp (records : Records network wiring) {device peer : Device}
    (dead : ¬ wiring.LinkAlive device peer) (up : NamedUp network wiring device peer) :
    wiring.HasName peer device := by
  obtain ⟨name, far, laid, notShut⟩ := up
  cases far with
  | some farName => exact ⟨farName, some name, (wiring.laid_comm _ _ _ _).mp laid⟩
  | none =>
    refine absurd ⟨some name, none, laid, ?_, fun _ impossible => by cases impossible⟩ dead
    rintro _ ⟨⟩ isShut
    exact notShut (records.shut device name isShut)

omit [DecidableEq Device] in
/-- A pair without live cables that is reported up has no cable, or crossed ones. -/
theorem crossed_of_edgeUp (records : Records network wiring) {device peer : Device}
    (dead : ¬ wiring.LinkAlive device peer) (up : network.edgeUp device peer = true)
    {near far : Option String} (laid : wiring.Laid device peer near far) :
    Crossed network wiring device peer := by
  obtain ⟨nearUp, farUp⟩ := (edgeUp_iff_namedUp records device peer).mp up
  have dead' : ¬ wiring.LinkAlive peer device := fun alive =>
    dead ((wiring.linkAlive_comm _ _).mp alive)
  by_cases named : wiring.HasName device peer
  · have first := nearUp named
    exact ⟨dead, first, farUp (hasName_of_namedUp records dead first)⟩
  · have farNamed : wiring.HasName peer device := by
      by_contra unnamed
      cases near with
      | some name => exact named ⟨name, far, laid⟩
      | none =>
        cases far with
        | some name => exact unnamed ⟨name, none, (wiring.laid_comm _ _ _ _).mp laid⟩
        | none =>
          exact dead ⟨none, none, laid, fun _ impossible => (by cases impossible),
            fun _ impossible => (by cases impossible)⟩
    exact absurd (hasName_of_namedUp records dead' (farUp farNamed)) named

end Answer

/-- Two parallel links, one shut at device 0 and the other one at device 1. -/
def oppositeEnds : List (LinkOp Nat) :=
  [.addLink 0 1 (some "Gi0/1") (some "Gi0/1"), .addLink 0 1 (some "Gi0/2") (some "Gi0/2"),
    .interfaceDown 0 "GigabitEthernet0/1", .interfaceDown 1 "GigabitEthernet0/2"]

end NetLab.Network
