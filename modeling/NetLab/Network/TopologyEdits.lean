import NetLab.Network.LinkLiveness

/-!
# Histories of topology edits

What the network answers about links should depend on the links that exist and the
interfaces that are shut. `Topology` keeps these beside a history of edits, and
`rebuild` is the history that adds just them to an empty network. Removing a link
takes it out of `links` only; `edits_agree_iff` says when a history gives the same
answers as its rebuilding.
-/

namespace NetLab.Network

open NetLab.Library NetLab.Execution List

variable {Device : Type} [DecidableEq Device]

/-- Edits of the topology. -/
inductive TopologyEdit (Device : Type) where
  | addLink (first second : Device) (firstIface secondIface : Option String)
  | removeLink (first second : Device)
  | unregister (device : Device)
  | interfaceDown (device : Device) (iface : String)
  | interfaceUp (device : Device) (iface : String)

def VirtualNetwork.edit (network : VirtualNetwork Device) :
    TopologyEdit Device → VirtualNetwork Device
  | .addLink first second firstIface secondIface =>
    network.addLink first second firstIface secondIface
  | .removeLink first second => network.removeLink first second
  | .unregister device => network.unregister device
  | .interfaceDown device iface => network.interfaceDown device iface
  | .interfaceUp device iface => network.interfaceUp device iface

/-- The links added by a history, those of them that still exist, and the interfaces
that are shut. -/
structure Topology (Device : Type) where
  laid : List (Cable Device) := []
  current : List (Cable Device) := []
  shut : List (Device × String) := []

namespace Topology

def edit (topology : Topology Device) : TopologyEdit Device → Topology Device
  | .addLink first second firstIface secondIface =>
    { topology with
      laid := topology.laid ++ [⟨first, second, firstIface, secondIface⟩]
      current := topology.current ++ [⟨first, second, firstIface, secondIface⟩] }
  | .removeLink first second =>
    { topology with
      current := topology.current.filter fun cable =>
        decide (¬ ((cable.first = first ∧ cable.second = second) ∨
          (cable.first = second ∧ cable.second = first))) }
  | .unregister device =>
    { topology with
      current := topology.current.filter fun cable =>
        decide (cable.first ≠ device ∧ cable.second ≠ device) }
  | .interfaceDown device iface =>
    { topology with shut := VirtualNetwork.addMember (device, iface) topology.shut }
  | .interfaceUp device iface =>
    { topology with
      shut := topology.shut.filter fun port => decide (port ≠ (device, iface)) }

/-- The topology after a history. -/
def after (edits : List (TopologyEdit Device)) : Topology Device := runFrom edit {} edits

/-- The history that adds the existing links and shuts the shut interfaces. -/
def rebuild (topology : Topology Device) : List (TopologyEdit Device) :=
  (topology.current.map fun cable =>
      .addLink cable.first cable.second cable.firstIface cable.secondIface) ++
    topology.shut.map fun port => .interfaceDown port.1 port.2

end Topology

/-- Among the cables is one from `device` with interface `near` to `peer` with
interface `far`, in either direction. -/
def Between (cables : List (Cable Device)) (device peer : Device) (near far : Option String) :
    Prop :=
  ∃ cable ∈ cables, (cable.first = device ∧ cable.second = peer ∧
      VirtualNetwork.namedIface cable.firstIface = near ∧
      VirtualNetwork.namedIface cable.secondIface = far) ∨
    (cable.first = peer ∧ cable.second = device ∧ VirtualNetwork.namedIface cable.firstIface = far ∧
      VirtualNetwork.namedIface cable.secondIface = near)

section Between

variable {cables : List (Cable Device)} {device peer : Device} {near far : Option String}

omit [DecidableEq Device] in
theorem between_comm : Between cables device peer near far ↔ Between cables peer device far near :=
  exists_congr fun _ => and_congr_right fun _ => or_comm

omit [DecidableEq Device] in
theorem between_append_singleton (first second : Device) (firstIface secondIface : Option String) :
    Between (cables ++ [⟨first, second, firstIface, secondIface⟩]) device peer near far ↔
      Between cables device peer near far ∨
      (device = first ∧ peer = second ∧ VirtualNetwork.namedIface firstIface = near ∧
        VirtualNetwork.namedIface secondIface = far) ∨
      (device = second ∧ peer = first ∧ VirtualNetwork.namedIface firstIface = far ∧
        VirtualNetwork.namedIface secondIface = near) := by
  unfold Between
  simp only [mem_append, mem_singleton]
  constructor
  · rintro ⟨cable, member | rfl, ends⟩
    · exact .inl ⟨cable, member, ends⟩
    · right
      dsimp only at ends
      tauto
  · rintro (⟨cable, member, ends⟩ | ends)
    · exact ⟨cable, .inl member, ends⟩
    · refine ⟨_, .inr rfl, ?_⟩
      dsimp only
      tauto

omit [DecidableEq Device] in
theorem between_filter (cables : List (Cable Device)) (stays : Device → Device → Prop)
    [∀ first second, Decidable (stays first second)]
    (symmetric : ∀ first second, stays first second ↔ stays second first)
    (device peer : Device) (near far : Option String) :
    Between (cables.filter fun cable => decide (stays cable.first cable.second)) device peer near far ↔
      Between cables device peer near far ∧ stays device peer := by
  unfold Between
  simp only [mem_filter, decide_eq_true_eq]
  constructor
  · rintro ⟨cable, ⟨member, kept⟩, ends⟩
    refine ⟨⟨cable, member, ends⟩, ?_⟩
    rcases ends with ⟨rfl, rfl, -⟩ | ⟨rfl, rfl, -⟩
    · exact kept
    · exact (symmetric _ _).mp kept
  · rintro ⟨⟨cable, member, ends⟩, kept⟩
    refine ⟨cable, ⟨member, ?_⟩, ends⟩
    rcases ends with ⟨rfl, rfl, -⟩ | ⟨rfl, rfl, -⟩
    · exact kept
    · exact (symmetric _ _).mp kept

end Between

/-! ## What the network records -/

namespace VirtualNetwork

variable (network : VirtualNetwork Device)

theorem mem_getNeighbors_recordEnd (device peer other otherPeer : Device) (iface : Option String) :
    otherPeer ∈ (network.recordEnd device peer iface).getNeighbors other ↔
      otherPeer ∈ network.getNeighbors other ∨ (other = device ∧ otherPeer = peer) := by
  unfold getNeighbors recordEnd
  dsimp only
  rw [OrderedMap.lookup_insert]
  split
  case isTrue here =>
      subst here
      rw [Option.getD_some, mem_addMember]
      simp [getNeighbors]
  case isFalse apart => simp [apart]

theorem mem_discardPeer (links : OrderedMap Device (List Device))
    (device peer other otherPeer : Device) :
    otherPeer ∈ ((discardPeer links device peer).lookup other).getD [] ↔
      otherPeer ∈ (links.lookup other).getD [] ∧ ¬ (other = device ∧ otherPeer = peer) := by
  unfold discardPeer
  rw [OrderedMap.lookup_insert]
  split
  case isTrue here => simp [here]
  case isFalse apart => simp [apart]

theorem mem_getNeighbors_removeLink (first second device peer : Device) :
    peer ∈ (network.removeLink first second).getNeighbors device ↔
      peer ∈ network.getNeighbors device ∧ ¬ (device = first ∧ peer = second) ∧
        ¬ (device = second ∧ peer = first) := by
  unfold removeLink getNeighbors
  dsimp only
  rw [mem_discardPeer, mem_discardPeer, and_assoc]

theorem mem_foldl_discardPeer (peers : List Device) (links : OrderedMap Device (List Device))
    (device other otherPeer : Device) :
    otherPeer ∈ ((peers.foldl (fun links peer => discardPeer links peer device) links).lookup
        other).getD [] ↔
      otherPeer ∈ (links.lookup other).getD [] ∧ ¬ (other ∈ peers ∧ otherPeer = device) := by
  induction peers generalizing links with
  | nil => simp
  | cons peer rest ih =>
    rw [foldl_cons, ih, mem_discardPeer, mem_cons]
    tauto

/-- Disconnecting takes a device out of the neighbours of those that it has as
neighbours itself. -/
theorem mem_getNeighbors_unregister (device other peer : Device) :
    peer ∈ (network.unregister device).getNeighbors other ↔
      other ≠ device ∧ peer ∈ network.getNeighbors other ∧
        ¬ (other ∈ network.getNeighbors device ∧ peer = device) := by
  unfold unregister getNeighbors
  dsimp only
  rw [OrderedMap.lookup_erase]
  split
  case isTrue here => simp [here]
  case isFalse apart =>
      rw [mem_foldl_discardPeer]
      simp [apart]

theorem interfaceLinks_recordEnd {device peer other otherPeer : Device} {iface : Option String}
    (remembered : ∀ other otherPeer name, network.interfaceLinks other otherPeer = some name →
      name ∈ network.linkIfaces other otherPeer) {name : String}
    (found : (network.recordEnd device peer iface).interfaceLinks other otherPeer = some name) :
    name ∈ (network.recordEnd device peer iface).linkIfaces other otherPeer := by
  rw [mem_linkIfaces_recordEnd]
  unfold recordEnd at found
  dsimp only at found
  split at found
  case isFalse => exact .inl (remembered _ _ _ found)
  case isTrue here =>
      cases given : namedIface iface with
      | none => exact .inl (remembered _ _ _ (by simpa [given] using found))
      | some given => exact .inr ⟨here.1, here.2, by simpa [given] using found⟩

end VirtualNetwork

/-- The network knows the existing links as neighbours, and still has the interface
names of every link that was ever added. -/
structure Tracks (network : VirtualNetwork Device) (topology : Topology Device) : Prop where
  neighbors : ∀ device peer, peer ∈ network.getNeighbors device ↔
    ∃ near far, Between topology.current device peer near far
  names : ∀ device peer name, name ∈ network.linkIfaces device peer ↔
    ∃ far, Between topology.laid device peer (some name) far
  remembered : ∀ device peer name, network.interfaceLinks device peer = some name →
    name ∈ network.linkIfaces device peer
  shut : ∀ device name, name ∈ network.downInterfaces device ↔ (device, name) ∈ topology.shut

theorem tracks_unlinked : Tracks (.unlinked : VirtualNetwork Device) {} where
  neighbors _ _ := by simp [VirtualNetwork.unlinked, VirtualNetwork.getNeighbors, Between]
  names _ _ _ := by simp [VirtualNetwork.unlinked, Between]
  remembered _ _ _ found := by cases found
  shut _ _ := by simp [VirtualNetwork.unlinked]

section

variable {network : VirtualNetwork Device} {topology : Topology Device}
  (tracks : Tracks network topology)
include tracks

theorem Tracks.addLink (first second : Device) (firstIface secondIface : Option String) :
    Tracks (network.addLink first second firstIface secondIface)
      (topology.edit (.addLink first second firstIface secondIface)) where
  neighbors device peer := by
    unfold VirtualNetwork.addLink
    rw [VirtualNetwork.mem_getNeighbors_recordEnd, VirtualNetwork.mem_getNeighbors_recordEnd,
      tracks.neighbors]
    simp only [Topology.edit, between_append_singleton]
    constructor
    · rintro ((⟨near, far, between⟩ | ⟨rfl, rfl⟩) | ⟨rfl, rfl⟩)
      · exact ⟨near, far, .inl between⟩
      · exact ⟨_, _, .inr (.inl ⟨rfl, rfl, rfl, rfl⟩)⟩
      · exact ⟨_, _, .inr (.inr ⟨rfl, rfl, rfl, rfl⟩)⟩
    · rintro ⟨near, far, between | ⟨rfl, rfl, -⟩ | ⟨rfl, rfl, -⟩⟩
      · exact .inl (.inl ⟨near, far, between⟩)
      · exact .inl (.inr ⟨rfl, rfl⟩)
      · exact .inr ⟨rfl, rfl⟩
  names device peer name := by
    unfold VirtualNetwork.addLink
    rw [VirtualNetwork.mem_linkIfaces_recordEnd, VirtualNetwork.mem_linkIfaces_recordEnd,
      tracks.names]
    simp only [Topology.edit, between_append_singleton]
    constructor
    · rintro ((⟨far, between⟩ | ⟨rfl, rfl, named⟩) | ⟨rfl, rfl, named⟩)
      · exact ⟨far, .inl between⟩
      · exact ⟨_, .inr (.inl ⟨rfl, rfl, named, rfl⟩)⟩
      · exact ⟨_, .inr (.inr ⟨rfl, rfl, rfl, named⟩)⟩
    · rintro ⟨far, between | ⟨rfl, rfl, named, -⟩ | ⟨rfl, rfl, -, named⟩⟩
      · exact .inl (.inl ⟨far, between⟩)
      · exact .inl (.inr ⟨rfl, rfl, named⟩)
      · exact .inr ⟨rfl, rfl, named⟩
  remembered device peer name := by
    refine VirtualNetwork.interfaceLinks_recordEnd _ fun other otherPeer name => ?_
    exact VirtualNetwork.interfaceLinks_recordEnd _ tracks.remembered
  shut := tracks.shut

theorem Tracks.edit (edit : TopologyEdit Device) :
    Tracks (network.edit edit) (topology.edit edit) := by
  cases edit with
  | addLink first second firstIface secondIface => exact tracks.addLink _ _ _ _
  | removeLink first second =>
    refine ⟨fun device peer => ?_, tracks.names, tracks.remembered, tracks.shut⟩
    have filtered := between_filter topology.current
      (fun left right => ¬ ((left = first ∧ right = second) ∨ (left = second ∧ right = first)))
      (by intro left right; tauto) device peer
    change peer ∈ (network.removeLink first second).getNeighbors device ↔ _
    rw [VirtualNetwork.mem_getNeighbors_removeLink, tracks.neighbors]
    simp only [Topology.edit, filtered]
    constructor
    · rintro ⟨⟨near, far, between⟩, forth, back⟩
      exact ⟨near, far, between, by tauto⟩
    · rintro ⟨near, far, between, kept⟩
      exact ⟨⟨near, far, between⟩, by tauto⟩
  | unregister device =>
    refine ⟨fun other peer => ?_, tracks.names, tracks.remembered, tracks.shut⟩
    have filtered := between_filter topology.current
      (fun left right => left ≠ device ∧ right ≠ device) (by intro left right; tauto) other peer
    change peer ∈ (network.unregister device).getNeighbors other ↔ _
    rw [VirtualNetwork.mem_getNeighbors_unregister, tracks.neighbors, tracks.neighbors]
    simp only [Topology.edit, filtered]
    constructor
    · rintro ⟨apart, ⟨near, far, between⟩, unlinked⟩
      refine ⟨near, far, between, apart, ?_⟩
      rintro rfl
      exact unlinked ⟨⟨far, near, between_comm.mp between⟩, rfl⟩
    · rintro ⟨near, far, between, apart, peerApart⟩
      exact ⟨apart, ⟨near, far, between⟩, fun both => peerApart both.2⟩
  | interfaceDown device iface =>
    refine ⟨tracks.neighbors, tracks.names, tracks.remembered, fun other name => ?_⟩
    change name ∈ (network.interfaceDown device iface).downInterfaces other ↔
      (other, name) ∈ VirtualNetwork.addMember (device, iface) topology.shut
    rw [VirtualNetwork.mem_addMember, ← tracks.shut, VirtualNetwork.interfaceDown]
    by_cases here : other = device
    · subst here
      simp [VirtualNetwork.mem_addMember]
    · simp [here]
  | interfaceUp device iface =>
    refine ⟨tracks.neighbors, tracks.names, tracks.remembered, fun other name => ?_⟩
    change name ∈ (network.interfaceUp device iface).downInterfaces other ↔
      (other, name) ∈ topology.shut.filter fun port => decide (port ≠ (device, iface))
    rw [mem_filter, ← tracks.shut, VirtualNetwork.interfaceUp]
    by_cases here : other = device
    · subst here
      simp
    · simp [here]

/-- The network keeps the record through every history. -/
theorem Tracks.run (edits : List (TopologyEdit Device)) :
    Tracks (runFrom VirtualNetwork.edit network edits) (runFrom Topology.edit topology edits) := by
  induction edits generalizing network topology with
  | nil => exact tracks
  | cons edit rest ih => exact ih (tracks.edit edit)

end

/-! ## Histories and their rebuilding -/

namespace VirtualNetwork

def SameAnswers (first second : VirtualNetwork Device) : Prop :=
  ∀ device peer, first.edgeUp device peer = second.edgeUp device peer ∧
    (∀ name, name ∈ first.ifacesBetween device peer ↔ name ∈ second.ifacesBetween device peer) ∧
    ∀ iface, peer ∈ first.getPeersOnInterface device iface ↔
      peer ∈ second.getPeersOnInterface device iface

end VirtualNetwork

namespace Topology

/-- No name is left over: an interface of a removed link is the interface of an existing
link between the same devices as well. -/
def NoResidue (topology : Topology Device) : Prop :=
  ∀ device peer name far, Between topology.laid device peer (some name) far →
    ∃ far, Between topology.current device peer (some name) far

theorem rebuild_links (cables : List (Cable Device)) (topology : Topology Device) :
    runFrom edit topology (cables.map fun cable =>
        .addLink cable.first cable.second cable.firstIface cable.secondIface) =
      { topology with
        laid := topology.laid ++ cables
        current := topology.current ++ cables } := by
  induction cables generalizing topology with
  | nil => simp
  | cons cable rest ih =>
    rw [map_cons, runFrom_cons, ih]
    simp [edit]

theorem rebuild_ports (ports : List (Device × String)) (topology : Topology Device) :
    let rebuilt := runFrom edit topology (ports.map fun port => .interfaceDown port.1 port.2)
    rebuilt.laid = topology.laid ∧ rebuilt.current = topology.current ∧
      ∀ port, port ∈ rebuilt.shut ↔ port ∈ topology.shut ∨ port ∈ ports := by
  induction ports generalizing topology with
  | nil => simp
  | cons port rest ih =>
    obtain ⟨laid, current, shut⟩ := ih (topology.edit (.interfaceDown port.1 port.2))
    refine ⟨laid, current, fun other => (shut other).trans ?_⟩
    change other ∈ VirtualNetwork.addMember (port.1, port.2) topology.shut ∨ other ∈ rest ↔ _
    rw [VirtualNetwork.mem_addMember, mem_cons, or_assoc]

/-- A link that exists has been added. -/
theorem current_subset_laid (edits : List (TopologyEdit Device)) :
    (after edits).current ⊆ (after edits).laid := by
  have kept : ∀ (topology : Topology Device) (change : TopologyEdit Device),
      topology.current ⊆ topology.laid →
        (topology.edit change).current ⊆ (topology.edit change).laid := by
    intro topology change within
    cases change with
    | addLink => exact append_subset.mpr ⟨subset_append_of_subset_left _ within,
        subset_append_right _ _⟩
    | removeLink => exact List.Subset.trans filter_sublist.subset within
    | unregister => exact List.Subset.trans filter_sublist.subset within
    | interfaceDown => exact within
    | interfaceUp => exact within
  have start : ({} : Topology Device).current ⊆ ({} : Topology Device).laid := List.Subset.refl _
  exact invariant_of_step kept start edits

/-- The rebuilding has the existing links and the shut interfaces, and no others before. -/
theorem after_rebuild (topology : Topology Device) :
    (after topology.rebuild).laid = topology.current ∧
      (after topology.rebuild).current = topology.current ∧
      ∀ port, port ∈ (after topology.rebuild).shut ↔ port ∈ topology.shut := by
  unfold after rebuild
  rw [runFrom_append, rebuild_links]
  obtain ⟨laid, current, shut⟩ := rebuild_ports topology.shut
    { laid := [] ++ topology.current, current := [] ++ topology.current, shut := [] }
  exact ⟨laid, current, fun port => (shut port).trans (by simp)⟩

end Topology

theorem Tracks.mem_ifacesBetween {network : VirtualNetwork Device} {topology : Topology Device}
    (tracks : Tracks network topology) (device peer : Device) (name : String) :
    name ∈ network.ifacesBetween device peer ↔
      ∃ far, Between topology.laid device peer (some name) far := by
  unfold VirtualNetwork.ifacesBetween
  rw [mem_append, Option.mem_toList, ← tracks.names]
  exact ⟨fun found => found.elim id (tracks.remembered device peer name), .inl⟩

theorem sameAnswers_of_tracks {first second : VirtualNetwork Device}
    {left right : Topology Device} (firstTracks : Tracks first left)
    (secondTracks : Tracks second right)
    (links : ∀ device peer, (∃ near far, Between left.current device peer near far) ↔
      ∃ near far, Between right.current device peer near far)
    (names : ∀ device peer name, (∃ far, Between left.laid device peer (some name) far) ↔
      ∃ far, Between right.laid device peer (some name) far)
    (shut : ∀ port, port ∈ left.shut ↔ port ∈ right.shut) : first.SameAnswers second := by
  have sameNames : ∀ device peer name,
      name ∈ first.linkIfaces device peer ↔ name ∈ second.linkIfaces device peer :=
    fun device peer name => (firstTracks.names device peer name).trans
      ((names device peer name).trans (secondTracks.names device peer name).symm)
  have sameShut : ∀ device iface,
      first.shutBySpelling device iface ↔ second.shutBySpelling device iface := by
    intro device iface
    unfold VirtualNetwork.shutBySpelling
    simp only [mem_map, firstTracks.shut, secondTracks.shut, shut]
  have sameEmpty : ∀ device peer,
      first.linkIfaces device peer = [] ↔ second.linkIfaces device peer = [] := by
    intro device peer
    simp only [eq_nil_iff_forall_not_mem, sameNames]
  intro device peer
  refine ⟨?_, fun name => ?_, fun iface => ?_⟩
  · rw [Bool.eq_iff_iff, VirtualNetwork.edgeUp_iff, VirtualNetwork.edgeUp_iff]
    simp only [sameNames, sameShut, sameEmpty]
  · rw [firstTracks.mem_ifacesBetween, secondTracks.mem_ifacesBetween, names]
  · unfold VirtualNetwork.getPeersOnInterface
    simp only [mem_filter, any_eq_true, firstTracks.neighbors, secondTracks.neighbors,
      links, firstTracks.mem_ifacesBetween, secondTracks.mem_ifacesBetween, names]

/-- A history gives the same answers as a network that only ever had the existing links
and the shut interfaces exactly if no interface name is left over from a removed link. -/
theorem edits_agree_iff (edits : List (TopologyEdit Device)) :
    (runFrom VirtualNetwork.edit .unlinked edits).SameAnswers
        (runFrom VirtualNetwork.edit .unlinked (Topology.after edits).rebuild) ↔
      (Topology.after edits).NoResidue := by
  have tracks : Tracks (runFrom VirtualNetwork.edit .unlinked edits) (Topology.after edits) :=
    tracks_unlinked.run edits
  have rebuilt : Tracks (runFrom VirtualNetwork.edit .unlinked (Topology.after edits).rebuild)
      (Topology.after (Topology.after edits).rebuild) := tracks_unlinked.run _
  obtain ⟨laid, current, shut⟩ := (Topology.after edits).after_rebuild
  constructor
  · intro same device peer name far between
    have recorded := (tracks.mem_ifacesBetween device peer name).mpr ⟨far, between⟩
    have kept := ((same device peer).2.1 name).mp recorded
    rw [rebuilt.mem_ifacesBetween, laid] at kept
    exact kept
  · intro none
    refine sameAnswers_of_tracks tracks rebuilt ?_ ?_ fun port => (shut port).symm
    · intro device peer
      rw [current]
    · intro device peer name
      rw [laid]
      constructor
      · rintro ⟨far, between⟩
        exact none device peer name far between
      · rintro ⟨far, between⟩
        obtain ⟨cable, member, ends⟩ := between
        exact ⟨far, cable, Topology.current_subset_laid edits member, ends⟩

/-- A link is removed and another one added on other ports, which are then shut. -/
def movedLink : List (TopologyEdit Nat) :=
  [.addLink 0 1 (some "Gi0/1") (some "Gi0/1"), .removeLink 0 1,
    .addLink 0 1 (some "Gi0/2") (some "Gi0/2"), .interfaceDown 0 "Gi0/2"]

/-- The port of the removed link keeps the pair up. -/
theorem movedLink_differs : ¬ (runFrom VirtualNetwork.edit .unlinked movedLink).SameAnswers
      (runFrom VirtualNetwork.edit .unlinked (Topology.after movedLink).rebuild) := by
  intro same
  have up : (runFrom VirtualNetwork.edit .unlinked movedLink).edgeUp 0 1 = true := by
    decide +kernel
  have down : (runFrom VirtualNetwork.edit .unlinked (Topology.after movedLink).rebuild).edgeUp
      0 1 = false := by decide +kernel
  rw [(same 0 1).1, down] at up
  cases up

end NetLab.Network
