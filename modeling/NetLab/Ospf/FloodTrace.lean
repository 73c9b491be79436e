import NetLab.Network.Multicast
import NetLab.Ospf.Flooding
import NetLab.Ospf.Frame

/-!
# Where flooding copies LSAs

The flooding loop leaves no record of its copies. The trace here follows the states of the
loop and notes each pull that took something over; `copies_over_iff` says over which links
copies are made.
-/

namespace NetLab.Ospf

open NetLab.Library NetLab.Network List
open OrderedMap

variable {Device : Type} [DecidableEq Device] {area : AreaId} {key : LsaKey}

/-- A pull that took over at least one LSA. -/
structure LsaCopy (Device : Type) where
  receiver : Device
  sender : Device
deriving DecidableEq

/-- Copies made when one device asks some peers in turn. -/
def peerCopies (area : AreaId) (device : Device) :
    OspfNodes Device → List Device → List (LsaCopy Device)
  | _, [] => []
  | nodes, peer :: rest =>
    let pulled := pullFromPeer area device (nodes, false) peer
    (if pulled.2 then [⟨device, peer⟩] else []) ++ peerCopies area device pulled.1 rest

/-- Copies made when some devices in turn ask their neighbours. -/
def passCopies (network : VirtualNetwork Device) (area : AreaId) :
    OspfNodes Device → List Device → List (LsaCopy Device)
  | _, [] => []
  | nodes, device :: rest =>
    peerCopies area device nodes (network.getNeighbors device) ++
      passCopies network area (pullFromPeers network area (nodes, false) device).1 rest

def loopCopies (network : VirtualNetwork Device) (area : AreaId) (active : List Device) :
    (guard : Nat) → OspfNodes Device → List (LsaCopy Device)
  | 0, _ => []
  | guard + 1, nodes =>
    let pass := floodPass network area active nodes
    passCopies network area nodes active ++
      if pass.2 then loopCopies network area active guard pass.1 else []

def floodCopies (network : VirtualNetwork Device) (nodes : OspfNodes Device) (area : AreaId) :
    List (LsaCopy Device) :=
  loopCopies network area (activeIn nodes area) floodGuard (refreshArea nodes area)

/-! ## The trace and the flags of the loop -/

/-! ## Copies follow links -/

theorem isActive_of_coreOf {before after : OspfNodes Device} (same : coreOf after = coreOf before)
    (area : AreaId) : isActive after area = isActive before area := by
  funext device
  refine isActive_congr ?_
  have reading : ∀ nodes : OspfNodes Device,
      (nodes.lookup device).map (fun node => (node.enabled, node.areaId)) =
        (coreOf nodes device).map fun node => (node.enabled, node.areaId) := by
    intro nodes
    simp [coreOf, Function.comp_def, OspfNode.core]
  rw [reading, reading, same]

omit [DecidableEq Device] in
/-- A database has nothing new for itself. -/
theorem mergeLsdb_self (own : Lsdb Device) : mergeLsdb own own = (own, false) := by
  unfold mergeLsdb
  suffices general : ∀ entries : List (LsaKey × OspfLsa Device), (∀ entry ∈ entries,
      own.lookup entry.1 = some entry.2) → entries.foldl mergeEntry (own, false) = (own, false) from
    general _ fun _ member => mem_entries_iff.mp member
  intro entries held
  induction entries with
  | nil => rfl
  | cons entry rest ih =>
    have known := held entry mem_cons_self
    have kept : mergeEntry (own, false) entry = (own, false) := by simp [mergeEntry, known]
    rw [foldl_cons, kept]
    exact ih fun entry member => held entry (mem_cons_of_mem _ member)

variable {nodes : OspfNodes Device} {device peer : Device}

theorem pullFromPeer_copied (copied : (pullFromPeer area device (nodes, false) peer).2 = true) :
    isActive nodes area peer = true ∧ peer ≠ device := by
  unfold pullFromPeer at copied
  split at copied
  · rename_i node peerNode found peerFound
    dsimp only at found peerFound copied
    split at copied
    · rename_i active
      refine ⟨by simp [isActive, peerFound, active], ?_⟩
      rintro rfl
      rw [found] at peerFound
      cases peerFound
      simp [mergeLsdb_self] at copied
    · cases copied
  · cases copied

variable {copy : LsaCopy Device}

theorem mem_peerCopies {device : Device} {asked : List Device}
    (copied : copy ∈ peerCopies area device nodes asked) :
    copy.receiver = device ∧ copy.sender ∈ asked ∧ isActive nodes area copy.sender = true ∧
      copy.sender ≠ device := by
  induction asked generalizing nodes with
  | nil => cases copied
  | cons peer rest ih =>
    simp only [peerCopies] at copied
    rcases mem_append.mp copied with now | later
    · split at now
      · rename_i took
        rw [mem_singleton] at now
        subst now
        exact ⟨rfl, mem_cons_self, pullFromPeer_copied took⟩
      · cases now
    · obtain ⟨receiver, asked, active, apart⟩ := ih later
      rw [isActive_of_coreOf (coreOf_pullFromPeer area device (nodes, false) peer)] at active
      exact ⟨receiver, mem_cons_of_mem _ asked, active, apart⟩

variable {network : VirtualNetwork Device}

theorem mem_passCopies {rest : List Device} (copied : copy ∈ passCopies network area nodes rest) :
    copy.receiver ∈ rest ∧ copy.sender ∈ activePeers network nodes area copy.receiver ∧
      copy.sender ≠ copy.receiver := by
  induction rest generalizing nodes with
  | nil => cases copied
  | cons device rest ih =>
    rcases mem_append.mp copied with now | later
    · obtain ⟨rfl, asked, active, apart⟩ := mem_peerCopies now
      exact ⟨mem_cons_self, mem_filter.mpr ⟨asked, active⟩, apart⟩
    · obtain ⟨receiver, sender, apart⟩ := ih later
      unfold activePeers at sender ⊢
      rw [isActive_of_coreOf (coreOf_pullFromPeers network area (nodes, false) device)] at sender
      exact ⟨mem_cons_of_mem _ receiver, sender, apart⟩

theorem mem_loopCopies {active : List Device} {guard : Nat}
    (copied : copy ∈ loopCopies network area active guard nodes) :
    copy.receiver ∈ active ∧ copy.sender ∈ activePeers network nodes area copy.receiver ∧
      copy.sender ≠ copy.receiver := by
  induction guard generalizing nodes with
  | zero => cases copied
  | succ guard ih =>
    rcases mem_append.mp copied with now | later
    · exact mem_passCopies now
    · split at later
      · obtain ⟨receiver, sender, apart⟩ := ih later
        unfold activePeers at sender ⊢
        rw [isActive_of_coreOf (coreOf_floodPass network area active nodes)] at sender
        exact ⟨receiver, sender, apart⟩
      · cases later

theorem coreOf_refreshArea (nodes : OspfNodes Device) (area : AreaId) :
    coreOf (refreshArea nodes area) = coreOf nodes :=
  coreOf_foldl coreOf_refreshLsas _ nodes

theorem linked_of_copy (copied : copy ∈ floodCopies network nodes area) :
    Linked network nodes area copy.receiver copy.sender ∧ copy.sender ≠ copy.receiver := by
  obtain ⟨receiver, sender, apart⟩ := mem_loopCopies copied
  unfold activePeers at sender
  rw [isActive_of_coreOf (coreOf_refreshArea nodes area)] at sender
  exact ⟨⟨mem_activeIn.mp receiver, sender⟩, apart⟩

/-! ## A copy over every link -/

omit [DecidableEq Device] in
theorem Originated.lookup_foreign {allowed : Address → Prop} {node next : OspfNode Device}
    (originated : Originated allowed node next) (foreign : node.routerId ≠ key.advRouter) :
    next.lsdb.lookup key = node.lsdb.lookup key := by
  induction originated with
  | refl => rfl
  | @step next before lsType lsId links named ih =>
    change (next.lsdb.insert _ _).lookup key = _
    rw [lookup_insert, if_neg ?_, ih]
    rintro rfl
    exact foreign before.routerId_eq.symm

theorem routerIdOf_of_coreOf {before after : OspfNodes Device}
    (same : coreOf after = coreOf before) : routerIdOf after = routerIdOf before := by
  have reading : ∀ nodes : OspfNodes Device, routerIdOf nodes = fun device =>
      (coreOf nodes device).map OspfNode.routerId := by
    intro nodes
    funext device
    simp [routerIdOf, coreOf, Function.comp_def, OspfNode.core]
  rw [reading, reading, same]

theorem heldIn_refreshLsas {device : Device}
    (foreign : routerIdOf nodes device ≠ some key.advRouter) (other : Device) :
    heldIn (refreshLsas nodes other) key device = heldIn nodes key device := by
  unfold heldIn refreshLsas
  rw [lookup_modify]
  split
  · cases found : nodes.lookup device with
    | none => rfl
    | some node =>
      have away : node.routerId ≠ key.advRouter := by simpa [routerIdOf, found] using foreign
      exact (originated_refresh (routerIdOf nodes) node other).lookup_foreign away
  · rfl

theorem heldIn_refreshArea {device : Device}
    (foreign : routerIdOf nodes device ≠ some key.advRouter) (area : AreaId) :
    heldIn (refreshArea nodes area) key device = heldIn nodes key device := by
  unfold refreshArea
  generalize activeIn nodes area = devices
  induction devices generalizing nodes with
  | nil => rfl
  | cons other rest ih =>
    have sameIds := routerIdOf_of_coreOf (coreOf_refreshLsas nodes other)
    rw [foldl_cons, ih (by rwa [sameIds]), heldIn_refreshLsas foreign]

theorem pullFromPeer_missing (present : isActive nodes area device = true)
    (active : isActive nodes area peer = true) (missing : heldIn nodes key device = none)
    (offered : heldIn nodes key peer ≠ none) :
    (pullFromPeer area device (nodes, false) peer).2 = true := by
  obtain ⟨node, found, -⟩ := (Option.any_eq_true _ _).mp present
  obtain ⟨pulled, -, quiet⟩ := pullFromPeer_spec found area false peer
  by_contra silent
  have unchanged := (quiet (by simpa using silent)).2
  have held := pulled key
  rw [unchanged, if_pos active] at held
  have here := congrFun held device
  obtain ⟨lsa, has⟩ := Option.ne_none_iff_exists'.mp offered
  simp [Flooding.pullFrom, missing, has, Flooding.newer] at here

theorem first_copy {later others : List Device} (first : activeIn nodes area = device :: later)
    (asked : network.getNeighbors device = peer :: others)
    (active : isActive nodes area peer = true)
    (foreignDevice : routerIdOf nodes device ≠ some key.advRouter)
    (foreignPeer : routerIdOf nodes peer ≠ some key.advRouter)
    (missing : heldIn nodes key device = none) (offered : heldIn nodes key peer ≠ none) :
    ⟨device, peer⟩ ∈ floodCopies network nodes area := by
  have sameActivity := isActive_refreshArea nodes area area
  have present : isActive nodes area device = true :=
    mem_activeIn.mp (first ▸ mem_cons_self)
  have pulled : (pullFromPeer area device (refreshArea nodes area, false) peer).2 = true := by
    refine pullFromPeer_missing (by rwa [sameActivity]) (by rwa [sameActivity])
      ((heldIn_refreshArea foreignDevice area).trans missing) ?_
    rwa [heldIn_refreshArea foreignPeer area]
  refine mem_append_left _ ?_
  rw [first]
  refine mem_append_left _ ?_
  rw [asked]
  simp [peerCopies, pulled]

omit [DecidableEq Device] in
theorem exists_foreign_address (first second : Address) :
    ∃ address : Address, address ≠ first ∧ address ≠ second := by
  obtain ⟨fourth, away, apart⟩ :
      ∃ fourth : Fin 256, fourth ≠ first.fourth ∧ fourth ≠ second.fourth := by
    by_contra none
    have taken := fun fourth : Fin 256 => not_and_or.mp (not_exists.mp none fourth)
    have zero := taken 0
    have one := taken 1
    have two := taken 2
    simp only [not_not, Fin.ext_iff, Fin.val_zero, Fin.val_one, Fin.val_two] at zero one two
    omega
  refine ⟨⟨0, 0, 0, fourth⟩, ?_, ?_⟩
  · rintro rfl
    exact away rfl
  · rintro rfl
    exact apart rfl

theorem exists_copy (linked : Linked network nodes area device peer) (apart : peer ≠ device) :
    ∃ links table, network.SameLinks links ∧ coreOf table = coreOf nodes ∧
      ⟨device, peer⟩ ∈ floodCopies (network.withLinks links) table area := by
  obtain ⟨present, member⟩ := linked
  obtain ⟨neighbor, active⟩ := mem_filter.mp member
  obtain ⟨node, found, enabled⟩ := (Option.any_eq_true _ _).mp present
  obtain ⟨peerNode, peerFound, -⟩ := (Option.any_eq_true _ _).mp active
  obtain ⟨stranger, notDevice, notPeer⟩ :=
    exists_foreign_address node.routerId peerNode.routerId
  let key : LsaKey := ⟨stranger, .router, stranger⟩
  let lsa : OspfLsa Device :=
    { lsType := .router, lsId := stranger, advRouter := stranger, seqNum := 1, links := [] }
  -- The device has nothing and comes first; its peer holds an LSA of a router that is gone.
  let asker := { node with lsdb := OrderedMap.empty }
  let holder := { peerNode with lsdb := OrderedMap.empty.insert key lsa }
  let table := (nodes.insert peer holder).insertFirst device asker
  let links := network.links.insert device (peer :: (network.getNeighbors device).erase peer)
  have sameCore : coreOf table = coreOf nodes := by
    funext other
    unfold coreOf
    rw [lookup_insertFirst, lookup_insert]
    by_cases atDevice : other = device
    · subst atDevice
      simp [found, asker, OspfNode.core]
    · by_cases atPeer : other = peer
      · subst atPeer
        simp [apart, peerFound, holder, OspfNode.core]
      · simp [atDevice, atPeer]
  have sameIds := routerIdOf_of_coreOf sameCore
  have first : activeIn table area =
      device :: activeIn ((nodes.insert peer holder).erase device) area := by
    have asks : (asker.enabled && asker.areaId == area) = true := enabled
    simp [activeIn, table, OrderedMap.insertFirst, asks]
  have asked : (network.withLinks links).getNeighbors device =
      peer :: (network.getNeighbors device).erase peer := by
    simp [VirtualNetwork.getNeighbors, VirtualNetwork.withLinks, links]
  have missing : heldIn table key device = none := by
    simp [heldIn, table, lookup_insertFirst, asker]
  have offered : heldIn table key peer ≠ none := by
    simp [heldIn, table, lookup_insertFirst, apart, holder]
  refine ⟨links, table, fun other => ?_, sameCore, first_copy first asked ?_ ?_ ?_ missing offered⟩
  · by_cases atDevice : other = device
    · subst atDevice
      rw [lookup_insert_self, Option.getD_some]
      exact (perm_cons_erase neighbor).symm
    · rw [lookup_insert_of_ne _ _ atDevice]
      exact List.Perm.refl _
  · rwa [isActive_of_coreOf sameCore]
  · rw [sameIds, routerIdOf, found]
    simpa [key] using Ne.symm notDevice
  · rw [sameIds, routerIdOf, peerFound]
    simpa [key] using Ne.symm notPeer

/-- Copies are made over a set of links only, whatever the databases hold and in whatever order
devices and neighbours are asked, exactly if all links are in that set. -/
theorem copies_over_iff (allowed : Device → Device → Prop) :
    (∀ links table, network.SameLinks links → coreOf table = coreOf nodes →
      ∀ copy ∈ floodCopies (network.withLinks links) table area,
        allowed copy.receiver copy.sender) ↔
    ∀ device peer, Linked network nodes area device peer → peer ≠ device → allowed device peer := by
  constructor
  · intro copies device peer linked apart
    obtain ⟨links, table, sameLinks, sameCore, copied⟩ := exists_copy linked apart
    exact copies links table sameLinks sameCore _ copied
  · intro all links table sameLinks sameCore copy copied
    obtain ⟨⟨active, member⟩, apart⟩ := linked_of_copy copied
    obtain ⟨neighbor, peerActive⟩ := mem_filter.mp member
    rw [isActive_of_coreOf sameCore] at active peerActive
    exact all _ _ ⟨active, mem_filter.mpr
      ⟨sameLinks.mem_getNeighbors.mp neighbor, peerActive⟩⟩ apart

end NetLab.Ospf
