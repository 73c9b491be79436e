import Mathlib.Logic.Relation
import NetLab.Library.Flooding
import NetLab.Ospf.Origination

/-!
# Flooding an area

For one LSA key, the databases of an area are a map from devices to instances, and a
pass of the flooding loop is a sweep over the active devices. The criterion for
sweeps then says exactly which areas are synchronised when the guard stops the loop.
-/

namespace NetLab.Ospf

open NetLab.Library NetLab.Library.Flooding NetLab.Network OspfLsa
open OrderedMap List Function

variable {Device : Type} [DecidableEq Device]

/-- The instance of an LSA that a device holds. -/
def heldIn (nodes : OspfNodes Device) (key : LsaKey) (device : Device) : Option (OspfLsa Device) :=
  (nodes.lookup device).bind fun node => node.lsdb.lookup key

/-- A device takes part in the flooding of an area. -/
def isActive (nodes : OspfNodes Device) (area : AreaId) (device : Device) : Bool :=
  (nodes.lookup device).any fun node => node.enabled && node.areaId == area

/-- Neighbours that take part. -/
def activePeers (network : VirtualNetwork Device) (nodes : OspfNodes Device) (area : AreaId)
    (device : Device) : List Device :=
  (network.getNeighbors device).filter (isActive nodes area)

def Linked (network : VirtualNetwork Device) (nodes : OspfNodes Device) (area : AreaId)
    (device peer : Device) : Prop :=
  isActive nodes area device ∧ peer ∈ activePeers network nodes area device

/-- Two devices lie in one connected component. -/
def SameComponent (network : VirtualNetwork Device) (nodes : OspfNodes Device) (area : AreaId) :
    Device → Device → Prop :=
  Relation.EqvGen (Linked network nodes area)

/-- What databases are compared by. -/
def lsaView (lsa : OspfLsa Device) : Nat × List (LsaLink Device) := (lsa.seqNum, lsa.links)

/-- After flooding, the devices of one component hold the same keys with the same
sequence numbers and links, and these are the highest instances any of them held. -/
def AreaSynchronised (network : VirtualNetwork Device) (nodes : OspfNodes Device) (area : AreaId)
    (before after : OspfNodes Device) : Prop :=
  ∀ device ∈ activeIn nodes area, ∀ key,
    Synchronised seqNum lsaView (SameComponent network nodes area device)
      (heldIn before key) (heldIn after key)

/-- Instances of the highest sequence number agree on their links, and reach their
component within the passes that the guard admits. -/
def AreaFloodsInTime (network : VirtualNetwork Device) (nodes : OspfNodes Device) (area : AreaId)
    (before : OspfNodes Device) : Prop :=
  ∀ device ∈ activeIn nodes area, ∀ key,
    FloodsWithin OspfLsa.seqNum (activeIn nodes area) (activePeers network nodes area) lsaView
      (SameComponent network nodes area device) (heldIn before key) floodGuard

/-! ## Merging two databases -/

section Merge

omit [DecidableEq Device]

theorem lookup_mergeEntry (result : Lsdb Device × Bool) (entry : LsaKey × OspfLsa Device)
    (key : LsaKey) :
    (mergeEntry result entry).1.lookup key =
      if key = entry.1 then newer seqNum (result.1.lookup key) (some entry.2)
      else result.1.lookup key := by
  unfold mergeEntry
  by_cases same : key = entry.1
  · subst same
    cases held : result.1.lookup entry.1 with
    | none => simp [newer]
    | some current =>
      by_cases older : current.seqNum < entry.2.seqNum <;> simp [newer, older, held]
  · have inserted := result.1.lookup_insert_of_ne entry.2 same
    cases held : result.1.lookup entry.1 with
    | none => simp [same, inserted]
    | some current =>
      by_cases older : current.seqNum < entry.2.seqNum <;> simp [older, same, inserted]

theorem lookup_foldl_mergeEntry {entries : List (LsaKey × OspfLsa Device)}
    (distinct : (entries.map Prod.fst).Nodup) (result : Lsdb Device × Bool) (key : LsaKey) :
    (entries.foldl mergeEntry result).1.lookup key =
      newer seqNum (result.1.lookup key) (OrderedMap.lookupEntries entries key) := by
  induction entries generalizing result with
  | nil => cases held : result.1.lookup key <;> simp [OrderedMap.lookupEntries, newer, held]
  | cons entry rest ih =>
    obtain ⟨entryKey, lsa⟩ := entry
    obtain ⟨fresh, restDistinct⟩ := nodup_cons.mp distinct
    rw [foldl_cons, ih restDistinct, lookup_mergeEntry]
    by_cases same : key = entryKey
    · subst same
      have absent : OrderedMap.lookupEntries rest key = none := by
        let tail : OrderedMap LsaKey (OspfLsa Device) := ⟨rest, restDistinct⟩
        have missing : tail.lookup key = none ↔ key ∉ tail.keys := lookup_eq_none_iff
        exact missing.mpr fresh
      simp [absent, OrderedMap.lookupEntries]
    · simp [same, OrderedMap.lookupEntries, Ne.symm same]

theorem lookup_mergeLsdb (own other : Lsdb Device) (key : LsaKey) :
    (mergeLsdb own other).1.lookup key = newer seqNum (own.lookup key) (other.lookup key) :=
  lookup_foldl_mergeEntry other.distinct (own, false) key

theorem mergeLsdb_unchanged {own other : Lsdb Device} (quiet : (mergeLsdb own other).2 = false) :
    (mergeLsdb own other).1 = own := by
  suffices general : ∀ (entries : List (LsaKey × OspfLsa Device)) (result : Lsdb Device × Bool),
      (entries.foldl mergeEntry result).2 = false →
        result.2 = false ∧ (entries.foldl mergeEntry result).1 = result.1 from
    (general other.entries (own, false) quiet).2
  intro entries
  induction entries with
  | nil => exact fun result quiet => ⟨quiet, rfl⟩
  | cons entry rest ih =>
    intro result quiet
    obtain ⟨firstQuiet, same⟩ := ih (mergeEntry result entry) quiet
    have untouched : mergeEntry result entry = result := by
      unfold mergeEntry at firstQuiet ⊢
      split at firstQuiet
      · simp at firstQuiet
      · split at firstQuiet
        · simp at firstQuiet
        · simp_all
    rw [foldl_cons, same, untouched]
    exact ⟨untouched ▸ firstQuiet, rfl⟩

end Merge

/-! ## A pass is a sweep -/

variable {device : Device}

theorem isActive_congr {before after : OspfNodes Device} {area : AreaId}
    (same : (after.lookup device).map (fun node => (node.enabled, node.areaId)) =
      (before.lookup device).map fun node => (node.enabled, node.areaId)) :
    isActive after area device = isActive before area device := by
  unfold isActive
  cases found : after.lookup device <;> cases held : before.lookup device <;> simp_all

theorem isActive_modify (nodes : OspfNodes Device) (area : AreaId) (device other : Device)
    (update : OspfNode Device → OspfNode Device)
    (keeps : ∀ node, (update node).enabled = node.enabled ∧ (update node).areaId = node.areaId) :
    isActive (nodes.modify device update) area other = isActive nodes area other := by
  apply isActive_congr
  rw [lookup_modify]
  by_cases same : other = device <;> cases nodes.lookup other <;> simp [same, keeps]

variable {nodes : OspfNodes Device}

/-- Pulling from a peer is a pull under every key when the peer is active, and nothing
otherwise. Activity is not affected. -/
theorem pullFromPeer_spec {node : OspfNode Device} (found : nodes.lookup device = some node)
    (area : AreaId) (flag : Bool) (peer : Device) :
    (∀ key, heldIn (pullFromPeer area device (nodes, flag) peer).1 key =
      if isActive nodes area peer then
        pullFrom seqNum device (heldIn nodes key) peer
      else heldIn nodes key) ∧
    (∀ other, isActive (pullFromPeer area device (nodes, flag) peer).1 area other =
      isActive nodes area other) ∧
    ((pullFromPeer area device (nodes, flag) peer).2 = false →
      flag = false ∧ (pullFromPeer area device (nodes, flag) peer).1 = nodes) := by
  cases peerFound : nodes.lookup peer with
  | none => simp [pullFromPeer, found, peerFound, isActive]
  | some peerNode =>
    by_cases active : (peerNode.enabled && peerNode.areaId == area) = true
    · have peerActive : isActive nodes area peer = true := by simp [isActive, peerFound, active]
      simp only [pullFromPeer, found, peerFound, active, if_true, peerActive]
      refine ⟨fun key => ?_, fun other => isActive_congr ?_, fun quiet => ?_⟩
      · funext other
        by_cases same : other = device
        · subst same
          simp [heldIn, pullFrom, found, peerFound, lookup_mergeLsdb]
        · simp [heldIn, pullFrom, lookup_insert_of_ne _ _ same, same]
      · by_cases same : other = device
        · subst same
          simp [found]
        · rw [lookup_insert_of_ne _ _ same]
      · obtain ⟨flagQuiet, mergeQuiet⟩ := Bool.or_eq_false_iff.mp quiet
        refine ⟨flagQuiet, ?_⟩
        rw [mergeLsdb_unchanged mergeQuiet]
        exact insert_of_lookup found
    · have peerInactive : isActive nodes area peer = false := by
        simpa [isActive, peerFound] using active
      simp [pullFromPeer, found, peerFound, active, peerInactive]

theorem foldl_pullFromPeer_spec (area : AreaId) (asked : List Device)
    (active : isActive nodes area device = true) (flag : Bool) :
    (∀ key, heldIn (asked.foldl (pullFromPeer area device) (nodes, flag)).1 key =
      (asked.filter (isActive nodes area)).foldl (pullFrom seqNum device) (heldIn nodes key)) ∧
    (∀ other, isActive (asked.foldl (pullFromPeer area device) (nodes, flag)).1 area other =
      isActive nodes area other) ∧
    ((asked.foldl (pullFromPeer area device) (nodes, flag)).2 = false →
      flag = false ∧ (asked.foldl (pullFromPeer area device) (nodes, flag)).1 = nodes) := by
  induction asked generalizing nodes flag with
  | nil => simp
  | cons peer rest ih =>
    obtain ⟨node, found⟩ : ∃ node, nodes.lookup device = some node := by
      cases found : nodes.lookup device with
      | none => simp [isActive, found] at active
      | some node => exact ⟨node, rfl⟩
    obtain ⟨pulled, activity, quiet⟩ := pullFromPeer_spec found area flag peer
    obtain ⟨pulledRest, activityRest, quietRest⟩ :=
      ih ((activity device).trans active) (pullFromPeer area device (nodes, flag) peer).2
    have sameActivity : isActive (pullFromPeer area device (nodes, flag) peer).1 area =
        isActive nodes area := funext activity
    refine ⟨fun key => ?_, fun other => (activityRest other).trans (activity other), ?_⟩
    · rw [foldl_cons, pulledRest key, sameActivity, pulled key]
      by_cases peerActive : isActive nodes area peer = true <;> simp [peerActive]
    · intro allQuiet
      obtain ⟨firstQuiet, same⟩ := quietRest allQuiet
      obtain ⟨flagQuiet, unchanged⟩ := quiet firstQuiet
      exact ⟨flagQuiet, same.trans unchanged⟩

variable (network : VirtualNetwork Device)

/-- The visits of a pass, from any point of it on. -/
theorem foldl_pullFromPeers_spec (area : AreaId) (rest : List Device)
    (allActive : ∀ device ∈ rest, isActive nodes area device = true) (flag : Bool) :
    (∀ key, heldIn (rest.foldl (pullFromPeers network area) (nodes, flag)).1 key =
      sweep seqNum rest (activePeers network nodes area) (heldIn nodes key)) ∧
    (∀ other, isActive (rest.foldl (pullFromPeers network area) (nodes, flag)).1 area other =
      isActive nodes area other) ∧
    ((rest.foldl (pullFromPeers network area) (nodes, flag)).2 = false →
      flag = false ∧ (rest.foldl (pullFromPeers network area) (nodes, flag)).1 = nodes) := by
  induction rest generalizing nodes flag with
  | nil => simp [sweep]
  | cons device rest ih =>
    have deviceActive := allActive device mem_cons_self
    obtain ⟨visited, activity, quiet⟩ :=
      foldl_pullFromPeer_spec area (network.getNeighbors device) deviceActive flag
    let next := pullFromPeers network area (nodes, flag) device
    have sameActivity : isActive next.1 area = isActive nodes area := funext activity
    have restActive : ∀ other ∈ rest, isActive next.1 area other = true := fun other member =>
      (activity other).trans (allActive other (mem_cons_of_mem _ member))
    obtain ⟨visitedRest, activityRest, quietRest⟩ := ih restActive next.2
    refine ⟨fun key => ?_, fun other => (activityRest other).trans (activity other), ?_⟩
    · have samePeers : activePeers network next.1 area = activePeers network nodes area := by
        funext other
        simp only [activePeers, sameActivity]
      have visitDevice : heldIn next.1 key =
          visit seqNum (activePeers network nodes area) (heldIn nodes key) device :=
        visited key
      rw [foldl_cons]
      exact (visitedRest key).trans (by rw [samePeers, visitDevice]; rfl)
    · intro allQuiet
      obtain ⟨firstQuiet, same⟩ := quietRest allQuiet
      obtain ⟨flagQuiet, unchanged⟩ := quiet firstQuiet
      exact ⟨flagQuiet, same.trans unchanged⟩

section

variable {active : List Device} (area : AreaId)
  (allActive : ∀ device ∈ active, isActive nodes area device = true)
include area allActive

theorem floodPass_spec :
    (∀ key, heldIn (floodPass network area active nodes).1 key =
      sweep seqNum active (activePeers network nodes area) (heldIn nodes key)) ∧
    (∀ other, isActive (floodPass network area active nodes).1 area other =
      isActive nodes area other) ∧
    ((floodPass network area active nodes).2 = false →
      (floodPass network area active nodes).1 = nodes) := by
  obtain ⟨swept, activity, quiet⟩ := foldl_pullFromPeers_spec network area active allActive false
  exact ⟨swept, activity, fun unchanged => (quiet unchanged).2⟩

/-- The loop makes as many sweeps as its guard admits: once a pass changes nothing,
further ones would change nothing either. -/
theorem heldIn_floodLoop (guard : Nat) (key : LsaKey) :
    heldIn (floodLoop network area active guard nodes) key =
      (sweep seqNum active (activePeers network nodes area))^[guard] (heldIn nodes key) := by
  induction guard generalizing nodes with
  | zero => rfl
  | succ guard ih =>
    obtain ⟨swept, activity, quiet⟩ := floodPass_spec network area allActive
    have samePeers : activePeers network (floodPass network area active nodes).1 area =
        activePeers network nodes area := by
      funext other
      simp only [activePeers, (funext activity : isActive _ area = isActive nodes area)]
    unfold floodLoop
    by_cases changed : (floodPass network area active nodes).2 = true
    · simp only [changed, if_true]
      rw [ih fun device member => (activity device).trans (allActive device member), swept key,
        samePeers, iterate_succ_apply]
    · have unchanged := quiet (by simpa using changed)
      have fixed : sweep seqNum active (activePeers network nodes area)
          (heldIn nodes key) = heldIn nodes key := by
        rw [← swept key, unchanged]
      simp [changed, unchanged, iterate_fixed fixed]

end

/-! ## The area as a whole -/

variable (filters : FilterEngine Device)

/-- Recomputing routes leaves databases alone. -/
theorem heldIn_foldl_recalcRoutes (devices : List Device) (nodes : OspfNodes Device)
    (key : LsaKey) :
    heldIn (devices.foldl (recalcRoutes filters) nodes) key = heldIn nodes key := by
  induction devices generalizing nodes with
  | nil => rfl
  | cons device rest ih =>
    rw [foldl_cons, ih]
    funext other
    unfold heldIn recalcRoutes
    rw [lookup_modify]
    by_cases same : other = device
    · cases nodes.lookup other <;> simp [same, OspfNode.recalcRoutes, OspfNode.injectExternalRoutes]
    · simp [same]

theorem mem_activeIn {area : AreaId} :
    device ∈ activeIn nodes area ↔ isActive nodes area device = true := by
  unfold activeIn isActive
  simp only [mem_map, mem_filter, Prod.exists, exists_and_right, exists_eq_right,
    mem_entries_iff, Option.any_eq_true]

variable (nodes : OspfNodes Device) (area : AreaId)

omit [DecidableEq Device] in
theorem activeIn_nodup : (activeIn nodes area).Nodup :=
  nodes.distinct.sublist (filter_sublist.map Prod.fst)

/-- Origination does not decide who takes part. -/
theorem isActive_refreshArea (other : AreaId) :
    isActive (refreshArea nodes area) other = isActive nodes other := by
  unfold refreshArea
  generalize activeIn nodes area = devices
  induction devices generalizing nodes with
  | nil => rfl
  | cons device rest ih =>
    rw [foldl_cons, ih]
    funext peer
    refine isActive_modify nodes other device peer _ fun node => ?_
    obtain ⟨lsdb, seqNum, same⟩ := (originated_refresh (routerIdOf nodes) node device).frame
    simp [same]

theorem heldIn_floodLsdbArea (key : LsaKey) :
    heldIn (floodLsdbArea network filters nodes area) key =
      (sweep seqNum (activeIn nodes area) (activePeers network nodes area))^[floodGuard]
        (heldIn (refreshArea nodes area) key) := by
  have allActive : ∀ device ∈ activeIn nodes area,
      isActive (refreshArea nodes area) area device = true := by
    intro device member
    rw [isActive_refreshArea]
    exact mem_activeIn.mp member
  have samePeers : activePeers network (refreshArea nodes area) area =
      activePeers network nodes area := by
    funext device
    simp only [activePeers, isActive_refreshArea]
  unfold floodLsdbArea
  rw [heldIn_foldl_recalcRoutes, heldIn_floodLoop network area allActive, samePeers]

theorem SameComponent.active {nodes : OspfNodes Device} {network : VirtualNetwork Device}
    {area : AreaId} {device other : Device} (same : SameComponent network nodes area device other) :
    isActive nodes area device = true ↔ isActive nodes area other = true := by
  induction same with
  | rel left right linked =>
    have rightActive := (mem_filter.mp linked.2).2
    exact ⟨fun _ => rightActive, fun _ => linked.1⟩
  | refl => exact Iff.rfl
  | symm _ _ _ ih => exact ih.symm
  | trans _ _ _ _ _ first second => exact first.trans second

theorem component_synchronised_iff (member : device ∈ activeIn nodes area) (key : LsaKey) :
    Synchronised seqNum lsaView (SameComponent network nodes area device)
        (heldIn (refreshArea nodes area) key)
        (heldIn (floodLsdbArea network filters nodes area) key) ↔
      FloodsWithin OspfLsa.seqNum (activeIn nodes area) (activePeers network nodes area) lsaView
        (SameComponent network nodes area device) (heldIn (refreshArea nodes area) key)
        floodGuard := by
  have active := mem_activeIn.mp member
  rw [heldIn_floodLsdbArea]
  refine synchronised_iff ?_ (activeIn_nodup nodes area) ?_ floodGuard
  · intro vertex peer inside edge
    exact .trans _ _ _ inside (.rel _ _ ⟨inside.active.mp active, edge⟩)
  · exact fun vertex inside => mem_activeIn.mpr (inside.active.mp active)

/-- Flooding synchronises an area exactly when the newest instances of each component
agree and reach it within the guard: every pass carries them over one link, and over
further links as long as these follow the order of the node table. -/
theorem floodLsdbArea_synchronises_iff (network : VirtualNetwork Device)
    (filters : FilterEngine Device) (nodes : OspfNodes Device) (area : AreaId) :
    AreaSynchronised network nodes area (refreshArea nodes area)
        (floodLsdbArea network filters nodes area) ↔
      AreaFloodsInTime network nodes area (refreshArea nodes area) := by
  constructor
  · intro synchronised device member key
    exact (component_synchronised_iff network filters nodes area member key).mp
      (synchronised device member key)
  · intro inTime device member key
    exact (component_synchronised_iff network filters nodes area member key).mpr
      (inTime device member key)

/-! ## A path that is too long -/

def pathLinks (device : Nat) : List Nat :=
  if device = 0 then [1] else [device - 1, device + 1]

/-- Thirty-two devices in a row. -/
def pathNetwork : VirtualNetwork Nat where
  links :=
    ⟨(List.range 32).map fun device => (device, pathLinks device), by
      simpa [comp_def] using nodup_range⟩
  interfaceLinks _ _ := none
  linkIfaces _ _ := []
  downInterfaces _ := []
  subifVlans _ := []
  vlanPorts _ := []
  deviceIps := .empty

/-- Router IDs along the path. -/
def pathRouterId (device : Nat) : Address := ⟨10, 0, 0, Fin.ofNat 256 device⟩

/-- Routers that have just been enabled along the path. -/
def pathNodes : OspfNodes Nat :=
  ⟨(List.range 32).map fun device =>
    (device, { enabled := true, routerId := pathRouterId device }), by
      simpa [comp_def] using nodup_range⟩

def farKey : LsaKey := ⟨pathRouterId 31, .router, pathRouterId 31⟩

theorem pathNeighbors {device peer : Nat} (linked : peer ∈ pathNetwork.getNeighbors device) :
    peer = device + 1 ∨ peer + 1 = device := by
  unfold VirtualNetwork.getNeighbors at linked
  cases found : pathNetwork.links.lookup device with
  | none => simp [found] at linked
  | some links =>
    obtain ⟨_, -, same⟩ := mem_map.mp (mem_entries_iff.mpr found)
    obtain ⟨rfl, rfl⟩ := Prod.mk.inj same
    rw [found, Option.getD_some] at linked
    unfold pathLinks at linked
    split at linked <;> simp at linked <;> omega

/-- What travels against the order of the table advances one link in a pass. -/
theorem path_arrival {sweeps device : Nat}
    (arrived : ArrivesBy (List.range 32) (activePeers pathNetwork pathNodes 0) (· = 31)
      sweeps device) : 31 ≤ device + sweeps := by
  have adjacent : ∀ {vertex peer}, peer ∈ activePeers pathNetwork pathNodes 0 vertex →
      peer = vertex + 1 ∨ peer + 1 = vertex :=
    fun edge => pathNeighbors (mem_filter.mp edge).1
  induction arrived with
  | source sweeps initial => omega
  | wait _ ih => omega
  | nextSweep _ edge _ ih =>
    have near := adjacent edge
    omega
  | @sameSweep sweeps vertex peer before edge _ ih =>
    obtain ⟨front, back, split, member⟩ := before
    have ordered := split ▸ pairwise_lt_range (n := 32)
    have lower : peer < vertex :=
      (pairwise_append.mp ordered).2.2 peer member vertex mem_cons_self
    have near := adjacent edge
    omega

set_option maxRecDepth 100000 in
theorem path_active : activeIn pathNodes 0 = List.range 32 := by decide +kernel

set_option maxRecDepth 100000 in
theorem path_holds_farKey : ∀ device ∈ List.range 32,
    (heldIn (refreshArea pathNodes 0) farKey device).isSome = decide (device = 31) := by
  decide +kernel

theorem path_connected {device : Nat} (inside : device < 32) :
    SameComponent pathNetwork pathNodes 0 0 device := by
  induction device with
  | zero => exact .refl 0
  | succ device ih =>
    have active : ∀ other < 32, isActive pathNodes 0 other = true := by
      intro other below
      rw [← mem_activeIn, path_active]
      exact mem_range.mpr below
    refine .trans _ _ _ (ih (by omega)) (.rel _ _ ⟨active device (by omega), ?_⟩)
    refine mem_filter.mpr ⟨?_, active _ inside⟩
    have found : pathNetwork.links.lookup device = some (pathLinks device) :=
      mem_entries_iff.mp (mem_map.mpr ⟨device, mem_range.mpr (by omega), rfl⟩)
    unfold VirtualNetwork.getNeighbors
    rw [found, Option.getD_some]
    unfold pathLinks
    split <;> simp_all

/-- On a path of thirty-two routers with distinct router IDs, the last router's LSA
does not reach the first one. -/
theorem path_not_synchronised : (∀ left ∈ activeIn pathNodes 0, ∀ right ∈ activeIn pathNodes 0,
      routerIdOf pathNodes left = routerIdOf pathNodes right → left = right) ∧
    ¬ AreaSynchronised pathNetwork pathNodes 0 (refreshArea pathNodes 0)
      (floodLsdbArea pathNetwork (fun _ => {}) pathNodes 0) := by
  refine ⟨by rw [path_active]; decide +kernel, fun synchronised => ?_⟩
  have first : 0 ∈ activeIn pathNodes 0 := by simp [path_active]
  have inTime := (component_synchronised_iff _ _ _ _ first farKey).mp (synchronised 0 first farKey)
  have isolated : ∀ device offered, SameComponent pathNetwork pathNodes 0 0 device →
      heldIn (refreshArea pathNodes 0) farKey device = some offered → device = 31 := by
    intro device offered inside held
    have listed := mem_activeIn.mpr (inside.active.mp (mem_activeIn.mp first))
    rw [path_active] at listed
    have last := path_holds_farKey device listed
    rw [held] at last
    simpa using last
  obtain ⟨lsa, held⟩ : ∃ lsa, heldIn (refreshArea pathNodes 0) farKey 31 = some lsa :=
    Option.isSome_iff_exists.mp ((path_holds_farKey 31 (by simp)).trans (by simp))
  have newest : Newest seqNum (SameComponent pathNetwork pathNodes 0 0)
      (heldIn (refreshArea pathNodes 0) farKey) 31 lsa := by
    refine ⟨path_connected (by omega), held, fun other offered inside otherHeld => ?_⟩
    obtain rfl := isolated other offered inside otherHeld
    simp [Option.some.inj (otherHeld.symm.trans held)]
  have arrived := inTime.2 31 lsa newest 0 (.refl 0)
  rw [path_active] at arrived
  have late := path_arrival (arrived.mono fun source sourceNewest => by
    obtain ⟨offered, inside, sourceHeld, -⟩ := sourceNewest
    exact isolated source offered inside sourceHeld)
  simp [floodGuard] at late

end NetLab.Ospf
