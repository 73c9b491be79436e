import NetLab.Ospf.Flooding
import NetLab.Ospf.Frame
import NetLab.Ospf.Spf

/-!
# Routes that avoid a lost neighbour

A device that has lost a neighbour is free of it when none of its own LSAs, cached
external networks and routes mention the neighbour. `Table` states this together with
what keeps it true under LSA processing: every router ID belongs to one device, and
the newest copy of an LSA is the one at its originator, so flooding never brings an
older LSA back to the device that originated it.
-/

namespace NetLab.Ospf

open NetLab.Library NetLab.Library.Flooding NetLab.Network
open OrderedMap

variable {Device : Type} [DecidableEq Device]

/-- A route that leads neither to a device nor over a router ID that belongs to it. -/
structure Avoids (owner : Address → Device) (peer : Device) (route : OspfRoute Device) : Prop where
  via : route.via ≠ .device peer
  nextHop : route.nextHop ≠ .device peer
  viaRouter : ∀ rid, owner rid = peer → route.via ≠ .router rid
  nextRouter : ∀ rid, owner rid = peer → route.nextHop ≠ .router rid

def OwnLsasName (owner : Address → Device) (device peer : Device) (node : OspfNode Device) :
    Prop :=
  ∃ entry ∈ node.lsdb.entries, owner entry.1.advRouter = device ∧
    ∃ link ∈ entry.2.links, ∃ target ∈ link.targets, owner target = peer

instance (owner : Address → Device) (device peer : Device) (node : OspfNode Device) :
    Decidable (OwnLsasName owner device peer node) :=
  inferInstanceAs (Decidable (∃ entry ∈ node.lsdb.entries, owner entry.1.advRouter = device ∧
    ∃ link ∈ entry.2.links, ∃ target ∈ link.targets, owner target = peer))

def CachesExternal (peer : Device) (node : OspfNode Device) : Prop :=
  ∃ entry ∈ node.learnedExternal.entries, entry.2.nextHop = peer

instance (peer : Device) (node : OspfNode Device) : Decidable (CachesExternal peer node) :=
  inferInstanceAs (Decidable (∃ entry ∈ node.learnedExternal.entries, entry.2.nextHop = peer))

/-- A node is free of a neighbour that it has lost. -/
structure Withdrawn (owner : Address → Device) (device peer : Device) (node : OspfNode Device) :
    Prop where
  notFull : fullWith node peer = false
  unnamed : ¬ OwnLsasName owner device peer node
  uncached : ¬ CachesExternal peer node
  routes : ∀ route ∈ node.routes, Avoids owner peer route

/-- What LSA processing maintains, for a relation of lost neighbours. -/
structure Table (owner : Address → Device) (lost : Device → Device → Prop)
    (nodes : OspfNodes Device) : Prop where
  apart : ∀ device peer, lost device peer → device ≠ peer
  routerId : ∀ device node, nodes.lookup device = some node → owner node.routerId = device
  neighbors : ∀ device node peer neighbor, nodes.lookup device = some node →
    node.neighbors.lookup peer = some neighbor → owner neighbor.routerId = peer
  advertised : ∀ device node key lsa, nodes.lookup device = some node →
    node.lsdb.lookup key = some lsa → lsa.advRouter = key.advRouter
  newest : ∀ device node key lsa, nodes.lookup device = some node →
    node.lsdb.lookup key = some lsa → ∃ originator own,
      nodes.lookup (owner key.advRouter) = some originator ∧
      originator.lsdb.lookup key = some own ∧ lsa.seqNum ≤ own.seqNum ∧
      own.seqNum < originator.seqNum
  withdrawn : ∀ device peer node, lost device peer → nodes.lookup device = some node →
    Withdrawn owner device peer node

variable {owner : Address → Device} {lost fewer : Device → Device → Prop}
  {nodes : OspfNodes Device} {device peer : Device} {node next : OspfNode Device}

theorem Table.congr {after : OspfNodes Device} (same : ∀ device, after.lookup device = nodes.lookup device)
    (table : Table owner lost nodes) : Table owner lost after := by
  obtain ⟨apart, routerId, neighbors, advertised, newest, withdrawn⟩ := table
  constructor <;> simpa only [same]

/-- A change of one node that loses no LSA, lowers no sequence number, and adds only
copies of LSAs in the table or new LSAs of the node's own. -/
structure NodeUpdate (owner : Address → Device) (nodes : OspfNodes Device) (device : Device)
    (node next : OspfNode Device) : Prop where
  routerId : owner next.routerId = device
  neighbors : ∀ peer neighbor, next.neighbors.lookup peer = some neighbor →
    owner neighbor.routerId = peer
  seqNum : node.seqNum ≤ next.seqNum
  keeps : ∀ key own, node.lsdb.lookup key = some own →
    ∃ kept, next.lsdb.lookup key = some kept ∧ own.seqNum ≤ kept.seqNum
  origin : ∀ key lsa, next.lsdb.lookup key = some lsa →
    (∃ other otherNode, nodes.lookup other = some otherNode ∧
      otherNode.lsdb.lookup key = some lsa) ∨
    owner key.advRouter = device ∧ lsa.advRouter = key.advRouter ∧ lsa.seqNum < next.seqNum

theorem Table.update (table : Table owner lost nodes) (found : nodes.lookup device = some node)
    (change : NodeUpdate owner nodes device node next)
    (apart : ∀ left right, fewer left right → left ≠ right)
    (shrinks : ∀ left right, fewer left right → left ≠ device → lost left right)
    (withdrawn : ∀ peer, fewer device peer → Withdrawn owner device peer next) :
    Table owner fewer (nodes.insert device next) := by
  have lookup_cases : ∀ other otherNode, (nodes.insert device next).lookup other = some otherNode →
      other = device ∧ otherNode = next ∨ other ≠ device ∧ nodes.lookup other = some otherNode := by
    intro other otherNode held
    rw [lookup_insert] at held
    split at held
    · rename_i same
      exact .inl ⟨same, (Option.some.inj held).symm⟩
    · rename_i different
      exact .inr ⟨different, held⟩
  -- every copy at the changed node of an LSA of its own is older than its next one
  have below : ∀ key lsa, next.lsdb.lookup key = some lsa → owner key.advRouter = device →
      lsa.seqNum < next.seqNum := by
    intro key lsa held own
    rcases change.origin key lsa held with ⟨other, otherNode, otherFound, copy⟩ | ⟨-, -, lt⟩
    · obtain ⟨originator, kept, originatorFound, -, le, lt⟩ :=
        table.newest other otherNode key lsa otherFound copy
      rw [own, found] at originatorFound
      cases originatorFound
      exact Nat.lt_of_lt_of_le (Nat.lt_of_le_of_lt le lt) change.seqNum
    · exact lt
  -- the originator of an LSA in the old table still has a copy that is at least as new
  have newestAfter : ∀ other otherNode key lsa, nodes.lookup other = some otherNode →
      otherNode.lsdb.lookup key = some lsa → ∃ originator own,
        (nodes.insert device next).lookup (owner key.advRouter) = some originator ∧
        originator.lsdb.lookup key = some own ∧ lsa.seqNum ≤ own.seqNum ∧
        own.seqNum < originator.seqNum := by
    intro other otherNode key lsa otherFound copy
    obtain ⟨originator, own, originatorFound, held, le, lt⟩ :=
      table.newest other otherNode key lsa otherFound copy
    rw [lookup_insert]
    split
    · rename_i isDevice
      rw [isDevice, found] at originatorFound
      cases originatorFound
      obtain ⟨kept, keptHeld, keptLe⟩ := change.keeps key own held
      exact ⟨next, kept, rfl, keptHeld, Nat.le_trans le keptLe, below key kept keptHeld isDevice⟩
    · exact ⟨originator, own, originatorFound, held, le, lt⟩
  refine ⟨apart, ?_, ?_, ?_, ?_, ?_⟩
  · intro other otherNode held
    rcases lookup_cases other otherNode held with ⟨rfl, rfl⟩ | ⟨-, old⟩
    · exact change.routerId
    · exact table.routerId other otherNode old
  · intro other otherNode peer neighbor held
    rcases lookup_cases other otherNode held with ⟨rfl, rfl⟩ | ⟨-, old⟩
    · exact change.neighbors peer neighbor
    · exact table.neighbors other otherNode peer neighbor old
  · intro other otherNode key lsa held copy
    rcases lookup_cases other otherNode held with ⟨rfl, rfl⟩ | ⟨-, old⟩
    · rcases change.origin key lsa copy with ⟨source, sourceNode, sourceFound, old⟩ | ⟨-, same, -⟩
      · exact table.advertised source sourceNode key lsa sourceFound old
      · exact same
    · exact table.advertised other otherNode key lsa old copy
  · intro other otherNode key lsa held copy
    rcases lookup_cases other otherNode held with ⟨rfl, rfl⟩ | ⟨-, old⟩
    · rcases change.origin key lsa copy with ⟨source, sourceNode, sourceFound, old⟩ | ⟨own, -, lt⟩
      · exact newestAfter source sourceNode key lsa sourceFound old
      · rw [own, lookup_insert_self]
        exact ⟨otherNode, lsa, rfl, copy, Nat.le_refl _, lt⟩
    · exact newestAfter other otherNode key lsa old copy
  · intro other peer otherNode isLost held
    rcases lookup_cases other otherNode held with ⟨rfl, rfl⟩ | ⟨different, old⟩
    · exact withdrawn peer isLost
    · exact table.withdrawn other peer otherNode (shrinks other peer isLost different) old

/-- A change that leaves database and sequence number alone. -/
theorem NodeUpdate.of_same_lsdb (found : nodes.lookup device = some node) (sameLsdb : next.lsdb = node.lsdb)
    (sameSeq : next.seqNum = node.seqNum) (routerId : owner next.routerId = device)
    (neighbors : ∀ peer neighbor, next.neighbors.lookup peer = some neighbor →
      owner neighbor.routerId = peer) : NodeUpdate owner nodes device node next := by
  refine ⟨routerId, neighbors, Nat.le_of_eq sameSeq.symm, ?_, ?_⟩
  · intro key own held
    exact ⟨own, by rw [sameLsdb]; exact held, Nat.le_refl _⟩
  · intro key lsa held
    exact .inl ⟨device, node, found, sameLsdb ▸ held⟩

theorem Table.modify {update : OspfNode Device → OspfNode Device} (table : Table owner lost nodes)
    (changed : ∀ node, nodes.lookup device = some node →
      Table owner lost (nodes.insert device (update node))) :
    Table owner lost (nodes.modify device update) := by
  cases found : nodes.lookup device with
  | none => exact table.congr (nodes.lookup_modify_of_missing update found)
  | some node => exact (changed node found).congr (nodes.lookup_modify_of_found update found)

/-! ## Origination -/

/-- The generators name no lost neighbour: the node itself is none, and a lost
neighbour is not full. -/
theorem Table.mayName (table : Table owner lost nodes) (found : nodes.lookup device = some node)
    (isLost : lost device peer) {target : Address}
    (named : node.MayName (routerIdOf nodes) target) : owner target ≠ peer := by
  have notFull := (table.withdrawn device peer node isLost found).notFull
  rcases named with rfl | ⟨entry, member, listed⟩
  · rw [table.routerId device node found]
    exact table.apart device peer isLost
  · have isOwner : owner target = entry.1 := by
      rcases listed with rfl | known
      · exact table.neighbors device node entry.1 entry.2 found (mem_fullNeighbors.mp member).1
      · obtain ⟨other, otherFound, rfl⟩ := Option.map_eq_some_iff.mp known
        exact table.routerId entry.1 other otherFound
    rw [isOwner]
    rintro rfl
    simp [fullWith_of_mem member] at notFull

/-- Originations of a node that name no lost neighbour. `base` is the node, possibly
with other designated routers. -/
theorem Table.originate {base : OspfNode Device} (table : Table owner lost nodes)
    (found : nodes.lookup device = some node)
    (sameDr : base = { node with
      dr := base.dr
      bdr := base.bdr })
    {allowed : Address → Prop} (originated : Originated allowed base next)
    (avoids : ∀ peer, lost device peer → ∀ target, allowed target → owner target ≠ peer) :
    Table owner lost (nodes.insert device next) := by
  have baseLsdb : base.lsdb = node.lsdb := by rw [sameDr]
  have baseSeq : base.seqNum = node.seqNum := by rw [sameDr]
  have baseRid : base.routerId = node.routerId := by rw [sameDr]
  have ownRid := table.routerId device node found
  obtain ⟨lsdb, seqNum, frame⟩ := originated.frame
  have change : NodeUpdate owner nodes device node next := by
    refine ⟨?_, ?_, ?_, ?_, ?_⟩
    · rw [originated.routerId_eq, baseRid, ownRid]
    · intro peer neighbor held
      have same : next.neighbors = node.neighbors := by rw [frame, sameDr]
      exact table.neighbors device node peer neighbor found (same ▸ held)
    · exact baseSeq ▸ originated.seqNum_le
    · intro key own held
      obtain ⟨kept, keptHeld, same | ⟨isOwn, le⟩⟩ := originated.keeps (baseLsdb ▸ held)
      · exact ⟨kept, keptHeld, by rw [same]⟩
      · obtain ⟨originator, newest, originatorFound, -, ownLe, lt⟩ :=
          table.newest device node key own found held
        rw [isOwn, baseRid, ownRid, found] at originatorFound
        cases originatorFound
        exact ⟨kept, keptHeld, by omega⟩
    · intro key lsa held
      rcases originated.origin held with old | ⟨isOwn, same, lt, -⟩
      · exact .inl ⟨device, node, found, baseLsdb ▸ old⟩
      · exact .inr ⟨by rw [isOwn, baseRid, ownRid], same, lt⟩
  refine table.update found change table.apart (fun _ _ isLost _ => isLost) fun peer isLost => ?_
  have old := table.withdrawn device peer node isLost found
  refine ⟨?_, ?_, ?_, ?_⟩
  · have same : next.neighbors = node.neighbors := by rw [frame, sameDr]
    unfold fullWith
    rw [same]
    exact old.notFull
  · rintro ⟨entry, member, isOwn, link, linkMember, target, listed, isPeer⟩
    rcases originated.origin (mem_entries_iff.mp member) with earlier | ⟨-, -, -, named⟩
    · exact old.unnamed ⟨entry, mem_entries_iff.mpr (baseLsdb ▸ earlier), isOwn, link,
        linkMember, target, listed, isPeer⟩
    · exact avoids peer isLost target (named link linkMember target listed) isPeer
  · have same : next.learnedExternal = node.learnedExternal := by rw [frame, sameDr]
    unfold CachesExternal
    rw [same]
    exact old.uncached
  · have same : next.routes = node.routes := by rw [frame, sameDr]
    rw [same]
    exact old.routes

theorem Table.generate {update : OspfNode Device → OspfNode Device} (table : Table owner lost nodes)
    (originates : ∀ node, Originated (node.MayName (routerIdOf nodes)) node (update node)) :
    Table owner lost (nodes.modify device update) :=
  table.modify fun node found =>
    table.originate found rfl (originates node) fun _ isLost _ named =>
      table.mayName found isLost named

theorem Table.refreshLsas (table : Table owner lost nodes) (device : Device) :
    Table owner lost (refreshLsas nodes device) :=
  table.generate fun node => originated_refresh (routerIdOf nodes) node device

/-! ## Merging, routes and flooding -/

theorem Table.lookup_merge_own (table : Table owner lost nodes)
    (found : nodes.lookup device = some node) {other : Device} {otherNode : OspfNode Device}
    (otherFound : nodes.lookup other = some otherNode) {key : LsaKey}
    (isOwn : owner key.advRouter = device) :
    (mergeLsdb node.lsdb otherNode.lsdb).1.lookup key = node.lsdb.lookup key := by
  rw [lookup_mergeLsdb]
  cases offered : otherNode.lsdb.lookup key with
  | none => simp
  | some lsa =>
    obtain ⟨originator, own, originatorFound, held, le, -⟩ :=
      table.newest other otherNode key lsa otherFound offered
    rw [isOwn, found] at originatorFound
    cases originatorFound
    rw [held]
    exact newer_keep rfl fun _ same => by
      cases same
      exact le

theorem Table.merge (table : Table owner lost nodes) (found : nodes.lookup device = some node)
    {other : Device} {otherNode : OspfNode Device}
    (otherFound : nodes.lookup other = some otherNode) :
    Table owner lost
      (nodes.insert device { node with lsdb := (mergeLsdb node.lsdb otherNode.lsdb).1 }) := by
  refine table.update found ⟨table.routerId device node found, fun peer neighbor =>
      table.neighbors device node peer neighbor found, Nat.le_refl _, ?_, ?_⟩
    table.apart (fun _ _ isLost _ => isLost) ?_
  · intro key own held
    change ∃ kept, (mergeLsdb node.lsdb otherNode.lsdb).1.lookup key = some kept ∧ _
    rw [lookup_mergeLsdb]
    exact newer_le (.inl held)
  · intro key lsa held
    change (mergeLsdb node.lsdb otherNode.lsdb).1.lookup key = some lsa at held
    rw [lookup_mergeLsdb] at held
    rcases newer_cases held with own | taken
    · exact .inl ⟨device, node, found, own⟩
    · exact .inl ⟨other, otherNode, otherFound, taken⟩
  · intro peer isLost
    have old := table.withdrawn device peer node isLost found
    refine ⟨old.notFull, ?_, old.uncached, old.routes⟩
    rintro ⟨entry, member, isOwn, named⟩
    have held := mem_entries_iff.mp member
    change (mergeLsdb node.lsdb otherNode.lsdb).1.lookup entry.1 = some entry.2 at held
    rw [table.lookup_merge_own found otherFound isOwn] at held
    exact old.unnamed ⟨entry, mem_entries_iff.mpr held, isOwn, named⟩

omit [DecidableEq Device] in
theorem recalcRoutes_avoid (apart : device ≠ peer) (routerId : owner node.routerId = device)
    (advertised : ∀ key lsa, node.lsdb.lookup key = some lsa → lsa.advRouter = key.advRouter)
    (unnamed : ¬ OwnLsasName owner device peer node) (uncached : ¬ CachesExternal peer node)
    (filters : DeviceFilters) :
    ∀ route ∈ (node.recalcRoutes filters).routes, Avoids owner peer route := by
  intro route member
  rcases recalcRoutes_leadOver member with leads | ⟨network, info, learned, isVia, isNext⟩
  · have foreign : ∀ hop, NamedByOwn node.lsdb node.routerId hop → owner hop ≠ peer := by
      rintro hop (rfl | ⟨lsa, stored, isOwn, link, linkMember, target⟩) isPeer
      · exact apart (routerId.symm.trans isPeer)
      · obtain ⟨key, held⟩ := mem_values_iff.mp stored
        refine unnamed ⟨(key, lsa), mem_entries_iff.mpr held, ?_, link, linkMember, hop,
          target, isPeer⟩
        rw [← advertised key lsa held, isOwn, routerId]
    obtain ⟨next, nextNamed, isNext⟩ := leads.nextHop
    refine ⟨?_, by simp [isNext], ?_, ?_⟩
    · rcases leads.via with connected | ⟨hop, -, isVia⟩
      · simp [connected]
      · simp [isVia]
    · intro rid isPeer
      rcases leads.via with connected | ⟨hop, named, isVia⟩
      · simp [connected]
      · rw [isVia]
        rintro same
        cases same
        exact foreign _ named isPeer
    · intro rid isPeer
      rw [isNext]
      rintro same
      cases same
      exact foreign _ nextNamed isPeer
  · have different : info.nextHop ≠ peer := fun isPeer =>
      uncached ⟨(network, info), mem_entries_iff.mpr learned, isPeer⟩
    exact ⟨by simp [isVia, different], by simp [isNext, different], by simp [isVia],
      by simp [isNext]⟩

omit [DecidableEq Device] in
theorem injectExternalRoutes_avoid (uncached : ¬ CachesExternal peer node)
    (routes : ∀ route ∈ node.routes, Avoids owner peer route) :
    ∀ route ∈ node.injectExternalRoutes.routes, Avoids owner peer route := by
  intro route member
  rcases List.mem_append.mp member with old | external
  · exact routes route old
  · obtain ⟨⟨network, info⟩, learned, made⟩ := List.mem_filterMap.mp external
    have different : info.nextHop ≠ peer := fun isPeer => uncached ⟨(network, info), learned, isPeer⟩
    dsimp only at made
    split at made
    · simp at made
    · split at made
      · simp at made
      · cases made
        exact ⟨by simp [different], by simp [different], by simp, by simp⟩

theorem Table.recalcRoutes (table : Table owner lost nodes) (filters : FilterEngine Device)
    (device : Device) : Table owner lost (recalcRoutes filters nodes device) := by
  refine table.modify fun node found => ?_
  refine table.update found
    (.of_same_lsdb found rfl rfl (table.routerId device node found) fun peer neighbor =>
      table.neighbors device node peer neighbor found)
    table.apart (fun _ _ isLost _ => isLost) fun peer isLost => ?_
  have old := table.withdrawn device peer node isLost found
  exact ⟨old.notFull, old.unnamed, old.uncached, recalcRoutes_avoid (table.apart device peer isLost)
    (table.routerId device node found) (fun key lsa => table.advertised device node key lsa found)
    old.unnamed old.uncached (filters device)⟩

theorem Table.injectExternalRoutes (table : Table owner lost nodes) (device : Device) :
    Table owner lost (nodes.modify device OspfNode.injectExternalRoutes) := by
  refine table.modify fun node found => ?_
  refine table.update found
    (.of_same_lsdb found rfl rfl (table.routerId device node found) fun peer neighbor =>
      table.neighbors device node peer neighbor found)
    table.apart (fun _ _ isLost _ => isLost) fun peer isLost => ?_
  have old := table.withdrawn device peer node isLost found
  exact ⟨old.notFull, old.unnamed, old.uncached, injectExternalRoutes_avoid old.uncached old.routes⟩

theorem Table.foldl {α : Type} {action : OspfNodes Device → α → OspfNodes Device}
    (keeps : ∀ nodes item, Table owner lost nodes → Table owner lost (action nodes item))
    (items : List α) (table : Table owner lost nodes) :
    Table owner lost (items.foldl action nodes) := by
  induction items generalizing nodes with
  | nil => exact table
  | cons item rest ih => exact ih (keeps nodes item table)

variable (network : VirtualNetwork Device) (filters : FilterEngine Device) (area : AreaId)
  (active : List Device)

theorem Table.pullFromPeer {result : OspfNodes Device × Bool} (device peer : Device)
    (table : Table owner lost result.1) :
    Table owner lost (pullFromPeer area device result peer).1 := by
  unfold NetLab.Ospf.pullFromPeer
  split
  · rename_i node peerNode found peerFound
    split
    · exact table.merge found peerFound
    · exact table
  · exact table

theorem Table.floodPass (table : Table owner lost nodes) :
    Table owner lost (floodPass network area active nodes).1 := by
  have pulls : ∀ (device : Device) (asked : List Device) (result : OspfNodes Device × Bool),
      Table owner lost result.1 →
        Table owner lost (asked.foldl (NetLab.Ospf.pullFromPeer area device) result).1 := by
    intro device asked
    induction asked with
    | nil => exact fun _ table => table
    | cons peer rest ih => exact fun result table => ih _ (table.pullFromPeer area device peer)
  unfold NetLab.Ospf.floodPass
  generalize false = flag
  induction active generalizing nodes flag with
  | nil => exact table
  | cons device rest ih =>
    rw [List.foldl_cons]
    exact ih (pulls device _ _ table) _

theorem Table.floodLoop (guard : Nat) (table : Table owner lost nodes) :
    Table owner lost (floodLoop network area active guard nodes) := by
  induction guard generalizing nodes with
  | zero => exact table
  | succ guard ih =>
    unfold NetLab.Ospf.floodLoop
    dsimp only
    split
    · exact ih (table.floodPass network area active)
    · exact table.floodPass network area active

theorem Table.floodLsdbArea (table : Table owner lost nodes) :
    Table owner lost (floodLsdbArea network filters nodes area) := by
  have refreshed : Table owner lost (refreshArea nodes area) :=
    table.foldl (fun _ device table => table.refreshLsas device) _
  exact (refreshed.floodLoop network area _ floodGuard).foldl
    (fun _ device table => table.recalcRoutes filters device) _

theorem Table.mergeBothWays (table : Table owner lost nodes) (device neighbor : Device) :
    Table owner lost (mergeBothWays nodes device neighbor) := by
  obtain ⟨pull, same, pulls⟩ := mergeBothWays_pulls nodes device neighbor
  have one : ∀ nodes own other, Table owner lost nodes → Table owner lost (pull nodes own other) := by
    intro nodes own other table
    rcases pulls nodes own other with kept | ⟨node, peer, found, otherFound, merged⟩
    · rwa [kept]
    · rw [merged]
      exact table.merge found otherFound
  rw [same]
  exact one _ _ _ (one _ _ _ table)

theorem Table.exchangeLsa (surroundings : Surroundings Device) (table : Table owner lost nodes)
    (device neighbor : Device) :
    Table owner lost (exchangeLsa surroundings nodes device neighbor) := by
  unfold NetLab.Ospf.exchangeLsa
  split
  · refine Table.floodLsdbArea _ _ _ (Table.mergeBothWays ?_ _ _)
    refine Table.foldl (fun nodes _ table => table.generate fun node =>
      originated_generateSummaryLsa node _) _ ?_
    refine Table.foldl (fun nodes device table => table.generate fun node =>
      originated_generateNetworkLsa (routerIdOf nodes) node device) _ ?_
    exact Table.foldl (fun nodes _ table => table.generate fun node =>
      originated_generateRouterLsa (routerIdOf nodes) node) _ table
  · exact table

/-- An election originates at most a network LSA. -/
theorem Table.electDrBdr (table : Table owner lost nodes) (device : Device) :
    Table owner lost (electDrBdr nodes device) := by
  unfold NetLab.Ospf.electDrBdr
  cases found : nodes.lookup device with
  | none => exact table
  | some node =>
    dsimp only
    split
    · exact table
    · rename_i top rest _
      let elected : OspfNode Device :=
        { node with
          dr := some (chooseDrBdr (top :: rest) node.dr node.bdr top).1
          bdr := (chooseDrBdr (top :: rest) node.dr node.bdr top).2 }
      have avoids : ∀ peer, lost device peer → ∀ target,
          elected.MayName (routerIdOf nodes) target → owner target ≠ peer :=
        fun peer isLost target named => table.mayName found isLost named
      have sameDr : elected = { node with
        dr := elected.dr
        bdr := elected.bdr } := rfl
      split
      · exact table.originate found sameDr .refl avoids
      · exact table.originate found sameDr
          (originated_generateNetworkLsa (routerIdOf nodes) elected device) avoids

end NetLab.Ospf
