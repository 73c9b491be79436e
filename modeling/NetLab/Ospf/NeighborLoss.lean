import NetLab.Ospf.Withdrawal

/-!
# Loss of a neighbour

A monitor accompanies the engine and remembers which neighbours a device has lost by
a shut interface or a dead timer, until an adjacency with them is full again. A loss
recomputes the routes of the device from its database, which still holds the router
LSA written while the neighbour was full, and from its cache of external networks.
`LosesCleanly` says when neither mentions the neighbour.
-/

namespace NetLab.Ospf

open NetLab.Library NetLab.Network NetLab.Execution
open OrderedMap List Option

variable {Device : Type} [DecidableEq Device]

/-- The engine together with the pairs of a device and a neighbour that it has lost. -/
structure Monitored (Device : Type) where
  engine : OspfState Device
  lost : List (Device × Device) := []

def neighborsAmong (state : OspfState Device) (device : Device) (peers : List Device) :
    List Device :=
  peers.filter fun peer => peer != device &&
    (state.nodes.lookup device).any fun node => decide (peer ∈ node.neighbors.keys)

/-- Losses that an event brings about. -/
def lostBy (state : OspfState Device) : OspfEvent Device → List (Device × Device)
  | .interfaceDown device peers => (neighborsAmong state device peers).map fun peer => (device, peer)
  | .deadTimer device neighbor =>
    (neighborsAmong state device [neighbor]).map fun peer => (device, peer)
  | _ => []

/-- The adjacency of a device with a peer is full. -/
def isFull (state : OspfState Device) (pair : Device × Device) : Bool :=
  (state.nodes.lookup pair.1).any fun node => fullWith node pair.2

/-- A step of the engine; a pair stops being lost when its adjacency is full. -/
def Monitored.step (state : Monitored Device) (event : OspfEvent Device) : Monitored Device :=
  let engine := NetLab.Ospf.step state.engine event
  { engine
    lost := (state.lost ++ lostBy state.engine event).filter fun pair => !isFull engine pair }

def givenRouterId (state : OspfState Device) : OspfEvent Device → Option (Device × Address)
  | .setRouterId device rid => some (device, rid)
  | .ensureAutoRouterId device candidate =>
    match state.nodes.lookup device with
    | some node => if node.routerIdManual then none else some (device, candidate)
    | none => some (device, candidate)
  | .start device _ _ | .addNetwork device _ _ | .setAreaType device _ _ | .setPriority device _
  | .setAuthentication device _ | .setCost device _ =>
    match state.nodes.lookup device with
    | some _ => none
    | none => some (device, state.surroundings.defaultRouterId device)
  | _ => none

def HearsNoLost (state : Monitored Device) : OspfEvent Device → Prop
  | .deliver index => ∀ packet ∈ state.engine.inFlight[index]?,
      (packet.1, packet.2.srcId) ∈ state.lost → ∀ node ∈ state.engine.nodes.lookup packet.1,
        acceptsHello state.engine packet.1 node packet.2 → packet.2.externalRoutes.keys = []
  | _ => True

instance (state : Monitored Device) (event : OspfEvent Device) :
    Decidable (HearsNoLost state event) := by
  apply OspfEvent.casesOn (motive := fun event => Decidable (HearsNoLost state event)) event <;>
    intros <;> unfold HearsNoLost <;> infer_instance

/-- Conditions on a step: no router ID is given to two devices; at a loss, neither the
LSAs of the device nor its cache of external networks mention the neighbour; and a lost
neighbour brings no external networks. -/
structure LosesCleanly (owner : Address → Device) (state : Monitored Device)
    (event : OspfEvent Device) : Prop where
  routerId : ∀ given ∈ givenRouterId state.engine event, owner given.2 = given.1
  loss : ∀ pair ∈ lostBy state.engine event, ∀ node ∈ state.engine.nodes.lookup pair.1,
    ¬ OwnLsasName owner pair.1 pair.2 node ∧ ¬ CachesExternal pair.2 node
  silent : HearsNoLost state event

instance (owner : Address → Device) (state : Monitored Device) (event : OspfEvent Device) :
    Decidable (LosesCleanly owner state event) :=
  decidable_of_iff ((∀ given ∈ givenRouterId state.engine event, owner given.2 = given.1) ∧
      (∀ pair ∈ lostBy state.engine event, ∀ node ∈ state.engine.nodes.lookup pair.1,
        ¬ OwnLsasName owner pair.1 pair.2 node ∧ ¬ CachesExternal pair.2 node) ∧
      HearsNoLost state event)
    ⟨fun ⟨routerId, loss, silent⟩ => ⟨routerId, loss, silent⟩,
      fun clean => ⟨clean.routerId, clean.loss, clean.silent⟩⟩

/-! ## Configuration -/

variable {owner : Address → Device} {lost fewer : Device → Device → Prop}
  {nodes : OspfNodes Device} {device : Device} {node next : OspfNode Device}

/-- A change of a node that concerns neither adjacencies nor routes. -/
structure Configured (node next : OspfNode Device) : Prop where
  lsdb : next.lsdb = node.lsdb
  seqNum : next.seqNum = node.seqNum
  neighbors : next.neighbors = node.neighbors
  learnedExternal : next.learnedExternal = node.learnedExternal
  routes : next.routes = node.routes

omit [DecidableEq Device] in
theorem configured_start (node : OspfNode Device) (networks : List OspfNetwork) (area : AreaId) :
    Configured node (node.start networks area) ∧
      (node.start networks area).routerId = node.routerId := by
  unfold OspfNode.start
  suffices general : ∀ next : OspfNode Device, Configured node next ∧
      next.routerId = node.routerId → Configured node (networks.foldl (fun node network =>
        node.registerNetwork area network) next) ∧ (networks.foldl (fun node network =>
        node.registerNetwork area network) next).routerId = node.routerId from
    general _ ⟨⟨rfl, rfl, rfl, rfl, rfl⟩, rfl⟩
  induction networks with
  | nil => exact fun _ configured => configured
  | cons network rest ih =>
    rintro next ⟨configured, sameRid⟩
    exact ih _ ⟨⟨configured.lsdb, configured.seqNum, configured.neighbors,
      configured.learnedExternal, configured.routes⟩, sameRid⟩

theorem Table.withLost (table : Table owner lost nodes)
    (apart : ∀ left right, fewer left right → left ≠ right)
    (withdrawn : ∀ left right node, fewer left right → nodes.lookup left = some node →
      Withdrawn owner left right node) : Table owner fewer nodes :=
  ⟨apart, table.routerId, table.neighbors, table.advertised, table.newest, withdrawn⟩

theorem Table.shrink (table : Table owner lost nodes)
    (shrinks : ∀ left right, fewer left right → lost left right) : Table owner fewer nodes :=
  table.withLost (fun left right isLost => table.apart left right (shrinks left right isLost))
    fun left right node isLost => table.withdrawn left right node (shrinks left right isLost)

theorem Table.configured (table : Table owner lost nodes) (found : nodes.lookup device = some node)
    (configured : Configured node next) (routerId : owner next.routerId = device) :
    Table owner lost (nodes.insert device next) := by
  refine table.update found
    (.of_same_lsdb found configured.lsdb configured.seqNum routerId fun peer neighbor held =>
      table.neighbors device node peer neighbor found (configured.neighbors ▸ held))
    table.apart (fun _ _ isLost _ => isLost) fun peer isLost => ?_
  have old := table.withdrawn device peer node isLost found
  refine ⟨?_, ?_, ?_, ?_⟩
  · unfold fullWith
    rw [configured.neighbors]
    exact old.notFull
  · unfold OwnLsasName
    rw [configured.lsdb]
    exact old.unnamed
  · unfold CachesExternal
    rw [configured.learnedExternal]
    exact old.uncached
  · rw [configured.routes]
    exact old.routes

theorem Table.create (table : Table owner lost nodes) (missing : nodes.lookup device = none)
    {rid : Address} (configured : Configured { routerId := rid } next)
    (routerId : owner next.routerId = device) : Table owner lost (nodes.insert device next) := by
  have lookup_cases : ∀ other otherNode, (nodes.insert device next).lookup other = some otherNode →
      other = device ∧ otherNode = next ∨ nodes.lookup other = some otherNode := by
    intro other otherNode held
    rw [lookup_insert] at held
    split at held
    · rename_i same
      exact .inl ⟨same, (Option.some.inj held).symm⟩
    · exact .inr held
  have noLsa : ∀ key, next.lsdb.lookup key = none := fun key => by simp [configured.lsdb]
  refine ⟨table.apart, ?_, ?_, ?_, ?_, ?_⟩
  · intro other otherNode held
    rcases lookup_cases other otherNode held with ⟨rfl, rfl⟩ | old
    · exact routerId
    · exact table.routerId other otherNode old
  · intro other otherNode peer neighbor held known
    rcases lookup_cases other otherNode held with ⟨rfl, rfl⟩ | old
    · simp [configured.neighbors] at known
    · exact table.neighbors other otherNode peer neighbor old known
  · intro other otherNode key lsa held copy
    rcases lookup_cases other otherNode held with ⟨rfl, rfl⟩ | old
    · simp [noLsa] at copy
    · exact table.advertised other otherNode key lsa old copy
  · intro other otherNode key lsa held copy
    rcases lookup_cases other otherNode held with ⟨rfl, rfl⟩ | old
    · simp [noLsa] at copy
    · obtain ⟨originator, own, found, rest⟩ := table.newest other otherNode key lsa old copy
      have different : owner key.advRouter ≠ device := fun same => by
        rw [same, missing] at found
        cases found
      exact ⟨originator, own, (lookup_insert_of_ne _ _ different).trans found, rest⟩
  · intro other peer otherNode isLost held
    rcases lookup_cases other otherNode held with ⟨rfl, rfl⟩ | old
    · refine ⟨?_, ?_, ?_, ?_⟩
      · simp [fullWith, configured.neighbors]
      · rintro ⟨entry, member, -⟩
        simp [configured.lsdb, OrderedMap.empty] at member
      · rintro ⟨entry, member, -⟩
        simp [configured.learnedExternal, OrderedMap.empty] at member
      · simp [configured.routes]
    · exact table.withdrawn other peer otherNode isLost old

theorem Table.configure {state : OspfState Device} {update : OspfNode Device → OspfNode Device}
    (table : Table owner lost state.nodes) (configured : ∀ node, Configured node (update node))
    (kept : ∀ node, state.nodes.lookup device = some node → owner (update node).routerId = device)
    (created : state.nodes.lookup device = none →
      owner (update { routerId := state.surroundings.defaultRouterId device }).routerId = device) :
    Table owner lost (state.configure device update).nodes := by
  unfold OspfState.configure OspfState.ensureNode OspfState.modifyNode
  cases found : state.nodes.lookup device with
  | some node =>
    refine table.modify fun node found => ?_
    exact table.configured found (configured node) (kept node found)
  | none =>
    refine Table.congr ?_ (table.create found (configured _) (created found))
    intro other
    dsimp only
    rw [lookup_modify, lookup_insert, lookup_insert]
    split <;> rfl

theorem Table.configure_plain {state : OspfState Device}
    {update : OspfNode Device → OspfNode Device} (table : Table owner lost state.nodes)
    (configured : ∀ node, Configured node (update node) ∧ (update node).routerId = node.routerId)
    (created : state.nodes.lookup device = none →
      owner (state.surroundings.defaultRouterId device) = device) :
    Table owner lost (state.configure device update).nodes := by
  refine table.configure (fun node => (configured node).1) ?_ ?_
  · intro node found
    rw [(configured node).2]
    exact table.routerId device node found
  · intro missing
    rw [(configured _).2]
    exact created missing

/-! ## Losses -/

theorem Table.dropNeighbors (table : Table owner lost nodes) (filters : DeviceFilters)
    (peers : List Device) (apart : ∀ left right, fewer left right → left ≠ right)
    (shrinks : ∀ left right, fewer left right → lost left right ∨
      left = device ∧ right ∈ peers ∧ ∀ node ∈ nodes.lookup device,
        right ∈ node.neighbors.keys ∧ ¬ OwnLsasName owner device right node ∧
          ¬ CachesExternal right node) :
    Table owner fewer (nodes.modify device fun node => node.dropNeighbors filters peers) := by
  cases found : nodes.lookup device with
  | none =>
    have unchanged := nodes.lookup_modify_of_missing
      (fun node => node.dropNeighbors filters peers) found
    refine (table.congr unchanged).withLost apart ?_
    intro left right node isLost held
    rw [unchanged] at held
    rcases shrinks left right isLost with old | ⟨rfl, -, -⟩
    · exact table.withdrawn left right node old held
    · rw [found] at held
      cases held
  | some node =>
    refine Table.congr (nodes.lookup_modify_of_found
      (fun node => node.dropNeighbors filters peers) found) ?_
    have elsewhere : ∀ left right, fewer left right → left ≠ device → lost left right := by
      intro left right isLost different
      exact (shrinks left right isLost).resolve_right fun here => different here.1
    unfold OspfNode.dropNeighbors
    by_cases dropped : (node.neighbors.keys.any fun peer => decide (peer ∈ peers)) = true
    · rw [if_pos dropped]
      have kept : ∀ peer neighbor, (node.withoutPeers peers).neighbors.lookup peer = some neighbor →
          peer ∉ peers ∧ node.neighbors.lookup peer = some neighbor := by
        intro peer neighbor held
        unfold OspfNode.withoutPeers at held
        rw [lookup_filter, filter_eq_some_iff] at held
        exact ⟨by simpa using held.2, held.1⟩
      refine table.update found (.of_same_lsdb found rfl rfl (table.routerId device node found)
        fun peer neighbor held => table.neighbors device node peer neighbor found
          (kept peer neighbor held).2) apart elsewhere ?_
      intro peer isLost
      have mentions : fullWith (node.withoutPeers peers) peer = false ∧
          ¬ OwnLsasName owner device peer node ∧ ¬ CachesExternal peer node := by
        rcases shrinks device peer isLost with old | ⟨-, listed, clean⟩
        · have free := table.withdrawn device peer node old found
          refine ⟨?_, free.unnamed, free.uncached⟩
          rw [Bool.eq_false_iff]
          intro full
          obtain ⟨neighbor, held, isFull⟩ := (any_eq_true _ _).mp full
          have before := free.notFull
          simp [fullWith, (kept peer neighbor held).2, isFull] at before
        · refine ⟨?_, (clean node found).2⟩
          rw [Bool.eq_false_iff]
          intro full
          obtain ⟨neighbor, held, -⟩ := (any_eq_true _ _).mp full
          exact (kept peer neighbor held).1 listed
      obtain ⟨notFull, unnamed, uncached⟩ := mentions
      refine ⟨notFull, unnamed, uncached, ?_⟩
      exact recalcRoutes_avoid (apart device peer isLost) (table.routerId device node found)
        (fun key lsa => table.advertised device node key lsa found) unnamed uncached filters
    · rw [if_neg dropped, insert_of_lookup found]
      refine table.withLost apart fun left right other isLost held => ?_
      rcases shrinks left right isLost with old | ⟨rfl, listed, clean⟩
      · exact table.withdrawn left right other old held
      · refine absurd (any_eq_true.mpr ⟨right, (clean node found).1, ?_⟩) dropped
        simpa using listed

/-! ## Hellos and adjacencies -/

variable {hello : Hello Device} {peers : List Device}

omit [DecidableEq Device] in
theorem learnExternal_origin {network : OspfNetwork} {info : LearnedExternal Device}
    (held : (node.learnExternal hello).learnedExternal.lookup network = some info) :
    node.learnedExternal.lookup network = some info ∨ info.nextHop = hello.srcId := by
  unfold OspfNode.learnExternal at held
  dsimp only at held
  generalize hello.externalRoutes.entries = entries at held
  generalize node.learnedExternal = learned at held
  induction entries generalizing learned with
  | nil => exact .inl held
  | cons entry rest ih =>
    rw [foldl_cons] at held
    rcases ih _ held with earlier | fromSender
    · rw [lookup_insert] at earlier
      split at earlier
      · cases earlier
        exact .inr rfl
      · exact .inl earlier
    · exact .inr fromSender

/-- Hearing a hello that brings no external network of a lost neighbour. -/
theorem Withdrawn.learnExternal {peer : Device} (free : Withdrawn owner device peer node)
    (silent : hello.srcId = peer → hello.externalRoutes.keys = []) :
    Withdrawn owner device peer (node.learnExternal hello) := by
  refine ⟨free.notFull, free.unnamed, ?_, free.routes⟩
  rintro ⟨⟨network, info⟩, member, isPeer⟩
  by_cases same : hello.srcId = peer
  · have noEntries : hello.externalRoutes.entries = [] := map_eq_nil_iff.mp (silent same)
    unfold OspfNode.learnExternal at member
    rw [noEntries] at member
    exact free.uncached ⟨(network, info), member, isPeer⟩
  · rcases learnExternal_origin (mem_entries_iff.mp member) with old | fromSender
    · exact free.uncached ⟨(network, info), mem_entries_iff.mpr old, isPeer⟩
    · exact same (fromSender.symm.trans isPeer)

theorem receiveHello_table {state : OspfState Device} {receiver : Device}
    (table : Table owner lost state.nodes) (genuine : owner hello.routerId = hello.srcId)
    (silent : lost receiver hello.srcId → ∀ node ∈ state.nodes.lookup receiver,
      acceptsHello state receiver node hello → hello.externalRoutes.keys = []) :
    Table owner lost (state.receiveHello receiver hello).nodes := by
  unfold OspfState.receiveHello
  cases found : state.nodes.lookup receiver with
  | none => exact table
  | some node =>
    dsimp only
    split
    · exact table
    · rename_i notRejected
      have accepted : acceptsHello state receiver node hello = true := by
        simpa using notRejected
      have free : ∀ peer, lost receiver peer →
          Withdrawn owner receiver peer (node.learnExternal hello) := by
        intro peer isLost
        refine (table.withdrawn receiver peer node isLost found).learnExternal ?_
        rintro rfl
        exact silent isLost node found accepted
      have ownRid := table.routerId receiver node found
      cases held : node.neighbors.lookup hello.srcId with
      | some neighbor =>
        have sameParts : ((node.learnExternal hello).hearKnown hello).lsdb = node.lsdb ∧
            ((node.learnExternal hello).hearKnown hello).seqNum = node.seqNum ∧
            ((node.learnExternal hello).hearKnown hello).routerId = node.routerId ∧
            ((node.learnExternal hello).hearKnown hello).neighbors = node.neighbors := by
          unfold OspfNode.hearKnown
          split <;> exact ⟨rfl, rfl, rfl, rfl⟩
        obtain ⟨sameLsdb, sameSeq, sameRid, sameNeighbors⟩ := sameParts
        refine table.update found (.of_same_lsdb found sameLsdb sameSeq (sameRid ▸ ownRid) ?_)
          table.apart (fun _ _ isLost _ => isLost) fun peer isLost => ?_
        · intro peer neighbor known
          rw [sameNeighbors] at known
          exact table.neighbors receiver node peer neighbor found known
        · have here := free peer isLost
          unfold OspfNode.hearKnown
          split
          · exact here
          · exact ⟨here.notFull, here.unnamed, here.uncached,
              injectExternalRoutes_avoid here.uncached here.routes⟩
      | none =>
        let entered : OspfNeighbor :=
          { routerId := hello.routerId, state := .init, token := state.nextToken }
        let grown : OspfNode Device :=
          { node.learnExternal hello with
            neighbors := node.neighbors.insert hello.srcId entered }
        have sameLsdb : grown.lsdb = node.lsdb := rfl
        have sameSeq : grown.seqNum = node.seqNum := rfl
        have entries : ∀ peer neighbor, grown.neighbors.lookup peer = some neighbor →
            peer = hello.srcId ∧ neighbor = entered ∨
              node.neighbors.lookup peer = some neighbor := by
          intro peer neighbor known
          change (node.neighbors.insert hello.srcId entered).lookup peer = some neighbor at known
          rw [lookup_insert] at known
          split at known
          · rename_i same
            exact .inl ⟨same, (Option.some.inj known).symm⟩
          · exact .inr known
        refine table.update found (.of_same_lsdb found sameLsdb sameSeq ownRid ?_)
          table.apart (fun _ _ isLost _ => isLost) fun peer isLost => ?_
        · intro peer neighbor known
          rcases entries peer neighbor known with ⟨rfl, rfl⟩ | old
          · exact genuine
          · exact table.neighbors receiver node peer neighbor found old
        · have here := free peer isLost
          refine ⟨?_, here.unnamed, here.uncached, here.routes⟩
          rw [Bool.eq_false_iff]
          intro full
          obtain ⟨neighbor, known, isFull⟩ := (any_eq_true _ _).mp full
          rcases entries peer neighbor known with ⟨rfl, rfl⟩ | old
          · simp [entered] at isFull
          · have notFull := (table.withdrawn receiver peer node isLost found).notFull
            simp [fullWith, old, isFull] at notFull

theorem setNeighborState_table (table : Table owner lost nodes) (task : AdjacencyTask Device)
    (reached : NeighborState) (shrinks : ∀ left right, fewer left right → lost left right)
    (notFull : ∀ peer, fewer task.receiver peer → ∀ node ∈ nodes.lookup task.receiver,
      fullWith (node.moveNeighbor task reached) peer = false) :
    Table owner fewer (setNeighborState nodes task reached) := by
  unfold setNeighborState
  cases found : nodes.lookup task.receiver with
  | none =>
    exact (table.shrink shrinks).congr
      (nodes.lookup_modify_of_missing (fun node => node.moveNeighbor task reached) found)
  | some node =>
    refine Table.congr (nodes.lookup_modify_of_found
      (fun node => node.moveNeighbor task reached) found) ?_
    refine table.update found (.of_same_lsdb found rfl rfl (table.routerId _ node found) ?_)
      (fun left right isLost => table.apart left right (shrinks left right isLost))
      (fun left right isLost _ => shrinks left right isLost) fun peer isLost => ?_
    · intro peer neighbor held
      have same := routerId_moveNeighbor node task reached peer
      simp only [held, map_some] at same
      obtain ⟨old, oldHeld, sameRid⟩ := map_eq_some_iff.mp same.symm
      rw [← sameRid]
      exact table.neighbors _ node peer old found oldHeld
    · have old := table.withdrawn _ peer node (shrinks _ peer isLost) found
      exact ⟨notFull peer isLost node found, old.unnamed, old.uncached, old.routes⟩

theorem completeAdjacency_table (surroundings : Surroundings Device)
    (table : Table owner lost nodes) (receiver source : Device) :
    Table owner lost (completeAdjacency surroundings nodes receiver source) := by
  have originated : Table owner lost (nodes.modify receiver OspfNode.generateRouterLsa) :=
    table.generate fun node => originated_generateRouterLsa (routerIdOf nodes) node
  exact ((originated.exchangeLsa surroundings receiver source).injectExternalRoutes
    receiver).electDrBdr receiver

/-! ## Runs -/

/-- What holds of the engine and the monitor in every state of a run. -/
structure LossInvariant (owner : Address → Device) (state : Monitored Device) : Prop where
  table : Table owner (fun device peer => (device, peer) ∈ state.lost) state.engine.nodes
  wire : ∀ packet ∈ state.engine.inFlight, owner packet.2.routerId = packet.2.srcId

theorem isFull_congr {before after : OspfState Device}
    (same : neighborsOf after.nodes = neighborsOf before.nodes) (pair : Device × Device) :
    isFull after pair = isFull before pair := by
  have reading : ∀ state : OspfState Device, isFull state pair =
      (neighborsOf state.nodes pair.1).any fun neighbors =>
        (neighbors.lookup pair.2).any fun neighbor => neighbor.state == .full := by
    intro state
    unfold isFull neighborsOf fullWith
    cases state.nodes.lookup pair.1 <;> rfl
  rw [reading, reading, same]

variable {state : Monitored Device} {event : OspfEvent Device}

theorem mem_lost_step {pair : Device × Device} (member : pair ∈ (state.step event).lost) :
    (pair ∈ state.lost ∨ pair ∈ lostBy state.engine event) ∧
      isFull (NetLab.Ospf.step state.engine event) pair = false := by
  obtain ⟨listed, notFull⟩ := mem_filter.mp member
  exact ⟨mem_append.mp listed, by simpa using notFull⟩

/-- Losses of an event, as the node table shows them. -/
theorem mem_neighborsAmong {state : OspfState Device} {peer : Device}
    (member : peer ∈ neighborsAmong state device peers) :
    peer ∈ peers ∧ peer ≠ device ∧ ∃ node, state.nodes.lookup device = some node ∧
      peer ∈ node.neighbors.keys := by
  obtain ⟨listed, known⟩ := mem_filter.mp member
  obtain ⟨different, held⟩ := Bool.and_eq_true_iff.mp known
  obtain ⟨node, found, isNeighbor⟩ := (any_eq_true _ _).mp held
  exact ⟨listed, by simpa using different, node, found, by simpa using isNeighbor⟩

theorem loss_table (invariant : LossInvariant owner state)
    (clean : ∀ peer ∈ neighborsAmong state.engine device peers,
      ∀ node ∈ state.engine.nodes.lookup device,
        ¬ OwnLsasName owner device peer node ∧ ¬ CachesExternal peer node)
    {lost : List (Device × Device)} (explained : ∀ pair ∈ lost, pair ∈ state.lost ∨
      ∃ peer ∈ neighborsAmong state.engine device peers, pair = (device, peer)) :
    Table owner (fun left right => (left, right) ∈ lost)
      (state.engine.nodes.modify device fun node =>
        node.dropNeighbors (state.engine.surroundings.filters device) peers) := by
  refine invariant.table.dropNeighbors _ peers ?_ ?_
  · intro left right isLost
    rcases explained _ isLost with old | ⟨peer, member, same⟩
    · exact invariant.table.apart left right old
    · cases same
      exact (mem_neighborsAmong member).2.1.symm
  · intro left right isLost
    rcases explained _ isLost with old | ⟨peer, member, same⟩
    · exact .inl old
    · cases same
      obtain ⟨listed, -, node, found, isNeighbor⟩ := mem_neighborsAmong member
      refine .inr ⟨rfl, listed, fun other held => ?_⟩
      cases found.symm.trans held
      exact ⟨isNeighbor, clean right member node held⟩

/-- A step that loses no neighbour and moves no adjacency keeps the old table. -/
theorem LossInvariant.of_table (noLoss : lostBy state.engine event = [])
    (table : Table owner (fun device peer => (device, peer) ∈ state.lost)
      (NetLab.Ospf.step state.engine event).nodes)
    (wire : ∀ packet ∈ (NetLab.Ospf.step state.engine event).inFlight,
      owner packet.2.routerId = packet.2.srcId) : LossInvariant owner (state.step event) := by
  refine ⟨table.shrink fun left right isLost => ?_, wire⟩
  rcases (mem_lost_step isLost).1 with old | new
  · exact old
  · simp [noLoss] at new

theorem configure_inFlight (state : OspfState Device) (device : Device)
    (update : OspfNode Device → OspfNode Device) :
    (state.configure device update).inFlight = state.inFlight := by
  unfold OspfState.configure OspfState.ensureNode OspfState.modifyNode
  split <;> rfl

theorem receiveHello_inFlight (state : OspfState Device) (receiver : Device)
    (hello : Hello Device) : (state.receiveHello receiver hello).inFlight = state.inFlight := by
  unfold OspfState.receiveHello
  split
  · rfl
  · dsimp only
    split
    · rfl
    · split <;> rfl

theorem owned_default (clean : LosesCleanly owner state event)
    (gives : state.engine.nodes.lookup device = none → givenRouterId state.engine event =
      some (device, state.engine.surroundings.defaultRouterId device))
    (missing : state.engine.nodes.lookup device = none) :
    owner (state.engine.surroundings.defaultRouterId device) = device :=
  clean.routerId (device, state.engine.surroundings.defaultRouterId device) (gives missing)

/-- Moving an adjacency on, or completing it. -/
theorem advance_invariant {index : Nat} (invariant : LossInvariant owner state) :
    LossInvariant owner (state.step (.advance index)) := by
  cases held : state.engine.adjacencies[index]? with
  | none =>
    have unchanged : NetLab.Ospf.step state.engine (.advance index) = state.engine := by
      change state.engine.advanceAdjacency index = state.engine
      unfold OspfState.advanceAdjacency
      rw [held]
    refine .of_table rfl ?_ ?_
    · rw [unchanged]
      exact invariant.table
    · rw [unchanged]
      exact invariant.wire
  | some task =>
    let moved := setNeighborState state.engine.nodes task task.reached.next
    have wire : (NetLab.Ospf.step state.engine (.advance index)).inFlight =
        state.engine.inFlight := by
      change (state.engine.advanceAdjacency index).inFlight = _
      unfold OspfState.advanceAdjacency
      rw [held]
      dsimp only
      split <;> rfl
    have neighbors : neighborsOf (NetLab.Ospf.step state.engine (.advance index)).nodes =
        neighborsOf moved := by
      change neighborsOf (state.engine.advanceAdjacency index).nodes = _
      unfold OspfState.advanceAdjacency
      rw [held]
      dsimp only
      split
      · exact neighborsOf_completeAdjacency _ _ _ _
      · rfl
    have movedTable : Table owner (fun device peer =>
        (device, peer) ∈ (state.step (.advance index)).lost) moved := by
      refine setNeighborState_table invariant.table task _ ?_ ?_
      · intro left right isLost
        rcases (mem_lost_step isLost).1 with old | new
        · exact old
        · simp [lostBy] at new
      · intro peer isLost node found
        have notFull := (mem_lost_step isLost).2
        have same : isFull (NetLab.Ospf.step state.engine (.advance index)) (task.receiver, peer) =
            isFull { state.engine with nodes := moved } (task.receiver, peer) :=
          isFull_congr neighbors (task.receiver, peer)
        rw [same] at notFull
        rw [mem_def] at found
        simpa [isFull, moved, lookup_setNeighborState, found] using notFull
    refine ⟨?_, wire ▸ invariant.wire⟩
    change Table owner _ (state.engine.advanceAdjacency index).nodes
    unfold OspfState.advanceAdjacency
    rw [held]
    dsimp only
    split
    · exact completeAdjacency_table state.engine.surroundings movedTable task.receiver task.source
    · exact movedTable

theorem LossInvariant.configure (invariant : LossInvariant owner state) {device : Device}
    {update : OspfNode Device → OspfNode Device} (noLoss : lostBy state.engine event = [])
    (nodes : (NetLab.Ospf.step state.engine event).nodes =
      (state.engine.configure device update).nodes)
    (inFlight : (NetLab.Ospf.step state.engine event).inFlight =
      (state.engine.configure device update).inFlight)
    (plain : ∀ node, Configured node (update node) ∧ (update node).routerId = node.routerId)
    (clean : LosesCleanly owner state event)
    (gives : state.engine.nodes.lookup device = none → givenRouterId state.engine event =
      some (device, state.engine.surroundings.defaultRouterId device)) :
    LossInvariant owner (state.step event) := by
  refine .of_table noLoss ?_ fun packet member => ?_
  · rw [nodes]
    exact invariant.table.configure_plain plain (owned_default clean gives)
  · rw [inFlight, configure_inFlight] at member
    exact invariant.wire packet member

theorem LossInvariant.lose (invariant : LossInvariant owner state) {device : Device}
    (losses : lostBy state.engine event =
      (neighborsAmong state.engine device peers).map fun peer => (device, peer))
    (nodes : (NetLab.Ospf.step state.engine event).nodes =
      state.engine.nodes.modify device fun node =>
        node.dropNeighbors (state.engine.surroundings.filters device) peers)
    (inFlight : (NetLab.Ospf.step state.engine event).inFlight = state.engine.inFlight)
    (clean : LosesCleanly owner state event) : LossInvariant owner (state.step event) := by
  refine ⟨?_, inFlight ▸ invariant.wire⟩
  change Table owner _ (NetLab.Ospf.step state.engine event).nodes
  rw [nodes]
  refine loss_table invariant ?_ ?_
  · intro peer member node found
    exact clean.loss (device, peer) (losses ▸ mem_map.mpr ⟨peer, member, rfl⟩) node found
  · intro pair isLost
    refine (mem_lost_step isLost).1.imp_right fun new => ?_
    rw [losses] at new
    obtain ⟨peer, member, same⟩ := mem_map.mp new
    exact ⟨peer, member, same.symm⟩

theorem lossInvariant_step (state : Monitored Device) (event : OspfEvent Device)
    (invariant : LossInvariant owner state) (clean : LosesCleanly owner state event) :
    LossInvariant owner (state.step event) := by
  have table := invariant.table
  cases event with
  | reconfigure surroundings => exact .of_table rfl table invariant.wire
  | start device networks area =>
    exact invariant.configure rfl rfl rfl (fun node => configured_start node networks area) clean
      fun missing => by simp [givenRouterId, missing]
  | addNetwork device network area =>
    exact invariant.configure rfl rfl rfl (fun node => ⟨⟨rfl, rfl, rfl, rfl, rfl⟩, rfl⟩) clean
      fun missing => by simp [givenRouterId, missing]
  | setAreaType device area type =>
    exact invariant.configure rfl rfl rfl (fun node => ⟨⟨rfl, rfl, rfl, rfl, rfl⟩, rfl⟩) clean
      fun missing => by simp [givenRouterId, missing]
  | setPriority device priority =>
    have nodes : (NetLab.Ospf.step state.engine (.setPriority device priority)).nodes =
        (state.engine.configure device fun node =>
          { node with priority := (max 0 (min 255 priority)).toNat }).nodes := rfl
    exact invariant.configure rfl nodes rfl (fun node => ⟨⟨rfl, rfl, rfl, rfl, rfl⟩, rfl⟩) clean
      fun missing => by simp [givenRouterId, missing]
  | setAuthentication device key =>
    exact invariant.configure rfl rfl rfl (fun node => ⟨⟨rfl, rfl, rfl, rfl, rfl⟩, rfl⟩) clean
      fun missing => by simp [givenRouterId, missing]
  | setCost device cost =>
    exact invariant.configure rfl rfl rfl (fun node => ⟨⟨rfl, rfl, rfl, rfl, rfl⟩, rfl⟩) clean
      fun missing => by simp [givenRouterId, missing]
  | setRouterId device rid =>
    have owned : owner rid = device := clean.routerId (device, rid) rfl
    refine .of_table rfl (table.configure (fun node => ⟨rfl, rfl, rfl, rfl, rfl⟩)
      (fun _ _ => owned) fun _ => owned) ?_
    exact (configure_inFlight state.engine device _) ▸ invariant.wire
  | ensureAutoRouterId device candidate =>
    refine .of_table rfl (table.configure (fun node => ?_) (fun node found => ?_)
      fun missing => ?_) ?_
    · split <;> exact ⟨rfl, rfl, rfl, rfl, rfl⟩
    · split
      · exact table.routerId device node found
      · rename_i automatic
        exact clean.routerId (device, candidate) (by simp [givenRouterId, found, automatic])
    · exact clean.routerId (device, candidate) (by simp [givenRouterId, missing])
    · exact (configure_inFlight state.engine device _) ▸ invariant.wire
  | setPassive device ifaces =>
    have configured : Table owner (fun device peer => (device, peer) ∈ state.lost)
        (state.engine.nodes.modify device fun node => { node with passiveIfaces := ifaces }) :=
      table.modify fun node found =>
        table.configured found ⟨rfl, rfl, rfl, rfl, rfl⟩ (table.routerId device node found)
    exact .of_table rfl configured invariant.wire
  | redistribute device network metric =>
    have configured : Table owner (fun device peer => (device, peer) ∈ state.lost)
        (state.engine.nodes.modify device fun node =>
          if node.enabled then
            { node with redistributed := node.redistributed.insert network metric }
          else node) := by
      refine table.modify fun node found => ?_
      split <;> exact table.configured found ⟨rfl, rfl, rfl, rfl, rfl⟩
        (table.routerId device node found)
    exact .of_table rfl configured invariant.wire
  | stop device =>
    refine .of_table rfl (table.modify fun node found => ?_) invariant.wire
    refine table.update found (.of_same_lsdb found rfl rfl (table.routerId device node found) ?_)
      table.apart (fun _ _ isLost _ => isLost) fun peer isLost => ?_
    · intro peer neighbor held
      simp [OspfNode.stop] at held
    · have old := table.withdrawn device peer node isLost found
      exact ⟨by simp [fullWith, OspfNode.stop], old.unnamed, old.uncached, old.routes⟩
  | interfaceDown device peers => exact invariant.lose rfl rfl rfl clean
  | deadTimer device neighbor => exact invariant.lose rfl rfl rfl clean
  | sendHello device =>
    have sent : (state.engine.sendHello device).nodes = state.engine.nodes ∧
        ∀ packet ∈ (state.engine.sendHello device).inFlight,
          owner packet.2.routerId = packet.2.srcId := by
      unfold OspfState.sendHello
      cases found : state.engine.nodes.lookup device with
      | none => exact ⟨rfl, invariant.wire⟩
      | some node =>
        dsimp only
        split
        · exact ⟨rfl, invariant.wire⟩
        · refine ⟨rfl, fun packet member => ?_⟩
          rcases mem_append.mp member with old | new
          · exact invariant.wire packet old
          · obtain ⟨receiver, -, rfl⟩ := mem_map.mp new
            exact table.routerId device node found
    refine .of_table rfl ?_ sent.2
    change Table owner _ (state.engine.sendHello device).nodes
    rw [sent.1]
    exact table
  | deliver index =>
    have received : Table owner (fun device peer => (device, peer) ∈ state.lost)
        (state.engine.deliver index).nodes ∧ ∀ packet ∈ (state.engine.deliver index).inFlight,
          owner packet.2.routerId = packet.2.srcId := by
      unfold OspfState.deliver
      cases taken : state.engine.inFlight[index]? with
      | none => exact ⟨table, invariant.wire⟩
      | some packet =>
        obtain ⟨receiver, hello⟩ := packet
        refine ⟨receiveHello_table table (invariant.wire _ (mem_of_getElem? taken))
          fun isLost node found accepted => ?_, ?_⟩
        · exact clean.silent (receiver, hello) taken isLost node found accepted
        · intro packet member
          rw [receiveHello_inFlight] at member
          exact invariant.wire packet (mem_of_mem_eraseIdx member)
    exact .of_table rfl received.1 received.2
  | advance index => exact advance_invariant invariant
  | elect index =>
    have elected : Table owner (fun device peer => (device, peer) ∈ state.lost)
        (NetLab.Ospf.step state.engine (.elect index)).nodes ∧
        (NetLab.Ospf.step state.engine (.elect index)).inFlight = state.engine.inFlight := by
      cases called : state.engine.elections[index]? with
      | none => exact ⟨by simpa only [NetLab.Ospf.step, called] using table,
          by simp only [NetLab.Ospf.step, called]⟩
      | some device => exact ⟨by simpa only [NetLab.Ospf.step, called] using table.electDrBdr device,
          by simp only [NetLab.Ospf.step, called]⟩
    exact .of_table rfl elected.1 (elected.2 ▸ invariant.wire)

/-- In every run from an empty engine whose losses are clean, no route of a device leads
to a lost neighbour, or over a router ID that has ever been given to it, until an
adjacency with it is full again. In particular no route leads over its present router
ID. The first hop of an internal route is the first link of the path it was computed
over, so no path begins with the lost link either. -/
theorem lost_neighbor_withdrawn (owner : Address → Device) (surroundings : Surroundings Device)
    {events : List (OspfEvent Device)}
    (clean : Along Monitored.step (LosesCleanly owner) { engine := { surroundings } } events)
    (device peer : Device)
    (isLost : (device, peer) ∈
      (runFrom Monitored.step { engine := { surroundings } } events).lost) :
    let nodes := (runFrom Monitored.step { engine := { surroundings } } events).engine.nodes
    (∀ rid, routerIdOf nodes peer = some rid → owner rid = peer) ∧
      ∀ node ∈ nodes.lookup device, ∀ route ∈ node.routes,
        (route.via ≠ .device peer ∧ route.nextHop ≠ .device peer) ∧
          ∀ rid, owner rid = peer → route.via ≠ .router rid ∧ route.nextHop ≠ .router rid := by
  have initial : LossInvariant owner ({ engine := { surroundings } } : Monitored Device) := by
    refine ⟨⟨?_, ?_, ?_, ?_, ?_, ?_⟩, ?_⟩ <;> simp
  have invariant := invariant_along lossInvariant_step initial clean
  refine ⟨fun rid known => ?_, fun node found route member => ?_⟩
  · obtain ⟨peerNode, peerFound, rfl⟩ := map_eq_some_iff.mp known
    exact invariant.table.routerId peer peerNode peerFound
  · have avoids := (invariant.table.withdrawn device peer node isLost found).routes route member
    exact ⟨⟨avoids.via, avoids.nextHop⟩, fun rid isPeer =>
      ⟨avoids.viaRouter rid isPeer, avoids.nextRouter rid isPeer⟩⟩

/-! ## Two routers -/

local instance lossPriorities : NeZero 256 := ⟨by decide⟩

def pairSurroundings : Surroundings Nat where
  network :=
    { links := ⟨[(0, [1]), (1, [0])], by decide⟩
      interfaceLinks := fun _ _ => none
      linkIfaces := fun _ _ => []
      downInterfaces := fun _ => []
      subifVlans := fun _ => []
      vlanPorts := fun _ => []
      deviceIps := .empty }
  filters := fun _ => {}
  interfaces := fun _ => []
  defaultRouterId := fun device => ⟨10, 0, 0, Fin.ofNat 256 device⟩

/-- The last octet of a router ID tells whose it is. -/
def pairOwner (rid : Address) : Nat := rid.fourth

/-- Two routers start, hear each other and begin their adjacencies. -/
def pairMeets : List (OspfEvent Nat) :=
  [.start 0 [⟨⟨192, 168, 0, 0⟩, some 24⟩] 0, .start 1 [⟨⟨192, 168, 1, 0⟩, some 24⟩] 0,
    .sendHello 0, .sendHello 1, .deliver 0, .deliver 0]

/-- The interface of the first router goes down while its adjacency is coming up. -/
theorem early_loss_withdrawn :
    let nodes := (runFrom Monitored.step { engine := { surroundings := pairSurroundings } }
      (pairMeets ++ [.advance 0, .advance 1, .interfaceDown 0 [1]])).engine.nodes
    (∀ rid, routerIdOf nodes 1 = some rid → pairOwner rid = 1) ∧
      ∀ node ∈ nodes.lookup 0, ∀ route ∈ node.routes,
        (route.via ≠ .device 1 ∧ route.nextHop ≠ .device 1) ∧
          ∀ rid, pairOwner rid = 1 → route.via ≠ .router rid ∧ route.nextHop ≠ .router rid :=
  lost_neighbor_withdrawn pairOwner pairSurroundings (by decide +kernel) 0 1 (by decide +kernel)

/-- The interface of the first router goes down after its adjacency is full: the route
to the network behind the lost neighbour stays. -/
theorem full_loss_keeps_route :
    let final := runFrom Monitored.step { engine := { surroundings := pairSurroundings } }
      (pairMeets ++ List.replicate 10 (.advance 0) ++ [.interfaceDown 0 [1]])
    (0, 1) ∈ final.lost ∧ routerIdOf final.engine.nodes 1 = some ⟨10, 0, 0, 1⟩ ∧
      ∃ node ∈ final.engine.nodes.lookup 0, ∃ route ∈ node.routes,
        route.via = .router ⟨10, 0, 0, 1⟩ ∧ route.nextHop = .router ⟨10, 0, 0, 1⟩ := by
  decide +kernel

end NetLab.Ospf
