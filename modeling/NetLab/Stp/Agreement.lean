import NetLab.Stp.Guard
import NetLab.Stp.PortRoles
import NetLab.Stp.SpanningForest

/-!
# The exchange of BPDUs and the recomputation

Two implementations decide roots, costs and roles: the bridges among themselves, by
exchanging BPDUs, and the recomputation of the topology. In a state that no BPDU
changes, they agree exactly when the beliefs of the bridges are sound, no guard is
in the way, distances are below the constant for an unknown one, and the two ways of
breaking ties pick the same root port.
-/

namespace NetLab.Stp

open NetLab.Library NetLab.Library.ShortestPaths NetLab.Network StpState
open OrderedMap List Option

variable {Device : Type} [LinearOrder Device]

/-! ## Static topologies at rest -/

/-- Links between enabled bridges only, one for a pair, with one cost at both ends. -/
structure StpState.Static (state : StpState Device) : Prop where
  distinct : state.DistinctIds
  positive : state.PositiveCosts
  linked : ∀ device node, state.enabledNodes.lookup device = some node → ∀ port ∈ node.ports.values,
      Linked state.enabledNodes device port.connectedTo ∧ port.connectedTo ≠ device
  single : ∀ device node, state.enabledNodes.lookup device = some node →
    ∀ first second firstPort secondPort, node.ports.lookup first = some firstPort →
      node.ports.lookup second = some secondPort →
      firstPort.connectedTo = secondPort.connectedTo → first = second
  sameCost : ∀ left right leftNode rightNode, state.enabledNodes.lookup left = some leftNode →
    state.enabledNodes.lookup right = some rightNode →
    ∀ leftPort ∈ leftNode.ports.values, ∀ rightPort ∈ rightNode.ports.values,
      leftPort.connectedTo = right → rightPort.connectedTo = left → leftPort.cost = rightPort.cost

/-- No BPDU that a bridge would send now changes anything. -/
def StpState.Quiescent (state : StpState Device) : Prop :=
  ∀ sender node receiver, state.enabledNodes.lookup sender = some node →
    state.receiveBpdu receiver (node.bpdu sender) = state

/-- Every enabled bridge has the root, the cost, and at every port the role and state
that the recomputation of the topology gives it. -/
def StpState.AgreesWithTopology (state : StpState Device) : Prop :=
  ∀ device node, state.enabledNodes.lookup device = some node →
    ∃ after, state.recomputeTopology.nodes.lookup device = some after ∧
      node.rootBridgeId = after.rootBridgeId ∧ node.rootPathCost = after.rootPathCost ∧
      ∀ name port, node.ports.lookup name = some port →
        ∃ portAfter, after.ports.lookup name = some portAfter ∧
          port.role = portAfter.role ∧ port.state = portAfter.state

/-- What a bridge believes is not made up: its root is a bridge it is joined to, not
inferior to itself, and its cost is the weight of a walk from there. -/
def StpState.SoundBelief (state : StpState Device) (device : Device) (node : StpNode Device) :
    Prop :=
  ∃ root rootNode, state.enabledNodes.lookup root = some rootNode ∧
    state.bridgeGraph.Reachable device root ∧ node.rootBridgeId = rootNode.bridgeId ∧
    bidKey node.rootBridgeId ≤ bidKey node.bridgeId ∧
    state.weights.Walk root device node.rootPathCost ∧ (root = device → node.rootPathCost = 0)

/-- When the exchange of BPDUs and the recomputation agree. -/
structure StpState.BeliefsSettle (state : StpState Device) : Prop where
  unguarded : ∀ device node, state.enabledNodes.lookup device = some node →
    ∀ name port, node.ports.lookup name = some port →
      ∀ peer, state.enabledNodes.lookup port.connectedTo = some peer →
        state.passesGuards device (peer.bpdu port.connectedTo) name port = true
  near : ∀ device, ¬ state.Far device
  sound : ∀ device node, state.enabledNodes.lookup device = some node →
    state.SoundBelief device node
  tieBreak : ∀ device next, state.parent device = some next →
    ∀ other ∈ state.shortestNeighbours device, other = next ∨ state.Outranks next other

/-! ## Ports of a static topology -/

section Static

variable {state : StpState Device} {device : Device} {node : StpNode Device} {name : String}
  {port : Port Device}

section

variable (static : state.Static) (found : state.enabledNodes.lookup device = some node)
  (held : node.ports.lookup name = some port)
include static found held

theorem StpState.Static.peer : ∃ peer, state.enabledNodes.lookup port.connectedTo = some peer := by
  have member : port ∈ node.ports.values := mem_values_iff.mpr ⟨name, held⟩
  obtain ⟨⟨_, peer, _, peerFound, _⟩, _⟩ := static.linked device node found port member
  exact ⟨peer, peerFound⟩

theorem StpState.Static.receivingPort {msg : Bpdu Device} (sent : msg.srcId = port.connectedTo) :
    state.receivingPort device msg = some (name, port) := by
  obtain ⟨stored, enabled⟩ := lookup_enabledNodes.mp found
  have isSome : (node.portTo msg.srcId).isSome := by
    unfold StpNode.portTo
    rw [find?_isSome]
    exact ⟨(name, port), mem_entries_iff.mpr held, by simp [sent]⟩
  obtain ⟨⟨other, otherPort⟩, arrives⟩ := isSome_iff_exists.mp isSome
  have otherHeld : node.ports.lookup other = some otherPort :=
    mem_entries_iff.mp (mem_of_find?_eq_some arrives)
  have towards : otherPort.connectedTo = msg.srcId := by
    simpa using find?_some arrives
  have same := static.single device node found other name otherPort port otherHeld held
    (towards.trans sent)
  subst same
  cases otherHeld.symm.trans held
  simp [receivingPort, stored, enabled, arrives]

theorem StpState.Static.weights_port : state.weights device port.connectedTo = some port.cost := by
  have member : port ∈ node.ports.values := mem_values_iff.mpr ⟨name, held⟩
  obtain ⟨linked, _⟩ := static.linked device node found port member
  obtain ⟨weight, edge⟩ := weights_eq_some_iff.mpr linked
  obtain ⟨other, otherFound, otherPort, otherMember, towards, cost⟩ := port_of_weights edge
  cases found.symm.trans otherFound
  obtain ⟨otherName, otherHeld⟩ := mem_values_iff.mp otherMember
  have same := static.single device node found name otherName port otherPort held otherHeld
    towards.symm
  subst same
  cases held.symm.trans otherHeld
  rw [edge, cost]

end

theorem StpState.Static.port_of_weights (_ : state.Static) {left right : Device} {weight : Nat}
    (edge : state.weights left right = some weight) :
    ∃ node name port, state.enabledNodes.lookup left = some node ∧
      node.ports.lookup name = some port ∧ port.connectedTo = right ∧ port.cost = weight := by
  obtain ⟨node, found, port, member, towards, cost⟩ := NetLab.Stp.port_of_weights edge
  obtain ⟨name, held⟩ := mem_values_iff.mp member
  exact ⟨node, name, port, found, held, towards, cost⟩

/-- Links cost the same in both directions. -/
theorem StpState.Static.weights_symm (static : state.Static) {left right : Device} :
    state.weights left right = state.weights right left := by
  have half : ∀ {left right : Device} {weight : Nat}, state.weights left right = some weight →
      state.weights right left = some weight := by
    intro left right weight edge
    obtain ⟨leftNode, leftFound, leftPort, leftMember, forth, cost⟩ :=
      NetLab.Stp.port_of_weights edge
    obtain ⟨back, backEdge⟩ := weights_eq_some_iff.mpr (weights_eq_some_iff.mp ⟨weight, edge⟩).symm
    obtain ⟨rightNode, rightFound, rightPort, rightMember, towards, backCost⟩ :=
      NetLab.Stp.port_of_weights backEdge
    have same := static.sameCost left right leftNode rightNode leftFound rightFound leftPort
      leftMember rightPort rightMember forth towards
    rw [backEdge, ← backCost, ← same, cost]
  cases forth : state.weights left right with
  | some weight => exact (half forth).symm
  | none =>
    cases back : state.weights right left with
    | none => rfl
    | some weight => exact absurd (half back) (by simp [forth])

theorem StpState.Static.exists_parent (static : state.Static) {root : Device}
    (isRoot : state.IsRootOf device root) (different : device ≠ root)
    (near : state.rootDistance device < farDistance) : ∃ next, state.parent device = some next := by
  by_contra orphan
  have none : state.parent device = none :=
    eq_none_iff_forall_ne_some.mpr (not_exists.mp orphan)
  rw [parent_eq_none_iff] at none
  have back := (isDistance_rootDistance static.distinct isRoot).walk.reverse static.weights_symm
  generalize measured : state.rootDistance device = total at back near
  cases back with
  | nil => exact different rfl
  | @cons _ next _ weight rest edge walk =>
    have isRootThere := isRootOf_of_reachable isRoot
      (Linked.reachable (weights_eq_some_iff.mp ⟨weight, edge⟩))
    have bound := (isDistance_rootDistance static.distinct isRootThere).le
      (walk.reverse static.weights_symm)
    have triangle := (isDistance_rootDistance static.distinct isRootThere).edge_le
      (static.weights_symm.trans edge) (isDistance_rootDistance static.distinct isRoot)
    exact none next weight edge ⟨by omega, by omega⟩

/-! ## What a quiescent state has settled -/

theorem modify_eq_self {map : OrderedMap Device (StpNode Device)} {key : Device}
    {value : StpNode Device} {update : StpNode Device → StpNode Device}
    (same : map.modify key update = map) (found : map.lookup key = some value) :
    update value = value := by
  have updated := lookup_modify_self map key update
  rw [same, found] at updated
  exact (Option.some.inj updated).symm

section

variable {peer : StpNode Device} (quiescent : state.Quiescent) (static : state.Static)
  (found : state.enabledNodes.lookup device = some node) (held : node.ports.lookup name = some port)
include quiescent static found held

theorem StpState.Quiescent.stopped
    (peerFound : state.enabledNodes.lookup port.connectedTo = some peer)
    (stopped : state.passesGuards device (peer.bpdu port.connectedTo) name port = false) :
    port.state = .errDisabled ∨ port.state = .rootInconsistent := by
  have received : state.receivingPort device (peer.bpdu port.connectedTo) = some (name, port) :=
    static.receivingPort found held rfl
  have heldBack := heldBack_of_stopped received stopped
  rw [quiescent _ peer device peerFound] at heldBack
  obtain ⟨stored, _⟩ := lookup_enabledNodes.mp found
  have viewed : (state.guardView device name).port = some (node.bpduguardDefault, port) := by
    simp [guardView, portView, stored, held]
  exact (heldBack _ _ viewed).imp (fun disabled => disabled.1) fun blocked => blocked.1

theorem StpState.Quiescent.fixpoint
    (peerFound : state.enabledNodes.lookup port.connectedTo = some peer)
    (passed : state.passesGuards device (peer.bpdu port.connectedTo) name port = true) :
    ∃ prepare : StpNode Device → StpNode Device,
      (prepare = id ∨ prepare = fun node => node.unblockInconsistent name) ∧
      ((prepare node).learn name port.cost (peer.bpdu port.connectedTo)).recomputePortRoles =
        node := by
  have received : state.receivingPort device (peer.bpdu port.connectedTo) = some (name, port) :=
    static.receivingPort found held rfl
  obtain ⟨prepare, shape, result⟩ := receiveBpdu_passed received passed
  rw [quiescent _ peer device peerFound] at result
  obtain ⟨stored, _⟩ := lookup_enabledNodes.mp found
  refine ⟨prepare, shape, ?_⟩
  by_cases edge : state.isPortfast device name port = true
  · rw [if_pos edge] at result
    have tasks := congrArg (fun state => state.tasks.length) result
    simp [modifyNode, demoteEdge] at tasks
  · rw [if_neg edge] at result
    have same : state.nodes.modify device (fun node => ((prepare node).learn name port.cost
        (peer.bpdu port.connectedTo)).recomputePortRoles) = state.nodes :=
      (congrArg nodes result).symm
    exact modify_eq_self same stored

end

omit [LinearOrder Device] in
theorem learn_belief (node : StpNode Device) (name : String) (cost : Nat) (msg : Bpdu Device) :
    (node.learn name cost msg).rootBridgeId = node.rootBridgeId ∧
        (node.learn name cost msg).rootPathCost = node.rootPathCost ∧
        ¬ bidKey msg.rootBridgeId < bidKey node.rootBridgeId ∧
        (msg.rootBridgeId = node.rootBridgeId → node.rootPathCost ≤ msg.rootPathCost + cost) ∨
      ((node.learn name cost msg).rootBridgeId = msg.rootBridgeId ∧
        (node.learn name cost msg).rootPathCost = msg.rootPathCost + cost ∧
        (bidKey msg.rootBridgeId < bidKey node.rootBridgeId ∨
          (msg.rootBridgeId = node.rootBridgeId ∧
            msg.rootPathCost + cost < node.rootPathCost))) := by
  unfold StpNode.learn
  simp only [compareBridgeId_neg_iff]
  by_cases better : bidKey msg.rootBridgeId < bidKey node.rootBridgeId ∨
      (msg.rootBridgeId = node.rootBridgeId ∧ msg.rootPathCost + cost < node.rootPathCost)
  · simp only [if_pos better]
    exact .inr ⟨trivial, trivial, better⟩
  · simp only [if_neg better]
    rw [not_or] at better
    exact .inl ⟨rfl, rfl, better.1, fun same => not_lt.mp fun less => better.2 ⟨same, less⟩⟩

omit [LinearOrder Device] in
theorem learn_received (node : StpNode Device) (name : String) (cost : Nat) (msg : Bpdu Device) :
    (node.learn name cost msg).ports.lookup name = (node.ports.lookup name).map fun port =>
      { port with received := some ⟨msg.rootBridgeId, msg.rootPathCost, msg.bridgeId⟩ } := by
  have ports : (node.learn name cost msg).ports = node.ports.modify name fun port =>
      { port with received := some ⟨msg.rootBridgeId, msg.rootPathCost, msg.bridgeId⟩ } := by
    unfold StpNode.learn
    dsimp only
    split_ifs <;> rfl
  rw [ports, lookup_modify_self]

/-- What a quiescent state knows at a port that no guard blocks. -/
structure Heard (node : StpNode Device) (port : Port Device) (peer : StpNode Device) : Prop where
  received : port.received = some ⟨peer.rootBridgeId, peer.rootPathCost, peer.bridgeId⟩
  notBetter : ¬ bidKey peer.rootBridgeId < bidKey node.rootBridgeId
  notCheaper : peer.rootBridgeId = node.rootBridgeId →
    node.rootPathCost ≤ peer.rootPathCost + port.cost
  settled : node.recomputePortRoles = node

theorem StpState.Quiescent.heard (quiescent : state.Quiescent) (static : state.Static)
    (found : state.enabledNodes.lookup device = some node)
    (held : node.ports.lookup name = some port) {peer : StpNode Device}
    (peerFound : state.enabledNodes.lookup port.connectedTo = some peer)
    (passed : state.passesGuards device (peer.bpdu port.connectedTo) name port = true) :
    Heard node port peer := by
  obtain ⟨prepare, shape, fixed⟩ := quiescent.fixpoint static found held peerFound passed
  have prepared : (prepare node).rootBridgeId = node.rootBridgeId ∧
      (prepare node).rootPathCost = node.rootPathCost ∧
      ∃ before, (prepare node).ports.lookup name = some before := by
    rcases shape with rfl | rfl
    · exact ⟨rfl, rfl, port, held⟩
    · exact ⟨rfl, rfl, by simp [StpNode.unblockInconsistent, StpNode.modifyPort, held]⟩
  obtain ⟨sameRoot, sameCost, before, beforeHeld⟩ := prepared
  have belief := learn_belief (prepare node) name port.cost (peer.bpdu port.connectedTo)
  have keptRoot := congrArg StpNode.rootBridgeId fixed
  have keptCost := congrArg StpNode.rootPathCost fixed
  have keptPort := congrArg (fun node => (node.ports.lookup name).bind Port.received) fixed
  rw [recomputePortRoles_eq] at keptRoot keptCost keptPort
  dsimp only at keptRoot keptCost keptPort
  rw [lookup_mapValues, learn_received, beforeHeld, held] at keptPort
  simp only [map_some, bind_some] at keptPort
  rw [roleFor_assign] at keptPort
  have notLearned : ¬ (bidKey peer.rootBridgeId < bidKey node.rootBridgeId) ∧
      (peer.rootBridgeId = node.rootBridgeId →
        node.rootPathCost ≤ peer.rootPathCost + port.cost) := by
    rw [sameRoot, sameCost] at belief
    rcases belief with ⟨_, _, notBetter, notCheaper⟩ | ⟨newRoot, newCost, better | ⟨_, cheaper⟩⟩
    · exact ⟨notBetter, notCheaper⟩
    · rw [keptRoot] at newRoot
      rw [newRoot] at better
      exact absurd better (lt_irrefl _)
    · rw [keptCost] at newCost
      rw [newCost] at cheaper
      exact absurd cheaper (lt_irrefl _)
  refine ⟨keptPort.symm, notLearned.1, notLearned.2, ?_⟩
  calc node.recomputePortRoles = _ := congrArg StpNode.recomputePortRoles fixed.symm
    _ = _ := recomputePortRoles_idem _
    _ = node := fixed

theorem agrees_iff (distinct : state.DistinctIds)
    (found : state.enabledNodes.lookup device = some node) {root : Device}
    {rootNode : StpNode Device} (isRoot : state.IsRootOf device root)
    (rootFound : state.enabledNodes.lookup root = some rootNode) :
    (∃ after, state.recomputeTopology.nodes.lookup device = some after ∧
      node.rootBridgeId = after.rootBridgeId ∧ node.rootPathCost = after.rootPathCost ∧
      ∀ name port, node.ports.lookup name = some port →
        ∃ portAfter, after.ports.lookup name = some portAfter ∧
          port.role = portAfter.role ∧ port.state = portAfter.state) ↔
    node.rootBridgeId = rootNode.bridgeId ∧ node.rootPathCost = state.ownCost device ∧
      ∀ name port, node.ports.lookup name = some port →
        port.role = (outcome state root device node port).role ∧
          port.state = (outcome state root device node port).state := by
  have after := (lookup_enabledNodes.mp
    (enabledNodes_recomputeTopology distinct isRoot found rootFound)).1
  have cost : (state.settled root rootNode device node).rootPathCost = state.ownCost device := by
    change ((distancesFromRoot state.adj root).lookup device).getD 0 = _
    rw [lookup_distancesFromRoot distinct isRoot]
    unfold ownCost
    split_ifs <;> rfl
  have ports : ∀ name port, node.ports.lookup name = some port →
      (state.settled root rootNode device node).ports.lookup name =
        some (outcome state root device node port) := by
    intro name port held
    change (node.ports.mapValues _).lookup name = _
    rw [lookup_mapValues, held]
    rfl
  rw [after]
  constructor
  · rintro ⟨settled, isSettled, sameRoot, sameCost, samePorts⟩
    cases isSettled
    refine ⟨sameRoot, sameCost.trans cost, fun name port held => ?_⟩
    obtain ⟨portAfter, heldAfter, same⟩ := samePorts name port held
    rw [ports name port held] at heldAfter
    cases heldAfter
    exact same
  · rintro ⟨sameRoot, sameCost, samePorts⟩
    exact ⟨_, rfl, sameRoot, sameCost.trans cost.symm, fun name port held =>
      ⟨_, ports name port held, samePorts name port held⟩⟩

/-! ## Roles of bridges with the right beliefs -/

/-- Every bridge believes in the root of its component and knows its distance, and
every port holds what the peer believes. -/
structure StpState.Informed (state : StpState Device) : Prop where
  root : ∀ device node root rootNode, state.enabledNodes.lookup device = some node →
    state.IsRootOf device root → state.enabledNodes.lookup root = some rootNode →
    node.rootBridgeId = rootNode.bridgeId
  cost : ∀ device node, state.enabledNodes.lookup device = some node →
    node.rootPathCost = state.rootDistance device
  near : ∀ device root, state.IsRootOf device root → state.rootDistance device < farDistance
  heard : ∀ device node, state.enabledNodes.lookup device = some node →
    ∀ name port, node.ports.lookup name = some port →
      ∀ peer, state.enabledNodes.lookup port.connectedTo = some peer → Heard node port peer

section

variable (informed : state.Informed) (static : state.Static)
  (found : state.enabledNodes.lookup device = some node)
include informed static found

theorem StpState.Informed.offer {peer : StpNode Device} (held : node.ports.lookup name = some port)
    (peerFound : state.enabledNodes.lookup port.connectedTo = some peer) :
    node.offer name port =
      some ⟨name, state.rootDistance port.connectedTo + port.cost, peer.bridgeId⟩ := by
  have heard := informed.heard device node found name port held peer peerFound
  obtain ⟨root, isRoot⟩ := exists_root found
  obtain ⟨rootNode, rootFound, _⟩ := id isRoot
  obtain ⟨linked, _⟩ := static.linked device node found port (mem_values_iff.mpr ⟨name, held⟩)
  have isRootThere := isRootOf_of_reachable isRoot linked.reachable
  refine offer_eq_some.mpr ⟨_, heard.received, ?_, ?_⟩
  · exact (informed.root _ peer root rootNode peerFound isRootThere rootFound).trans
      (informed.root device node root rootNode found isRoot rootFound).symm
  · simp only [informed.cost _ peer peerFound]

/-- The root port of a bridge that is not the root: its peer is the least, by
identifier, of the neighbours on a shortest path. -/
theorem StpState.Informed.bestPort {root : Device} (isRoot : state.IsRootOf device root)
    (different : device ≠ root) :
    ∃ name port, node.ports.lookup name = some port ∧
      node.bestPort.map RootCandidate.name = some name ∧
      port.connectedTo ∈ state.shortestNeighbours device ∧
      ∀ other ∈ state.shortestNeighbours device,
        other = port.connectedTo ∨ state.Outranks port.connectedTo other := by
  obtain ⟨next, isParent⟩ := static.exists_parent isRoot different (informed.near device root isRoot)
  -- Every neighbour on a shortest path makes an offer of the distance itself.
  have offers : ∀ other ∈ state.shortestNeighbours device, ∃ otherName otherPort peer,
      node.ports.lookup otherName = some otherPort ∧ otherPort.connectedTo = other ∧
      state.enabledNodes.lookup other = some peer ∧
      node.offer otherName otherPort =
        some ⟨otherName, state.rootDistance device, peer.bridgeId⟩ := by
    intro other member
    obtain ⟨_, weight, edge, attained⟩ := mem_shortestNeighbours.mp member
    obtain ⟨otherNode, otherName, otherPort, otherFound, otherHeld, rfl, rfl⟩ :=
      static.port_of_weights edge
    cases found.symm.trans otherFound
    obtain ⟨peer, peerFound⟩ := static.peer found otherHeld
    exact ⟨otherName, otherPort, peer, otherHeld, rfl, peerFound,
      attained ▸ informed.offer static found otherHeld peerFound⟩
  have inList : ∀ {otherName : String} {otherPort : Port Device} {candidate : RootCandidate},
      node.ports.lookup otherName = some otherPort →
      node.offer otherName otherPort = some candidate →
      candidate ∈ node.ports.entries.filterMap fun entry => node.offer entry.1 entry.2 :=
    fun {otherName otherPort _} otherHeld offered =>
      mem_filterMap.mpr ⟨(otherName, otherPort), mem_entries_iff.mpr otherHeld, offered⟩
  obtain ⟨nextName, nextPort, nextPeer, nextHeld, _, _, nextOffer⟩ :=
    offers next (argmin_mem isParent)
  cases best : node.bestPort with
  | none =>
    rw [bestPort_eq_argmin, argmin_eq_none] at best
    exact absurd (inList nextHeld nextOffer) (by simp [best])
  | some candidate =>
    rw [bestPort_eq_argmin] at best
    have least : ∀ other ∈ node.ports.entries.filterMap fun entry => node.offer entry.1 entry.2,
        candidate.key ≤ other.key := fun other member => le_of_mem_argmin member best
    obtain ⟨⟨name, port⟩, entry, offered⟩ := mem_filterMap.mp (argmin_mem best)
    have held := mem_entries_iff.mp entry
    obtain ⟨peer, peerFound⟩ := static.peer found held
    have shape := (informed.offer static found held peerFound).symm.trans offered
    cases shape
    have edge := static.weights_port found held
    have isRootThere := isRootOf_of_reachable isRoot
      (Linked.reachable (weights_eq_some_iff.mp ⟨_, edge⟩))
    have triangle := (isDistance_rootDistance static.distinct isRootThere).edge_le
      (static.weights_symm.trans edge) (isDistance_rootDistance static.distinct isRoot)
    have cheapest := least _ (inList nextHeld nextOffer)
    simp only [RootCandidate.key, Prod.Lex.toLex_le_toLex] at cheapest
    have attained : state.rootDistance device =
        state.rootDistance port.connectedTo + port.cost := by
      rcases cheapest with less | ⟨same, _⟩
      · omega
      · exact same.symm
    refine ⟨name, port, held, rfl, ?_, ?_⟩
    · exact mem_shortestNeighbours.mpr ⟨informed.near device root isRoot, port.cost, edge, attained⟩
    · intro other member
      obtain ⟨otherName, otherPort, otherPeer, otherHeld, _, otherFound, otherOffer⟩ :=
        offers other member
      have below := least _ (inList otherHeld otherOffer)
      simp only [RootCandidate.key, Prod.Lex.toLex_le_toLex] at below
      have notAbove : bidKey peer.bridgeId ≤ bidKey otherPeer.bridgeId := by
        rcases below with less | ⟨_, notAbove⟩
        · omega
        · exact notAbove
      rcases notAbove.lt_or_eq with less | same
      · exact .inr ⟨peer, otherPeer, peerFound, otherFound, less⟩
      · exact .inl (static.distinct other port.connectedTo otherPeer peer otherFound peerFound
          (bidKey_injective same.symm))

end

omit [LinearOrder Device] in
theorem Heard.roleFor_eq {peer : StpNode Device} (heard : Heard node port peer)
    {other : String} {otherPort : Port Device}
    (held : node.ports.lookup other = some otherPort) :
    node.roleFor other otherPort = otherPort := by
  have lookup := congrArg (fun node => node.ports.lookup other) heard.settled
  rw [recomputePortRoles_eq] at lookup
  dsimp only at lookup
  rw [lookup_mapValues, held] at lookup
  exact Option.some.inj lookup

section

variable {root : Device} (informed : state.Informed) (static : state.Static)
  (found : state.enabledNodes.lookup device = some node)
include informed static found

theorem StpState.Informed.segmentRole (held : node.ports.lookup name = some port)
    (isRoot : state.IsRootOf device root) (different : device ≠ root)
    (other : state.parent device ≠ some port.connectedTo) :
    (node.segmentRole port).role = (outcome state root device node port).role ∧
      (node.segmentRole port).state = (outcome state root device node port).state := by
  obtain ⟨peer, peerFound⟩ := static.peer found held
  have heard := informed.heard device node found name port held peer peerFound
  obtain ⟨linked, apart⟩ := static.linked device node found port (mem_values_iff.mpr ⟨name, held⟩)
  have near := informed.near device root isRoot
  have nearThere := informed.near port.connectedTo root
    (isRootOf_of_reachable isRoot linked.reachable)
  have yields_iff : state.Yields device port.connectedTo ↔
      state.rootDistance port.connectedTo < state.rootDistance device ∨
        (state.rootDistance port.connectedTo = state.rootDistance device ∧
          bidKey peer.bridgeId < bidKey node.bridgeId) := by
    have outranks : state.Outranks port.connectedTo device ↔
        bidKey peer.bridgeId < bidKey node.bridgeId := by
      constructor
      · rintro ⟨_, _, firstFound, secondFound, less⟩
        cases firstFound.symm.trans peerFound
        cases secondFound.symm.trans found
        exact less
      · exact fun less => ⟨peer, node, peerFound, found, less⟩
    simp only [StpState.Yields, ownCost, near, if_true, min_eq_left nearThere.le, outranks]
  obtain ⟨blocks, opens⟩ := outcome_other static.distinct isRoot found different linked other
  unfold StpNode.segmentRole
  rw [heard.received]
  simp only [informed.cost device node found, informed.cost _ peer peerFound,
    compareBridgeId_neg_iff]
  rcases lt_trichotomy (state.rootDistance port.connectedTo) (state.rootDistance device)
    with less | same | more
  · rw [if_pos less, blocks (yields_iff.mpr (.inl less))]
    exact ⟨rfl, rfl⟩
  · rw [if_neg same.not_lt, if_pos same]
    by_cases superior : bidKey node.bridgeId < bidKey peer.bridgeId
    · have stays : ¬ state.Yields device port.connectedTo := by
        rw [yields_iff]
        rintro (less | ⟨_, inferior⟩)
        · omega
        · exact lt_asymm superior inferior
      rw [if_pos superior, opens stays]
      exact ⟨rfl, rfl⟩
    · have inferior : bidKey peer.bridgeId < bidKey node.bridgeId := by
        refine lt_of_le_of_ne (not_lt.mp superior) fun equal => apart ?_
        exact static.distinct _ _ peer node peerFound found (bidKey_injective equal)
      rw [if_neg superior, blocks (yields_iff.mpr (.inr ⟨same, inferior⟩))]
      exact ⟨rfl, rfl⟩
  · have stays : ¬ state.Yields device port.connectedTo := by
      rw [yields_iff]
      omega
    rw [if_neg (by omega), if_neg (by omega), opens stays]
    exact ⟨rfl, rfl⟩

/-- The ports of a bridge have the roles of the recomputation when its parent is, by
identifier, the least of the neighbours on a shortest path. -/
theorem StpState.Informed.roles_iff (isRoot : state.IsRootOf device root) :
    (∀ name port, node.ports.lookup name = some port →
      port.role = (outcome state root device node port).role ∧
        port.state = (outcome state root device node port).state) ↔
    ∀ next, state.parent device = some next → ∀ other ∈ state.shortestNeighbours device,
      other = next ∨ state.Outranks next other := by
  obtain ⟨rootNode, rootFound, _⟩ := id isRoot
  have belief := informed.root device node root rootNode found isRoot rootFound
  have decided : ∀ name port, node.ports.lookup name = some port →
      node.roleFor name port = port := by
    intro name port held
    obtain ⟨peer, peerFound⟩ := static.peer found held
    exact (informed.heard device node found name port held peer peerFound).roleFor_eq held
  have linkedTo : ∀ {name : String} {port : Port Device}, node.ports.lookup name = some port →
      Linked state.enabledNodes device port.connectedTo := fun {name port} held =>
    (static.linked device node found port (mem_values_iff.mpr ⟨name, held⟩)).1
  by_cases different : device = root
  · subst different
    cases found.symm.trans rootFound
    constructor
    · intro _ next isParent
      simp [parent_root static.distinct static.positive isRoot] at isParent
    · intro _ name port held
      rw [outcome_root (linkedTo held), ← decided name port held, StpNode.roleFor, if_pos belief]
      exact ⟨rfl, rfl⟩
  · have notRoot : node.rootBridgeId ≠ node.bridgeId := fun own =>
      different (static.distinct device root node rootNode found rootFound (own.symm.trans belief))
    obtain ⟨rootName, rootPort, rootHeld, best, isShortest, least⟩ :=
      informed.bestPort static found isRoot different
    constructor
    · intro same next isParent
      have isRootPort : rootPort.role = .root := by
        rw [← decided rootName rootPort rootHeld, StpNode.roleFor, if_neg notRoot, if_pos best]
        rfl
      have keeps := (outcome_root_iff static.distinct static.positive isRoot found
        (mem_values_iff.mpr ⟨rootName, rootHeld⟩)).mp
        ((same rootName rootPort rootHeld).1.symm.trans isRootPort)
      have live := (livePeer_iff_linked found
        (mem_values_iff.mpr ⟨rootName, rootHeld⟩)).mpr (linkedTo rootHeld)
      rcases keeps with ⟨_, towards⟩ | ⟨dead, _⟩
      · cases isParent.symm.trans towards
        exact least
      · simp [live] at dead
    · intro tieBreak name port held
      obtain ⟨next, isParent⟩ :=
        static.exists_parent isRoot different (informed.near device root isRoot)
      have isNext : rootPort.connectedTo = next := by
        rcases tieBreak next isParent _ isShortest with same | outranked
        · exact same
        · rcases least next (argmin_mem isParent) with same | outranks
          · exact same.symm
          · exact absurd outranked (Outranks.asymm outranks)
      by_cases towards : port.connectedTo = next
      · have same := static.single device node found name rootName port rootPort held rootHeld
          (towards.trans isNext.symm)
        subst same
        rw [outcome_parent static.distinct isRoot different (linkedTo held) (towards ▸ isParent),
          ← decided name port held, StpNode.roleFor, if_neg notRoot, if_pos best]
        exact ⟨rfl, rfl⟩
      · have notBest : ¬ node.bestPort.map RootCandidate.name = some name := by
          rw [best]
          intro same
          cases same
          cases rootHeld.symm.trans held
          exact towards isNext
        have other : state.parent device ≠ some port.connectedTo := by
          rw [isParent]
          exact fun same => towards (Option.some.inj same).symm
        have segment := informed.segmentRole static found held isRoot different other
        have role : node.roleFor name port = node.segmentRole port := by
          rw [StpNode.roleFor, if_neg notRoot, if_neg notBest]
        rw [← role, decided name port held] at segment
        exact segment

end

end Static

/-! ## Agreement -/

section Agreement

variable {state : StpState Device}

variable {node : StpNode Device} {port : Port Device} {device : Device}

theorem StpState.Quiescent.heard_all (quiescent : state.Quiescent) (static : state.Static)
    (unguarded : ∀ device node, state.enabledNodes.lookup device = some node →
      ∀ name port, node.ports.lookup name = some port →
        ∀ peer, state.enabledNodes.lookup port.connectedTo = some peer →
          state.passesGuards device (peer.bpdu port.connectedTo) name port = true)
    (found : state.enabledNodes.lookup device = some node) {name : String}
    (held : node.ports.lookup name = some port) {peer : StpNode Device}
    (peerFound : state.enabledNodes.lookup port.connectedTo = some peer) : Heard node port peer :=
  quiescent.heard static found held peerFound
    (unguarded device node found name port held peer peerFound)

/-- Sound beliefs at rest are the right ones. -/
theorem StpState.BeliefsSettle.informed (settle : state.BeliefsSettle) (static : state.Static)
    (quiescent : state.Quiescent) : state.Informed := by
  have heard : ∀ {device : Device} {node : StpNode Device},
      state.enabledNodes.lookup device = some node → ∀ {name : String} {port : Port Device},
      node.ports.lookup name = some port → ∀ {peer : StpNode Device},
      state.enabledNodes.lookup port.connectedTo = some peer → Heard node port peer :=
    fun found _ _ held _ peerFound =>
      quiescent.heard_all static settle.unguarded found held peerFound
  -- Linked bridges believe in the same root, as neither knows a better one.
  have notBetter : ∀ {left right : Device} {leftNode rightNode : StpNode Device},
      state.enabledNodes.lookup left = some leftNode →
      state.enabledNodes.lookup right = some rightNode → Linked state.enabledNodes left right →
      ¬ bidKey rightNode.rootBridgeId < bidKey leftNode.rootBridgeId := by
    rintro left right leftNode rightNode leftFound rightFound ⟨node, _, found, _, ⟨port, member, rfl⟩, _⟩
    cases leftFound.symm.trans found
    obtain ⟨name, held⟩ := mem_values_iff.mp member
    exact (heard leftFound held rightFound).notBetter
  have sameRoot : ∀ {left right : Device}, state.bridgeGraph.Reachable left right →
      ∀ {leftNode rightNode : StpNode Device}, state.enabledNodes.lookup left = some leftNode →
      state.enabledNodes.lookup right = some rightNode →
      leftNode.rootBridgeId = rightNode.rootBridgeId := by
    rintro left right ⟨walk⟩
    induction walk with
    | nil =>
      intro leftNode rightNode leftFound rightFound
      cases leftFound.symm.trans rightFound
      rfl
    | cons step _ ih =>
      intro leftNode rightNode leftFound rightFound
      obtain ⟨_, middleNode, _, middleFound, _⟩ := id step.2
      refine Eq.trans (bidKey_injective ?_) (ih middleFound rightFound)
      exact le_antisymm (not_lt.mp (notBetter leftFound middleFound step.2))
        (not_lt.mp (notBetter middleFound leftFound step.2.symm))
  have rootBelief : ∀ {root : Device} {rootNode : StpNode Device}, state.IsRootOf root root →
      state.enabledNodes.lookup root = some rootNode →
      rootNode.rootBridgeId = rootNode.bridgeId ∧ rootNode.rootPathCost = 0 := by
    intro root rootNode isRoot rootFound
    obtain ⟨named, namedNode, namedFound, reached, isNamed, notInferior, _, zero⟩ :=
      settle.sound root rootNode rootFound
    obtain ⟨_, found, _, least⟩ := isRoot
    cases rootFound.symm.trans found
    have equal : rootNode.rootBridgeId = rootNode.bridgeId := by
      refine bidKey_injective (le_antisymm notInferior ?_)
      rw [isNamed]
      exact least named namedNode reached namedFound
    have isRootItself : named = root :=
      static.distinct named root namedNode rootNode namedFound rootFound (isNamed.symm.trans equal)
    exact ⟨equal, zero isRootItself⟩
  have root : ∀ device node root rootNode, state.enabledNodes.lookup device = some node →
      state.IsRootOf device root → state.enabledNodes.lookup root = some rootNode →
      node.rootBridgeId = rootNode.bridgeId := by
    intro device node root rootNode found isRoot rootFound
    rw [sameRoot isRoot.choose_spec.2.1 found rootFound]
    exact (rootBelief (isRootOf_root isRoot) rootFound).1
  refine ⟨root, ?_, ?_, fun _ _ found _ _ held _ peerFound => heard found held peerFound⟩
  · intro device node found
    obtain ⟨top, isRoot⟩ := exists_root found
    obtain ⟨topNode, topFound, _⟩ := id isRoot
    have distance := isDistance_rootDistance static.distinct isRoot
    refine le_antisymm ?_ ?_
    · -- A belief is at most the weight of any walk from the root.
      have bound : ∀ {finish : Device} {total : Nat}, state.weights.Walk top finish total →
          ∀ finishNode, state.enabledNodes.lookup finish = some finishNode →
            finishNode.rootPathCost ≤ total := by
        intro finish total walk
        refine WeightedGraph.Walk.snoc_induction (motive := fun finish total => ∀ finishNode,
          state.enabledNodes.lookup finish = some finishNode →
            finishNode.rootPathCost ≤ total) ?_ ?_ walk
        · intro finishNode finishFound
          exact (rootBelief (isRootOf_root isRoot) finishFound).2.le
        · intro middle finish total weight _ edge near finishNode finishFound
          obtain ⟨otherNode, name, port, otherFound, held, rfl, rfl⟩ :=
            static.port_of_weights (static.weights_symm.trans edge)
          cases finishFound.symm.trans otherFound
          obtain ⟨middleNode, middleFound⟩ := static.peer finishFound held
          have same := sameRoot (Linked.reachable (weights_eq_some_iff.mp ⟨_, edge⟩))
            middleFound finishFound
          have step := (heard finishFound held middleFound).notCheaper same
          have before := near middleNode middleFound
          omega
      exact bound distance.walk node found
    · obtain ⟨named, namedNode, namedFound, _, isNamed, _, walk, _⟩ := settle.sound device node found
      have isTop : named = top := static.distinct named top namedNode topNode namedFound topFound
        (isNamed.symm.trans (root device node top topNode found isRoot topFound))
      exact distance.le (isTop ▸ walk)
  · intro device top isRoot
    exact not_le.mp fun far => settle.near device ⟨⟨top, isRoot⟩, far⟩

/-- In a state at rest the exchange of BPDUs and the recomputation agree when the
condition holds. -/
theorem agrees_of_settle (static : state.Static) (quiescent : state.Quiescent)
    (settle : state.BeliefsSettle) : state.AgreesWithTopology := by
  have informed := settle.informed static quiescent
  intro device node found
  obtain ⟨root, isRoot⟩ := exists_root found
  obtain ⟨rootNode, rootFound, _⟩ := id isRoot
  refine (agrees_iff static.distinct found isRoot rootFound).mpr ⟨?_, ?_, ?_⟩
  · exact informed.root device node root rootNode found isRoot rootFound
  · rw [informed.cost device node found]
    exact (if_pos (informed.near device root isRoot)).symm
  · exact (informed.roles_iff static found isRoot).mpr (settle.tieBreak device)

theorem outcome_state {root : Device} (linked : Linked state.enabledNodes device port.connectedTo) :
    (outcome state root device node port).state = .forwarding ∨
      (outcome state root device node port).state = .blocking := by
  unfold outcome settlePort linkRole
  rw [if_neg (not_not_intro (mem_adj_iff.mpr linked))]
  dsimp only
  split_ifs <;> simp [Port.assign]

theorem StpState.AgreesWithTopology.unguarded (agrees : state.AgreesWithTopology)
    (static : state.Static) (quiescent : state.Quiescent)
    (found : state.enabledNodes.lookup device = some node) {name : String}
    (held : node.ports.lookup name = some port) {peer : StpNode Device}
    (peerFound : state.enabledNodes.lookup port.connectedTo = some peer) :
    state.passesGuards device (peer.bpdu port.connectedTo) name port = true := by
  by_contra stopped
  rw [Bool.not_eq_true] at stopped
  have guarded := quiescent.stopped static found held peerFound stopped
  obtain ⟨root, isRoot⟩ := exists_root found
  obtain ⟨rootNode, rootFound, _⟩ := id isRoot
  obtain ⟨_, _, same⟩ :=
    (agrees_iff static.distinct found isRoot rootFound).mp (agrees device node found)
  obtain ⟨linked, _⟩ := static.linked device node found port (mem_values_iff.mpr ⟨name, held⟩)
  have open_ : (outcome state root device node port).state = .forwarding ∨
      (outcome state root device node port).state = .blocking := outcome_state linked
  rw [← (same name port held).2] at open_
  rcases guarded with disabled | blocked
  · simp [disabled] at open_
  · simp [blocked] at open_

theorem StpState.AgreesWithTopology.root (agrees : state.AgreesWithTopology)
    (distinct : state.DistinctIds) {root : Device} {rootNode : StpNode Device}
    (found : state.enabledNodes.lookup device = some node) (isRoot : state.IsRootOf device root)
    (rootFound : state.enabledNodes.lookup root = some rootNode) :
    node.rootBridgeId = rootNode.bridgeId :=
  ((agrees_iff distinct found isRoot rootFound).mp (agrees device node found)).1

/-- Where both agree, no bridge is far: it would have a root port in the exchange of
BPDUs and none in the recomputation. -/
theorem StpState.AgreesWithTopology.near (agrees : state.AgreesWithTopology)
    (static : state.Static) (quiescent : state.Quiescent) (device : Device) :
    ¬ state.Far device := by
  rintro ⟨⟨root, isRoot⟩, far⟩
  obtain ⟨rootNode, rootFound, reached, _⟩ := id isRoot
  have different : device ≠ root := by
    rintro rfl
    rw [rootDistance_root static.distinct isRoot] at far
    exact absurd far (by decide)
  obtain ⟨next, linked⟩ : ∃ next, Linked state.enabledNodes device next := by
    obtain ⟨walk⟩ := reached
    cases walk with
    | nil => exact absurd rfl different
    | cons step _ => exact ⟨_, step.2⟩
  obtain ⟨node, peer, found, peerFound, ⟨port, member, rfl⟩, _⟩ := id linked
  obtain ⟨name, held⟩ := mem_values_iff.mp member
  have heard : Heard node port peer :=
    quiescent.heard static found held peerFound (agrees.unguarded static quiescent found held peerFound)
  have belief := agrees.root static.distinct found isRoot rootFound
  have peerBelief := agrees.root static.distinct peerFound
    (isRootOf_of_reachable isRoot linked.reachable) rootFound
  have offered : node.offer name port = some ⟨name, peer.rootPathCost + port.cost, peer.bridgeId⟩ :=
    offer_eq_some.mpr ⟨_, heard.received, peerBelief.trans belief.symm, rfl⟩
  cases best : node.bestPort with
  | none =>
    rw [bestPort_eq_argmin, argmin_eq_none] at best
    have inList : _ ∈ node.ports.entries.filterMap fun entry => node.offer entry.1 entry.2 :=
      mem_filterMap.mpr ⟨(name, port), mem_entries_iff.mpr held, offered⟩
    simp [best] at inList
  | some candidate =>
    have chosen := best
    rw [bestPort_eq_argmin] at chosen
    obtain ⟨⟨rootName, rootPort⟩, entry, rootOffer⟩ :=
      mem_filterMap.mp (argmin_mem chosen)
    obtain ⟨_, _, _, rfl⟩ := offer_eq_some.mp rootOffer
    have rootHeld := mem_entries_iff.mp entry
    have notRoot : node.rootBridgeId ≠ node.bridgeId := fun own =>
      different (static.distinct device root node rootNode found rootFound (own.symm.trans belief))
    have isRootPort : rootPort.role = .root := by
      rw [← heard.roleFor_eq rootHeld, StpNode.roleFor, if_neg notRoot, best]
      simp [Port.assign]
    obtain ⟨_, _, same⟩ :=
      (agrees_iff static.distinct found isRoot rootFound).mp (agrees device node found)
    have inValues := mem_values_iff.mpr ⟨rootName, rootHeld⟩
    have keeps := (outcome_root_iff static.distinct static.positive isRoot found inValues).mp
      ((same rootName rootPort rootHeld).1.symm.trans isRootPort)
    have live := (livePeer_iff_linked found inValues).mpr
      (static.linked device node found rootPort inValues).1
    rcases keeps with ⟨_, isParent⟩ | ⟨dead, _⟩
    · exact absurd (parent_spec isParent).2.1 (not_lt.mpr far)
    · simp [live] at dead

theorem settle_of_agrees (static : state.Static) (quiescent : state.Quiescent)
    (agrees : state.AgreesWithTopology) : state.BeliefsSettle := by
  have near := agrees.near static quiescent
  have isNear : ∀ device root, state.IsRootOf device root →
      state.rootDistance device < farDistance := fun device root isRoot =>
    not_le.mp fun far => near device ⟨⟨root, isRoot⟩, far⟩
  have cost : ∀ device node, state.enabledNodes.lookup device = some node →
      node.rootPathCost = state.rootDistance device := by
    intro device node found
    obtain ⟨root, isRoot⟩ := exists_root found
    obtain ⟨rootNode, rootFound, _⟩ := id isRoot
    have same :=
      ((agrees_iff static.distinct found isRoot rootFound).mp (agrees device node found)).2.1
    rw [same]
    exact if_pos (isNear device root isRoot)
  have informed : state.Informed :=
    { root := fun device node root rootNode found isRoot rootFound =>
        agrees.root static.distinct found isRoot rootFound
      cost := cost
      near := isNear
      heard := fun device node found name port held peer peerFound =>
        quiescent.heard static found held peerFound
          (agrees.unguarded static quiescent found held peerFound) }
  refine ⟨fun device node found name port held peer peerFound =>
    agrees.unguarded static quiescent found held peerFound, near, ?_, ?_⟩
  · intro device node found
    obtain ⟨root, isRoot⟩ := exists_root found
    obtain ⟨rootNode, rootFound, reached, least⟩ := id isRoot
    have belief := agrees.root static.distinct found isRoot rootFound
    refine ⟨root, rootNode, rootFound, reached, belief, ?_, ?_, ?_⟩
    · rw [belief]
      exact least device node (.refl _) found
    · rw [cost device node found]
      exact (isDistance_rootDistance static.distinct isRoot).walk
    · rintro rfl
      rw [cost root node found]
      exact rootDistance_root static.distinct isRoot
  · intro device next isParent
    obtain ⟨node, _, found, _⟩ := (parent_spec isParent).1
    obtain ⟨root, isRoot⟩ := exists_root found
    obtain ⟨rootNode, rootFound, _⟩ := id isRoot
    obtain ⟨_, _, same⟩ :=
      (agrees_iff static.distinct found isRoot rootFound).mp (agrees device node found)
    exact (informed.roles_iff static found isRoot).mp same next isParent

/-- In a static topology at rest, the exchange of BPDUs and the recomputation agree
exactly when the condition holds. -/
theorem agreesWithTopology_iff (static : state.Static) (quiescent : state.Quiescent) :
    state.AgreesWithTopology ↔ state.BeliefsSettle :=
  ⟨settle_of_agrees static quiescent, agrees_of_settle static quiescent⟩

end Agreement

/-! ## Checks -/

section Checks

variable {state : StpState Device}

theorem receiveBpdu_of_learned {receiver : Device} {msg : Bpdu Device} {name : String}
    {port : Port Device} (received : state.receivingPort receiver msg = some (name, port))
    (notEdge : state.isPortfast receiver name port = false)
    (notGuarded : state.isRootGuard receiver name port = false)
    (learned : ∀ node, state.nodes.lookup receiver = some node →
      (node.learn name port.cost msg).recomputePortRoles = node) :
    state.receiveBpdu receiver msg = state := by
  obtain ⟨node, found, enabled, arrives, _⟩ := receivingPort_some received
  simp only [receiveBpdu, found, enabled, arrives, notEdge, notGuarded, Bool.not_true,
    Bool.false_and, Bool.false_eq_true, if_false, modifyNode,
    modify_of_fixed learned]

def learnedFrom (state : StpState Device) (sender receiver : Device × StpNode Device) : Bool :=
  match state.receivingPort receiver.1 (sender.2.bpdu sender.1) with
  | none => true
  | some (name, port) => !state.isPortfast receiver.1 name port &&
      !state.isRootGuard receiver.1 name port &&
      decide ((receiver.2.learn name port.cost
        (sender.2.bpdu sender.1)).recomputePortRoles = receiver.2)

/-- Rest can be checked bridge by bridge. -/
theorem quiescent_of_check (check : ∀ sender ∈ state.enabledNodes.entries,
    ∀ receiver ∈ state.nodes.entries, learnedFrom state sender receiver = true) :
    state.Quiescent := by
  intro sender node receiver found
  cases received : state.receivingPort receiver (node.bpdu sender) with
  | none => exact receiveBpdu_of_none received
  | some entry =>
    obtain ⟨name, port⟩ := entry
    obtain ⟨receiverNode, receiverFound, _⟩ := receivingPort_some received
    have checked := check (sender, node) (mem_entries_iff.mpr found)
      (receiver, receiverNode) (mem_entries_iff.mpr receiverFound)
    obtain ⟨⟨notEdge, notGuarded⟩, learned⟩ : (state.isPortfast receiver name port = false ∧
        state.isRootGuard receiver name port = false) ∧
        (receiverNode.learn name port.cost (node.bpdu sender)).recomputePortRoles =
          receiverNode := by
      simpa [learnedFrom, received] using checked
    refine receiveBpdu_of_learned received notEdge notGuarded fun other otherFound => ?_
    cases receiverFound.symm.trans otherFound
    exact learned

theorem static_of_check (ids : (state.enabledNodes.values.map StpNode.bridgeId).Nodup)
    (ports : ∀ entry ∈ state.enabledNodes.entries,
      (entry.2.ports.entries.map fun held => held.2.connectedTo).Nodup ∧
      ∀ port ∈ entry.2.ports.values, 0 < port.cost ∧ port.connectedTo ≠ entry.1 ∧
        livePeer state.enabledNodes entry.1 port = true)
    (costs : ∀ left ∈ state.enabledNodes.entries, ∀ right ∈ state.enabledNodes.entries,
      ∀ leftPort ∈ left.2.ports.values, ∀ rightPort ∈ right.2.ports.values,
        leftPort.connectedTo = right.1 → rightPort.connectedTo = left.1 →
        leftPort.cost = rightPort.cost) : state.Static where
  distinct := distinctIds_of_nodup ids
  positive := fun device node found port member =>
    ((ports (device, node) (mem_entries_iff.mpr found)).2 port member).1
  linked := fun device node found port member => by
    obtain ⟨_, apart, live⟩ :=
      (ports (device, node) (mem_entries_iff.mpr found)).2 port member
    exact ⟨(livePeer_iff_linked found member).mp live, apart⟩
  single := fun device node found first second firstPort secondPort firstHeld secondHeld same => by
    have nodup := (ports (device, node) (mem_entries_iff.mpr found)).1
    exact congrArg Prod.fst (inj_on_of_nodup_map nodup
      (mem_entries_iff.mpr firstHeld) (mem_entries_iff.mpr secondHeld) same)
  sameCost := fun left right leftNode rightNode leftFound rightFound leftPort leftMember rightPort
      rightMember => costs (left, leftNode) (mem_entries_iff.mpr leftFound)
    (right, rightNode) (mem_entries_iff.mpr rightFound) leftPort leftMember rightPort
    rightMember

theorem agrees_of_check (check : ∀ entry ∈ state.enabledNodes.entries,
    (state.recomputeTopology.nodes.lookup entry.1).map
        (fun after => (after.rootBridgeId, after.rootPathCost)) =
      some (entry.2.rootBridgeId, entry.2.rootPathCost) ∧
    ∀ held ∈ entry.2.ports.entries, (portView state.recomputeTopology.nodes entry.1 held.1).map
        (fun view => (view.2.role, view.2.state)) = some (held.2.role, held.2.state)) :
    state.AgreesWithTopology := by
  intro device node found
  have checked := check (device, node) (mem_entries_iff.mpr found)
  cases afterFound : state.recomputeTopology.nodes.lookup device with
  | none => simp [afterFound] at checked
  | some after =>
    rw [afterFound] at checked
    obtain ⟨root, cost⟩ := Prod.mk.inj (Option.some.inj checked.1)
    refine ⟨after, rfl, root.symm, cost.symm, fun name port held => ?_⟩
    have same := checked.2 (name, port) (mem_entries_iff.mpr held)
    simp only [portView, afterFound, bind_some, Option.map_map] at same
    obtain ⟨portAfter, heldAfter, equal⟩ := map_eq_some_iff.mp same
    obtain ⟨role, portState⟩ := Prod.mk.inj equal
    exact ⟨portAfter, heldAfter, role.symm, portState.symm⟩

theorem StpState.AgreesWithTopology.role (agrees : state.AgreesWithTopology) {device : Device}
    {node : StpNode Device} (found : state.enabledNodes.lookup device = some node) (name : String)
    {role : PortRole} (hasRole : (node.ports.lookup name).map Port.role = some role) :
    (portView state.recomputeTopology.nodes device name).map (fun view => view.2.role) =
      some role := by
  obtain ⟨port, held, rfl⟩ := map_eq_some_iff.mp hasRole
  obtain ⟨after, afterFound, _, _, ports⟩ := agrees device node found
  obtain ⟨portAfter, heldAfter, same, _⟩ := ports name port held
  simp [portView, afterFound, heldAfter, same]

end Checks

/-! ## A square -/

/-- Bridges 1 and 2 are linked with the root 0 and with bridge 3, whose neighbours come
in the given order. -/
def squareNetwork (order : List Nat) : VirtualNetwork Nat where
  links := (((OrderedMap.empty.insert 0 [1, 2]).insert 1 [0, 3]).insert 2 [0, 3]).insert 3 order
  interfaceLinks := fun _ _ => none
  linkIfaces := fun _ _ => []
  downInterfaces := fun _ => []
  subifVlans := fun _ => []
  vlanPorts := fun _ => []
  deviceIps := .empty

/-- A BPDU of one bridge arrives at another. -/
def exchange (state : StpState Nat) (pair : Nat × Nat) : StpState Nat :=
  match state.enabledNodes.lookup pair.1 with
  | none => state
  | some node => step state (.receiveBpdu pair.2 (node.bpdu pair.1))

/-- The square after one BPDU over each link in each direction. -/
def square (order : List Nat) : StpState Nat :=
  let started := [0, 1, 2, 3].foldl (fun state device => step state (.start device .rstp 32768 1))
    { network := squareNetwork order
      mac := id }
  [(0, 1), (0, 2), (1, 3), (2, 3), (3, 1), (3, 2), (1, 0), (2, 0)].foldl exchange started

set_option maxRecDepth 100000 in
theorem square_static : (square [2, 1]).Static ∧ (square [1, 2]).Static :=
  ⟨static_of_check (by decide +kernel) (by decide +kernel) (by decide +kernel),
    static_of_check (by decide +kernel) (by decide +kernel) (by decide +kernel)⟩

set_option maxRecDepth 100000 in
theorem square_quiescent : (square [2, 1]).Quiescent ∧ (square [1, 2]).Quiescent :=
  ⟨quiescent_of_check (by decide +kernel), quiescent_of_check (by decide +kernel)⟩

set_option maxRecDepth 100000 in
/-- With bridge 2 first among its neighbours, bridge 3 has its root port towards bridge 1
after the exchange and towards bridge 2 after the recomputation. -/
theorem square_disagrees : ¬ (square [2, 1]).AgreesWithTopology := by
  intro agrees
  obtain ⟨node, found⟩ : ∃ node, (square [2, 1]).enabledNodes.lookup 3 = some node :=
    mem_keys_iff.mp (by decide +kernel)
  have isAlternate : (node.ports.lookup "ether 1").map Port.role = some .alternate := by
    have computed : ((square [2, 1]).enabledNodes.lookup 3).bind
        (fun node => (node.ports.lookup "ether 1").map Port.role) = some .alternate := by
      decide +kernel
    simpa [found] using computed
  exact absurd (agrees.role found "ether 1" isAlternate) (by decide +kernel)

/-- Two equal paths to the root are resolved differently by the two implementations. -/
theorem equal_paths_disagree : (square [2, 1]).Static ∧ (square [2, 1]).Quiescent ∧
    ¬ (square [2, 1]).AgreesWithTopology :=
  ⟨square_static.1, square_quiescent.1, square_disagrees⟩

set_option maxRecDepth 100000 in
/-- With bridge 1 first the condition holds. -/
theorem square_beliefs_settle : (square [1, 2]).BeliefsSettle :=
  (agreesWithTopology_iff square_static.2 square_quiescent.2).mp
    (agrees_of_check (by decide +kernel))

end NetLab.Stp
