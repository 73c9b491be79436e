import Mathlib.Combinatorics.SimpleGraph.Connectivity.Connected
import NetLab.Stp.Frame

/-!
# Outcome of the recomputation

The bridge graph joins enabled bridges with live ports in both directions. After
the recomputation every enabled bridge is settled with a root of its component,
that is, a bridge with the least identifier among those it is joined to, and every
other bridge is as it was.
-/

namespace NetLab.Stp

open NetLab.Library NetLab.Library.ShortestPaths NetLab.Network
open OrderedMap List

variable {Device : Type} [LinearOrder Device]

/-! ## The bridge graph -/

def StpState.adj (state : StpState Device) : Adjacency Device := adjacency state.enabledNodes

/-- Two enabled bridges have a port towards each other. -/
def Linked (enabled : OrderedMap Device (StpNode Device)) (left right : Device) : Prop :=
  ∃ leftNode rightNode, enabled.lookup left = some leftNode ∧
    enabled.lookup right = some rightNode ∧
    (∃ port ∈ leftNode.ports.values, port.connectedTo = right) ∧
    ∃ port ∈ rightNode.ports.values, port.connectedTo = left

variable {enabled : OrderedMap Device (StpNode Device)} {left right : Device}

theorem Linked.symm (linked : Linked enabled left right) : Linked enabled right left := by
  obtain ⟨leftNode, rightNode, leftFound, rightFound, forth, back⟩ := linked
  exact ⟨rightNode, leftNode, rightFound, leftFound, back, forth⟩

variable {device : Device} (comp : List Device)

theorem livePeer_iff {port : Port Device} : livePeer enabled device port = true ↔
      ∃ peer, enabled.lookup port.connectedTo = some peer ∧
        ∃ back ∈ peer.ports.values, back.connectedTo = device := by
  unfold livePeer
  cases enabled.lookup port.connectedTo with
  | none => simp
  | some peer => simp

theorem mem_neighbours_iff :
    right ∈ ((adjacency enabled).of left).keys ↔ Linked enabled left right := by
  rw [mem_adjacency_iff]
  constructor
  · rintro ⟨node, found, port, member, live, rfl⟩
    obtain ⟨peer, peerFound, back⟩ := livePeer_iff.mp live
    exact ⟨node, peer, found, peerFound, ⟨port, member, rfl⟩, back⟩
  · rintro ⟨node, peer, found, peerFound, ⟨port, member, rfl⟩, back⟩
    exact ⟨node, found, port, member, livePeer_iff.mpr ⟨peer, peerFound, back⟩, rfl⟩

theorem StpState.mem_adj_iff {state : StpState Device} :
    right ∈ (state.adj.of left).keys ↔ Linked state.enabledNodes left right :=
  mem_neighbours_iff

def StpState.bridgeGraph (state : StpState Device) : SimpleGraph Device where
  Adj left right := left ≠ right ∧ Linked state.enabledNodes left right
  symm := ⟨fun _ _ adjacent => ⟨adjacent.1.symm, adjacent.2.symm⟩⟩
  loopless := ⟨fun _ adjacent => adjacent.1 rfl⟩

theorem joined_iff {state : StpState Device} :
    Components.Joined (fun device => (state.adj.of device).keys) left right ↔
      state.bridgeGraph.Reachable left right := by
  rw [SimpleGraph.reachable_iff_reflTransGen]
  constructor
  · intro joined
    induction joined with
    | refl => exact .refl
    | @tail middle next _ step ih =>
      have linked : Linked state.enabledNodes middle next := mem_neighbours_iff.mp step
      by_cases same : middle = next
      · exact same ▸ ih
      · exact ih.tail ⟨same, linked⟩
  · intro reaches
    induction reaches with
    | refl => exact .refl
    | tail _ step ih => exact ih.tail (mem_neighbours_iff.mpr step.2)

theorem enabled_of_reachable {state : StpState Device}
    (reachable : state.bridgeGraph.Reachable left right) {node : StpNode Device}
    (found : state.enabledNodes.lookup left = some node) :
    ∃ other, state.enabledNodes.lookup right = some other := by
  obtain ⟨walk⟩ := reachable
  induction walk generalizing node with
  | nil => exact ⟨node, found⟩
  | cons step _ ih =>
    obtain ⟨_, next, _, nextFound, _, _⟩ := step.2
    exact ih nextFound

/-- The root of the component of a device: a bridge with the least identifier. -/
def StpState.IsRootOf (state : StpState Device) (device root : Device) : Prop :=
  ∃ rootNode, state.enabledNodes.lookup root = some rootNode ∧
    state.bridgeGraph.Reachable device root ∧
    ∀ other node, state.bridgeGraph.Reachable device other →
      state.enabledNodes.lookup other = some node →
      bidKey rootNode.bridgeId ≤ bidKey node.bridgeId

/-- Enabled bridges have pairwise distinct identifiers. -/
def StpState.DistinctIds (state : StpState Device) : Prop :=
  ∀ left right leftNode rightNode, state.enabledNodes.lookup left = some leftNode →
    state.enabledNodes.lookup right = some rightNode →
    leftNode.bridgeId = rightNode.bridgeId → left = right

theorem bidKey_injective : Function.Injective bidKey := by
  intro first second same
  have pairs : (first.priority, first.mac) = (second.priority, second.mac) := same
  cases first
  cases second
  simpa using pairs

theorem isRootOf_unique {state : StpState Device} (distinct : state.DistinctIds)
    {first second : Device} (left : state.IsRootOf device first)
    (right : state.IsRootOf device second) : first = second := by
  obtain ⟨firstNode, firstFound, firstReached, firstLeast⟩ := left
  obtain ⟨secondNode, secondFound, secondReached, secondLeast⟩ := right
  refine distinct first second firstNode secondNode firstFound secondFound (bidKey_injective ?_)
  exact le_antisymm (firstLeast second secondNode secondReached secondFound)
    (secondLeast first firstNode firstReached firstFound)

theorem isRootOf_of_reachable {state : StpState Device} {other root : Device}
    (isRoot : state.IsRootOf device root) (reachable : state.bridgeGraph.Reachable device other) :
    state.IsRootOf other root := by
  obtain ⟨rootNode, found, reached, least⟩ := isRoot
  exact ⟨rootNode, found, reachable.symm.trans reached,
    fun third node joined => least third node (reachable.trans joined)⟩

/-! ## One component -/

theorem leastBridge_spec :
    ∀ {best : Device} {bestNode : StpNode Device}, enabled.lookup best = some bestNode →
      (∀ device ∈ comp, ∃ node, enabled.lookup device = some node) →
      ∃ node, enabled.lookup (leastBridge enabled best comp) = some node ∧
        leastBridge enabled best comp ∈ best :: comp ∧
        bidKey node.bridgeId ≤ bidKey bestNode.bridgeId ∧
        ∀ device ∈ comp, ∀ other, enabled.lookup device = some other →
          bidKey node.bridgeId ≤ bidKey other.bridgeId := by
  induction comp with
  | nil =>
    intro best bestNode found _
    exact ⟨bestNode, found, mem_singleton_self best, le_rfl, by simp⟩
  | cons device comp ih =>
    intro best bestNode found allEnabled
    obtain ⟨deviceNode, deviceFound⟩ := allEnabled device mem_cons_self
    have later : ∀ other ∈ comp, ∃ node, enabled.lookup other = some node := fun other member =>
      allEnabled other (mem_cons_of_mem _ member)
    by_cases smaller : bidKey deviceNode.bridgeId < bidKey bestNode.bridgeId
    · have step : leastBridge enabled best (device :: comp) = leastBridge enabled device comp := by
        simp [leastBridge, deviceFound, found, smaller]
      obtain ⟨node, isFound, member, below, least⟩ := ih deviceFound later
      rw [step]
      refine ⟨node, isFound, mem_cons_of_mem _ member, below.trans smaller.le, ?_⟩
      intro other inside otherNode otherFound
      rcases mem_cons.mp inside with rfl | rest
      · cases deviceFound.symm.trans otherFound
        exact below
      · exact least other rest otherNode otherFound
    · have step : leastBridge enabled best (device :: comp) = leastBridge enabled best comp := by
        simp [leastBridge, deviceFound, found, smaller]
      obtain ⟨node, isFound, member, below, least⟩ := ih found later
      rw [step]
      refine ⟨node, isFound, ?_, below, ?_⟩
      · rcases mem_cons.mp member with same | rest
        · rw [same]
          exact mem_cons_self
        · exact mem_cons_of_mem _ (mem_cons_of_mem _ rest)
      · intro other inside otherNode otherFound
        rcases mem_cons.mp inside with rfl | rest
        · cases deviceFound.symm.trans otherFound
          exact below.trans (not_lt.mp smaller)
        · exact least other rest otherNode otherFound

theorem lookup_foldl_modify {update : Device → StpNode Device → StpNode Device} (device : Device) :
    ∀ {nodes : OrderedMap Device (StpNode Device)}, comp.Nodup →
      (comp.foldl (fun nodes other => nodes.modify other (update other)) nodes).lookup device =
        if device ∈ comp then (nodes.lookup device).map (update device)
        else nodes.lookup device := by
  induction comp with
  | nil => intro nodes _; simp
  | cons head comp ih =>
    intro nodes distinct
    obtain ⟨fresh, rest⟩ := nodup_cons.mp distinct
    rw [foldl_cons, ih rest, lookup_modify]
    by_cases same : device = head
    · subst same
      simp [fresh]
    · simp [same]

/-- What the recomputation makes of a bridge. -/
def StpState.settled (state : StpState Device) (root : Device) (rootNode : StpNode Device)
    (device : Device) (node : StpNode Device) : StpNode Device :=
  node.settle state.enabledNodes state.adj root rootNode.bridgeId
    (distancesFromRoot state.adj root) device

/-- A bridge is settled with a root of its component. -/
def StpState.SettledIn (state : StpState Device) (nodes : OrderedMap Device (StpNode Device))
    (device : Device) : Prop :=
  ∀ node, state.nodes.lookup device = some node → ∃ root rootNode, state.IsRootOf device root ∧
    state.enabledNodes.lookup root = some rootNode ∧
    nodes.lookup device = some (state.settled root rootNode device node)

/-! ## All components -/

/-- The neighbours of a bridge have no repetition and are mutual. -/
theorem neighbours_symm {state : StpState Device} (member : right ∈ (state.adj.of left).keys) :
    left ∈ (state.adj.of right).keys :=
  mem_neighbours_iff.mpr (mem_neighbours_iff.mp member).symm

theorem mem_enabled_keys {state : StpState Device} :
    device ∈ state.adj.keys ↔ ∃ node, state.enabledNodes.lookup device = some node := by
  rw [StpState.adj, adjacency, keys_mapValues, mem_keys_iff]

theorem collectComponent_spec {state : StpState Device} {seen : List Device} {start : Device}
    {startNode : StpNode Device} (enabled : state.enabledNodes.lookup start = some startNode)
    (unseen : start ∉ seen)
    (separate : ∀ device ∈ seen, ∀ peer ∈ (state.adj.of device).keys, peer ∈ seen) :
    (∀ device, device ∈ (collectComponent state.adj start seen).1 ↔
        state.bridgeGraph.Reachable start device) ∧
      (collectComponent state.adj start seen).1.Nodup ∧
      ∀ device, device ∈ (collectComponent state.adj start seen).2 ↔
        device ∈ seen ∨ state.bridgeGraph.Reachable start device := by
  have inside : ∀ device, Components.Joined (fun device => (state.adj.of device).keys) start device →
      device ∈ state.adj.keys := fun device joined =>
    mem_enabled_keys.mpr (enabled_of_reachable (joined_iff.mp joined) enabled)
  have found := Components.mem_collect (fun device => (state.adj.of device).keys_nodup)
    (fun _ _ member => neighbours_symm member) inside unseen separate (Nat.lt_succ_self _)
  simp only [joined_iff] at found
  exact found

/-- What holds between two components: what is seen is a union of components, whose
bridges are settled, and the others are as they were. -/
structure LoopInvariant (state : StpState Device) (seen : List Device)
    (nodes : OrderedMap Device (StpNode Device)) : Prop where
  separate : ∀ device ∈ seen, ∀ peer ∈ (state.adj.of device).keys, peer ∈ seen
  settled : ∀ device ∈ seen, state.SettledIn nodes device
  untouched : ∀ device, device ∉ seen → nodes.lookup device = state.nodes.lookup device

section

variable {state : StpState Device} {seen : List Device} {nodes : OrderedMap Device (StpNode Device)}
  (invariant : LoopInvariant state seen nodes)
include invariant

theorem LoopInvariant.closed (member : left ∈ seen)
    (reachable : state.bridgeGraph.Reachable left right) : right ∈ seen := by
  obtain ⟨walk⟩ := reachable
  induction walk with
  | nil => exact member
  | cons step _ ih => exact ih (invariant.separate _ member _ (mem_neighbours_iff.mpr step.2))

theorem LoopInvariant.component {start : Device} {startNode : StpNode Device}
    (enabled : state.enabledNodes.lookup start = some startNode) (unseen : start ∉ seen) :
    LoopInvariant state (collectComponent state.adj start seen).2
      (settleComponent state.enabledNodes state.adj start
        (collectComponent state.adj start seen).1 nodes) := by
  obtain ⟨component, distinct, seenAfter⟩ :=
    collectComponent_spec enabled unseen invariant.separate
  obtain ⟨rootNode, rootFound, rootMember, rootBelow, rootLeast⟩ :=
    leastBridge_spec (collectComponent state.adj start seen).1 enabled fun device member =>
      enabled_of_reachable ((component device).mp member) enabled
  have startMember : start ∈ (collectComponent state.adj start seen).1 :=
    (component start).mpr (.refl _)
  have isRoot : state.IsRootOf start
      (leastBridge state.enabledNodes start (collectComponent state.adj start seen).1) := by
    refine ⟨rootNode, rootFound, ?_, ?_⟩
    · refine (component _).mp ((mem_cons.mp rootMember).elim (fun same => ?_) id)
      rw [same]
      exact startMember
    · exact fun other node reachable => rootLeast other ((component other).mpr reachable) node
  have result : ∀ device, (settleComponent state.enabledNodes state.adj start
      (collectComponent state.adj start seen).1 nodes).lookup device =
      if device ∈ (collectComponent state.adj start seen).1 then
        (nodes.lookup device).map (state.settled (leastBridge state.enabledNodes start
          (collectComponent state.adj start seen).1) rootNode device)
      else nodes.lookup device := by
    intro device
    unfold settleComponent
    simp only [rootFound]
    exact lookup_foldl_modify _ device distinct
  refine ⟨?_, ?_, ?_⟩
  · intro device member peer isPeer
    rw [seenAfter] at member ⊢
    rcases member with old | reached
    · exact .inl (invariant.separate device old peer isPeer)
    · exact .inr (reached.trans (joined_iff.mp (.single isPeer)))
  · intro device member node found
    rcases (seenAfter device).mp member with old | reached
    · obtain ⟨root, oldRoot, rootOf, isFound, lookedUp⟩ := invariant.settled device old node found
      refine ⟨root, oldRoot, rootOf, isFound, ?_⟩
      have outside : device ∉ (collectComponent state.adj start seen).1 := fun isMember =>
        unseen (invariant.closed old ((component device).mp isMember).symm)
      rw [result, if_neg outside]
      exact lookedUp
    · have fresh : device ∉ seen := fun old => unseen (invariant.closed old reached.symm)
      refine ⟨_, rootNode, isRootOf_of_reachable isRoot reached, rootFound, ?_⟩
      rw [result, if_pos ((component device).mpr reached), invariant.untouched device fresh, found]
      rfl
  · intro device outside
    rw [seenAfter, not_or] at outside
    rw [result, if_neg fun member => outside.2 ((component device).mp member)]
    exact invariant.untouched device outside.1

end

theorem LoopInvariant.loop {state : StpState Device} (starts : List Device) :
    ∀ {seen : List Device} {nodes : OrderedMap Device (StpNode Device)},
      LoopInvariant state seen nodes →
      (∀ start ∈ starts, ∃ node, state.enabledNodes.lookup start = some node) →
      ∃ allSeen, LoopInvariant state allSeen
          (recomputeLoop state.enabledNodes state.adj starts seen nodes) ∧
        (∀ start ∈ starts, start ∈ allSeen) ∧ (∀ device ∈ seen, device ∈ allSeen) ∧
        ∀ device ∈ allSeen, device ∈ seen ∨ ∃ node, state.enabledNodes.lookup device = some node := by
  induction starts with
  | nil =>
    intro seen nodes invariant _
    exact ⟨seen, invariant, by simp, fun _ member => member, fun _ member => .inl member⟩
  | cons start starts ih =>
    intro seen nodes invariant allEnabled
    obtain ⟨startNode, enabled⟩ := allEnabled start mem_cons_self
    have later : ∀ other ∈ starts, ∃ node, state.enabledNodes.lookup other = some node :=
      fun other member => allEnabled other (mem_cons_of_mem _ member)
    unfold recomputeLoop
    split_ifs with known
    · obtain ⟨allSeen, final, covers, keeps, only⟩ := ih invariant later
      refine ⟨allSeen, final, ?_, keeps, only⟩
      intro other member
      rcases mem_cons.mp member with same | rest
      · exact same ▸ keeps start known
      · exact covers other rest
    · obtain ⟨_, _, seenAfter⟩ := collectComponent_spec enabled known invariant.separate
      obtain ⟨allSeen, final, covers, keeps, only⟩ := ih (invariant.component enabled known) later
      refine ⟨allSeen, final, ?_, ?_, ?_⟩
      · intro other member
        rcases mem_cons.mp member with same | rest
        · exact same ▸ keeps start ((seenAfter start).mpr (.inr (.refl _)))
        · exact covers other rest
      · exact fun device member => keeps device ((seenAfter device).mpr (.inl member))
      · intro device member
        rcases only device member with isSeen | isEnabled
        · exact ((seenAfter device).mp isSeen).imp_right fun reached =>
            enabled_of_reachable reached enabled
        · exact .inr isEnabled

theorem lookup_enabledNodes {state : StpState Device} {node : StpNode Device} :
    state.enabledNodes.lookup device = some node ↔
      state.nodes.lookup device = some node ∧ node.enabled = true := by
  rw [StpState.enabledNodes, lookup_filter]
  exact Option.filter_eq_some_iff

/-- The outcome of the recomputation: an enabled bridge is settled with a root of its
component, any other bridge is as it was. -/
theorem lookup_recomputeTopology (state : StpState Device) (device : Device) :
    (∀ node, state.enabledNodes.lookup device = some node → ∃ root rootNode,
      state.IsRootOf device root ∧ state.enabledNodes.lookup root = some rootNode ∧
      state.recomputeTopology.nodes.lookup device =
        some (state.settled root rootNode device node)) ∧
    (state.enabledNodes.lookup device = none →
      state.recomputeTopology.nodes.lookup device = state.nodes.lookup device) := by
  have initially : LoopInvariant state [] state.nodes :=
    ⟨by simp, by simp, fun _ _ => rfl⟩
  obtain ⟨allSeen, final, covers, _, only⟩ := initially.loop state.enabledNodes.keys
    fun start member => mem_keys_iff.mp member
  constructor
  · intro node found
    have member := covers device (mem_keys_iff.mpr ⟨node, found⟩)
    exact final.settled device member node (lookup_enabledNodes.mp found).1
  · intro missing
    refine final.untouched device fun member => ?_
    rcases only device member with nothing | ⟨node, found⟩
    · exact not_mem_nil nothing
    · simp [missing] at found

end NetLab.Stp
