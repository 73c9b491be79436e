import NetLab.Library.ParentForest
import NetLab.Stp.RootDistance

/-!
# Forwarding links after the recomputation

A link forwards when ports forward at both of its ends. After the recomputation the
forwarding links are those between bridges and their parents, and the links of
bridges too far from the root. They form a spanning forest with one root port for
each bridge exactly when the input meets `Converges`.
-/

namespace NetLab.Stp

open NetLab.Library NetLab.Library.ShortestPaths NetLab.Network StpState
open OrderedMap List Function

variable {Device : Type} [LinearOrder Device]

/-! ## Forwarding links and root ports -/

def StpState.portsOf (state : StpState Device) (device : Device) : List (Port Device) :=
  ((state.enabledNodes.lookup device).map fun node => node.ports.values).getD []

/-- Number of ports of an enabled bridge that lead to a device. -/
def StpState.portsTo (state : StpState Device) (left right : Device) : Nat :=
  (state.portsOf left).countP fun port => decide (port.connectedTo = right)

def StpState.forwardingPorts (state : StpState Device) (left right : Device) : Nat :=
  (state.portsOf left).countP fun port =>
    decide (port.connectedTo = right ∧ port.state = .forwarding)

/-- Number of root ports of an enabled bridge. -/
def StpState.rootPorts (state : StpState Device) (device : Device) : Nat :=
  (state.portsOf device).countP fun port => decide (port.role = .root)

/-- Bridges joined by a link that forwards at both ends. -/
def StpState.forwardingGraph (state : StpState Device) : SimpleGraph Device where
  Adj left right := left ≠ right ∧ 0 < state.forwardingPorts left right ∧
    0 < state.forwardingPorts right left
  symm := ⟨fun _ _ adjacent => ⟨adjacent.1.symm, adjacent.2.2, adjacent.2.1⟩⟩
  loopless := ⟨fun _ adjacent => adjacent.1 rfl⟩

/-- The forwarding links of `after` form a forest that spans the components of the
bridge graph of `before`; every bridge has one root port, the root of a component
none. -/
structure SpansForest (before after : StpState Device) : Prop where
  acyclic : after.forwardingGraph.IsAcyclic
  single : ∀ left right, left ≠ right →
    min (after.forwardingPorts left right) (after.forwardingPorts right left) ≤ 1
  noLoop : ∀ device, after.forwardingPorts device device = 0
  spans : ∀ left right, before.bridgeGraph.Reachable left right →
    after.forwardingGraph.Reachable left right
  rootPort : ∀ device root, before.IsRootOf device root → device ≠ root → after.rootPorts device = 1
  noRootPort : ∀ root, before.IsRootOf root root → after.rootPorts root = 0

/-! ## The condition -/

/-- A bridge whose distance from the root is not below the constant. -/
def StpState.Far (state : StpState Device) (device : Device) : Prop :=
  (∃ root, state.IsRootOf device root) ∧ farDistance ≤ state.rootDistance device

def StpState.treeLinks (state : StpState Device) : SimpleGraph Device where
  Adj left right := left ≠ right ∧ Linked state.enabledNodes left right ∧
    (state.parent left = some right ∨ state.parent right = some left ∨
      ((state.Far left ∨ state.Far right) ∧ ¬ state.IsRootOf left left ∧
        ¬ state.IsRootOf right right))
  symm := ⟨by
    rintro left right ⟨different, linked, rest⟩
    refine ⟨different.symm, linked.symm, ?_⟩
    tauto⟩
  loopless := ⟨fun _ adjacent => adjacent.1 rfl⟩

/-- A port whose role is, or stays, that of a root port: it leads to the parent over a
live link, or it is not live and has the role already. -/
def StpState.KeepsRootRole (state : StpState Device) (device : Device) (port : Port Device) :
    Prop :=
  (livePeer state.enabledNodes device port = true ∧ state.parent device = some port.connectedTo) ∨
    (livePeer state.enabledNodes device port = false ∧ port.role = .root)

open Classical in
/-- When the recomputation builds a spanning forest. -/
structure StpState.Converges (state : StpState Device) : Prop where
  noLoop : ∀ device, state.portsTo device device = 0
  rootPort : ∀ device root, state.IsRootOf device root → device ≠ root →
    (state.portsOf device).countP (fun port => decide (state.KeepsRootRole device port)) = 1
  noRootPort : ∀ root, state.IsRootOf root root → ∀ port ∈ state.portsOf root,
    livePeer state.enabledNodes root port = false → port.role ≠ .root
  tree : ((∀ device, ¬ state.Far device) ∧
      ∀ device root, state.IsRootOf device root → device ≠ root → state.parent device ≠ none) ∨
    ((∃ device, state.Far device) ∧ state.treeLinks.IsAcyclic ∧
      (∀ left right, state.treeLinks.Adj left right →
        min (state.portsTo left right) (state.portsTo right left) ≤ 1) ∧
      ∀ left right, state.bridgeGraph.Reachable left right → state.treeLinks.Reachable left right)

/-! ## Ports after the recomputation -/

theorem values_mapValues {V W : Type} (map : OrderedMap String V) (update : V → W) :
    (map.mapValues fun _ value => update value).values = map.values.map update := by
  simp [OrderedMap.values, OrderedMap.mapValues, comp_def]

section

variable {state : StpState Device} {device root : Device} {node : StpNode Device}
  (distinct : state.DistinctIds) (isRoot : state.IsRootOf device root)
  (found : state.enabledNodes.lookup device = some node)
include distinct isRoot found

theorem enabledNodes_recomputeTopology {rootNode : StpNode Device}
    (rootFound : state.enabledNodes.lookup root = some rootNode) :
    state.recomputeTopology.enabledNodes.lookup device =
      some (state.settled root rootNode device node) := by
  obtain ⟨other, otherNode, isOther, otherFound, settled⟩ :=
    (lookup_recomputeTopology state device).1 node found
  have same := isRootOf_unique distinct isOther isRoot
  subst same
  cases rootFound.symm.trans otherFound
  exact lookup_enabledNodes.mpr ⟨settled, (lookup_enabledNodes.mp found).2⟩

theorem portsOf_recomputeTopology :
    state.recomputeTopology.portsOf device = (state.portsOf device).map
      (settlePort state.enabledNodes state.adj root (distancesFromRoot state.adj root) device
        node.bridgeId) := by
  obtain ⟨rootNode, rootFound, _⟩ := id isRoot
  unfold portsOf
  rw [enabledNodes_recomputeTopology distinct isRoot found rootFound, found]
  exact values_mapValues _ _

end

theorem portsOf_of_disabled {state : StpState Device} {device : Device}
    (missing : state.enabledNodes.lookup device = none) :
    state.recomputeTopology.portsOf device = [] := by
  have same := (lookup_recomputeTopology state device).2 missing
  have gone : state.recomputeTopology.enabledNodes.lookup device = none := by
    rw [enabledNodes, lookup_filter, same]
    rwa [enabledNodes, lookup_filter] at missing
  simp [portsOf, gone]

theorem exists_root {state : StpState Device} {device : Device} {node : StpNode Device}
    (found : state.enabledNodes.lookup device = some node) :
    ∃ root, state.IsRootOf device root := by
  obtain ⟨root, _, isRoot, _⟩ := (lookup_recomputeTopology state device).1 node found
  exact ⟨root, isRoot⟩

/-! ## Outcome at a port -/

/-- The cost a bridge compares with: the constant never enters here. -/
noncomputable def StpState.ownCost (state : StpState Device) (device : Device) : Nat :=
  if state.rootDistance device < farDistance then state.rootDistance device else 0

/-- The first bridge has the lesser identifier. -/
def StpState.Outranks (state : StpState Device) (first second : Device) : Prop :=
  ∃ firstNode secondNode, state.enabledNodes.lookup first = some firstNode ∧
    state.enabledNodes.lookup second = some secondNode ∧
    bidKey firstNode.bridgeId < bidKey secondNode.bridgeId

/-- The first bridge finds the second one nearer to the root, or as near and superior. -/
def StpState.Yields (state : StpState Device) (left right : Device) : Prop :=
  min (state.rootDistance right) farDistance < state.ownCost left ∨
    (min (state.rootDistance right) farDistance = state.ownCost left ∧ state.Outranks right left)

/-- The ports of the first bridge towards the second one forward. -/
def StpState.Opens (state : StpState Device) (left right : Device) : Prop :=
  state.IsRootOf left left ∨ state.parent left = some right ∨ ¬ state.Yields left right

section Outcome

variable {state : StpState Device} {device root : Device} {node : StpNode Device}
  {port : Port Device}

abbrev outcome (state : StpState Device) (root device : Device) (node : StpNode Device)
    (port : Port Device) : Port Device :=
  settlePort state.enabledNodes state.adj root (distancesFromRoot state.adj root) device
    node.bridgeId port

theorem livePeer_iff_linked (found : state.enabledNodes.lookup device = some node)
    (member : port ∈ node.ports.values) :
    livePeer state.enabledNodes device port = true ↔
      Linked state.enabledNodes device port.connectedTo := by
  rw [livePeer_iff]
  constructor
  · rintro ⟨peer, peerFound, back⟩
    exact ⟨node, peer, found, peerFound, ⟨port, member, rfl⟩, back⟩
  · rintro ⟨_, peer, _, peerFound, _, back⟩
    exact ⟨peer, peerFound, back⟩

theorem outcome_of_not_linked (apart : ¬ Linked state.enabledNodes device port.connectedTo) :
    outcome state root device node port = port := by
  unfold outcome settlePort
  rw [if_pos (mt mem_adj_iff.mp apart)]

theorem outcome_root (linked : Linked state.enabledNodes root port.connectedTo) :
    outcome state root root node port = port.assign .designated .forwarding := by
  unfold outcome settlePort
  rw [if_neg (not_not_intro (mem_adj_iff.mpr linked)), if_pos rfl]

section

variable (distinct : state.DistinctIds) (isRoot : state.IsRootOf device root)
include distinct isRoot

theorem outcome_parent (different : device ≠ root)
    (linked : Linked state.enabledNodes device port.connectedTo)
    (isParent : state.parent device = some port.connectedTo) :
    outcome state root device node port = port.assign .root .forwarding := by
  unfold outcome settlePort linkRole
  rw [if_neg (not_not_intro (mem_adj_iff.mpr linked)), if_neg different,
    toward_eq_parent distinct isRoot, if_pos isParent]

theorem outcome_other (found : state.enabledNodes.lookup device = some node)
    (different : device ≠ root) (linked : Linked state.enabledNodes device port.connectedTo)
    (other : state.parent device ≠ some port.connectedTo) :
    (state.Yields device port.connectedTo →
      outcome state root device node port = port.assign .alternate .blocking) ∧
    (¬ state.Yields device port.connectedTo →
      outcome state root device node port = port.assign .designated .forwarding) := by
  have neighbour : port.connectedTo ∈ (state.adj.of device).keys :=
    mem_adj_iff.mpr linked
  have isRootThere : state.IsRootOf port.connectedTo root :=
    isRootOf_of_reachable isRoot (joined_iff.mp (.single neighbour))
  obtain ⟨_, peer, _, peerFound, _⟩ := linked
  have ownCost : ((distancesFromRoot state.adj root).lookup device).getD 0 =
      state.ownCost device := by
    rw [lookup_distancesFromRoot distinct isRoot]
    unfold ownCost
    split_ifs <;> rfl
  have outranks : state.Outranks port.connectedTo device ↔
      bidKey peer.bridgeId < bidKey node.bridgeId := by
    constructor
    · rintro ⟨first, second, firstFound, secondFound, less⟩
      cases firstFound.symm.trans peerFound
      cases secondFound.symm.trans found
      exact less
    · exact fun less => ⟨peer, node, peerFound, found, less⟩
  unfold outcome settlePort linkRole
  rw [if_neg (not_not_intro neighbour), if_neg different, toward_eq_parent distinct isRoot,
    if_neg other]
  simp only [distanceTo_eq distinct isRootThere, ownCost, peerFound, StpState.Yields, outranks,
    Bool.or_eq_true, Bool.and_eq_true, beq_iff_eq, decide_eq_true_eq]
  constructor
  · exact fun yields => if_pos yields
  · exact fun stays => if_neg stays

theorem outcome_forwarding_iff (found : state.enabledNodes.lookup device = some node)
    (linked : Linked state.enabledNodes device port.connectedTo) :
    (outcome state root device node port).state = .forwarding ↔
      state.Opens device port.connectedTo := by
  by_cases same : device = root
  · subst same
    rw [outcome_root linked]
    exact ⟨fun _ => .inl isRoot, fun _ => rfl⟩
  · have notRoot : ¬ state.IsRootOf device device := fun own =>
      same (isRootOf_unique distinct own isRoot)
    by_cases isParent : state.parent device = some port.connectedTo
    · rw [outcome_parent distinct isRoot same linked isParent]
      exact ⟨fun _ => .inr (.inl isParent), fun _ => rfl⟩
    · obtain ⟨blocks, opens⟩ := outcome_other distinct isRoot found same linked isParent
      by_cases yields : state.Yields device port.connectedTo
      · rw [blocks yields]
        simp [Port.assign, StpState.Opens, notRoot, isParent, yields]
      · rw [opens yields]
        exact ⟨fun _ => .inr (.inr yields), fun _ => rfl⟩

end

theorem outcome_root_iff (distinct : state.DistinctIds) (positive : state.PositiveCosts)
    (isRoot : state.IsRootOf device root) (found : state.enabledNodes.lookup device = some node)
    (member : port ∈ node.ports.values) :
    (outcome state root device node port).role = .root ↔ state.KeepsRootRole device port := by
  unfold StpState.KeepsRootRole
  by_cases linked : Linked state.enabledNodes device port.connectedTo
  · have live := (livePeer_iff_linked found member).mpr linked
    simp only [live, true_and, Bool.true_eq_false, false_and, or_false]
    by_cases same : device = root
    · subst same
      rw [outcome_root linked]
      have none : state.parent device ≠ some port.connectedTo := by
        intro isParent
        have nearer := rootDistance_parent positive isParent
        rw [rootDistance_root distinct isRoot] at nearer
        omega
      simp [Port.assign, none]
    · by_cases isParent : state.parent device = some port.connectedTo
      · rw [outcome_parent distinct isRoot same linked isParent]
        simp [Port.assign, isParent]
      · obtain ⟨blocks, opens⟩ := outcome_other distinct isRoot found same linked isParent
        by_cases yields : state.Yields device port.connectedTo
        · rw [blocks yields]
          simp [Port.assign, isParent]
        · rw [opens yields]
          simp [Port.assign, isParent]
  · have dead : livePeer state.enabledNodes device port = false := by
      rw [← Bool.not_eq_true, livePeer_iff_linked found member]
      exact linked
    rw [outcome_of_not_linked linked]
    simp [dead]

end Outcome

/-! ## Links that forward at both ends -/

section Links

variable {state : StpState Device} {left right root : Device}

theorem Linked.reachable (linked : Linked state.enabledNodes left right) :
    state.bridgeGraph.Reachable left right :=
  joined_iff.mp (.single (mem_adj_iff.mpr linked))

theorem outranks_total (distinct : state.DistinctIds)
    (linked : Linked state.enabledNodes left right) (different : left ≠ right) :
    state.Outranks left right ∨ state.Outranks right left := by
  obtain ⟨leftNode, rightNode, leftFound, rightFound, _⟩ := linked
  rcases lt_trichotomy (bidKey leftNode.bridgeId) (bidKey rightNode.bridgeId) with less | same | more
  · exact .inl ⟨_, _, leftFound, rightFound, less⟩
  · exact absurd (distinct left right _ _ leftFound rightFound (bidKey_injective same)) different
  · exact .inr ⟨_, _, rightFound, leftFound, more⟩

theorem Outranks.asymm (outranks : state.Outranks left right) : ¬ state.Outranks right left := by
  rintro ⟨_, _, found, found', less⟩
  obtain ⟨_, _, leftFound, rightFound, less'⟩ := outranks
  cases leftFound.symm.trans found'
  cases rightFound.symm.trans found
  exact lt_asymm less less'

theorem not_outranks_root (isRoot : state.IsRootOf right root)
    (outranks : state.Outranks right root) : False := by
  obtain ⟨rootNode, rootFound, _, least⟩ := isRoot
  obtain ⟨node, other, found, otherFound, less⟩ := outranks
  cases rootFound.symm.trans otherFound
  exact absurd (least right node (.refl _) found) (not_le.mpr less)

theorem isRootOf_self_iff (distinct : state.DistinctIds) (isRoot : state.IsRootOf left root) :
    state.IsRootOf left left ↔ left = root := by
  constructor
  · exact fun own => isRootOf_unique distinct own isRoot
  · rintro rfl
    exact isRoot

theorem far_iff (isRoot : state.IsRootOf left root) :
    state.Far left ↔ farDistance ≤ state.rootDistance left :=
  ⟨fun far => far.2, fun far => ⟨⟨root, isRoot⟩, far⟩⟩

/-- Of two linked bridges the one that is farther, or as far and outranked, opens the
link only towards its parent, and the other one opens it. -/
theorem opens_of_nearer (distinct : state.DistinctIds)
    (isRoot : state.IsRootOf left root) (isRootThere : state.IsRootOf right root)
    (near : state.rootDistance left < farDistance)
    (nearer : state.rootDistance right < state.rootDistance left ∨
      (state.rootDistance right = state.rootDistance left ∧ state.Outranks right left)) :
    (state.Opens left right ↔ state.parent left = some right) ∧ state.Opens right left := by
  have notRoot : ¬ state.IsRootOf left left := by
    rw [isRootOf_self_iff distinct isRoot]
    rintro rfl
    rw [rootDistance_root distinct isRoot] at nearer
    rcases nearer with less | ⟨_, outranks⟩
    · omega
    · exact not_outranks_root isRootThere outranks
  have rightNear : state.rootDistance right < farDistance := by omega
  have yields : state.Yields left right := by
    simpa [StpState.Yields, ownCost, near, min_eq_left rightNear.le] using nearer
  have stays : ¬ state.Yields right left := by
    simp only [StpState.Yields, ownCost, rightNear, if_true, min_eq_left near.le]
    rintro (less | ⟨same, outranks⟩)
    · omega
    · rcases nearer with less | ⟨_, other⟩
      · omega
      · exact Outranks.asymm other outranks
  refine ⟨⟨fun opens => ?_, fun isParent => .inr (.inl isParent)⟩, .inr (.inr stays)⟩
  rcases opens with own | isParent | stands
  · exact absurd own notRoot
  · exact isParent
  · exact absurd yields stands

theorem opens_of_far (distinct : state.DistinctIds) (positive : state.PositiveCosts)
    (isRoot : state.IsRootOf left root) (isRootThere : state.IsRootOf right root)
    (linked : Linked state.enabledNodes left right) (different : left ≠ right)
    (far : farDistance ≤ state.rootDistance left) :
    (state.Opens left right ↔ right ≠ root) ∧ (right ≠ root → state.Opens right left) := by
  have notRoot : left ≠ root := by
    rintro rfl
    rw [rootDistance_root distinct isRoot] at far
    exact absurd far (by decide)
  have cost : state.ownCost left = 0 := if_neg (not_lt.mpr far)
  have noParent : state.parent left ≠ some right := fun isParent =>
    absurd (parent_spec isParent).2.1 (not_lt.mpr far)
  constructor
  · constructor
    · rintro opens rfl
      have yields : state.Yields left right := by
        refine .inr ⟨by simp [cost, rootDistance_root distinct isRootThere], ?_⟩
        exact (outranks_total distinct linked different).resolve_left fun outranks =>
          not_outranks_root isRoot outranks
      rcases opens with own | isParent | stands
      · exact notRoot ((isRootOf_self_iff distinct isRoot).mp own)
      · exact noParent isParent
      · exact stands yields
    · intro other
      have distance := rootDistance_pos distinct positive isRootThere other
      have bound : 0 < farDistance := by decide
      refine .inr (.inr ?_)
      simp only [StpState.Yields, cost]
      omega
  · intro other
    have distance := rootDistance_pos distinct positive isRootThere other
    have bound : 0 < farDistance := by decide
    refine .inr (.inr ?_)
    simp only [StpState.Yields, ownCost, min_eq_right far]
    split_ifs <;> omega

theorem opens_both_iff (distinct : state.DistinctIds) (positive : state.PositiveCosts)
    (linked : Linked state.enabledNodes left right) (different : left ≠ right) :
    state.Opens left right ∧ state.Opens right left ↔
      state.parent left = some right ∨ state.parent right = some left ∨
        ((state.Far left ∨ state.Far right) ∧ ¬ state.IsRootOf left left ∧
          ¬ state.IsRootOf right right) := by
  obtain ⟨leftNode, _, leftFound, _⟩ := id linked
  obtain ⟨root, isRoot⟩ := exists_root leftFound
  have isRootThere := isRootOf_of_reachable isRoot linked.reachable
  rw [far_iff isRoot, far_iff isRootThere, isRootOf_self_iff distinct isRoot,
    isRootOf_self_iff distinct isRootThere]
  have notFarRoot : ∀ {device : Device}, state.IsRootOf device root →
      farDistance ≤ state.rootDistance device → device ≠ root := by
    rintro device own far rfl
    rw [rootDistance_root distinct own] at far
    exact absurd far (by decide)
  have nearParent : ∀ {child next : Device}, state.parent child = some next →
      state.rootDistance child < farDistance ∧
        state.rootDistance next < state.rootDistance child := fun isParent =>
    ⟨(parent_spec isParent).2.1, rootDistance_parent positive isParent⟩
  by_cases leftFar : farDistance ≤ state.rootDistance left
  · obtain ⟨opens, back⟩ := opens_of_far distinct positive isRoot isRootThere linked different leftFar
    have notRoot := notFarRoot isRoot leftFar
    constructor
    · exact fun both => .inr (.inr ⟨.inl leftFar, notRoot, opens.mp both.1⟩)
    · rintro (up | down | ⟨_, _, other⟩)
      · have := nearParent up
        omega
      · have := nearParent down
        omega
      · exact ⟨opens.mpr other, back other⟩
  · by_cases rightFar : farDistance ≤ state.rootDistance right
    · obtain ⟨opens, back⟩ :=
        opens_of_far distinct positive isRootThere isRoot linked.symm different.symm rightFar
      have notRoot := notFarRoot isRootThere rightFar
      constructor
      · exact fun both => .inr (.inr ⟨.inr rightFar, opens.mp both.2, notRoot⟩)
      · rintro (up | down | ⟨_, other, _⟩)
        · have := nearParent up
          omega
        · have := nearParent down
          omega
        · exact ⟨back other, opens.mpr other⟩
    · have notFar : ¬ (farDistance ≤ state.rootDistance left ∨
          farDistance ≤ state.rootDistance right) := not_or.mpr ⟨leftFar, rightFar⟩
      simp only [notFar, false_and, or_false]
      by_cases nearer : state.rootDistance right < state.rootDistance left ∨
          (state.rootDistance right = state.rootDistance left ∧ state.Outranks right left)
      · obtain ⟨opens, back⟩ :=
          opens_of_nearer distinct isRoot isRootThere (not_le.mp leftFar) nearer
        have notDown : state.parent right ≠ some left := fun down => by
          have := nearParent down
          omega
        simp [opens, back, notDown]
      · have farther : state.rootDistance left < state.rootDistance right ∨
            (state.rootDistance left = state.rootDistance right ∧ state.Outranks left right) := by
          rcases lt_trichotomy (state.rootDistance left) (state.rootDistance right)
            with less | same | more
          · exact .inl less
          · refine .inr ⟨same, (outranks_total distinct linked different).resolve_right ?_⟩
            exact fun outranks => nearer (.inr ⟨same.symm, outranks⟩)
          · exact absurd (.inl more) nearer
        obtain ⟨opens, back⟩ :=
          opens_of_nearer distinct isRootThere isRoot (not_le.mp rightFar) farther
        have notUp : state.parent left ≠ some right := fun up => by
          have := nearParent up
          omega
        simp [opens, back, notUp]

theorem connectedTo_settlePort (enabled : OrderedMap Device (StpNode Device))
    (adj : Adjacency Device) (root : Device) (dist : Distances Device) (device : Device)
    (bid : BridgeId) (port : Port Device) :
    (settlePort enabled adj root dist device bid port).connectedTo = port.connectedTo := by
  unfold settlePort linkRole
  dsimp only
  split_ifs <;> rfl

theorem forwardingPorts_recomputeTopology (distinct : state.DistinctIds)
    (linked : Linked state.enabledNodes left right) :
    (state.Opens left right →
      state.recomputeTopology.forwardingPorts left right = state.portsTo left right) ∧
    (¬ state.Opens left right → state.recomputeTopology.forwardingPorts left right = 0) := by
  obtain ⟨node, _, found, _⟩ := id linked
  obtain ⟨root, isRoot⟩ := exists_root found
  have outcome_iff : ∀ port : Port Device, port.connectedTo = right →
      ((outcome state root left node port).state = .forwarding ↔ state.Opens left right) := by
    rintro port rfl
    exact outcome_forwarding_iff distinct isRoot found linked
  unfold forwardingPorts portsTo
  rw [portsOf_recomputeTopology distinct isRoot found, countP_map]
  constructor
  · intro opens
    refine countP_congr fun port _ => ?_
    simp only [comp_apply, connectedTo_settlePort, decide_eq_true_eq]
    exact ⟨fun both => both.1, fun towards => ⟨towards, (outcome_iff port towards).mpr opens⟩⟩
  · intro closed
    rw [countP_eq_zero]
    intro port _
    simp only [comp_apply, connectedTo_settlePort, decide_eq_true_eq]
    exact fun both => closed ((outcome_iff port both.1).mp both.2)

theorem port_of_forwardingPorts (distinct : state.DistinctIds)
    (positive : 0 < state.recomputeTopology.forwardingPorts left right) :
    ∃ node, state.enabledNodes.lookup left = some node ∧
      ∃ port ∈ node.ports.values, port.connectedTo = right := by
  cases found : state.enabledNodes.lookup left with
  | none => simp [forwardingPorts, portsOf_of_disabled found] at positive
  | some node =>
    obtain ⟨root, isRoot⟩ := exists_root found
    unfold forwardingPorts at positive
    rw [portsOf_recomputeTopology distinct isRoot found, countP_map, countP_pos_iff] at positive
    obtain ⟨port, member, both⟩ := positive
    simp only [comp_apply, connectedTo_settlePort, decide_eq_true_eq] at both
    exact ⟨node, rfl, port, by simpa [portsOf, found] using member, both.1⟩

theorem linked_of_forwardingPorts (distinct : state.DistinctIds)
    (forth : 0 < state.recomputeTopology.forwardingPorts left right)
    (back : 0 < state.recomputeTopology.forwardingPorts right left) :
    Linked state.enabledNodes left right := by
  obtain ⟨leftNode, leftFound, leftPort⟩ := port_of_forwardingPorts distinct forth
  obtain ⟨rightNode, rightFound, rightPort⟩ := port_of_forwardingPorts distinct back
  exact ⟨leftNode, rightNode, leftFound, rightFound, leftPort, rightPort⟩

theorem portsTo_pos (linked : Linked state.enabledNodes left right) :
    0 < state.portsTo left right := by
  obtain ⟨node, _, found, _, ⟨port, member, towards⟩, _⟩ := linked
  unfold portsTo
  rw [countP_pos_iff]
  exact ⟨port, by simpa [portsOf, found] using member, by simpa using towards⟩

theorem forwardingGraph_recomputeTopology (distinct : state.DistinctIds)
    (positive : state.PositiveCosts) :
    state.recomputeTopology.forwardingGraph = state.treeLinks := by
  ext left right
  constructor
  · rintro ⟨different, forth, back⟩
    have linked := linked_of_forwardingPorts distinct forth back
    refine ⟨different, linked, (opens_both_iff distinct positive linked different).mp ⟨?_, ?_⟩⟩
    · by_contra closed
      rw [(forwardingPorts_recomputeTopology distinct linked).2 closed] at forth
      exact lt_irrefl 0 forth
    · by_contra closed
      rw [(forwardingPorts_recomputeTopology distinct linked.symm).2 closed] at back
      exact lt_irrefl 0 back
  · rintro ⟨different, linked, isTree⟩
    obtain ⟨forth, back⟩ := (opens_both_iff distinct positive linked different).mpr isTree
    refine ⟨different, ?_, ?_⟩
    · rw [(forwardingPorts_recomputeTopology distinct linked).1 forth]
      exact portsTo_pos linked
    · rw [(forwardingPorts_recomputeTopology distinct linked.symm).1 back]
      exact portsTo_pos linked.symm

theorem forwardingPorts_self (distinct : state.DistinctIds) (device : Device) :
    state.recomputeTopology.forwardingPorts device device = state.portsTo device device := by
  by_cases linked : Linked state.enabledNodes device device
  · refine (forwardingPorts_recomputeTopology distinct linked).1 (.inr (.inr ?_))
    rintro (less | ⟨_, outranks⟩)
    · obtain ⟨_, _, found, _⟩ := linked
      obtain ⟨root, isRoot⟩ := exists_root found
      unfold ownCost at less
      split_ifs at less <;> omega
    · exact Outranks.asymm outranks outranks
  · have none : state.portsTo device device = 0 := by
      by_contra some
      obtain ⟨port, member, towards⟩ := countP_pos_iff.mp (Nat.pos_of_ne_zero some)
      cases found : state.enabledNodes.lookup device with
      | none => simp [portsOf, found] at member
      | some node =>
        have inNode : port ∈ node.ports.values := by
          simpa [portsOf, found] using member
        have own : ∃ port ∈ node.ports.values, port.connectedTo = device :=
          ⟨port, inNode, by simpa using towards⟩
        exact linked ⟨node, node, found, found, own, own⟩
    rw [none]
    by_contra some
    have forth := Nat.pos_of_ne_zero some
    exact linked (linked_of_forwardingPorts distinct forth forth)

open Classical in
theorem rootPorts_recomputeTopology (distinct : state.DistinctIds)
    (positive : state.PositiveCosts) (isRoot : state.IsRootOf left root) :
    state.recomputeTopology.rootPorts left =
      (state.portsOf left).countP fun port => decide (state.KeepsRootRole left port) := by
  cases found : state.enabledNodes.lookup left with
  | none =>
    have before : state.portsOf left = [] := by simp [portsOf, found]
    rw [before, rootPorts, portsOf_of_disabled found]
    rfl
  | some node =>
    unfold rootPorts
    rw [portsOf_recomputeTopology distinct isRoot found, countP_map]
    refine countP_congr fun port member => ?_
    have inNode : port ∈ node.ports.values := by simpa [portsOf, found] using member
    simp only [comp_apply, decide_eq_true_eq]
    exact outcome_root_iff distinct positive isRoot found inNode

end Links

/-! ## The spanning forest -/

section Forest

variable {state : StpState Device}

theorem treeLinks_eq (noFar : ∀ device, ¬ state.Far device) :
    state.treeLinks = ParentForest.graph state.parent := by
  ext left right
  constructor
  · rintro ⟨different, _, up | down | ⟨leftFar | rightFar, _⟩⟩
    · exact ⟨different, .inl up⟩
    · exact ⟨different, .inr down⟩
    · exact absurd leftFar (noFar left)
    · exact absurd rightFar (noFar right)
  · rintro ⟨different, up | down⟩
    · exact ⟨different, (parent_spec up).1, .inl up⟩
    · exact ⟨different, (parent_spec down).1.symm, .inr (.inl down)⟩

theorem parent_root (distinct : state.DistinctIds) (positive : state.PositiveCosts)
    {root : Device} (isRoot : state.IsRootOf root root) : state.parent root = none := by
  cases isParent : state.parent root with
  | none => rfl
  | some next =>
    have nearer := rootDistance_parent positive isParent
    rw [rootDistance_root distinct isRoot] at nearer
    omega

theorem isRootOf_root {device root : Device} (isRoot : state.IsRootOf device root) :
    state.IsRootOf root root :=
  isRootOf_of_reachable isRoot isRoot.choose_spec.2.1

theorem reachable_of_leadsTo {device ancestor : Device}
    (leads : ParentForest.LeadsTo state.parent device ancestor) :
    state.bridgeGraph.Reachable device ancestor := by
  induction leads with
  | refl => exact .refl _
  | tail _ step ih => exact ih.trans (Linked.reachable (parent_spec step).1)

theorem parents_span (positive : state.PositiveCosts)
    (hasParent : ∀ device root, state.IsRootOf device root → device ≠ root →
      state.parent device ≠ none) {left right : Device}
    (reachable : state.bridgeGraph.Reachable left right) :
    (ParentForest.graph state.parent).Reachable left right := by
  have decreasing : ∀ vertex next, state.parent vertex = some next →
      state.rootDistance next < state.rootDistance vertex := fun _ _ isParent =>
    rootDistance_parent positive isParent
  have toRoot : ∀ {device root : Device}, state.IsRootOf device root →
      (ParentForest.graph state.parent).Reachable device root := by
    intro device root isRoot
    obtain ⟨top, leads, isTop⟩ := ParentForest.exists_top decreasing device
    have same : top = root := by
      by_contra different
      have isRootThere := isRootOf_of_reachable isRoot (reachable_of_leadsTo leads)
      exact hasParent top root isRootThere different isTop
    exact same ▸ ParentForest.reachable_of_leadsTo leads
  cases found : state.enabledNodes.lookup left with
  | none =>
    obtain ⟨walk⟩ := reachable
    cases walk with
    | nil => exact .refl _
    | cons step _ =>
      obtain ⟨_, _, leftFound, _⟩ := step.2
      simp [found] at leftFound
  | some node =>
    obtain ⟨root, isRoot⟩ := exists_root found
    exact (toRoot isRoot).trans (toRoot (isRootOf_of_reachable isRoot reachable)).symm

open Classical in
theorem portsTo_parent_le {left right : Device} (isParent : state.parent left = some right)
    (one : (state.portsOf left).countP (fun port => decide (state.KeepsRootRole left port)) = 1) :
    state.portsTo left right ≤ 1 := by
  rw [← one]
  refine countP_mono_left fun port member towards => ?_
  obtain ⟨linked, _⟩ := parent_spec isParent
  obtain ⟨node, _, found, _⟩ := id linked
  have inNode : port ∈ node.ports.values := by simpa [portsOf, found] using member
  have same : port.connectedTo = right := by simpa using towards
  subst same
  exact decide_eq_true (.inl ⟨(livePeer_iff_linked found inNode).mpr linked, isParent⟩)

/-- Under the condition no link forwards twice. -/
theorem StpState.Converges.single (converges : state.Converges) (distinct : state.DistinctIds)
    (positive : state.PositiveCosts) {left right : Device}
    (adjacent : state.treeLinks.Adj left right) :
    min (state.portsTo left right) (state.portsTo right left) ≤ 1 := by
  have onParent : ∀ {child next : Device}, state.parent child = some next →
      state.portsTo child next ≤ 1 := by
    intro child next isParent
    obtain ⟨_, _, found, _⟩ := (parent_spec isParent).1
    obtain ⟨root, isRoot⟩ := exists_root found
    have different : child ≠ root := by
      rintro rfl
      simp [parent_root distinct positive isRoot] at isParent
    exact portsTo_parent_le isParent (converges.rootPort child root isRoot different)
  rcases converges.tree with ⟨noFar, _⟩ | ⟨_, _, bounded, _⟩
  · rw [treeLinks_eq noFar] at adjacent
    rcases adjacent.2 with up | down
    · exact min_le_of_left_le (onParent up)
    · exact min_le_of_right_le (onParent down)
  · exact bounded left right adjacent

/-- The condition is enough. -/
theorem spansForest_of_converges (distinct : state.DistinctIds) (positive : state.PositiveCosts)
    (converges : state.Converges) : SpansForest state state.recomputeTopology where
  acyclic := by
    rw [forwardingGraph_recomputeTopology distinct positive]
    rcases converges.tree with ⟨noFar, _⟩ | ⟨_, acyclic, _⟩
    · rw [treeLinks_eq noFar]
      exact ParentForest.isAcyclic fun _ _ isParent => rootDistance_parent positive isParent
    · exact acyclic
  single := by
    intro left right different
    by_cases adjacent : state.recomputeTopology.forwardingGraph.Adj left right
    · have linked := linked_of_forwardingPorts distinct adjacent.2.1 adjacent.2.2
      rw [forwardingGraph_recomputeTopology distinct positive] at adjacent
      obtain ⟨forth, back⟩ :=
        (opens_both_iff distinct positive linked different).mpr adjacent.2.2
      rw [(forwardingPorts_recomputeTopology distinct linked).1 forth,
        (forwardingPorts_recomputeTopology distinct linked.symm).1 back]
      exact converges.single distinct positive adjacent
    · have closed : ¬ (0 < state.recomputeTopology.forwardingPorts left right ∧
          0 < state.recomputeTopology.forwardingPorts right left) := fun both =>
        adjacent ⟨different, both⟩
      omega
  noLoop := by
    intro device
    rw [forwardingPorts_self distinct]
    exact converges.noLoop device
  spans := by
    intro left right reachable
    rw [forwardingGraph_recomputeTopology distinct positive]
    rcases converges.tree with ⟨noFar, hasParent⟩ | ⟨_, _, _, spans⟩
    · rw [treeLinks_eq noFar]
      exact parents_span positive hasParent reachable
    · exact spans left right reachable
  rootPort := by
    intro device root isRoot different
    rw [rootPorts_recomputeTopology distinct positive isRoot]
    exact converges.rootPort device root isRoot different
  noRootPort := by
    classical
    intro root isRoot
    rw [rootPorts_recomputeTopology distinct positive isRoot, countP_eq_zero]
    intro port member keeps
    rcases of_decide_eq_true keeps with ⟨_, isParent⟩ | ⟨dead, role⟩
    · simp [parent_root distinct positive isRoot] at isParent
    · exact converges.noRootPort root isRoot port member dead role

/-- The condition is needed. -/
theorem converges_of_spansForest (distinct : state.DistinctIds) (positive : state.PositiveCosts)
    (spans : SpansForest state state.recomputeTopology) : state.Converges where
  noLoop := by
    intro device
    rw [← forwardingPorts_self distinct]
    exact spans.noLoop device
  rootPort := by
    intro device root isRoot different
    rw [← rootPorts_recomputeTopology distinct positive isRoot]
    exact spans.rootPort device root isRoot different
  noRootPort := by
    classical
    intro root isRoot port member dead role
    have none := spans.noRootPort root isRoot
    rw [rootPorts_recomputeTopology distinct positive isRoot, countP_eq_zero] at none
    exact none port member (decide_eq_true (.inr ⟨dead, role⟩))
  tree := by
    have treeSpans : ∀ left right, state.bridgeGraph.Reachable left right →
        state.treeLinks.Reachable left right := by
      rw [← forwardingGraph_recomputeTopology distinct positive]
      exact spans.spans
    by_cases far : ∃ device, state.Far device
    · refine .inr ⟨far, ?_, ?_, treeSpans⟩
      · rw [← forwardingGraph_recomputeTopology distinct positive]
        exact spans.acyclic
      · rintro left right ⟨different, linked, isTree⟩
        obtain ⟨forth, back⟩ := (opens_both_iff distinct positive linked different).mpr isTree
        rw [← (forwardingPorts_recomputeTopology distinct linked).1 forth,
          ← (forwardingPorts_recomputeTopology distinct linked.symm).1 back]
        exact spans.single left right different
    · have noFar : ∀ device, ¬ state.Far device := not_exists.mp far
      refine .inl ⟨noFar, fun device root isRoot different orphan => different ?_⟩
      have joined := treeSpans device root isRoot.choose_spec.2.1
      rw [treeLinks_eq noFar] at joined
      exact ParentForest.eq_of_reachable joined orphan
        (parent_root distinct positive (isRootOf_root isRoot))

/-- The recomputation builds a spanning forest with one root port for each bridge that
is not a root, exactly when the input meets the condition. -/
theorem recomputeTopology_spansForest_iff (distinct : state.DistinctIds)
    (positive : state.PositiveCosts) :
    SpansForest state state.recomputeTopology ↔ state.Converges :=
  ⟨converges_of_spansForest distinct positive, spansForest_of_converges distinct positive⟩

end Forest

/-! ## Parallel links -/

theorem distinctIds_of_nodup {state : StpState Device}
    (nodup : (state.enabledNodes.values.map StpNode.bridgeId).Nodup) : state.DistinctIds := by
  intro left right leftNode rightNode leftFound rightFound same
  have leftEntry := mem_entries_iff.mpr leftFound
  have rightEntry := mem_entries_iff.mpr rightFound
  have pairs : (state.enabledNodes.entries.map fun entry => entry.2.bridgeId).Nodup := by
    simpa [OrderedMap.values, comp_def] using nodup
  exact congrArg Prod.fst (inj_on_of_nodup_map pairs leftEntry rightEntry same)

theorem positiveCosts_of_forall {state : StpState Device}
    (positive : ∀ node ∈ state.enabledNodes.values, ∀ port ∈ node.ports.values, 0 < port.cost) :
    state.PositiveCosts := fun device node found =>
  positive node (mem_values_iff.mpr ⟨device, found⟩)

def freshPort (peer : Nat) : Port Nat where
  token := 0
  state := .blocking
  role := .designated
  connectedTo := peer

/-- A bridge of priority 32769 with ports under the given names. -/
def bridgeWith (mac : Nat) (ports : List (String × Nat)) : StpNode Nat where
  enabled := true
  bridgeId := ⟨32769, mac⟩
  rootBridgeId := ⟨32769, mac⟩
  ports := ports.foldl (fun ports entry => ports.insert entry.1 (freshPort entry.2)) .empty

/-- Surroundings without links; the topology is read from the ports alone. -/
def emptyNetwork : VirtualNetwork Nat where
  links := .empty
  interfaceLinks := fun _ _ => none
  linkIfaces := fun _ _ => []
  downInterfaces := fun _ => []
  subifVlans := fun _ => []
  vlanPorts := fun _ => []
  deviceIps := .empty

def parallelLinks : StpState Nat where
  network := emptyNetwork
  mac := id
  nodes := (OrderedMap.empty.insert 0 (bridgeWith 0 [("ether 1", 1), ("ether 2", 1)])).insert 1
    (bridgeWith 1 [("ether 1", 0), ("ether 2", 0)])

theorem parallelLinks_distinct : parallelLinks.DistinctIds :=
  distinctIds_of_nodup (by decide +kernel)

theorem parallelLinks_positive : parallelLinks.PositiveCosts :=
  positiveCosts_of_forall (by decide +kernel)

theorem parallelLinks_forward_twice :
    ¬ SpansForest parallelLinks parallelLinks.recomputeTopology := fun spans =>
  absurd (spans.single 0 1 (by decide)) (by decide +kernel)

/-- With parallel links the recomputation leaves a cycle, and bridge 1 has two root
ports. -/
theorem parallel_links_cycle : parallelLinks.DistinctIds ∧ parallelLinks.PositiveCosts ∧
    ¬ SpansForest parallelLinks parallelLinks.recomputeTopology ∧
    parallelLinks.recomputeTopology.rootPorts 1 = 2 :=
  ⟨parallelLinks_distinct, parallelLinks_positive, parallelLinks_forward_twice, by decide +kernel⟩

/-- Parallel links do not meet the condition. -/
theorem parallelLinks_not_converges : ¬ parallelLinks.Converges := fun converges =>
  parallelLinks_forward_twice
    ((recomputeTopology_spansForest_iff parallelLinks_distinct parallelLinks_positive).mpr converges)

end NetLab.Stp
