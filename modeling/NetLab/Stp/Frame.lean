import NetLab.Stp.Machine

/-!
# What the recomputation of the topology touches

The live neighbours of a bridge are the peers of its live ports, and a port without
a live peer is left as it was by the whole recomputation.
-/

namespace NetLab.Stp

open NetLab.Library NetLab.Library.ShortestPaths NetLab.Network

variable {Device : Type} [LinearOrder Device] {name : String}

/-- The port of a bridge under a name, with the BPDU guard default of the bridge. -/
def portView (nodes : OrderedMap Device (StpNode Device)) (device : Device) (name : String) :
    Option (Bool × Port Device) :=
  (nodes.lookup device).bind fun node =>
    (node.ports.lookup name).map fun port => (node.bpduguardDefault, port)

/-! ## Live neighbours -/

theorem mem_keys_foldl_insert {Item : Type} (test : Item → Bool) (key : Item → Device)
    (value : Item → Nat) (items : List Item) (initial : OrderedMap Device Nat) (peer : Device) :
    peer ∈ (items.foldl (fun neighbours item =>
        if test item then neighbours.insert (key item) (value item) else neighbours)
      initial).keys ↔
      peer ∈ initial.keys ∨ ∃ item ∈ items, test item = true ∧ key item = peer := by
  induction items generalizing initial with
  | nil => simp
  | cons item rest ih =>
    rw [List.foldl_cons, ih]
    by_cases live : test item = true
    · simp only [live, if_true, OrderedMap.mem_keys_insert, List.exists_mem_cons_iff, true_and]
      rw [eq_comm (a := peer)]
      tauto
    · simp [live]

theorem mem_keys_liveNeighbours {enabled : OrderedMap Device (StpNode Device)}
    {device peer : Device} {node : StpNode Device} :
    peer ∈ (liveNeighbours enabled device node).keys ↔
      ∃ port ∈ node.ports.values, livePeer enabled device port = true ∧
        port.connectedTo = peer := by
  unfold liveNeighbours
  rw [mem_keys_foldl_insert (livePeer enabled device) Port.connectedTo Port.cost]
  simp [OrderedMap.keys, OrderedMap.empty]

variable (enabled : OrderedMap Device (StpNode Device))

theorem adjacency_of (device : Device) : (adjacency enabled).of device =
      ((enabled.lookup device).map (liveNeighbours enabled device)).getD .empty := by
  simp [Adjacency.of, adjacency]

theorem mem_adjacency_iff {enabled : OrderedMap Device (StpNode Device)} {device peer : Device} :
    peer ∈ ((adjacency enabled).of device).keys ↔
      ∃ node, enabled.lookup device = some node ∧ ∃ port ∈ node.ports.values,
        livePeer enabled device port = true ∧ port.connectedTo = peer := by
  rw [adjacency_of]
  cases found : enabled.lookup device with
  | none => simp [OrderedMap.keys, OrderedMap.empty]
  | some node => simp [mem_keys_liveNeighbours]

def StpState.isLive (state : StpState Device) (device : Device) (name : String) : Bool :=
  match state.enabledNodes.lookup device with
  | none => false
  | some node => (node.ports.lookup name).any (livePeer state.enabledNodes device)

/-! ## Ports that are not live -/

/-- The port under a name has no live neighbour for its peer. -/
def Idle (adj : Adjacency Device) (device : Device) (name : String)
    (nodes : OrderedMap Device (StpNode Device)) : Prop :=
  ∀ view, portView nodes device name = some view → view.2.connectedTo ∉ (adj.of device).keys

variable {adj : Adjacency Device} {device : Device}

theorem portView_settle {nodes : OrderedMap Device (StpNode Device)}
    (idle : Idle adj device name nodes) (enabled : OrderedMap Device (StpNode Device))
    (root : Device) (rootBid : BridgeId) (dist : Distances Device) (settled : Device) :
    portView (nodes.modify settled (StpNode.settle enabled adj root rootBid dist settled))
      device name = portView nodes device name := by
  unfold Idle portView at idle
  unfold portView
  rw [OrderedMap.lookup_modify]
  by_cases same : device = settled
  · subst same
    cases found : nodes.lookup device with
    | none => simp
    | some node =>
      cases held : node.ports.lookup name with
      | none => simp [StpNode.settle, held]
      | some port =>
        have away := idle (node.bpduguardDefault, port) (by simp [found, held])
        simp [StpNode.settle, settlePort, held, away]
  · simp [same]

theorem portView_settle_all (root : Device) (rootBid : BridgeId) (dist : Distances Device)
    (comp : List Device) :
    ∀ {nodes : OrderedMap Device (StpNode Device)}, Idle adj device name nodes →
      portView (comp.foldl (fun nodes settled =>
          nodes.modify settled (StpNode.settle enabled adj root rootBid dist settled)) nodes)
        device name = portView nodes device name := by
  induction comp with
  | nil => intro nodes _; rfl
  | cons settled rest ih =>
    intro nodes idle
    have same := portView_settle idle enabled root rootBid dist settled
    rw [List.foldl_cons, ih, same]
    intro view found
    exact idle view (same ▸ found)

theorem portView_settleComponent {nodes : OrderedMap Device (StpNode Device)}
    (idle : Idle adj device name nodes) (enabled : OrderedMap Device (StpNode Device))
    (start : Device) (comp : List Device) :
    portView (settleComponent enabled adj start comp nodes) device name =
      portView nodes device name := by
  unfold settleComponent
  dsimp only
  cases enabled.lookup (leastBridge enabled start comp) with
  | none => rfl
  | some rootNode => exact portView_settle_all enabled _ _ _ comp idle

theorem portView_recomputeLoop (starts : List Device) :
    ∀ {seen : List Device} {nodes : OrderedMap Device (StpNode Device)},
      Idle adj device name nodes →
      portView (recomputeLoop enabled adj starts seen nodes) device name =
        portView nodes device name := by
  induction starts with
  | nil => intro seen nodes _; rfl
  | cons start starts ih =>
    intro seen nodes idle
    unfold recomputeLoop
    split
    · exact ih idle
    · have same := portView_settleComponent idle enabled start (collectComponent adj start seen).1
      rw [← same]
      refine ih fun view found => idle view ?_
      exact same ▸ found

theorem portView_recomputeTopology {state : StpState Device}
    (idle : state.isLive device name = false) :
    portView state.recomputeTopology.nodes device name = portView state.nodes device name := by
  refine portView_recomputeLoop state.enabledNodes _ fun view found member => ?_
  obtain ⟨node, isEnabled, other, _, live, samePeer⟩ := mem_adjacency_iff.mp member
  have stored : state.nodes.lookup device = some node := by
    have filtered := isEnabled
    rw [StpState.enabledNodes, OrderedMap.lookup_filter] at filtered
    exact (Option.filter_eq_some_iff.mp filtered).1
  obtain ⟨port, held, viewed⟩ : ∃ port, node.ports.lookup name = some port ∧
      (node.bpduguardDefault, port) = view := by
    simpa [portView, stored] using found
  have liveHere : livePeer state.enabledNodes device port = true := by
    subst viewed
    unfold livePeer at live ⊢
    rw [← samePeer]
    exact live
  simp [StpState.isLive, isEnabled, held, liveHere] at idle

end NetLab.Stp
