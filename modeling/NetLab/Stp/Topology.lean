import NetLab.Library.Components
import NetLab.Library.ShortestPaths
import NetLab.Stp.Engine

/-!
# Recomputation of the whole topology

`recomputeTopology` follows the source step by step: the adjacency of the enabled
bridges over ports that are live in both directions, one component after the other
with its root, the distances to the root, and the role of every live port.
-/

namespace NetLab.Stp

open NetLab.Library NetLab.Library.ShortestPaths NetLab.Network

variable {Device : Type} [LinearOrder Device]

/-! ## Adjacency -/

/-- The adjacency of the enabled bridges, in the order of the node table. -/
abbrev Adjacency (Device : Type) := OrderedMap Device (OrderedMap Device Nat)

/-- Enabled bridges, in the order of the node table. -/
def StpState.enabledNodes (state : StpState Device) : OrderedMap Device (StpNode Device) :=
  state.nodes.filter fun _ node => node.enabled

def livePeer (enabled : OrderedMap Device (StpNode Device)) (device : Device)
    (port : Port Device) : Bool :=
  match enabled.lookup port.connectedTo with
  | none => false
  | some peer => peer.ports.values.any fun back => decide (back.connectedTo = device)

def liveNeighbours (enabled : OrderedMap Device (StpNode Device)) (device : Device)
    (node : StpNode Device) : OrderedMap Device Nat :=
  node.ports.values.foldl (fun neighbours port =>
      if livePeer enabled device port then neighbours.insert port.connectedTo port.cost
      else neighbours)
    .empty

/-- Adjacency over ports that are live in both directions. -/
def adjacency (enabled : OrderedMap Device (StpNode Device)) : Adjacency Device :=
  enabled.mapValues (liveNeighbours enabled)

/-- Neighbours of a bridge with their costs. -/
def Adjacency.of (adj : Adjacency Device) (device : Device) : OrderedMap Device Nat :=
  (adj.lookup device).getD .empty

/-! ## Components -/

/-- The search of one component from a bridge, by a stack. The result is the component
and everything seen so far. -/
def collectComponent (adj : Adjacency Device) (start : Device) (seen : List Device) :
    List Device × List Device :=
  Components.collect (fun device => (adj.of device).keys) (adj.keys.length + 1) [start]
    (seen ++ [start]) []

def leastBridge (enabled : OrderedMap Device (StpNode Device)) (best : Device)
    (comp : List Device) : Device :=
  comp.foldl (fun best device =>
      match enabled.lookup device, enabled.lookup best with
      | some node, some bestNode =>
        if bidKey node.bridgeId < bidKey bestNode.bridgeId then device else best
      | _, _ => best)
    best

/-! ## Distances -/

/-- `1e9`, which stands for an unknown distance. -/
def farDistance : Nat := 1000000000

/-- `dist.get(device, 1e9)`. -/
def distanceTo (dist : Distances Device) (device : Device) : Nat :=
  distance farDistance dist device

def distancesFromRoot (adj : Adjacency Device) (root : Device) : Distances Device :=
  distancesFrom farDistance adj.of adj.keys.length root

/-! ## Roles -/

/-- Search state of the neighbour towards the root: the neighbour and its distance. -/
def considerToward (dist : Distances Device) (device : Device)
    (best : Option (Device × Nat)) (edge : Device × Nat) : Option (Device × Nat) :=
  let far := distanceTo dist edge.1
  let tight := dist.lookup device == some (far + edge.2)
  let nearer := match best with
    | none => true
    | some (_, bestFar) => decide (far < bestFar)
  if tight && nearer then some (edge.1, far) else best

/-- The neighbour nearest to the root among those on a shortest path to it. -/
def toward (adj : Adjacency Device) (dist : Distances Device) (device : Device) : Option Device :=
  ((adj.of device).entries.foldl (considerToward dist device) none).map Prod.fst

def linkRole (enabled : OrderedMap Device (StpNode Device)) (dist : Distances Device)
    (parent : Option Device) (ownCost : Nat) (ownBid : BridgeId) (port : Port Device) :
    Port Device :=
  if parent = some port.connectedTo then port.assign .root .forwarding
  else
    let theirCost := distanceTo dist port.connectedTo
    let superior := match enabled.lookup port.connectedTo with
      | none => false
      | some peer => decide (bidKey peer.bridgeId < bidKey ownBid)
    if decide (theirCost < ownCost) || (theirCost == ownCost && superior) then
      port.assign .alternate .blocking
    else port.assign .designated .forwarding

/-- Role of a port of a bridge; a port without a live neighbour keeps its role. -/
def settlePort (enabled : OrderedMap Device (StpNode Device)) (adj : Adjacency Device)
    (root : Device) (dist : Distances Device) (device : Device) (ownBid : BridgeId)
    (port : Port Device) : Port Device :=
  if port.connectedTo ∉ (adj.of device).keys then port
  else if device = root then port.assign .designated .forwarding
  else
    linkRole enabled dist (toward adj dist device) ((dist.lookup device).getD 0) ownBid port

/-- New state of a bridge of a component with the given root and distances. -/
def StpNode.settle (enabled : OrderedMap Device (StpNode Device)) (adj : Adjacency Device)
    (root : Device) (rootBid : BridgeId) (dist : Distances Device) (device : Device)
    (node : StpNode Device) : StpNode Device :=
  { node with
    rootBridgeId := rootBid
    rootPathCost := (dist.lookup device).getD 0
    ports := node.ports.mapValues fun _ port =>
      settlePort enabled adj root dist device node.bridgeId port }

def settleComponent (enabled : OrderedMap Device (StpNode Device)) (adj : Adjacency Device)
    (start : Device) (comp : List Device) (nodes : OrderedMap Device (StpNode Device)) :
    OrderedMap Device (StpNode Device) :=
  let root := leastBridge enabled start comp
  match enabled.lookup root with
  | none => nodes
  | some rootNode =>
    let dist := distancesFromRoot adj root
    comp.foldl (fun nodes device =>
        nodes.modify device (StpNode.settle enabled adj root rootNode.bridgeId dist device))
      nodes

def recomputeLoop (enabled : OrderedMap Device (StpNode Device)) (adj : Adjacency Device) :
    (starts seen : List Device) → (nodes : OrderedMap Device (StpNode Device)) →
      OrderedMap Device (StpNode Device)
  | [], _, nodes => nodes
  | start :: starts, seen, nodes =>
    if start ∈ seen then recomputeLoop enabled adj starts seen nodes
    else
      let found := collectComponent adj start seen
      recomputeLoop enabled adj starts found.2 (settleComponent enabled adj start found.1 nodes)

/-- Recompute roots, costs and roles of all enabled bridges from the live ports. -/
def StpState.recomputeTopology (state : StpState Device) : StpState Device :=
  let enabled := state.enabledNodes
  { state with nodes := recomputeLoop enabled (adjacency enabled) enabled.keys [] state.nodes }

end NetLab.Stp
