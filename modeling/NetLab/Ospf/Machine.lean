import NetLab.Ospf.Engine

/-!
# OSPF events

Hellos, adjacencies, election of the designated routers and the loss of a
neighbour, as steps of one machine. Hellos may wait on the wire for any time and
arrive in any order, and adjacencies of different routers interleave at their
waits. The steps of the machine are the stretches of the source that run without
giving up control.
-/

namespace NetLab.Ospf

open NetLab.Library NetLab.Network OspfNode

variable {Device : Type} [DecidableEq Device]

/-- What OSPF reads from the rest of the emulator and never writes.
`defaultRouterId` is the router ID of a node nobody has configured yet. -/
structure Surroundings (Device : Type) where
  network : VirtualNetwork Device
  filters : FilterEngine Device
  interfaces : Device → List (String × Address)
  defaultRouterId : Device → Address

/-- A hello. The receiver reads the designated routers and the priority it names
and makes no use of them. -/
structure Hello (Device : Type) where
  srcId : Device
  routerId : Address
  areaId : AreaId
  helloInterval : Nat
  priority : Nat
  dr : Option Device
  bdr : Option Device
  externalRoutes : OrderedMap OspfNetwork Nat
  areaIsNssa : Bool
  authKey : String

/-- An adjacency being brought up. It works on the entry it created, whether or not
that entry is still in the table. -/
structure AdjacencyTask (Device : Type) where
  receiver : Device
  source : Device
  token : Nat
  reached : NeighborState
deriving DecidableEq

/-- Nodes, hellos on the wire, and suspended activities. -/
structure OspfState (Device : Type) where
  surroundings : Surroundings Device
  nodes : OspfNodes Device := .empty
  inFlight : List (Device × Hello Device) := []
  adjacencies : List (AdjacencyTask Device) := []
  elections : List Device := []
  nextToken : Nat := 0

/-! ## Configuration -/

def OspfState.ensureNode (state : OspfState Device) (device : Device) : OspfState Device :=
  match state.nodes.lookup device with
  | some _ => state
  | none =>
    { state with
      nodes := state.nodes.insert device { routerId := state.surroundings.defaultRouterId device } }

def OspfState.modifyNode (state : OspfState Device) (device : Device)
    (update : OspfNode Device → OspfNode Device) : OspfState Device :=
  { state with nodes := state.nodes.modify device update }

def addNew {α : Type} [DecidableEq α] (items : List α) (item : α) : List α :=
  if item ∈ items then items else items ++ [item]

def OspfNode.registerNetwork (node : OspfNode Device) (area : AreaId) (network : OspfNetwork) :
    OspfNode Device :=
  { node with
    networks := addNew node.networks network
    areaNetworks := node.areaNetworks.insert area
      (addNew ((node.areaNetworks.lookup area).getD []) network) }

def OspfNode.start (node : OspfNode Device) (networks : List OspfNetwork) (area : AreaId) :
    OspfNode Device :=
  let enabled :=
    { node with
      enabled := true
      areaId := area
      areaNetworks := node.areaNetworks.insert area ((node.areaNetworks.lookup area).getD []) }
  networks.foldl (fun node network => node.registerNetwork area network) enabled

/-- A further network statement; a second area makes the node a border router. -/
def OspfNode.addNetwork (node : OspfNode Device) (network : OspfNetwork) (area : AreaId) :
    OspfNode Device :=
  let registered := node.registerNetwork area network
  { registered with abr := registered.abr || decide (1 < registered.areaNetworks.keys.length) }

/-- Disable a node and forget its neighbours. -/
def OspfNode.stop (node : OspfNode Device) : OspfNode Device :=
  { node with
    enabled := false
    neighbors := .empty
    dr := none
    bdr := none }

def OspfNode.isAreaNssa (node : OspfNode Device) : Bool :=
  node.areaTypes.lookup node.areaId == some .nssa

/-! ## Hellos -/

/-- An address lies in a configured network; a missing length means a host route
here. Lengths above 32 are no networks. -/
def inNetwork (address : Address) (network : OspfNetwork) : Bool :=
  let length := network.length.getD 32
  length ≤ 32 &&
    ridToInt address / 2 ^ (32 - length) == ridToInt network.address / 2 ^ (32 - length)

/-- Interfaces that a network statement enables; `none` without usable statements. -/
def ospfEnabledIfaces (surroundings : Surroundings Device) (nodes : OspfNodes Device)
    (device : Device) : Option (List String) :=
  let networks := ((nodes.lookup device).map networks).getD []
  if networks.all fun network => 32 < network.length.getD 32 then none
  else
    some (((surroundings.interfaces device).filter fun iface =>
      networks.any (inNetwork iface.2)).map Prod.fst)

def nonOspfPeers (surroundings : Surroundings Device) (nodes : OspfNodes Device)
    (device : Device) : List Device :=
  match ospfEnabledIfaces surroundings nodes device with
  | none => []
  | some enabled =>
    let network := surroundings.network
    let names := enabled.map normIface
    let down := (network.downInterfaces device).map normIface
    (network.getNeighbors device).filter fun peer =>
      let ifaces := network.ifacesBetween device peer
      let ospfIfaces := ifaces.filter fun iface => decide (normIface iface ∈ names)
      !ifaces.isEmpty && ospfIfaces.all fun iface => decide (normIface iface ∈ down)

def OspfNode.hello (node : OspfNode Device) (device : Device) : Hello Device :=
  { srcId := device
    routerId := node.routerId
    areaId := node.areaId
    helloInterval := node.helloInterval
    priority := node.priority
    dr := node.dr
    bdr := node.bdr
    externalRoutes := node.redistributed
    areaIsNssa := node.isAreaNssa
    authKey := node.authKey }

/-- Put a hello on the wire for every device that the broadcast reaches. -/
def OspfState.sendHello (state : OspfState Device) (device : Device) : OspfState Device :=
  match state.nodes.lookup device with
  | none => state
  | some node =>
    if !node.enabled || decide ("all" ∈ node.passiveIfaces) then state
    else
      let network := state.surroundings.network
      let runsProto := fun peer => (state.nodes.lookup peer).any enabled
      let receivers :=
        network.directReceivers true (nonOspfPeers state.surroundings state.nodes device) device ++
          network.floodThroughSwitches runsProto device
      { state with
        inFlight := state.inFlight ++ receivers.map fun receiver => (receiver, node.hello device) }

/-- A node accepts a hello that comes in over an OSPF interface with a common tag,
the same area and timers, and its key when it has one. -/
def acceptsHello (state : OspfState Device) (receiver : Device) (node : OspfNode Device)
    (hello : Hello Device) : Bool :=
  node.enabled && decide (hello.srcId ∉ nonOspfPeers state.surroundings state.nodes receiver) &&
    state.surroundings.network.vlanTagsCompatible receiver hello.srcId &&
    hello.areaId == node.areaId &&
    (hello.helloInterval == 0 || hello.helloInterval == node.helloInterval) &&
    (node.authKey == "" || hello.authKey == node.authKey)

/-- Record the networks that the sender redistributes. -/
def OspfNode.learnExternal (node : OspfNode Device) (hello : Hello Device) : OspfNode Device :=
  { node with
    learnedExternal := hello.externalRoutes.entries.foldl (fun learned entry =>
      learned.insert entry.1
        { metric := entry.2, nextHop := hello.srcId, nssa := hello.areaIsNssa })
      node.learnedExternal }

def OspfNode.hearKnown (node : OspfNode Device) (hello : Hello Device) : OspfNode Device :=
  if hello.externalRoutes.keys.isEmpty then node
  else node.injectExternalRoutes

/-- Take a hello from the wire. A new neighbour is entered and its adjacency started. -/
def OspfState.receiveHello (state : OspfState Device) (receiver : Device) (hello : Hello Device) :
    OspfState Device :=
  match state.nodes.lookup receiver with
  | none => state
  | some node =>
    if !acceptsHello state receiver node hello then state
    else
      let informed := node.learnExternal hello
      match node.neighbors.lookup hello.srcId with
      | some _ =>
        { state with nodes := state.nodes.insert receiver (informed.hearKnown hello) }
      | none =>
        let neighbor : OspfNeighbor :=
          { routerId := hello.routerId, state := .init, token := state.nextToken }
        let entered :=
          { informed with neighbors := informed.neighbors.insert hello.srcId neighbor }
        { state with
          nodes := state.nodes.insert receiver entered
          adjacencies := state.adjacencies ++
            [{ receiver, source := hello.srcId, token := state.nextToken, reached := .init }]
          nextToken := state.nextToken + 1 }

/-- Remove a packet from the wire and let its receiver handle it. -/
def OspfState.deliver (state : OspfState Device) (index : Nat) : OspfState Device :=
  match state.inFlight[index]? with
  | none => state
  | some (receiver, hello) =>
    OspfState.receiveHello { state with inFlight := state.inFlight.eraseIdx index } receiver hello

/-! ## Election of the designated routers -/

/-- A router that may be designated. -/
structure ElectionCandidate (Device : Type) where
  device : Device
  routerId : Address
  priority : Nat
deriving DecidableEq

/-- Higher priority first, then the higher router ID. -/
def ElectionCandidate.precedes (left right : ElectionCandidate Device) : Prop :=
  right.priority < left.priority ∨
    right.priority = left.priority ∧ ridToInt right.routerId ≤ ridToInt left.routerId

instance (left right : ElectionCandidate Device) : Decidable (left.precedes right) :=
  inferInstanceAs (Decidable (right.priority < left.priority ∨
    right.priority = left.priority ∧ ridToInt right.routerId ≤ ridToInt left.routerId))

/-- The node itself and its neighbours, as far as their priority is positive. -/
def electionCandidates (nodes : OspfNodes Device) (device : Device) (node : OspfNode Device) :
    List (ElectionCandidate Device) :=
  let own : ElectionCandidate Device := ⟨device, node.routerId, node.priority⟩
  let others := node.neighbors.entries.filterMap fun entry =>
    (nodes.lookup entry.1).map fun peer =>
      (⟨entry.1, entry.2.routerId, peer.priority⟩ : ElectionCandidate Device)
  (own :: others).filter fun candidate => 0 < candidate.priority

/-- Designated and backup router among sorted candidates. A previous choice that is
still a candidate is kept. -/
def chooseDrBdr (sorted : List (ElectionCandidate Device)) (previousDr previousBdr : Option Device)
    (top : ElectionCandidate Device) : Device × Option Device :=
  let candidate := fun (previous : Option Device) =>
    sorted.find? fun candidate => some candidate.device == previous
  let dr := ((candidate previousDr).getD top).device
  let remaining := sorted.filter fun candidate => candidate.device != dr
  let kept := (candidate previousBdr).filter fun candidate => candidate.device != dr
  (dr, (kept.orElse fun _ => remaining.head?).map ElectionCandidate.device)

/-- Local election at one node. A node that becomes designated originates a network
LSA at once. -/
def electDrBdr (nodes : OspfNodes Device) (device : Device) : OspfNodes Device :=
  match nodes.lookup device with
  | none => nodes
  | some node =>
    match (electionCandidates nodes device node).insertionSort ElectionCandidate.precedes with
    | [] => nodes
    | top :: rest =>
      let chosen := chooseDrBdr (top :: rest) node.dr node.bdr top
      let elected :=
        { node with
          dr := some chosen.1
          bdr := chosen.2 }
      nodes.insert device (if node.dr = some chosen.1 then elected
          else elected.generateNetworkLsa device (routerIdOf nodes))

/-! ## Adjacencies -/

/-- Merge the databases of two devices, one way and then the other. -/
def mergeBothWays (nodes : OspfNodes Device) (device neighbor : Device) : OspfNodes Device :=
  let pull := fun (nodes : OspfNodes Device) (own other : Device) =>
    match nodes.lookup own, nodes.lookup other with
    | some node, some peer =>
      nodes.insert own { node with lsdb := (mergeLsdb node.lsdb peer.lsdb).1 }
    | _, _ => nodes
  pull (pull nodes device neighbor) neighbor device

theorem mergeBothWays_pulls (nodes : OspfNodes Device) (device neighbor : Device) :
    ∃ pull : OspfNodes Device → Device → Device → OspfNodes Device,
      mergeBothWays nodes device neighbor = pull (pull nodes device neighbor) neighbor device ∧
      ∀ nodes own other, pull nodes own other = nodes ∨ ∃ node peer,
        nodes.lookup own = some node ∧ nodes.lookup other = some peer ∧ pull nodes own other =
          nodes.insert own { node with lsdb := (mergeLsdb node.lsdb peer.lsdb).1 } := by
  unfold mergeBothWays
  extract_lets pull
  refine ⟨pull, rfl, fun nodes own other => ?_⟩
  dsimp only [pull]
  split
  · exact .inr ⟨_, _, ‹_›, ‹_›, rfl⟩
  · exact .inl rfl

def exchangeLsa (surroundings : Surroundings Device) (nodes : OspfNodes Device)
    (device neighbor : Device) : OspfNodes Device :=
  match nodes.lookup device, nodes.lookup neighbor with
  | some node, some _ =>
    let router := fun (nodes : OspfNodes Device) device =>
      nodes.modify device generateRouterLsa
    let network := fun (nodes : OspfNodes Device) device =>
      nodes.modify device fun node => node.generateNetworkLsa device (routerIdOf nodes)
    let summary := fun (nodes : OspfNodes Device) device =>
      nodes.modify device generateSummaryLsa
    let ends := [device, neighbor]
    let originated := ends.foldl summary (ends.foldl network (ends.foldl router nodes))
    floodLsdbArea surroundings.network surroundings.filters
      (mergeBothWays originated device neighbor) node.areaId
  | _, _ => nodes

/-- Move the entry that an adjacency works on, when it is still in the table. -/
def OspfNode.moveNeighbor (node : OspfNode Device) (task : AdjacencyTask Device)
    (reached : NeighborState) : OspfNode Device :=
  { node with
    neighbors := node.neighbors.modify task.source fun neighbor =>
      if neighbor.token = task.token then { neighbor with state := reached } else neighbor }

def setNeighborState (nodes : OspfNodes Device) (task : AdjacencyTask Device)
    (reached : NeighborState) : OspfNodes Device :=
  nodes.modify task.receiver fun node => node.moveNeighbor task reached

/-- What follows when an adjacency has become full. -/
def completeAdjacency (surroundings : Surroundings Device) (nodes : OspfNodes Device)
    (receiver source : Device) : OspfNodes Device :=
  let originated := nodes.modify receiver generateRouterLsa
  let exchanged := exchangeLsa surroundings originated receiver source
  electDrBdr (exchanged.modify receiver injectExternalRoutes) receiver

/-- End one wait of an adjacency. -/
def OspfState.advanceAdjacency (state : OspfState Device) (index : Nat) : OspfState Device :=
  match state.adjacencies[index]? with
  | none => state
  | some task =>
    let reached := task.reached.next
    let moved := setNeighborState state.nodes task reached
    if reached = .full then
      { state with
        nodes := completeAdjacency state.surroundings moved task.receiver task.source
        adjacencies := state.adjacencies.eraseIdx index }
    else
      { state with
        nodes := moved
        adjacencies := state.adjacencies.set index { task with reached } }

/-! ## Loss of a neighbour -/

def OspfNode.withoutPeers (node : OspfNode Device) (peers : List Device) : OspfNode Device :=
  { node with neighbors := node.neighbors.filter fun peer _ => decide (peer ∉ peers) }

def OspfNode.dropNeighbors (node : OspfNode Device) (filters : DeviceFilters)
    (peers : List Device) : OspfNode Device :=
  if node.neighbors.keys.any fun peer => decide (peer ∈ peers) then
    (node.withoutPeers peers).recalcRoutes filters
  else node

/-! ## The machine -/

/-- What can happen next. `deliver`, `advance` and `elect` name a position in the
list they act on, so any order and any delay is a run. -/
inductive OspfEvent (Device : Type) where
  | reconfigure (surroundings : Surroundings Device)
  | start (device : Device) (networks : List OspfNetwork) (area : AreaId)
  | addNetwork (device : Device) (network : OspfNetwork) (area : AreaId)
  | setAreaType (device : Device) (area : AreaId) (type : AreaType)
  | setPriority (device : Device) (priority : Int)
  | setAuthentication (device : Device) (key : String)
  | setCost (device : Device) (cost : Nat)
  | setRouterId (device : Device) (rid : Address)
  | ensureAutoRouterId (device : Device) (candidate : Address)
  | setPassive (device : Device) (ifaces : List String)
  | redistribute (device : Device) (network : OspfNetwork) (metric : Nat)
  | stop (device : Device)
  | interfaceDown (device : Device) (peers : List Device)
  | deadTimer (device neighbor : Device)
  | sendHello (device : Device)
  | deliver (index : Nat)
  | advance (index : Nat)
  | elect (index : Nat)

/-- Change the node of a device, creating it first when it is missing. -/
def OspfState.configure (state : OspfState Device) (device : Device)
    (update : OspfNode Device → OspfNode Device) : OspfState Device :=
  (state.ensureNode device).modifyNode device update

/-- One step of the engine. -/
def step (state : OspfState Device) : OspfEvent Device → OspfState Device
  | .reconfigure surroundings => { state with surroundings }
  | .start device networks area => state.configure device fun node => node.start networks area
  | .addNetwork device network area =>
    state.configure device fun node => node.addNetwork network area
  | .setAreaType device area type =>
    state.configure device fun node =>
      { node with areaTypes := node.areaTypes.insert area type }
  | .setPriority device priority =>
    let configured := state.configure device fun node =>
      { node with priority := (max 0 (min 255 priority)).toNat }
    let triggers := (configured.nodes.lookup device).any fun node =>
      node.enabled && !node.neighbors.keys.isEmpty
    { configured with
      elections := configured.elections ++ if triggers then [device] else [] }
  | .setAuthentication device key =>
    state.configure device fun node => { node with authKey := key }
  | .setCost device cost => state.configure device fun node => { node with interfaceCost := cost }
  | .setRouterId device rid =>
    state.configure device fun node =>
      { node with
        routerId := rid
        routerIdManual := true }
  | .ensureAutoRouterId device candidate =>
    state.configure device fun node =>
      if node.routerIdManual then node else { node with routerId := candidate }
  | .setPassive device ifaces =>
    state.modifyNode device fun node => { node with passiveIfaces := ifaces }
  | .redistribute device network metric =>
    state.modifyNode device fun node =>
      if node.enabled then
        { node with redistributed := node.redistributed.insert network metric }
      else node
  | .stop device => state.modifyNode device stop
  | .interfaceDown device peers =>
    state.modifyNode device fun node =>
      node.dropNeighbors (state.surroundings.filters device) peers
  | .deadTimer device neighbor =>
    state.modifyNode device fun node =>
      node.dropNeighbors (state.surroundings.filters device) [neighbor]
  | .sendHello device => state.sendHello device
  | .deliver index => state.deliver index
  | .advance index => state.advanceAdjacency index
  | .elect index =>
    match state.elections[index]? with
    | none => state
    | some device =>
      { state with
        nodes := electDrBdr state.nodes device
        elections := state.elections.eraseIdx index }

end NetLab.Ospf
