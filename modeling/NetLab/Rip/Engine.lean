import NetLab.Library.Execution
import NetLab.Network.VirtualNetwork
import NetLab.Network.Filter

/-!
# RIP engine

The distance-vector engine as the source computes it, cut at its suspension
points: a response is taken from the wire at any time and its entries are handled
one by one, and a periodic or triggered update serves one neighbour at a time.
Timers appear as the two things they do when they fire. Display data (host names,
peer records, time stamps) is not represented.
-/

namespace NetLab.Rip

open NetLab.Library NetLab.Network

/-- Where a route came from: a configured network, or a neighbour. -/
inductive LearnedFrom (Device : Type) where
  | direct
  | peer (device : Device)
deriving DecidableEq

/-- A route past its timeout is kept as garbage until it is collected. -/
inductive RouteState where
  | valid
  | garbage
deriving DecidableEq

/-- A routing-table entry. Direct networks have no next hop. -/
structure RipRoute (Device : Type) where
  destination : Prefix
  metric : Nat
  nextHop : Option Device
  learnedFrom : LearnedFrom Device
  state : RouteState := .valid
deriving DecidableEq

/-- One advertised destination of a response. -/
structure RipEntry where
  destination : Prefix
  metric : Nat
deriving DecidableEq

inductive Command where
  | request
  | response
deriving DecidableEq

structure RipPacket (Device : Type) where
  command : Command
  srcId : Device
  entries : List RipEntry
  authKey : String := ""
deriving DecidableEq

/-- State of one router. `redistributed` keeps the optional metric of each
injected destination. -/
structure RipNode (Device : Type) where
  enabled : Bool := false
  networks : List Prefix := []
  table : List (RipRoute Device) := []
  redistributed : OrderedMap Prefix (Option Nat) := .empty
  authKey : String := ""
  staticNeighbors : List Nat := []
deriving DecidableEq

/-- The unreachable metric. -/
def infinity : Nat := 16

/-- Metric of a redistributed destination; 1 when none was given. -/
def redistributedMetric (metric : Option Nat) : Nat := metric.getD 1

variable {Device : Type} [DecidableEq Device]

/-- Apply an update to the first route that passes a test. -/
def updateFirst (test : RipRoute Device → Bool) (update : RipRoute Device → RipRoute Device) :
    List (RipRoute Device) → List (RipRoute Device)
  | [] => []
  | route :: rest =>
    if test route then update route :: rest else route :: updateFirst test update rest

def addRoute (table : List (RipRoute Device)) (route : RipRoute Device) : List (RipRoute Device) :=
  if table.any fun old => old.destination == route.destination then
    updateFirst (fun old => old.destination == route.destination) (fun _ => route) table
  else table ++ [route]

def directTable (networks : List Prefix) : List (RipRoute Device) :=
  networks.foldl (fun table destination =>
    addRoute table { destination, metric := 0, nextHop := none, learnedFrom := .direct }) []

/-- Start with the configured networks and an otherwise empty table. -/
def RipNode.start (node : RipNode Device) (networks : List Prefix) : RipNode Device :=
  { node with enabled := true, networks, table := directTable networks }

def poisonEntries (routes : List (RipRoute Device)) : List RipEntry :=
  routes.map fun route => { destination := route.destination, metric := infinity }

def learnedThrough (peers : List Device) (route : RipRoute Device) : Bool :=
  match route.learnedFrom with
  | .direct => false
  | .peer source => decide (source ∈ peers)

def advertisedTo (peer : Device) (route : RipRoute Device) : Bool :=
  match route.learnedFrom with
  | .direct => false
  | .peer source => source != peer && route.metric < infinity

/-- Entries of an update before the outbound filter: configured networks, then
redistributed routes, then the table with split horizon. -/
def RipNode.updateEntries (node : RipNode Device) (peer : Device) : List RipEntry :=
  node.networks.map (fun destination => { destination, metric := 0 }) ++
    node.redistributed.entries.map (fun entry =>
      { destination := entry.1, metric := redistributedMetric entry.2 }) ++
    (node.table.filter (advertisedTo peer)).map fun route =>
      { destination := route.destination, metric := route.metric }

/-- Handle one response entry. The flag says whether the table changed in a way
that triggers an update. -/
def RipNode.receiveEntry (node : RipNode Device) (filters : DeviceFilters) (source : Device)
    (entry : RipEntry) : RipNode Device × Bool :=
  if entry.destination.network = "" ∨ entry.destination.network = "0.0.0.0" then (node, false)
  else if ¬ filters.checkPrefixList ((filters.distributeLists.lookup (.rip, .inbound)).getD "")
      entry.destination.network entry.destination.length then (node, false)
  else
    let newMetric := min (entry.metric + 1) infinity
    let sameDestination : RipRoute Device → Bool := fun route =>
      route.destination == entry.destination
    if infinity ≤ newMetric then
      let poisoned : RipRoute Device → Bool := fun route =>
        sameDestination route && route.learnedFrom == .peer source
      if node.table.any poisoned then
        ({ node with table := node.table.eraseP poisoned }, true)
      else (node, false)
    else
      match node.table.find? sameDestination with
      | none =>
        let route : RipRoute Device :=
          { destination := entry.destination, metric := newMetric,
            nextHop := some source, learnedFrom := .peer source }
        ({ node with table := addRoute node.table route }, true)
      | some existing =>
        if existing.learnedFrom = .peer source then
          ({ node with
              table := updateFirst sameDestination (fun route =>
                { route with metric := newMetric }) node.table },
            existing.metric != newMetric)
        else if newMetric < existing.metric then
          ({ node with
              table := updateFirst sameDestination (fun route =>
                { route with
                  metric := newMetric
                  learnedFrom := .peer source
                  nextHop := some source }) node.table },
            true)
        else (node, false)

/-- A timed-out route is marked unreachable and kept. -/
def RipNode.timeOut (node : RipNode Device) (destination : Prefix) : RipNode Device :=
  { node with
    table := updateFirst (fun route => route.destination == destination) (fun route =>
        if route.metric < infinity then { route with metric := infinity, state := .garbage }
        else route) node.table }

def RipNode.collect (node : RipNode Device) (destination : Prefix) : RipNode Device :=
  { node with table := node.table.eraseP fun route => route.destination == destination }

/-- The surroundings that RIP reads and never writes. -/
structure Surroundings (Device : Type) where
  network : VirtualNetwork Device
  filters : FilterEngine Device

/-- A response being handled, with the entries still to come. -/
structure ReceiveTask (Device : Type) where
  receiver : Device
  source : Device
  remaining : List RipEntry
  changed : Bool
deriving DecidableEq

/-- An update being sent; it reads its neighbours when it begins. -/
structure SendTask (Device : Type) where
  sender : Device
  remaining : Option (List Device)
deriving DecidableEq

/-- Nodes, packets on the wire, and suspended activities. A router that stops is
among `stopping` until its poison has been handled, and enabled until then. -/
structure RipState (Device : Type) where
  nodes : OrderedMap Device (RipNode Device)
  inFlight : List (Device × RipPacket Device) := []
  receiving : List (ReceiveTask Device) := []
  sending : List (SendTask Device) := []
  stopping : List Device := []

/-- What can happen next. `deliver` and the `continue` events name a position in the
list they act on, so any order and any delay is a run. -/
inductive RipEvent (Device : Type) where
  | start (device : Device)
  | stop (device : Device)
  | continueStop (index : Nat)
  | interfaceDown (device : Device) (peers : List Device)
  | sendRequest (device : Device)
  | sendUpdate (device : Device)
  | continueSend (index : Nat)
  | deliver (index : Nat)
  | continueReceive (index : Nat)
  | timeOut (device : Device) (destination : Prefix)
  | collect (device : Device) (destination : Prefix)

def broadcastReceivers (network : VirtualNetwork Device) (nodes : OrderedMap Device (RipNode Device))
    (source : Device) : List Device :=
  network.directReceivers true [] source ++
    network.floodThroughSwitches (fun device => (nodes.lookup device).isSome) source

/-- Put one packet on the wire for every receiver of a broadcast. -/
def RipState.broadcast (state : RipState Device) (network : VirtualNetwork Device)
    (packet : RipPacket Device) : RipState Device :=
  { state with
    inFlight := state.inFlight ++
      (broadcastReceivers network state.nodes packet.srcId).map fun receiver => (receiver, packet) }

def RipState.setNode (state : RipState Device) (device : Device) (node : RipNode Device) :
    RipState Device :=
  { state with nodes := state.nodes.insert device node }

/-- A neighbour named by address receives updates across segments. -/
def isStaticNeighbor (network : VirtualNetwork Device) (node : RipNode Device)
    (device peer : Device) : Bool :=
  peer != device && (network.ipsOf peer).any fun ip => decide (ip.address ∈ node.staticNeighbors)

def updatePacket (surroundings : Surroundings Device) (nodes : OrderedMap Device (RipNode Device))
    (device : Device) (node : RipNode Device) (peer : Device) : Option (RipPacket Device) :=
  let network := surroundings.network
  let shut := match network.interfaceLinks device peer with
    | none => false
    | some iface => iface != "" && decide (iface ∈ network.downInterfaces device)
  let entries := (surroundings.filters device).filterRoutes RipEntry.destination .rip .outbound
    (node.updateEntries peer)
  let peerEnabled := match nodes.lookup peer with
    | none => false
    | some peerNode => peerNode.enabled
  if shut then none
  else if !isStaticNeighbor network node device peer && !network.sharesSegment device peer then none
  else if entries.isEmpty then none
  else if peerEnabled then
    some { command := .response, srcId := device, entries, authKey := node.authKey }
  else none

/-- Serve the next neighbour of a suspended update. -/
def RipState.continueSend (state : RipState Device) (surroundings : Surroundings Device)
    (index : Nat) : RipState Device :=
  match state.sending[index]? with
  | none => state
  | some task =>
    match state.nodes.lookup task.sender with
    | none => { state with sending := state.sending.eraseIdx index }
    | some node =>
      match task.remaining with
      | none =>
        if node.enabled then
          { state with
            sending := state.sending.set index
              { task with remaining := some (surroundings.network.getNeighbors task.sender) } }
        else { state with sending := state.sending.eraseIdx index }
      | some [] => { state with sending := state.sending.eraseIdx index }
      | some (peer :: rest) =>
        { state with
          sending := state.sending.set index { task with remaining := some rest }
          inFlight := state.inFlight ++
            ((updatePacket surroundings state.nodes task.sender node peer).map
              fun packet => (peer, packet)).toList }

/-- Take a packet from the wire. A request is answered by an update; a response is
accepted when the receiver has no key or the keys agree. -/
def RipState.deliver (state : RipState Device) (index : Nat) : RipState Device :=
  match state.inFlight[index]? with
  | none => state
  | some (receiver, packet) =>
    let taken := { state with inFlight := state.inFlight.eraseIdx index }
    match state.nodes.lookup receiver with
    | none => taken
    | some node =>
      if !node.enabled then taken
      else
        match packet.command with
        | .request =>
          { taken with sending := taken.sending ++ [{ sender := receiver, remaining := none }] }
        | .response =>
          if node.authKey != "" && packet.authKey != node.authKey then taken
          else
            { taken with
              receiving := taken.receiving ++
                [{ receiver, source := packet.srcId, remaining := packet.entries,
                   changed := false }] }

/-- Handle the next entry of a response; a finished response that changed the table
triggers an update. -/
def RipState.continueReceive (state : RipState Device) (surroundings : Surroundings Device)
    (index : Nat) : RipState Device :=
  match state.receiving[index]? with
  | none => state
  | some task =>
    match task.remaining with
    | [] =>
      { state with
        receiving := state.receiving.eraseIdx index
        sending := state.sending ++
          (if task.changed then [{ sender := task.receiver, remaining := none }] else []) }
    | entry :: rest =>
      match state.nodes.lookup task.receiver with
      | none => { state with receiving := state.receiving.eraseIdx index }
      | some node =>
        let result := node.receiveEntry (surroundings.filters task.receiver) task.source entry
        { state.setNode task.receiver result.1 with
          receiving := state.receiving.set index
            { task with remaining := rest, changed := task.changed || result.2 } }

/-- Disable a router whose poison has been sent. -/
def RipState.continueStop (state : RipState Device) (index : Nat) : RipState Device :=
  match state.stopping[index]? with
  | none => state
  | some device =>
    let stopped := { state with stopping := state.stopping.eraseIdx index }
    match state.nodes.lookup device with
    | none => stopped
    | some node => stopped.setNode device { node with enabled := false }

/-- One step of the engine. `networks` gives the networks a router is started with. -/
def step (surroundings : Surroundings Device) (networks : Device → List Prefix)
    (state : RipState Device) : RipEvent Device → RipState Device
  | .start device =>
    state.setNode device (((state.nodes.lookup device).getD {}).start (networks device))
  | .stop device =>
    match state.nodes.lookup device with
    | none => state
    | some node =>
      let poison : RipPacket Device :=
        { command := .response, srcId := device, entries := poisonEntries node.table }
      let warned := if node.table.isEmpty then state
        else state.broadcast surroundings.network poison
      { warned with stopping := warned.stopping ++ [device] }
  | .continueStop index => state.continueStop index
  | .interfaceDown device peers =>
    match state.nodes.lookup device with
    | none => state
    | some node =>
      if !node.enabled then state
      else
        let removed := node.table.filter (learnedThrough peers)
        let kept := node.table.filter fun route => !learnedThrough peers route
        let poison : RipPacket Device :=
          { command := .response, srcId := device, entries := poisonEntries removed }
        let reduced := state.setNode device { node with table := kept }
        if removed.isEmpty then reduced else reduced.broadcast surroundings.network poison
  | .sendRequest device =>
    match state.nodes.lookup device with
    | none => state
    | some _ =>
      state.broadcast surroundings.network
        { command := .request, srcId := device,
          entries := [{ destination := ⟨"0.0.0.0", 0⟩, metric := infinity }] }
  | .sendUpdate device =>
    { state with sending := state.sending ++ [{ sender := device, remaining := none }] }
  | .continueSend index => state.continueSend surroundings index
  | .deliver index => state.deliver index
  | .continueReceive index => state.continueReceive surroundings index
  | .timeOut device destination =>
    match state.nodes.lookup device with
    | none => state
    | some node => state.setNode device (node.timeOut destination)
  | .collect device destination =>
    match state.nodes.lookup device with
    | none => state
    | some node => state.setNode device (node.collect destination)

end NetLab.Rip
