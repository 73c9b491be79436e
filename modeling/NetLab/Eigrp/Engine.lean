import NetLab.Network.Filter
import NetLab.Network.VirtualNetwork
import Mathlib.Logic.Function.Basic

/-!
# EIGRP engine

A packet is handled when it is sent, inside the call that sends it, so one event runs a
whole cascade of calls before anything else happens. The call stack is part of the state:
an event puts calls on an empty stack, and `proceed` runs the innermost call up to the
next packet. What neighbours and hold timers are shown as is not represented.
-/

namespace NetLab.Eigrp

open NetLab.Library NetLab.Network

/-- Metric of a link of this bandwidth (kbit/s) and delay (tens of microseconds). -/
def eigrpClassicMetric (bandwidthKbps delayTensUsec : Nat) : Nat :=
  if bandwidthKbps = 0 then 4294967295
  else 256 * (10000000 / bandwidthKbps + delayTensUsec)

/-- Every link counts as a Gigabit one. -/
def linkCost : Nat := eigrpClassicMetric 1000000 1

/-- Next hop of a route: an address, or the name of a neighbour without one. -/
inductive NextHop (Device : Type) where
  | unspecified
  | address (ip : Nat)
  | unnamed (device : Device)
deriving DecidableEq

/-- A topology entry. A direct network was learned from nobody. -/
structure EigrpRoute (Device : Type) where
  destination : Prefix
  fd : Nat
  rd : Nat
  nextHop : NextHop Device
  learnedFrom : Option Device
  external : Bool := false
deriving DecidableEq

/-- One destination of an update. -/
structure EigrpEntry where
  destination : Prefix
  metric : Nat
  external : Bool
deriving DecidableEq

/-- Data of one router. -/
structure EigrpNode (Device : Type) where
  enabled : Bool := false
  asn : Nat := 0
  networks : List Prefix := []
  topology : List (EigrpRoute Device) := []
  neighbors : List Device := []
  kValues : List Nat := [1, 0, 1, 0, 0]
  passiveIfaces : List String := []
  redistributed : List (Prefix × Option Nat) := []
deriving DecidableEq

/-- Links, addresses and route filters, which EIGRP only reads. -/
structure Surroundings (Device : Type) where
  network : VirtualNetwork Device
  filters : FilterEngine Device

variable {Device : Type} [DecidableEq Device]

/-- The route to a configured network. -/
def directRoute (destination : Prefix) : EigrpRoute Device where
  destination
  fd := linkCost
  rd := 0
  nextHop := .unspecified
  learnedFrom := none

/-- Address of a neighbour in a segment of the router, else any that is not also the
router's own, else its name. -/
def peerIp (network : VirtualNetwork Device) (device peer : Device) : NextHop Device :=
  let mine := network.ipsOf device
  let others := (network.ipsOf peer).filter fun ip =>
    !mine.any fun own => own.address == ip.address
  let inSegment := others.find? fun ip => mine.any fun own =>
    own.address &&& prefixMask ip.prefixLength == ip.address &&& prefixMask ip.prefixLength
  match inSegment.or others.head? with
  | some ip => .address ip.address
  | none => .unnamed peer

/-! ## Topology table -/

def addDirect (topology : List (EigrpRoute Device)) (networks : List Prefix) :
    List (EigrpRoute Device) :=
  networks.foldl (fun topology destination =>
    if topology.any fun route => route.destination == destination && route.learnedFrom.isNone then
      topology
    else topology ++ [directRoute destination]) topology

def offeredRoute (nextHop : NextHop Device) (source : Device) (entry : EigrpEntry) :
    EigrpRoute Device where
  destination := entry.destination
  fd := entry.metric + linkCost
  rd := entry.metric
  nextHop
  learnedFrom := some source
  external := entry.external

/-- An offer replaces a learned route that is longer or comes from the same neighbour. -/
def accepts (existing : EigrpRoute Device) (source : Device) (entry : EigrpEntry) : Bool :=
  existing.learnedFrom.isSome &&
    (decide (entry.metric + linkCost < existing.fd) || existing.learnedFrom == some source)

/-- Handle one entry: the first route to its destination counts. The flag says whether
the table changed. -/
def receiveEntry (nextHop : NextHop Device) (source : Device) (entry : EigrpEntry) :
    List (EigrpRoute Device) → List (EigrpRoute Device) × Bool
  | [] => ([offeredRoute nextHop source entry], true)
  | existing :: rest =>
    if existing.destination = entry.destination then
      let offered := offeredRoute nextHop source entry
      if accepts existing source entry && existing != offered then (offered :: rest, true)
      else (existing :: rest, false)
    else
      let handled := receiveEntry nextHop source entry rest
      (existing :: handled.1, handled.2)

/-- Handle the entries of an update in order. -/
def receiveEntries (nextHop : NextHop Device) (source : Device)
    (topology : List (EigrpRoute Device)) (entries : List EigrpEntry) :
    List (EigrpRoute Device) × Bool :=
  entries.foldl (fun handled entry =>
    let next := receiveEntry nextHop source entry handled.1
    (next.1, handled.2 || next.2)) (topology, false)

def EigrpRoute.entry (route : EigrpRoute Device) : EigrpEntry where
  destination := route.destination
  metric := route.fd
  external := route.external

/-- What an update to a neighbour lists before the outbound filter: the table without
the routes learned from it, and what is redistributed. -/
def EigrpNode.updateEntries (node : EigrpNode Device) (peer : Device) : List EigrpEntry :=
  (node.topology.filter fun route => route.learnedFrom != some peer).map EigrpRoute.entry ++
  node.redistributed.map fun entry =>
    { destination := entry.1, metric := entry.2.getD 512000, external := true }

/-- Enable the process, and add the networks that are new. -/
def EigrpNode.start (node : EigrpNode Device) (asn : Nat) (networks : List Prefix) :
    EigrpNode Device :=
  let known := networks.foldl (fun known destination =>
    VirtualNetwork.addMember destination known) node.networks
  { node with
    enabled := true
    asn
    networks := known
    topology := addDirect node.topology known }

def EigrpNode.neighborDown (node : EigrpNode Device) (peer : Device) : EigrpNode Device :=
  { node with
    neighbors := node.neighbors.filter fun other => decide (other ≠ peer)
    topology := node.topology.filter fun route => route.learnedFrom != some peer }

/-- Disable the process; the configured networks are kept. -/
def EigrpNode.shutdown (node : EigrpNode Device) : EigrpNode Device :=
  { node with enabled := false, topology := [] }

/-! ## Calls -/

/-- A call in progress, with what it still has to do. `answer` is the hello returned
to a new neighbour, `announce` the update at the end of a start. -/
inductive Call (Device : Type) where
  | sendHello (device : Device) (peers : List Device)
  | answer (receiver source : Device)
  | sendUpdate (device : Device) (targets : List Device)
  | announce (device : Device)
  | neighborDown (device peer : Device)
  | shutdown (device : Device)
deriving DecidableEq

/-- Surroundings, routers and the calls in progress, innermost first. A router that was
never configured has the data of a new one. -/
structure EigrpWorld (Device : Type) where
  surroundings : Surroundings Device
  nodes : Device → EigrpNode Device := fun _ => {}
  calls : List (Call Device) := []

/-- Configuration commands, timers and interface changes. The second half of a start
comes after a pause and is an event of its own, as is the reset after a change of K
values. -/
inductive EigrpEvent (Device : Type) where
  | start (device : Device) (asn : Nat) (networks : List Prefix)
  | started (device : Device)
  | stop (device : Device)
  | helloTimer (device : Device)
  | holdTimer (device peer : Device)
  | interfaceDown (device : Device) (peers : List Device)
  | interfaceUp (device : Device) (peers : List Device)
  | setKValues (device : Device) (kValues : List Nat)
  | resetNeighbors (device : Device)
  | setPassive (device : Device) (ifaces : List String)
  | reconfigure (surroundings : Surroundings Device)
  | proceed

namespace EigrpWorld

variable (world : EigrpWorld Device)

/-- Replace the data of one router. -/
def setNode (device : Device) (node : EigrpNode Device) : EigrpWorld Device :=
  { world with nodes := Function.update world.nodes device node }

/-- Put calls on the stack. -/
def push (calls : List (Call Device)) : EigrpWorld Device :=
  { world with calls := calls ++ world.calls }

/-- Peers a hello is sent to: not over a shut or passive interface, and in the segment. -/
def reachablePeers (device : Device) : List Device :=
  let network := world.surroundings.network
  let node := world.nodes device
  (network.getNeighbors device).filter fun peer =>
    (match network.interfaceLinks device peer with
      | none => true
      | some iface => iface == "" ||
          !(decide (iface ∈ network.downInterfaces device) || decide (iface ∈ node.passiveIfaces))) &&
    network.sharesSegment device peer

/-- Packets are taken by an enabled router of the same AS with compatible tags. -/
def takes (receiver source : Device) : Bool :=
  (world.nodes receiver).enabled &&
    world.surroundings.network.vlanTagsCompatible receiver source &&
    (world.nodes source).asn == (world.nodes receiver).asn

/-- Handle a hello: a new neighbour with the same K values gets an update and a hello. -/
def receiveHello (receiver source : Device) : EigrpWorld Device :=
  let node := world.nodes receiver
  if !world.takes receiver source then world
  else if (world.nodes source).kValues ≠ node.kValues then world
  else if source ∈ node.neighbors then world
  else (world.setNode receiver { node with neighbors := node.neighbors ++ [source] }).push
    [.sendUpdate receiver [source], .answer receiver source]

/-- Handle an update of a neighbour; a change of the table is passed on to all. -/
def receiveUpdate (receiver source : Device) (entries : List EigrpEntry) : EigrpWorld Device :=
  let node := world.nodes receiver
  if !world.takes receiver source then world
  else if source ∉ node.neighbors then world
  else
    let permitted := (world.surroundings.filters receiver).filterRoutes EigrpEntry.destination
      .eigrp .inbound entries
    let handled := receiveEntries (peerIp world.surroundings.network receiver source) source
      node.topology permitted
    (world.setNode receiver { node with topology := handled.1 }).push
      (if handled.2 then [.sendUpdate receiver node.neighbors] else [])

/-- What a router sends to a neighbour. -/
def updateTo (device peer : Device) : List EigrpEntry :=
  (world.surroundings.filters device).filterRoutes EigrpEntry.destination .eigrp .outbound
    ((world.nodes device).updateEntries peer)

/-- Run a call up to its next packet, and have the packet handled. -/
def runCall : Call Device → EigrpWorld Device
  | .sendHello device peers =>
    match peers with
    | [] => world
    | peer :: rest =>
      if !(world.nodes device).enabled then world
      else
        let waiting := world.push [.sendHello device rest]
        if (world.nodes peer).enabled then waiting.receiveHello peer device else waiting
  | .answer receiver source =>
    if receiver ∈ (world.nodes source).neighbors then world
    else world.push [.sendHello receiver [source]]
  | .sendUpdate device targets =>
    match targets with
    | [] => world
    | peer :: rest =>
      if !(world.nodes device).enabled then world
      else
        let waiting := world.push [.sendUpdate device rest]
        if peer ∉ (world.nodes device).neighbors then waiting
        else if (world.updateTo device peer).isEmpty then waiting
        else waiting.receiveUpdate peer device (world.updateTo device peer)
  | .announce device =>
    if (world.nodes device).neighbors.isEmpty then world
    else world.push [.sendUpdate device (world.nodes device).neighbors]
  | .neighborDown device peer =>
    if peer ∈ (world.nodes device).neighbors then
      world.setNode device ((world.nodes device).neighborDown peer)
    else world
  | .shutdown device => world.setNode device (world.nodes device).shutdown

def proceed : EigrpWorld Device :=
  match world.calls with
  | [] => world
  | call :: rest => { world with calls := rest }.runCall call

/-- What an event does when no call is in progress. -/
def handle : EigrpEvent Device → EigrpWorld Device
  | .start device asn networks =>
    world.setNode device ((world.nodes device).start asn networks)
  | .started device => world.push [.sendHello device (world.reachablePeers device), .announce device]
  | .stop device =>
    world.push ((world.nodes device).neighbors.map (.neighborDown device) ++ [.shutdown device])
  | .helloTimer device => world.push [.sendHello device (world.reachablePeers device)]
  | .holdTimer device peer => world.push [.neighborDown device peer]
  | .interfaceDown device peers =>
    if !(world.nodes device).enabled then world
    else world.push (peers.flatMap fun peer => [.neighborDown device peer, .neighborDown peer device])
  | .interfaceUp device peers =>
    if !(world.nodes device).enabled then world
    else world.push (peers.flatMap fun peer => [.sendHello device [peer], .sendHello peer [device]])
  | .setKValues device kValues => world.setNode device { world.nodes device with kValues }
  | .resetNeighbors device =>
    world.push ((world.nodes device).neighbors.flatMap fun peer =>
      [.neighborDown device peer, .neighborDown peer device])
  | .setPassive device ifaces =>
    world.setNode device { world.nodes device with passiveIfaces := ifaces }
  | .reconfigure surroundings => { world with surroundings }
  | .proceed => world

/-- One step: an event waits until the calls in progress have returned. -/
def step (world : EigrpWorld Device) : EigrpEvent Device → EigrpWorld Device
  | .proceed => world.proceed
  | event => if world.calls.isEmpty then world.handle event else world

end EigrpWorld

end NetLab.Eigrp
