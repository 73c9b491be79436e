import Mathlib.Data.Nat.Digits.Defs
import Mathlib.Data.Prod.Lex
import NetLab.Network.VirtualNetwork

/-!
# Spanning tree engine

Bridges, their ports, and what a bridge does with a BPDU: the guards, the better
root, and the roles of its ports. A port is stored under its interface name and
carries a token, since a transition that is under way keeps the port object and
not the name. Texts sent to the display are left out.
-/

namespace NetLab.Stp

open NetLab.Library NetLab.Network

/-- A bridge identifier `priority.mac`. The priority is the number its decimal
digits denote. The octets of a MAC have fixed width, so their text is ordered like
the number they denote. -/
structure BridgeId where
  priority : Nat
  mac : Nat
deriving DecidableEq

/-- Key under which the topology computation compares bridge identifiers. -/
def bidKey (bid : BridgeId) : ℕ ×ₗ ℕ := toLex (bid.priority, bid.mac)

/-- `int(text, 16)` of the decimal text of a priority. -/
def hexReading (priority : Nat) : Nat := Nat.ofDigits 16 (Nat.digits 10 priority)

/-- Negative when the first bridge identifier is superior. The priorities are read
as hexadecimal here. -/
def compareBridgeId (first second : BridgeId) : Int :=
  let difference : Int := (hexReading first.priority : Int) - hexReading second.priority
  if difference ≠ 0 then difference
  else if first.mac < second.mac then -1
  else if second.mac < first.mac then 1
  else 0

/-- States that the engine gives to a port. -/
inductive PortState where
  | blocking
  | discarding
  | learning
  | forwarding
  | errDisabled
  | rootInconsistent
deriving DecidableEq

/-- Role of a port. -/
inductive PortRole where
  | root
  | designated
  | alternate
  | disabled
deriving DecidableEq

/-- Protocol variant of a bridge. -/
inductive StpMode where
  | stp
  | rstp
deriving DecidableEq

/-- The part of a BPDU that a port remembers. -/
structure ReceivedBpdu where
  rootBid : BridgeId
  rootCost : Nat
  senderBid : BridgeId
deriving DecidableEq

/-- A port. The token tells apart two ports that had the same name in turn. -/
structure Port (Device : Type) where
  token : Nat
  state : PortState
  role : PortRole
  cost : Nat := 19
  connectedTo : Device
  portfast : Bool := false
  bpduguard : Bool := false
  rootGuard : Bool := false
  received : Option ReceivedBpdu := none
deriving DecidableEq

/-- Interface settings that outlive the port. -/
structure PortConfig where
  portfast : Bool := false
  bpduguard : Bool := false
  rootGuard : Bool := false
deriving DecidableEq

/-- A bridge. -/
structure StpNode (Device : Type) where
  enabled : Bool := false
  mode : StpMode := .rstp
  bridgeId : BridgeId
  rootBridgeId : BridgeId
  rootPathCost : Nat := 0
  ports : OrderedMap String (Port Device) := .empty
  tcCount : Nat := 0
  bpduguardDefault : Bool := false
deriving DecidableEq

/-- A BPDU, or a topology change notification when the flag is set. -/
structure Bpdu (Device : Type) where
  srcId : Device
  rootBridgeId : BridgeId
  rootPathCost : Nat
  bridgeId : BridgeId
  topologyChange : Bool := false

/-- What a bridge does once a transition it waits for is complete. `afterRootLoss`
holds the ports already passed over and the number of ports at the start. -/
inductive AfterTransition where
  | nothing
  | recomputeTopology
  | afterRootLoss (passed : List String) (size : Nat)

/-- A suspended activity. A transition works on the port object it was given. -/
inductive StpTask (Device : Type) where
  | electRoot (bridge : Device)
  | beginTransition (bridge : Device) (name : String) (token : Nat)
  | endTransition (bridge : Device) (name : String) (token : Nat) (next : AfterTransition)

/-- Bridges, interface settings and suspended activities; `network` and `mac` are
read and never written. -/
structure StpState (Device : Type) where
  network : VirtualNetwork Device
  mac : Device → Nat
  nodes : OrderedMap Device (StpNode Device) := .empty
  portConfig : Device → String → PortConfig := fun _ _ => {}
  tasks : List (StpTask Device) := []
  nextToken : Nat := 0

/-! ## Roles of the ports of one bridge -/

section Roles

variable {Device : Type}

def Port.assign (port : Port Device) (role : PortRole) (state : PortState) : Port Device :=
  { port with
    role := role
    state := state }

/-- A candidate for the root port: its name, the cost through it and the sender. -/
structure RootCandidate where
  name : String
  pathCost : Nat
  sender : BridgeId

def StpNode.offer (node : StpNode Device) (name : String) (port : Port Device) :
    Option RootCandidate :=
  match port.received with
  | none => none
  | some received =>
    if received.rootBid = node.rootBridgeId then
      some ⟨name, received.rootCost + port.cost, received.senderBid⟩
    else none

/-- A candidate replaces the best one so far when it is cheaper, or as cheap and
from a superior sender. -/
def RootCandidate.improves (candidate : RootCandidate) : Option RootCandidate → Bool
  | none => true
  | some best =>
    candidate.pathCost < best.pathCost || (candidate.pathCost == best.pathCost &&
        compareBridgeId candidate.sender best.sender < 0)

/-- Take a port into account in the search for the root port. -/
def StpNode.considerPort (node : StpNode Device) (best : Option RootCandidate)
    (entry : String × Port Device) : Option RootCandidate :=
  match node.offer entry.1 entry.2 with
  | none => best
  | some candidate => if candidate.improves best then some candidate else best

/-- The port with the least cost to the root among those that heard of it. -/
def StpNode.bestPort (node : StpNode Device) : Option RootCandidate :=
  node.ports.entries.foldl node.considerPort none

/-- Role of a port that is not the root port: the end nearer to the root, or the
superior bridge, is designated for the link. -/
def StpNode.segmentRole (node : StpNode Device) (port : Port Device) : Port Device :=
  match port.received with
  | none => port.assign .designated .forwarding
  | some received =>
    if received.rootCost < node.rootPathCost then port.assign .alternate .blocking
    else if received.rootCost = node.rootPathCost then
      if compareBridgeId node.bridgeId received.senderBid < 0 then
        port.assign .designated .forwarding
      else port.assign .alternate .blocking
    else port.assign .designated .forwarding

/-- Decide the role and state of every port from the BPDUs they received. -/
def StpNode.recomputePortRoles (node : StpNode Device) : StpNode Device :=
  if node.rootBridgeId = node.bridgeId then
    { node with ports := node.ports.mapValues fun _ port => port.assign .designated .forwarding }
  else
    let best := node.bestPort.map RootCandidate.name
    { node with
      ports := node.ports.mapValues fun name port =>
        if best = some name then port.assign .root .forwarding else node.segmentRole port }

/-- A bridge that takes itself for the root opens all its ports. -/
def StpNode.electRoot (node : StpNode Device) : StpNode Device :=
  if node.rootBridgeId = node.bridgeId then
    { node with ports := node.ports.mapValues fun _ port => port.assign .designated .forwarding }
  else node

def StpNode.bpdu (node : StpNode Device) (device : Device) : Bpdu Device where
  srcId := device
  rootBridgeId := node.rootBridgeId
  rootPathCost := node.rootPathCost
  bridgeId := node.bridgeId

end Roles

variable {Device : Type} [DecidableEq Device]

def StpNode.portTo (node : StpNode Device) (peer : Device) : Option (String × Port Device) :=
  node.ports.entries.find? fun entry => decide (entry.2.connectedTo = peer)

def StpNode.modifyPort (node : StpNode Device) (name : String)
    (update : Port Device → Port Device) : StpNode Device :=
  { node with ports := node.ports.modify name update }

/-- Update a bridge, when there is one. -/
def StpState.modifyNode (state : StpState Device) (device : Device)
    (update : StpNode Device → StpNode Device) : StpState Device :=
  { state with nodes := state.nodes.modify device update }

def StpState.recomputePortRoles (state : StpState Device) (device : Device) : StpState Device :=
  state.modifyNode device StpNode.recomputePortRoles

/-! ## Reception of a BPDU -/

/-- Whether a port is an edge port, by its own flag or the interface settings. -/
def StpState.isPortfast (state : StpState Device) (device : Device) (name : String)
    (port : Port Device) : Bool :=
  port.portfast || (state.portConfig device name).portfast

/-- Whether BPDU guard holds on a port. -/
def StpState.isBpduguard (state : StpState Device) (device : Device) (receiver : StpNode Device)
    (name : String) (port : Port Device) : Bool :=
  port.bpduguard || (state.portConfig device name).bpduguard || receiver.bpduguardDefault

def StpState.isRootGuard (state : StpState Device) (device : Device) (name : String)
    (port : Port Device) : Bool :=
  port.rootGuard || (state.portConfig device name).rootGuard

/-- An edge port that hears a BPDU is an edge port no more, and a transition through
the normal states is started for it. -/
def StpState.demoteEdge (state : StpState Device) (device : Device) (name : String)
    (token : Nat) : StpState Device :=
  let demoted := state.modifyNode device fun node =>
    node.modifyPort name fun port =>
      { port with
        portfast := false
        state := .discarding }
  { demoted with
    portConfig := fun bridge interface =>
      if bridge = device ∧ interface = name then
        { state.portConfig bridge interface with portfast := false }
      else state.portConfig bridge interface
    tasks := state.tasks ++ [.beginTransition device name token] }

/-- Root guard blocks a port that hears of a superior root. -/
def StpNode.blockInconsistent (node : StpNode Device) (name : String) : StpNode Device :=
  match node.ports.lookup name with
  | none => node
  | some port =>
    if port.state = .rootInconsistent then node
    else
      { node.modifyPort name (fun port => port.assign .alternate .rootInconsistent) with
        tcCount := node.tcCount + 1 }

/-- A port that root guard had blocked opens again. -/
def StpNode.unblockInconsistent (node : StpNode Device) (name : String) : StpNode Device :=
  node.modifyPort name fun port =>
    if port.state = .rootInconsistent then { port with state := .forwarding } else port

/-- Remember a BPDU at the port that received it, and follow it when it announces a
better root or a cheaper path to the same root. -/
def StpNode.learn (node : StpNode Device) (name : String) (cost : Nat) (msg : Bpdu Device) :
    StpNode Device :=
  let stored := node.modifyPort name fun port =>
    { port with received := some ⟨msg.rootBridgeId, msg.rootPathCost, msg.bridgeId⟩ }
  let counted :=
    { stored with tcCount := if msg.topologyChange then node.tcCount + 1 else node.tcCount }
  let betterRoot := compareBridgeId msg.rootBridgeId node.rootBridgeId < 0
  let sameRootBetterCost :=
    msg.rootBridgeId = node.rootBridgeId ∧ msg.rootPathCost + cost < node.rootPathCost
  if betterRoot ∨ sameRootBetterCost then
    { counted with
      rootBridgeId := msg.rootBridgeId
      rootPathCost := msg.rootPathCost + cost }
  else counted

/-- Handle a BPDU: BPDU guard, end of an edge port, root guard, then the ordinary
processing. -/
def StpState.receiveBpdu (state : StpState Device) (receiverId : Device) (msg : Bpdu Device) :
    StpState Device :=
  match state.nodes.lookup receiverId with
  | none => state
  | some receiver =>
    if !receiver.enabled then state
    else
      match receiver.portTo msg.srcId with
      | none => state
      | some (name, port) =>
        let isPortfast := state.isPortfast receiverId name port
        let isBpduguard := state.isBpduguard receiverId receiver name port
        if isPortfast && isBpduguard then
          state.modifyNode receiverId fun node =>
            node.modifyPort name fun port => port.assign .disabled .errDisabled
        else
          let current :=
            if isPortfast then state.demoteEdge receiverId name port.token else state
          if state.isRootGuard receiverId name port then
            if compareBridgeId msg.rootBridgeId receiver.bridgeId < 0 then
              current.modifyNode receiverId fun node => node.blockInconsistent name
            else
              current.modifyNode receiverId fun node =>
                ((node.unblockInconsistent name).learn name port.cost msg).recomputePortRoles
          else
            current.modifyNode receiverId fun node =>
              (node.learn name port.cost msg).recomputePortRoles

end NetLab.Stp
