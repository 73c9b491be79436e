import NetLab.Library.Execution
import NetLab.Stp.Topology

/-!
# Spanning tree events

The operations of the engine as steps of one machine. A step runs until the source
gives up control, which it does only while a port waits in LEARNING and when an
activity is started on its own; what is left to do is a task of the state. BPDUs
are events, so they may arrive from anyone, at any time and in any order, and the
loop that sends them is not modelled.
-/

namespace NetLab.Stp

open NetLab.Library NetLab.Network

variable {Device : Type} [LinearOrder Device]

/-! ## Configuration -/

/-- The bridge of a device, created with the default identifier when it is missing. -/
def StpState.ensureNode (state : StpState Device) (device : Device) : StpState Device :=
  match state.nodes.lookup device with
  | some _ => state
  | none =>
    let bridgeId : BridgeId := ⟨8000, state.mac device⟩
    { state with
      nodes := state.nodes.insert device
        { bridgeId := bridgeId
          rootBridgeId := bridgeId } }

/-- Store a new port under a name, in place of the port that had the name. -/
def StpState.putPort (state : StpState Device) (device : Device) (name : String)
    (peer : Device) (initial : PortState) : StpState Device :=
  let port : Port Device :=
    { token := state.nextToken
      state := initial
      role := .designated
      connectedTo := peer }
  { state.modifyNode device (fun node => { node with ports := node.ports.insert name port }) with
    nextToken := state.nextToken + 1 }

def StpState.portNameForPeer (state : StpState Device) (device peer : Device)
    (fallback : String) : String :=
  (state.network.interfaceLinks device peer).getD fallback

/-- Name of the generic port with a number. -/
def etherName (number : Nat) : String := "ether " ++ toString number

/-- Create the missing ports of a bridge towards its neighbours; `number` counts the
neighbours. -/
def StpState.initPorts (state : StpState Device) (device : Device) (number : Nat) :
    List Device → StpState Device
  | [] => state
  | peer :: peers =>
    let name := state.portNameForPeer device peer (etherName number)
    let present := (state.nodes.lookup device).any fun node => decide (name ∈ node.ports.keys)
    let next := if present then state else state.putPort device name peer .forwarding
    next.initPorts device (number + 1) peers

def StpState.vlanBridgeId (state : StpState Device) (device : Device) (vlan priority : Nat) :
    BridgeId :=
  ⟨priority + vlan, state.mac device⟩

/-- Start spanning tree on a device. -/
def StpState.start (state : StpState Device) (device : Device) (mode : StpMode)
    (priority vlan : Nat) : StpState Device :=
  let bridgeId := state.vlanBridgeId device vlan priority
  let started := (state.ensureNode device).modifyNode device fun node =>
    { node with
      enabled := true
      mode := mode
      bridgeId := bridgeId
      rootBridgeId := bridgeId
      rootPathCost := 0 }
  started.initPorts device 1 (state.network.getNeighbors device)

/-- Stop spanning tree on a device. -/
def StpState.stop (state : StpState Device) (device : Device) : StpState Device :=
  state.modifyNode device fun node => { node with enabled := false }

/-- Give a bridge another priority; when it runs, it takes itself for the root again. -/
def StpState.setVlanPriority (state : StpState Device) (device : Device) (vlan priority : Nat) :
    StpState Device :=
  let bridgeId := state.vlanBridgeId device vlan priority
  (state.ensureNode device).modifyNode device fun node =>
    if node.enabled then
      { node with
        bridgeId := bridgeId
        rootBridgeId := bridgeId
        rootPathCost := 0 }
    else { node with bridgeId := bridgeId }

/-- Change the settings of an interface. -/
def StpState.setPortConfig (state : StpState Device) (device : Device) (name : String)
    (update : PortConfig → PortConfig) : StpState Device :=
  { state with
    portConfig := fun bridge interface =>
      if bridge = device ∧ interface = name then update (state.portConfig bridge interface)
      else state.portConfig bridge interface }

/-- Edge port setting; an edge port opens at once. -/
def StpState.setPortfast (state : StpState Device) (device : Device) (name : String)
    (enabled : Bool) : StpState Device :=
  (state.setPortConfig device name fun config => { config with portfast := enabled }).modifyNode
    device fun node =>
      node.modifyPort name fun port =>
        if enabled then { port.assign .designated .forwarding with portfast := true }
        else { port with portfast := false }

/-- BPDU guard setting. -/
def StpState.setBpduguard (state : StpState Device) (device : Device) (name : String)
    (enabled : Bool) : StpState Device :=
  (state.setPortConfig device name fun config => { config with bpduguard := enabled }).modifyNode
    device fun node => node.modifyPort name fun port => { port with bpduguard := enabled }

def StpState.setRootGuard (state : StpState Device) (device : Device) (name : String)
    (enabled : Bool) : StpState Device :=
  (state.setPortConfig device name fun config => { config with rootGuard := enabled }).modifyNode
    device fun node => node.modifyPort name fun port => { port with rootGuard := enabled }

/-- Edge port default; it opens all ports of the bridge. -/
def StpState.setPortfastDefault (state : StpState Device) (device : Device) (enabled : Bool) :
    StpState Device :=
  (state.ensureNode device).modifyNode device fun node =>
    if enabled then
      { node with
        ports := node.ports.mapValues fun _ port =>
          { port with
            portfast := true
            state := .forwarding } }
    else node

/-- BPDU guard default of a bridge. -/
def StpState.setBpduguardDefault (state : StpState Device) (device : Device) (enabled : Bool) :
    StpState Device :=
  (state.ensureNode device).modifyNode device fun node => { node with bpduguardDefault := enabled }

/-! ## Ports that come and go -/

def StpState.addPort (state : StpState Device) (device : Device) (name : String) (peer : Device) :
    StpState Device :=
  let added := (state.ensureNode device).putPort device name peer .blocking
  if (added.nodes.lookup device).any fun node => node.enabled then
    { added with tasks := added.tasks ++ [.electRoot device] }
  else added

def StpState.setPortState (state : StpState Device) (device : Device) (name : String)
    (token : Nat) (portState : PortState) : StpState Device :=
  state.modifyNode device fun node =>
    node.modifyPort name fun port =>
      if port.token = token then { port with state := portState } else port

/-- Put a port in LEARNING and wait. -/
def StpState.rapidTransition (state : StpState Device) (device : Device) (name : String)
    (token : Nat) (next : AfterTransition) : StpState Device :=
  let learning := state.setPortState device name token .learning
  { learning with tasks := learning.tasks ++ [.endTransition device name token next] }

/-- The walk over the ports after the loss of the root port. It goes on from the
ports already passed over, stops with an error when the number of ports changed,
and promotes the next alternate port; at the end roles and topology are recomputed. -/
def StpState.promoteAlternates (state : StpState Device) (device : Device)
    (passed : List String) (size : Nat) : StpState Device :=
  match state.nodes.lookup device with
  | none => state
  | some node =>
    if node.ports.keys.length ≠ size then state
    else
      let ahead := node.ports.entries.filter fun entry => decide (entry.1 ∉ passed)
      let skipped := ahead.takeWhile fun entry => decide (entry.2.role ≠ .alternate)
      match ahead.find? fun entry => decide (entry.2.role = .alternate) with
      | some (name, port) =>
        state.rapidTransition device name port.token
          (.afterRootLoss (passed ++ skipped.map Prod.fst ++ [name]) size)
      | none => (state.recomputePortRoles device).recomputeTopology

/-- Remove a port and count the topology change. -/
def StpNode.removePort (node : StpNode Device) (name : String) : StpNode Device :=
  { node with
    ports := node.ports.erase name
    tcCount := node.tcCount + 1 }

/-- Forget the root that was lost. -/
def StpNode.resetRoot (node : StpNode Device) : StpNode Device :=
  { node with
    rootBridgeId := node.bridgeId
    rootPathCost := 0 }

/-- Loss of the link to a peer. -/
def StpState.portDown (state : StpState Device) (device peer : Device) : StpState Device :=
  match state.nodes.lookup device with
  | none => state
  | some node =>
    if !node.enabled then state
    else
      match node.portTo peer with
      | none => state
      | some (name, port) =>
        let removed := state.modifyNode device fun node => node.removePort name
        if port.role = .root then
          (removed.modifyNode device StpNode.resetRoot).promoteAlternates device []
            (node.removePort name).ports.keys.length
        else (removed.recomputePortRoles device).recomputeTopology

/-- The first free generic port name; some number up to the number of ports plus one
is free. -/
def freeEtherName (taken : List String) : String :=
  let free := (List.range' 1 (taken.length + 1)).find? fun number =>
    decide (etherName number ∉ taken)
  etherName (free.getD 0)

/-- Return of the link to a peer. -/
def StpState.portUp (state : StpState Device) (device peer : Device) : StpState Device :=
  match state.nodes.lookup device with
  | none => state
  | some node =>
    if !node.enabled then state
    else if (node.portTo peer).isSome then state.recomputeTopology
    else
      let name := state.portNameForPeer device peer (freeEtherName node.ports.keys)
      match node.mode with
      | .rstp =>
        (state.putPort device name peer .discarding).rapidTransition device name
          state.nextToken .recomputeTopology
      | .stp => (state.putPort device name peer .blocking).recomputeTopology

/-! ## Suspended activities -/

def StpState.continueAfter (state : StpState Device) (device : Device) :
    AfterTransition → StpState Device
  | .nothing => state
  | .recomputeTopology => state.recomputeTopology
  | .afterRootLoss passed size => state.promoteAlternates device passed size

/-- Resume a suspended activity. -/
def StpState.resume (state : StpState Device) : StpTask Device → StpState Device
  | .electRoot device => state.modifyNode device StpNode.electRoot
  | .beginTransition device name token => state.rapidTransition device name token .nothing
  | .endTransition device name token next =>
    (state.setPortState device name token .forwarding).continueAfter device next

def StpState.advance (state : StpState Device) (index : Nat) : StpState Device :=
  match state.tasks[index]? with
  | none => state
  | some task => { state with tasks := state.tasks.eraseIdx index }.resume task

/-! ## The machine -/

/-- Events of the engine. -/
inductive StpEvent (Device : Type) where
  | start (device : Device) (mode : StpMode) (priority vlan : Nat)
  | stop (device : Device)
  | setVlanPriority (device : Device) (vlan priority : Nat)
  | setPortfast (device : Device) (name : String) (enabled : Bool)
  | setPortfastDefault (device : Device) (enabled : Bool)
  | setBpduguard (device : Device) (name : String) (enabled : Bool)
  | setBpduguardDefault (device : Device) (enabled : Bool)
  | setRootGuard (device : Device) (name : String) (enabled : Bool)
  | receiveBpdu (device : Device) (msg : Bpdu Device)
  | addPort (device : Device) (name : String) (peer : Device)
  | portDown (device peer : Device)
  | portUp (device peer : Device)
  | recomputeTopology
  | advance (index : Nat)

/-- One step of the machine. -/
def step (state : StpState Device) : StpEvent Device → StpState Device
  | .start device mode priority vlan => state.start device mode priority vlan
  | .stop device => state.stop device
  | .setVlanPriority device vlan priority => state.setVlanPriority device vlan priority
  | .setPortfast device name enabled => state.setPortfast device name enabled
  | .setPortfastDefault device enabled => state.setPortfastDefault device enabled
  | .setBpduguard device name enabled => state.setBpduguard device name enabled
  | .setBpduguardDefault device enabled => state.setBpduguardDefault device enabled
  | .setRootGuard device name enabled => state.setRootGuard device name enabled
  | .receiveBpdu device msg => state.receiveBpdu device msg
  | .addPort device name peer => state.addPort device name peer
  | .portDown device peer => state.portDown device peer
  | .portUp device peer => state.portUp device peer
  | .recomputeTopology => state.recomputeTopology
  | .advance index => state.advance index

end NetLab.Stp
