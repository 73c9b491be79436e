import NetLab.Bgp.Engine

/-!
# Operations of the BGP engine

Configuration commands, the parts of `_open_session` between its pauses, route
advertisement and session loss. The expiry task that graceful restart spawns is
left out.
-/

namespace NetLab.Bgp.BgpEngine

open NetLab.Library NetLab.Network

variable {Device : Type} [DecidableEq Device] (engine : BgpEngine Device)

/-! ## Configuration -/

/-- `router bgp`. -/
def start (device : Device) (localAs : Nat) : BgpEngine Device :=
  engine.modifyNode device fun node => { node with enabled := true, localAs := some localAs }

/-- The session end that a speaker configures: an existing one keeps its other
settings and its state, a new one inherits the restart settings. -/
def configuredSession (node : BgpNode Device) (neighbor : Device) (remoteAs : Nat) : BgpSession :=
  match node.sessions.lookup neighbor with
  | some session => { session with remoteAs := remoteAs }
  | none =>
    { remoteAs := remoteAs
      gracefulRestart := node.gracefulRestartDefault
      llgr := node.llgrDefault
      restartTime := node.grRestartTime }

/-- `neighbor remote-as`, on an enabled speaker. The delayed opening that it spawns
is an event of its own. -/
def addNeighbor (device neighbor : Device) (remoteAs : Nat) : BgpEngine Device :=
  let engine := engine.modifyNode device id
  if (engine.node device).enabled then
    engine.modifyNode device fun node =>
      { node with
        sessions := node.sessions.insert neighbor (configuredSession node neighbor remoteAs) }
  else engine

/-- `neighbor password`. -/
def setNeighborPassword (device neighbor : Device) (password : String) : BgpEngine Device :=
  (engine.modifyNode device id).modifySession device neighbor fun session =>
    { session with password := password }

/-- A change to an existing session end that is followed by a propagation. -/
def reconfigureSession (filters : FilterEngine Device) (device neighbor : Device)
    (update : BgpSession → BgpSession) : BgpEngine Device :=
  let engine := engine.modifyNode device id
  match engine.session device neighbor with
  | none => engine
  | some _ => (engine.modifySession device neighbor update).propagateBgp filters

/-- `neighbor route-reflector-client`. -/
def setNeighborRouteReflectorClient (filters : FilterEngine Device) (device neighbor : Device)
    (client : Bool) : BgpEngine Device :=
  engine.reconfigureSession filters device neighbor fun session =>
    { session with reflectorClient := client }

/-! ## Sessions -/

/-- Write the state of one end of a session, when it exists. -/
def setState (device neighbor : Device) (state : SessionState) : BgpEngine Device :=
  engine.modifySession device neighbor fun session => { session with state := state }

/-- A speaker that is enabled. -/
def isEnabled (device : Device) : Bool := (engine.node device).enabled

/-- The password that one end expects; a missing end has the empty one. -/
def passwordOf (device neighbor : Device) : String :=
  ((engine.session device neighbor).map BgpSession.password).getD ""

/-- `_open_session` up to its first pause, and whether it goes on: the peer must be
enabled and the passwords must agree. -/
def beginOpen (device neighbor : Device) : BgpEngine Device × Bool :=
  match engine.session device neighbor with
  | none => (engine, false)
  | some session =>
    if !engine.isEnabled neighbor then (engine.setState device neighbor .active, false)
    else if session.password ≠ engine.passwordOf neighbor device then
      ((engine.setState device neighbor .active).setState neighbor device .active, false)
    else (engine.setState device neighbor .connect, true)

/-- The end of the handshake: both ends become established, without a second look
at the peer. -/
def establish (device neighbor : Device) : BgpEngine Device :=
  (engine.setState device neighbor .established).setState neighbor device .established

/-- `_send_update`: an established session triggers a propagation. -/
def sendUpdate (filters : FilterEngine Device) (device neighbor : Device) : BgpEngine Device :=
  match engine.session device neighbor with
  | none => engine
  | some session => if session.state = .established then engine.propagateBgp filters else engine

/-- The updates sent in both directions once a session is up. -/
def exchangeUpdates (filters : FilterEngine Device) (device neighbor : Device) : BgpEngine Device :=
  (engine.sendUpdate filters device neighbor).sendUpdate filters neighbor device

/-- `_open_session` without interruption. -/
def openSession (filters : FilterEngine Device) (device neighbor : Device) : BgpEngine Device :=
  let opened := engine.beginOpen device neighbor
  if opened.2 then
    let confirmed := (opened.1.setState device neighbor .openSent).setState device neighbor
      .openConfirm
    ((confirmed.establish device neighbor).exchangeUpdates filters device neighbor).exchangeUpdates
      filters device neighbor
  else opened.1

/-- `network`: originate a destination and tell the established neighbours. -/
def advertiseNetwork (filters : FilterEngine Device) (device : Device)
    (statement : NetworkStatement) : BgpEngine Device :=
  let engine := engine.modifyNode device fun node =>
    if statement ∈ node.networks then node
    else { node with networks := node.networks ++ [statement] }
  (engine.node device).sessions.keys.foldl (fun engine neighbor =>
    engine.sendUpdate filters device neighbor) engine

/-- The routes from a neighbour whose session is lost: withdrawn, or kept as stale
ones under graceful restart. -/
def loseRoutes (ribIn : RibIn Device) (neighbor : Device) (keep : Bool) : RibIn Device :=
  if keep then
    ribIn.mapValues fun key route =>
      if key.1 = neighbor then { route with stale := true } else route
  else ribIn.filter fun key _ => decide (key.1 ≠ neighbor)

/-- A speaker that has lost a neighbour. -/
def loseNeighbor (node : BgpNode Device) (neighbor : Device) (keep : Bool) : BgpNode Device :=
  { node with ribIn := loseRoutes node.ribIn neighbor keep }.recalcBestPath

def downEnd (device neighbor : Device) : BgpEngine Device × Bool :=
  match engine.session device neighbor with
  | none => (engine, false)
  | some session =>
    if session.state = .established then
      ((engine.setState device neighbor .idle).modifyNode device fun node =>
        loseNeighbor node neighbor (session.gracefulRestart || session.llgr), true)
    else (engine, false)

/-- `session_down`: both ends first, then the withdrawal spreads. -/
def sessionDown (filters : FilterEngine Device) (device neighbor : Device) : BgpEngine Device :=
  let first := engine.downEnd device neighbor
  let second := first.1.downEnd neighbor device
  if first.2 || second.2 then second.1.propagateBgp filters else second.1

end NetLab.Bgp.BgpEngine
