import NetLab.Library.Execution
import NetLab.Bgp.Delivery

/-!
# The BGP engine as a machine

The remaining configuration commands, the expiry of graceful restart, the updates
of external peers, and one event for each operation of the engine. An opening is
present both as a whole and as the parts between its pauses. Each call carries the
prefix lists configured at that time.
-/

namespace NetLab.Bgp

open NetLab.Library NetLab.Network

/-- Direction of a policy on a session. -/
inductive PolicyDirection where
  | inbound
  | outbound
deriving DecidableEq

/-- What an UPDATE of an external peer announces. -/
structure ParsedUpdate (Device : Type) where
  nextHop : Option Device := none
  asPath : List Nat := []
  origin : Origin := .igp
  med : Nat := 0
  localPref : Nat := 100
  prefixes : List Prefix := []

section Node

variable {Device : Type} [DecidableEq Device]

omit [DecidableEq Device] in
/-- The route that an external announcement stores. -/
def ParsedUpdate.route (update : ParsedUpdate Device) (peer : Device) : BgpRoute Device :=
  { nextHop := update.nextHop.getD peer
    localPref := update.localPref
    med := update.med
    asPath := update.asPath
    origin := update.origin }

/-- Store one announced prefix of an external peer, in both tables. -/
def announce (peer : Device) (update : ParsedUpdate Device) (node : BgpNode Device)
    (destination : Prefix) : BgpNode Device :=
  { node with
    locRib :=
      (node.locRib.filter fun best =>
        !(decide (best.destination = destination) && decide (best.learnedFrom = peer))) ++
        [⟨destination, peer, update.route peer⟩]
    ribIn := (node.ribIn.erase (peer, destination)).insert (peer, destination) (update.route peer) }

/-- The set clauses given to a route map; one that exists keeps the others. -/
def mergeClauses (clauses : RouteMap) (prepend : List Nat) (localPref med : Option Nat)
    (communities : List String) (additive : Bool) : RouteMap :=
  { prepend := if prepend.isEmpty then clauses.prepend else prepend
    localPref := localPref.or clauses.localPref
    med := med.or clauses.med
    communities := if communities.isEmpty then clauses.communities else communities
    communitiesAdditive := if communities.isEmpty then clauses.communitiesAdditive else additive }

end Node

namespace BgpEngine

variable {Device : Type} [DecidableEq Device] (engine : BgpEngine Device)

/-! ## Further configuration -/

/-- `neighbor route-map`. -/
def setNeighborRouteMap (filters : FilterEngine Device) (device neighbor : Device) (name : String)
    (direction : PolicyDirection) : BgpEngine Device :=
  engine.reconfigureSession filters device neighbor fun session =>
    match direction with
    | .inbound => { session with routeMapIn := name }
    | .outbound => { session with routeMapOut := name }

/-- `neighbor prefix-list`. -/
def setNeighborPrefixList (filters : FilterEngine Device) (device neighbor : Device)
    (name : String) (direction : PolicyDirection) : BgpEngine Device :=
  engine.reconfigureSession filters device neighbor fun session =>
    match direction with
    | .inbound => { session with prefixListIn := name }
    | .outbound => { session with prefixListOut := name }

/-- `neighbor send-community`. -/
def setNeighborSendCommunity (filters : FilterEngine Device) (device neighbor : Device)
    (enabled : Bool) : BgpEngine Device :=
  engine.reconfigureSession filters device neighbor fun session =>
    { session with sendCommunity := enabled }

def addRouteMap (device : Device) (name : String) (prepend : List Nat)
    (localPref med : Option Nat) (communities : List String) (additive : Bool) :
    BgpEngine Device :=
  engine.modifyNode device fun node =>
    { node with
      routeMaps := node.routeMaps.insert name
        (mergeClauses ((node.routeMaps.lookup name).getD {}) prepend localPref med communities
          additive) }

/-- `bgp graceful-restart`. -/
def setGracefulRestart (device : Device) (enabled : Bool) (restartTime : Option Nat) :
    BgpEngine Device :=
  engine.modifyNode device fun node =>
    { node with
      gracefulRestartDefault := enabled
      grRestartTime := restartTime.getD node.grRestartTime
      sessions := node.sessions.mapValues fun _ session =>
        { session with
          gracefulRestart := enabled
          restartTime := restartTime.getD session.restartTime } }

/-- `bgp long-lived-graceful-restart`. -/
def setLlgr (device : Device) (enabled : Bool) : BgpEngine Device :=
  engine.modifyNode device fun node =>
    { node with
      llgrDefault := enabled
      sessions := node.sessions.mapValues fun _ session => { session with llgr := enabled } }

/-- `bgp confederation identifier`. -/
def setConfederationIdentifier (device : Device) (identifier : Nat) : BgpEngine Device :=
  engine.modifyNode device fun node => { node with confederationId := some identifier }

/-- `bgp confederation peers`. -/
def addConfederationPeer (device : Device) (member : Nat) : BgpEngine Device :=
  engine.modifyNode device fun node =>
    { node with
      confederationPeers :=
        if member ∈ node.confederationPeers then node.confederationPeers
        else node.confederationPeers ++ [member] }

/-- `bgp rpki roa`. -/
def addRoa (device : Device) (roa : Roa) : BgpEngine Device :=
  engine.modifyNode device fun node => { node with roas := node.roas ++ [roa] }

/-- `bgp rpki invalid-drop`. -/
def setRpkiInvalidDrop (device : Device) (enabled : Bool) : BgpEngine Device :=
  engine.modifyNode device fun node => { node with rpkiInvalidDrop := enabled }

/-! ## Expiry and external peers -/

/-- The expiry of graceful restart, when its time has come: the routes of a neighbour
that is not established are withdrawn. -/
def expireStale (device neighbor : Device) : BgpEngine Device :=
  match engine.session device neighbor with
  | none => engine
  | some session =>
    if session.state = .established then engine
    else engine.modifyNode device fun node => loseNeighbor node neighbor false

/-- The state of an external session is written into the engine, with the AS number
that the peer announced. -/
def syncSession (device peer : Device) (peerAs : Option Nat) (state : SessionState) :
    BgpEngine Device :=
  engine.modifyNode device fun node =>
    let named := peerAs.filter fun number => decide (number ≠ 0)
    let session := (node.sessions.lookup peer).getD { remoteAs := named.getD 0 }
    { node with
      sessions := node.sessions.insert peer { session with
          remoteAs := named.getD session.remoteAs
          state := state } }

def applyUpdate (device peer : Device) (update : ParsedUpdate Device) : BgpEngine Device :=
  engine.modifyNode device fun node => update.prefixes.foldl (announce peer update) node

end BgpEngine

/-! ## Events -/

/-- Everything that can be done to the engine. -/
inductive Operation (Device : Type) where
  | start (device : Device) (localAs : Nat)
  | addNeighbor (device neighbor : Device) (remoteAs : Nat)
  | setNeighborPassword (device neighbor : Device) (password : String)
  | setNeighborRouteMap (device neighbor : Device) (name : String) (direction : PolicyDirection)
  | setNeighborPrefixList (device neighbor : Device) (name : String) (direction : PolicyDirection)
  | setNeighborSendCommunity (device neighbor : Device) (enabled : Bool)
  | setNeighborRouteReflectorClient (device neighbor : Device) (client : Bool)
  | addRouteMap (device : Device) (name : String) (prepend : List Nat)
      (localPref med : Option Nat) (communities : List String) (additive : Bool)
  | setGracefulRestart (device : Device) (enabled : Bool) (restartTime : Option Nat)
  | setLlgr (device : Device) (enabled : Bool)
  | setConfederationIdentifier (device : Device) (identifier : Nat)
  | addConfederationPeer (device : Device) (member : Nat)
  | addRoa (device : Device) (roa : Roa)
  | setRpkiInvalidDrop (device : Device) (enabled : Bool)
  | beginOpen (device neighbor : Device)
  | confirmOpen (device neighbor : Device) (state : SessionState)
  | establish (device neighbor : Device)
  | exchangeUpdates (device neighbor : Device)
  | openSession (device neighbor : Device)
  | advertiseNetwork (device : Device) (statement : NetworkStatement)
  | sessionDown (device neighbor : Device)
  | expireStale (device neighbor : Device)
  | propagateBgp
  | syncSession (device peer : Device) (peerAs : Option Nat) (state : SessionState)
  | applyUpdate (device peer : Device) (update : ParsedUpdate Device)

/-- An operation and the prefix lists configured when it is called. -/
structure Call (Device : Type) where
  filters : FilterEngine Device
  operation : Operation Device

namespace BgpEngine

variable {Device : Type} [DecidableEq Device]

/-- One step of the engine. -/
def handle (engine : BgpEngine Device) (call : Call Device) : BgpEngine Device :=
  match call.operation with
  | .start device localAs => engine.start device localAs
  | .addNeighbor device neighbor remoteAs => engine.addNeighbor device neighbor remoteAs
  | .setNeighborPassword device neighbor password =>
    engine.setNeighborPassword device neighbor password
  | .setNeighborRouteMap device neighbor name direction =>
    engine.setNeighborRouteMap call.filters device neighbor name direction
  | .setNeighborPrefixList device neighbor name direction =>
    engine.setNeighborPrefixList call.filters device neighbor name direction
  | .setNeighborSendCommunity device neighbor enabled =>
    engine.setNeighborSendCommunity call.filters device neighbor enabled
  | .setNeighborRouteReflectorClient device neighbor client =>
    engine.setNeighborRouteReflectorClient call.filters device neighbor client
  | .addRouteMap device name prepend localPref med communities additive =>
    engine.addRouteMap device name prepend localPref med communities additive
  | .setGracefulRestart device enabled restartTime =>
    engine.setGracefulRestart device enabled restartTime
  | .setLlgr device enabled => engine.setLlgr device enabled
  | .setConfederationIdentifier device identifier =>
    engine.setConfederationIdentifier device identifier
  | .addConfederationPeer device member => engine.addConfederationPeer device member
  | .addRoa device roa => engine.addRoa device roa
  | .setRpkiInvalidDrop device enabled => engine.setRpkiInvalidDrop device enabled
  | .beginOpen device neighbor => (engine.beginOpen device neighbor).1
  | .confirmOpen device neighbor state => engine.setState device neighbor state
  | .establish device neighbor => engine.establish device neighbor
  | .exchangeUpdates device neighbor => engine.exchangeUpdates call.filters device neighbor
  | .openSession device neighbor => engine.openSession call.filters device neighbor
  | .advertiseNetwork device statement => engine.advertiseNetwork call.filters device statement
  | .sessionDown device neighbor => engine.sessionDown call.filters device neighbor
  | .expireStale device neighbor => engine.expireStale device neighbor
  | .propagateBgp => engine.propagateBgp call.filters
  | .syncSession device peer peerAs state => engine.syncSession device peer peerAs state
  | .applyUpdate device peer update => engine.applyUpdate device peer update

end BgpEngine

end NetLab.Bgp
