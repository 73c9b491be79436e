import NetLab.Network.Filter
import NetLab.Network.VirtualNetwork

/-!
# BGP engine

Sessions and routing tables of the emulated BGP speakers, and the functions of
the engine over them. `rib_in` is a map from the neighbour and the destination to
the route, in the order in which the routes arrived. Hostnames, timestamps, BFD
notes, keepalive tasks and log messages are left out, and so are the static
routes that a black-hole community installs in another engine.
-/

namespace NetLab.Bgp

open NetLab.Library NetLab.Network

/-- Session states of the finite-state machine. -/
inductive SessionState where
  | idle
  | active
  | connect
  | openSent
  | openConfirm
  | established
deriving DecidableEq

/-- One end of a session, as its owner configured it. -/
structure BgpSession where
  remoteAs : Nat
  state : SessionState := .idle
  password : String := ""
  routeMapIn : String := ""
  routeMapOut : String := ""
  prefixListIn : String := ""
  prefixListOut : String := ""
  sendCommunity : Bool := false
  reflectorClient : Bool := false
  gracefulRestart : Bool := false
  llgr : Bool := false
  restartTime : Nat := 120
deriving DecidableEq

/-- Origin attribute. -/
inductive Origin where
  | igp
  | egp
  | incomplete
deriving DecidableEq

/-- Result of origin validation. -/
inductive RpkiState where
  | valid
  | invalid
  | notFound
deriving DecidableEq

/-- Attributes of a route. -/
structure BgpRoute (Device : Type) where
  nextHop : Device
  localPref : Nat := 100
  med : Nat := 0
  asPath : List Nat := []
  origin : Origin := .igp
  communities : List String := []
  stale : Bool := false
  rpkiState : RpkiState := .notFound
deriving DecidableEq

/-- An advertised route. -/
structure Advert (Device : Type) where
  destination : Prefix
  route : BgpRoute Device
deriving DecidableEq

/-- A best path: the route chosen for a destination and the neighbour that sent it. -/
structure LocRoute (Device : Type) where
  destination : Prefix
  learnedFrom : Device
  route : BgpRoute Device
deriving DecidableEq

/-- A `network` statement; without a length it stands for a /24. -/
structure NetworkStatement where
  address : String
  length : Option Nat := none
deriving DecidableEq

/-- The destination that a `network` statement originates. -/
def NetworkStatement.destination (statement : NetworkStatement) : Prefix :=
  ⟨statement.address, statement.length.getD 24⟩

/-- The set clauses of a route map. -/
structure RouteMap where
  prepend : List Nat := []
  localPref : Option Nat := none
  med : Option Nat := none
  communities : List String := []
  communitiesAdditive : Bool := false
deriving DecidableEq

/-- A route origin authorisation. -/
structure Roa where
  destination : Prefix
  maxLength : Nat
  originAs : Nat
deriving DecidableEq

/-- Routes received from the neighbours. -/
abbrev RibIn (Device : Type) := OrderedMap (Device × Prefix) (BgpRoute Device)

/-- One BGP speaker. `localAs` is unset until the process is started. -/
structure BgpNode (Device : Type) where
  enabled : Bool := false
  localAs : Option Nat := none
  sessions : OrderedMap Device BgpSession := .empty
  ribIn : RibIn Device := .empty
  locRib : List (LocRoute Device) := []
  networks : List NetworkStatement := []
  routeMaps : OrderedMap String RouteMap := .empty
  gracefulRestartDefault : Bool := false
  llgrDefault : Bool := false
  grRestartTime : Nat := 120
  confederationId : Option Nat := none
  confederationPeers : List Nat := []
  roas : List Roa := []
  rpkiInvalidDrop : Bool := false

/-- All BGP speakers. -/
structure BgpEngine (Device : Type) where
  nodes : OrderedMap Device (BgpNode Device)

/-! ## Attributes -/

def RouteMap.apply {Device : Type} (clauses : RouteMap) (route : BgpRoute Device) :
    BgpRoute Device :=
  { route with
    asPath := clauses.prepend ++ route.asPath
    localPref := clauses.localPref.getD route.localPref
    med := clauses.med.getD route.med
    communities :=
      if clauses.communities.isEmpty then route.communities
      else if clauses.communitiesAdditive then
        clauses.communities.foldl (fun merged community =>
          if community ∈ merged then merged else merged ++ [community]) route.communities
      else clauses.communities }

/-- Numeric value of a dotted address; an address that cannot be read counts as 0. -/
def addressValue (address : String) : Nat :=
  match (address.splitOn ".").mapM String.toNat? with
  | none => 0
  | some fields =>
    if 4 < fields.length then 0
    else (fields.zipIdx.map fun field => field.1 <<< (8 * (3 - field.2))).sum

section Node

variable {Device : Type} [DecidableEq Device]

namespace BgpNode

variable (node : BgpNode Device)

def applyRouteMap (name : String) (route : BgpRoute Device) : BgpRoute Device :=
  match node.routeMaps.lookup name with
  | none => route
  | some clauses => clauses.apply route

def coveringRoas (destination : Prefix) : List Roa :=
  node.roas.filter fun roa =>
    roa.destination.length ≤ destination.length &&
      addressValue destination.network &&& prefixMask roa.destination.length ==
        addressValue roa.destination.network &&& prefixMask roa.destination.length

def rpkiValidate (destination : Prefix) (originAs : Nat) : RpkiState :=
  let covering := node.coveringRoas destination
  if covering.isEmpty then .notFound
  else if covering.any fun roa =>
      destination.length ≤ roa.maxLength && originAs == roa.originAs then .valid
  else .invalid

/-- The session leaves the AS. -/
def isEbgp (session : BgpSession) : Bool := node.localAs != some session.remoteAs

/-- The session leaves the confederation, when the speaker belongs to one: the
identifier that the outside sees. -/
def leavingConfederation (session : BgpSession) : Option Nat :=
  if node.isEbgp session && decide (session.remoteAs ∉ node.confederationPeers) then
    node.confederationId
  else none

def ownAdverts (device : Device) (session : BgpSession) : List (Advert Device) :=
  node.networks.map fun statement =>
    { destination := statement.destination
      route :=
        { nextHop := device
          asPath := ((node.leavingConfederation session).or node.localAs).toList } }

/-- A best path may be passed on to a neighbour: not to the one it came from, and
inside the AS only if it came from outside or is reflected. -/
def passesOn (neighbor : Device) (session : BgpSession) (learnedFrom : Device) : Bool :=
  learnedFrom != neighbor && (node.isEbgp session || match node.sessions.lookup learnedFrom with
      | none => true
      | some source =>
        node.isEbgp source || session.reflectorClient || source.reflectorClient)

def advertisedPath (session : BgpSession) (asPath : List Nat) : List Nat :=
  match node.leavingConfederation session with
  | some identifier =>
    identifier :: asPath.filter fun number =>
      decide (some number ≠ node.localAs ∧ number ∉ node.confederationPeers)
  | none => if node.isEbgp session then node.localAs.toList ++ asPath else asPath

def transitAdverts (device neighbor : Device) (session : BgpSession) : List (Advert Device) :=
  (node.locRib.filter fun best => node.passesOn neighbor session best.learnedFrom).map fun best =>
    { destination := best.destination
      route :=
        { nextHop := device
          med := best.route.med
          asPath := node.advertisedPath session best.route.asPath
          origin := best.route.origin
          communities := best.route.communities } }

/-- What a speaker advertises to a neighbour: its own networks and its best paths,
rewritten by the outbound route map and filtered by the outbound prefix list. -/
def computeAdverts (filters : DeviceFilters) (device neighbor : Device) (session : BgpSession) :
    List (Advert Device) :=
  let mapped := (node.ownAdverts device session ++ node.transitAdverts device neighbor session).map
    fun advert =>
      if session.routeMapOut = "" then advert
      else { advert with route := node.applyRouteMap session.routeMapOut advert.route }
  let permitted := mapped.filter fun advert =>
    session.prefixListOut == "" ||
      filters.checkPrefixList session.prefixListOut advert.destination.network
        advert.destination.length
  permitted.map fun advert =>
    if session.sendCommunity then advert
    else { advert with route := { advert.route with communities := [] } }

/-- The route a receiver keeps for an advert, unless it refuses it: by the AS-path
loop check on a session that leaves the sender's AS, by the inbound prefix list or
by origin validation. `session` is the receiver's own end, when it has one. -/
def acceptAdvert (filters : DeviceFilters) (sender : Device) (ebgpHop : Bool)
    (session : Option BgpSession) (advert : Advert Device) : Option (BgpRoute Device) :=
  let rpkiState := match advert.route.asPath.getLast? with
    | none => .notFound
    | some originAs => node.rpkiValidate advert.destination originAs
  if ebgpHop && node.localAs.any fun number => decide (number ∈ advert.route.asPath) then none
  else if session.any fun session => session.prefixListIn != "" &&
      !filters.checkPrefixList session.prefixListIn advert.destination.network
        advert.destination.length then none
  else if rpkiState = .invalid ∧ node.rpkiInvalidDrop then none
  else
    let route : BgpRoute Device :=
      { nextHop := sender
        med := advert.route.med
        asPath := advert.route.asPath
        origin := advert.route.origin
        communities := advert.route.communities
        rpkiState := rpkiState }
    match session with
    | none => some route
    | some session =>
      some (if session.routeMapIn = "" then route
        else node.applyRouteMap session.routeMapIn route)

/-- The routes that a receiver is to hold from one sender; of two adverts for one
destination the later one counts. -/
def wantedRoutes (filters : DeviceFilters) (sender : Device) (ebgpHop : Bool)
    (session : Option BgpSession) (adverts : List (Advert Device)) :
    OrderedMap Prefix (BgpRoute Device) :=
  adverts.foldl (fun wanted advert =>
    match node.acceptAdvert filters sender ebgpHop session advert with
    | none => wanted
    | some route => wanted.insert advert.destination route) .empty

end BgpNode

/-! ## Tables of received routes -/

omit [DecidableEq Device] in
/-- A held route differs from the wanted one, or is stale. -/
def BgpRoute.outdated (current wanted : BgpRoute Device) : Bool :=
  current.asPath != wanted.asPath || current.localPref != wanted.localPref ||
    current.med != wanted.med || current.communities != wanted.communities ||
    current.rpkiState != wanted.rpkiState || current.stale

omit [DecidableEq Device] in
/-- Bring a held route up to date. -/
def BgpRoute.refresh (current wanted : BgpRoute Device) : BgpRoute Device :=
  { current with
    asPath := wanted.asPath
    localPref := wanted.localPref
    med := wanted.med
    communities := wanted.communities
    rpkiState := wanted.rpkiState
    stale := false }

namespace RibIn

/-- Remove the routes of a sender that are no longer wanted. -/
def withdraw (ribIn : RibIn Device) (sender : Device)
    (wanted : OrderedMap Prefix (BgpRoute Device)) : RibIn Device :=
  ribIn.filter fun key _ => decide (key.1 = sender → key.2 ∈ wanted.keys)

/-- Add or update one wanted route. -/
def update (sender : Device) (ribIn : RibIn Device) (entry : Prefix × BgpRoute Device) :
    RibIn Device :=
  match ribIn.lookup (sender, entry.1) with
  | none => ribIn.insert (sender, entry.1) entry.2
  | some current =>
    if current.outdated entry.2 then
      ribIn.insert (sender, entry.1) (current.refresh entry.2)
    else ribIn

/-- Withdraw what a sender no longer wants, then add and update the rest. -/
def synchronize (ribIn : RibIn Device) (sender : Device)
    (wanted : OrderedMap Prefix (BgpRoute Device)) : RibIn Device :=
  wanted.entries.foldl (update sender) (ribIn.withdraw sender wanted)

/-- Synchronizing has something to do. -/
def differs (ribIn : RibIn Device) (sender : Device)
    (wanted : OrderedMap Prefix (BgpRoute Device)) : Bool :=
  (ribIn.keys.any fun key => decide (key.1 = sender ∧ key.2 ∉ wanted.keys)) ||
    wanted.entries.any fun entry =>
      match ribIn.lookup (sender, entry.1) with
      | none => true
      | some current => current.outdated entry.2

end RibIn

omit [DecidableEq Device] in
/-- The order of preference: not stale, higher local preference, shorter AS path,
lower MED. -/
def BgpRoute.better (candidate current : BgpRoute Device) : Bool :=
  if candidate.stale != current.stale then !candidate.stale
  else if candidate.localPref ≠ current.localPref then
    decide (current.localPref < candidate.localPref)
  else if candidate.asPath.length ≠ current.asPath.length then
    decide (candidate.asPath.length < current.asPath.length)
  else decide (candidate.med < current.med)

/-- Enter a received route among the best ones if it is the first for its
destination or better than the one found so far. -/
def chooseBest (best : OrderedMap Prefix (LocRoute Device))
    (entry : (Device × Prefix) × BgpRoute Device) : OrderedMap Prefix (LocRoute Device) :=
  let candidate : LocRoute Device := ⟨entry.1.2, entry.1.1, entry.2⟩
  match best.lookup entry.1.2 with
  | none => best.insert entry.1.2 candidate
  | some current =>
    if entry.2.better current.route then best.insert entry.1.2 candidate else best

/-- The best paths among the received routes. -/
def bestPaths (ribIn : RibIn Device) : List (LocRoute Device) :=
  (ribIn.entries.foldl chooseBest .empty).values

/-- Recompute the best paths of a speaker. -/
def BgpNode.recalcBestPath (node : BgpNode Device) : BgpNode Device :=
  { node with locRib := bestPaths node.ribIn }

end Node

/-! ## The engine -/

namespace BgpEngine

variable {Device : Type} [DecidableEq Device]

/-- No speaker is configured yet. -/
def initial : BgpEngine Device := ⟨.empty⟩

variable (engine : BgpEngine Device)

/-- A speaker; its defaults when nothing is configured. -/
def node (device : Device) : BgpNode Device := (engine.nodes.lookup device).getD {}

/-- One end of a session. -/
def session (device neighbor : Device) : Option BgpSession :=
  (engine.node device).sessions.lookup neighbor

/-- Change a speaker, which is created on first use. -/
def modifyNode (device : Device) (update : BgpNode Device → BgpNode Device) : BgpEngine Device :=
  ⟨engine.nodes.insert device (update (engine.node device))⟩

/-- Change one end of a session, when it exists. -/
def modifySession (device neighbor : Device) (update : BgpSession → BgpSession) :
    BgpEngine Device :=
  ⟨engine.nodes.modify device fun node =>
    { node with sessions := node.sessions.modify neighbor update }⟩

/-- Speakers that are enabled, in the order of their creation. -/
def active : List Device :=
  engine.nodes.keys.filter fun device => (engine.node device).enabled

/-- Session ends of the enabled speakers. No delivery adds a session, so the list
is the same throughout a round. -/
def sessionEnds : List (Device × Device) :=
  engine.active.flatMap fun device =>
    (engine.node device).sessions.keys.map fun neighbor => (device, neighbor)

/-- What a speaker is to hold from the sender at the other end of a session. -/
def wantedFrom (filters : FilterEngine Device) (device neighbor : Device)
    (session : BgpSession) : OrderedMap Prefix (BgpRoute Device) :=
  let sending := engine.node device
  (engine.node neighbor).wantedRoutes (filters neighbor) device (sending.isEbgp session)
    (engine.session neighbor device)
    (sending.computeAdverts (filters device) device neighbor session)

/-- Deliver the adverts of one session end, if it is established and its neighbour
is a speaker, and note whether they change anything. -/
def deliver (filters : FilterEngine Device) (progress : BgpEngine Device × Bool)
    (hop : Device × Device) : BgpEngine Device × Bool :=
  let current := progress.1
  match current.session hop.1 hop.2, current.nodes.lookup hop.2 with
  | some session, some receiving =>
    if session.state = .established then
      let wanted := current.wantedFrom filters hop.1 hop.2 session
      (⟨current.nodes.modify hop.2 fun receiving =>
          { receiving with ribIn := receiving.ribIn.synchronize hop.1 wanted }⟩,
        progress.2 || receiving.ribIn.differs hop.1 wanted)
    else progress
  | _, _ => progress

/-- Deliver the adverts of every session end once. -/
def deliverAll (filters : FilterEngine Device) : BgpEngine Device × Bool :=
  engine.sessionEnds.foldl (deliver filters) (engine, false)

/-- Recompute the best paths of the enabled speakers. -/
def recalcAll : BgpEngine Device :=
  ⟨engine.nodes.mapValues fun _ node => if node.enabled then node.recalcBestPath else node⟩

/-- One round: every advert is delivered once, then the best paths follow. The flag
says whether a delivery changed a table. -/
def round (filters : FilterEngine Device) : BgpEngine Device × Bool :=
  let delivered := engine.deliverAll filters
  (delivered.1.recalcAll, delivered.2)

/-- Rounds until one of them changes nothing, at most `guard` many. -/
def rounds (filters : FilterEngine Device) : (guard : Nat) → BgpEngine Device → BgpEngine Device
  | 0, engine => engine
  | guard + 1, engine =>
    let next := engine.round filters
    if next.2 then rounds filters guard next.1 else next.1

/-- Number of rounds after which propagation gives up. -/
def roundGuard : Nat := 40

/-- Propagate the routes between all speakers. -/
def propagateBgp (filters : FilterEngine Device) : BgpEngine Device :=
  (rounds filters roundGuard engine).recalcAll

end BgpEngine

end NetLab.Bgp
