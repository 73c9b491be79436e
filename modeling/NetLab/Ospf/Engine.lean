import Mathlib.Data.List.Sort
import NetLab.Library.Execution
import NetLab.Network.VirtualNetwork
import NetLab.Network.Filter

/-!
# OSPF engine

The link-state engine as the source computes it. A hello that opens an adjacency
leaves a task behind that walks the neighbour through its states, one wait at a
time; the last step regenerates, exchanges and floods LSAs and elects the
designated routers without being interrupted. Timers appear as the thing they do
when they fire. Checksums, ages, process numbers and texts for the console are not
represented, and an area ID is the number that both of its spellings denote.
-/

namespace NetLab.Ospf

open NetLab.Library NetLab.Network

/-- A dotted quad: an address, or a router ID. -/
structure Address where
  first : Fin 256
  second : Fin 256
  third : Fin 256
  fourth : Fin 256
deriving DecidableEq, Repr

/-- Numeric value of a router ID. -/
def ridToInt (rid : Address) : Nat :=
  rid.first * 2 ^ 24 + rid.second * 2 ^ 16 + rid.third * 2 ^ 8 + rid.fourth

theorem ridToInt_injective : Function.Injective ridToInt := by
  intro left right same
  obtain ⟨first, second, third, fourth⟩ := left
  obtain ⟨first', second', third', fourth'⟩ := right
  simp only [ridToInt] at same
  simp only [Address.mk.injEq, Fin.ext_iff]
  omega

/-- Spelling of an address in a route filter. -/
def Address.render (address : Address) : String :=
  s!"{address.first.val}.{address.second.val}.{address.third.val}.{address.fourth.val}"

/-- A configured network; the prefix length may be missing from its text. -/
structure OspfNetwork where
  address : Address
  length : Option Nat
deriving DecidableEq, Repr

abbrev AreaId := Nat

/-- Adjacency states in the order in which a neighbour passes through them. -/
inductive NeighborState where
  | init
  | twoWay
  | exStart
  | exchange
  | loading
  | full
deriving DecidableEq, Repr

/-- The state an adjacency moves to after its next wait. -/
def NeighborState.next : NeighborState → NeighborState
  | init => twoWay
  | twoWay => exStart
  | exStart => exchange
  | exchange => loading
  | loading => full
  | full => full

/-- A neighbour entry. `token` tells it from an earlier entry for the same device. -/
structure OspfNeighbor where
  routerId : Address
  state : NeighborState
  token : Nat
deriving DecidableEq

inductive LsaType where
  | router
  | network
  | summary
deriving DecidableEq, Repr

/-- Contents of an LSA. Transit and point-to-point links differ only in whether a
designated router was known when they were written. -/
inductive LsaLink (Device : Type) where
  | stub (linkId : Address) (linkData metric : Nat) (network : OspfNetwork)
  | transit (linkId linkData : Address) (metric : Nat) (neighborId : Device)
  | p2p (linkId : Address) (metric : Nat) (neighborId : Device)
  | network (networkMask : Nat) (attachedRouters : List Address) (drRouterId : Address)
  | summary (network : OspfNetwork) (networkMask metric : Nat) (areaId : AreaId)
deriving DecidableEq

/-- Key of an LSA in a database. -/
structure LsaKey where
  advRouter : Address
  lsType : LsaType
  lsId : Address
deriving DecidableEq

structure OspfLsa (Device : Type) where
  lsType : LsaType
  lsId : Address
  advRouter : Address
  seqNum : Nat
  links : List (LsaLink Device)
deriving DecidableEq

abbrev Lsdb (Device : Type) := OrderedMap LsaKey (OspfLsa Device)

/-- Where a route leads: a connected network, a first-hop router, or the device
that redistributes it. -/
inductive Via (Device : Type) where
  | connected
  | router (rid : Address)
  | device (device : Device)
deriving DecidableEq

inductive RouteType where
  | intraArea
  | interArea
  | external (nssa : Bool)
deriving DecidableEq

structure OspfRoute (Device : Type) where
  network : Address
  length : Nat
  metric : Nat
  via : Via Device
  nextHop : Via Device
  type : RouteType
  area : AreaId
deriving DecidableEq

/-- A redistributed network heard in a hello. -/
structure LearnedExternal (Device : Type) where
  metric : Nat
  nextHop : Device
  nssa : Bool
deriving DecidableEq

inductive AreaType where
  | normal
  | stub
  | nssa
deriving DecidableEq

/-- State of one router. -/
structure OspfNode (Device : Type) where
  enabled : Bool := false
  routerId : Address
  routerIdManual : Bool := false
  areaId : AreaId := 0
  networks : List OspfNetwork := []
  areaNetworks : OrderedMap AreaId (List OspfNetwork) := .empty
  neighbors : OrderedMap Device OspfNeighbor := .empty
  lsdb : Lsdb Device := .empty
  routes : List (OspfRoute Device) := []
  seqNum : Nat := 1
  helloInterval : Nat := 10
  priority : Nat := 1
  dr : Option Device := none
  bdr : Option Device := none
  interfaceCost : Nat := 10
  redistributed : OrderedMap OspfNetwork Nat := .empty
  learnedExternal : OrderedMap OspfNetwork (LearnedExternal Device) := .empty
  abr : Bool := false
  areaTypes : OrderedMap AreaId AreaType := .empty
  authKey : String := ""
  passiveIfaces : List String := []

variable {Device : Type} [DecidableEq Device]

abbrev OspfNodes (Device : Type) := OrderedMap Device (OspfNode Device)

/-! ## Origination -/

/-- Store an LSA of the node's own and use up its sequence number. -/
def OspfNode.originate (node : OspfNode Device) (lsType : LsaType) (lsId : Address)
    (links : List (LsaLink Device)) : OspfNode Device :=
  { node with
    lsdb := node.lsdb.insert ⟨node.routerId, lsType, lsId⟩
      { lsType, lsId, advRouter := node.routerId, seqNum := node.seqNum, links }
    seqNum := node.seqNum + 1 }

def OspfNode.stubLink (node : OspfNode Device) (network : OspfNetwork) : LsaLink Device :=
  .stub network.address (prefixMask (network.length.getD 24)) node.interfaceCost network

/-- Link to a full neighbour: transit once a designated router is known. -/
def OspfNode.neighborLink (node : OspfNode Device) (entry : Device × OspfNeighbor) :
    LsaLink Device :=
  match node.dr with
  | some _ => .transit entry.2.routerId node.routerId node.interfaceCost entry.1
  | none => .p2p entry.2.routerId node.interfaceCost entry.1

/-- Neighbours whose adjacency is complete. -/
def OspfNode.fullNeighbors (node : OspfNode Device) : List (Device × OspfNeighbor) :=
  node.neighbors.entries.filter fun entry => entry.2.state == .full

def OspfNode.generateRouterLsa (node : OspfNode Device) : OspfNode Device :=
  node.originate .router node.routerId
    (node.networks.map node.stubLink ++ node.fullNeighbors.map node.neighborLink)

/-- Network LSA of a designated router. A neighbour always has a node, since it has
sent a hello. -/
def OspfNode.generateNetworkLsa (node : OspfNode Device) (device : Device)
    (routerIdOf : Device → Option Address) : OspfNode Device :=
  if node.dr = some device then
    let attached := node.fullNeighbors.filterMap fun entry => routerIdOf entry.1
    let netAddr := match node.networks with
      | [] => node.routerId
      | network :: _ => network.address
    let length := match node.networks with
      | [] => 24
      | network :: _ => network.length.getD 24
    node.originate .network netAddr
      [.network (prefixMask length) (node.routerId :: attached) node.routerId]
  else node

/-- Summary LSAs of an area border router, one for each network of each area. -/
def OspfNode.generateSummaryLsa (node : OspfNode Device) : OspfNode Device :=
  if node.abr then
    (node.areaNetworks.entries.flatMap fun entry => entry.2.map fun network =>
      (entry.1, network)).foldl (fun node item =>
        match item.2.length with
        | none => node
        | some length =>
          node.originate .summary item.2.address
            [.summary item.2 (prefixMask length) node.interfaceCost item.1]) node
  else node

def routerIdOf (nodes : OspfNodes Device) (device : Device) : Option Address :=
  (nodes.lookup device).map OspfNode.routerId

/-- Bring the LSAs of one device up to date. -/
def refreshLsas (nodes : OspfNodes Device) (device : Device) : OspfNodes Device :=
  nodes.modify device fun node =>
    (node.generateRouterLsa.generateNetworkLsa device (routerIdOf nodes)).generateSummaryLsa

/-! ## Route computation -/

/-- An entry of the SPF queue; the first hop is missing at the root. -/
structure Candidate where
  cost : Nat
  router : Address
  via : Option Address
  nextHop : Option Address

/-- State of the SPF loop. Only the cost of a tentative distance is ever read. -/
structure SpfState (Device : Type) where
  dist : OrderedMap Address Nat
  visited : List Address
  queue : List Candidate
  routes : List (OspfRoute Device)

/-- The first hop inherited from a candidate, or the router itself next to the root. -/
def inheritHop (hop : Option Address) (router : Address) : Option Address :=
  some (hop.getD router)

/-- Offer a router at a cost; it is queued when it is new or the cost is smaller. -/
def SpfState.relax (state : SpfState Device) (parent : Candidate) (router : Address)
    (cost : Nat) : SpfState Device :=
  if router ∈ state.visited then state
  else
    let known := state.dist.lookup router
    if known.isNone || known.any (cost < ·) then
      { state with
        dist := state.dist.insert router cost
        queue := state.queue ++
          [{ cost, router, via := inheritHop parent.via router,
             nextHop := inheritHop parent.nextHop router }] }
    else state

/-- Add a route found in an LSA. -/
def SpfState.addRoute (state : SpfState Device) (route : OspfRoute Device) : SpfState Device :=
  { state with routes := state.routes ++ [route] }

/-- Process one link of an LSA of the router being expanded. -/
def SpfState.scanLink (myRid : Address) (area : AreaId) (current : Candidate)
    (lsa : OspfLsa Device) (state : SpfState Device) (link : LsaLink Device) : SpfState Device :=
  match lsa.lsType, link with
  | .router, .stub linkId _ metric network =>
    state.addRoute
      { network := linkId, length := network.length.getD 24, metric := current.cost + metric,
        via := (current.via.map .router).getD .connected,
        nextHop := .router (current.nextHop.getD current.router), type := .intraArea, area }
  | .router, .transit linkId _ metric _ => state.relax current linkId (current.cost + metric)
  | .router, .p2p linkId metric _ => state.relax current linkId (current.cost + metric)
  | .network, .network _ attached _ =>
    attached.foldl (fun state router =>
      if router = myRid then state else state.relax current router (current.cost + 1)) state
  | .summary, .summary network _ metric areaId =>
    state.addRoute
      { network := network.address, length := network.length.getD 24,
        metric := current.cost + metric,
        via := .router (current.via.getD lsa.advRouter),
        nextHop := .router (current.nextHop.getD lsa.advRouter), type := .interArea,
        area := areaId }
  | _, _ => state

/-- Process the LSAs of the router being expanded. -/
def SpfState.expand (myRid : Address) (area : AreaId) (lsdb : Lsdb Device)
    (state : SpfState Device) (current : Candidate) : SpfState Device :=
  lsdb.values.foldl (fun state lsa =>
    if lsa.advRouter = current.router then
      lsa.links.foldl (SpfState.scanLink myRid area current lsa) state
    else state) state

/-- Take the cheapest candidate, oldest first, until none is left. -/
def spfLoop (myRid : Address) (area : AreaId) (lsdb : Lsdb Device) :
    (fuel : Nat) → SpfState Device → SpfState Device
  | 0, state => state
  | fuel + 1, state =>
    match state.queue.insertionSort fun left right => left.cost ≤ right.cost with
    | [] => state
    | current :: queue =>
      if current.router ∈ state.visited then
        spfLoop myRid area lsdb fuel { state with queue }
      else
        spfLoop myRid area lsdb fuel (SpfState.expand myRid area lsdb { state with
              queue
              visited := current.router :: state.visited } current)

/-- Routers that a link can put in the queue. -/
def LsaLink.targets : LsaLink Device → List Address
  | .stub _ _ _ _ => []
  | .transit linkId _ _ _ => [linkId]
  | .p2p linkId _ _ => [linkId]
  | .network _ attached _ => attached
  | .summary _ _ _ _ => []

/-- Queue insertions are bounded by the link targets, as a router is expanded once. -/
def spfFuel (lsdb : Lsdb Device) : Nat :=
  (lsdb.values.map fun lsa => (lsa.links.map fun link => link.targets.length).sum).sum + 2

/-- Routes that the SPF run finds, in the order found. -/
def spfRoutes (myRid : Address) (area : AreaId) (lsdb : Lsdb Device) : List (OspfRoute Device) :=
  (spfLoop myRid area lsdb (spfFuel lsdb)
    { dist := OrderedMap.empty.insert myRid 0
      visited := []
      queue := [{ cost := 0, router := myRid, via := none, nextHop := none }]
      routes := [] }).routes

/-- Keep a route when its destination is new or it is cheaper than the one kept. -/
def keepCheaper (best : OrderedMap (Address × Nat) (OspfRoute Device)) (route : OspfRoute Device) :
    OrderedMap (Address × Nat) (OspfRoute Device) :=
  match best.lookup (route.network, route.length) with
  | none => best.insert (route.network, route.length) route
  | some known =>
    if route.metric < known.metric then best.insert (route.network, route.length) route else best

/-- The cheapest route to each destination, the first one among equals. -/
def bestRoutes (routes : List (OspfRoute Device)) : OrderedMap (Address × Nat) (OspfRoute Device) :=
  routes.foldl keepCheaper .empty

/-- Append the redistributed networks that no route covers yet. The destinations
already present are read once, before anything is appended. -/
def OspfNode.injectExternalRoutes (node : OspfNode Device) : OspfNode Device :=
  let existing := node.routes.map fun route => (route.network, route.length)
  { node with
    routes := node.routes ++ node.learnedExternal.entries.filterMap fun entry =>
      match entry.1.length with
      | none => none
      | some length =>
        if (entry.1.address, length) ∈ existing then none
        else
          some
            { network := entry.1.address, length, metric := entry.2.metric,
              via := .device entry.2.nextHop, nextHop := .device entry.2.nextHop,
              type := .external entry.2.nssa, area := node.areaId } }

/-- Recompute the routes of a node from its own database. -/
def OspfNode.recalcRoutes (node : OspfNode Device) (filters : DeviceFilters) : OspfNode Device :=
  let best := (bestRoutes (spfRoutes node.routerId node.areaId node.lsdb)).values
  let filtered := filters.filterRoutes
    (fun route : OspfRoute Device => ⟨route.network.render, route.length⟩) .ospf .inbound best
  OspfNode.injectExternalRoutes { node with routes := filtered }

/-! ## Flooding -/

/-- Take over one instance when it is missing or newer. -/
def mergeEntry (result : Lsdb Device × Bool) (entry : LsaKey × OspfLsa Device) :
    Lsdb Device × Bool :=
  match result.1.lookup entry.1 with
  | none => (result.1.insert entry.1 entry.2, true)
  | some current =>
    if current.seqNum < entry.2.seqNum then (result.1.insert entry.1 entry.2, true) else result

/-- Take over the instances of another database that are missing or newer there. The
flag says whether there was one. -/
def mergeLsdb (own other : Lsdb Device) : Lsdb Device × Bool :=
  other.entries.foldl mergeEntry (own, false)

def activeIn (nodes : OspfNodes Device) (area : AreaId) : List Device :=
  (nodes.entries.filter fun entry => entry.2.enabled && entry.2.areaId == area).map Prod.fst

def pullFromPeer (area : AreaId) (device : Device) (result : OspfNodes Device × Bool)
    (peer : Device) : OspfNodes Device × Bool :=
  match result.1.lookup device, result.1.lookup peer with
  | some node, some peerNode =>
    if peerNode.enabled && peerNode.areaId == area then
      let merged := mergeLsdb node.lsdb peerNode.lsdb
      (result.1.insert device { node with lsdb := merged.1 }, result.2 || merged.2)
    else result
  | _, _ => result

def pullFromPeers (network : VirtualNetwork Device) (area : AreaId)
    (result : OspfNodes Device × Bool) (device : Device) : OspfNodes Device × Bool :=
  (network.getNeighbors device).foldl (pullFromPeer area device) result

/-- Every active device in turn takes over what its neighbours hold. -/
def floodPass (network : VirtualNetwork Device) (area : AreaId) (active : List Device)
    (nodes : OspfNodes Device) : OspfNodes Device × Bool :=
  active.foldl (pullFromPeers network area) (nodes, false)

/-- Passes are made until one changes nothing, and no more than `guard` of them. -/
def floodLoop (network : VirtualNetwork Device) (area : AreaId) (active : List Device) :
    (guard : Nat) → OspfNodes Device → OspfNodes Device
  | 0, nodes => nodes
  | guard + 1, nodes =>
    let pass := floodPass network area active nodes
    if pass.2 then floodLoop network area active guard pass.1 else pass.1

/-- The largest number of passes. -/
def floodGuard : Nat := 30

/-- Databases as they stand when flooding begins: every active device has
originated its LSAs afresh. -/
def refreshArea (nodes : OspfNodes Device) (area : AreaId) : OspfNodes Device :=
  (activeIn nodes area).foldl refreshLsas nodes

def recalcRoutes (filters : FilterEngine Device) (nodes : OspfNodes Device) (device : Device) :
    OspfNodes Device :=
  nodes.modify device fun node => node.recalcRoutes (filters device)

def floodLsdbArea (network : VirtualNetwork Device) (filters : FilterEngine Device)
    (nodes : OspfNodes Device) (area : AreaId) : OspfNodes Device :=
  let active := activeIn nodes area
  active.foldl (recalcRoutes filters)
    (floodLoop network area active floodGuard (refreshArea nodes area))

end NetLab.Ospf
