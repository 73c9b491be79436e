import NetLab.Ospf.Machine
import NetLab.Ospf.Origination

/-!
# What LSA processing leaves alone

Origination, merging, flooding and route computation write databases, sequence
numbers and routes. Everything else in a node is its core, and the core of every
node is the same before and after.
-/

namespace NetLab.Ospf

open NetLab.Library NetLab.Network OspfNode
open OrderedMap

variable {Device : Type} [DecidableEq Device]

/-- A node without its database, sequence number and routes. -/
def OspfNode.core (node : OspfNode Device) : OspfNode Device :=
  { node with
    lsdb := .empty
    seqNum := 0
    routes := [] }

variable {node next : OspfNode Device}

omit [DecidableEq Device] in
theorem OspfNode.of_core (same : next.core = node.core) : ∃ lsdb seqNum routes, next = { node with
      lsdb := lsdb
      seqNum := seqNum
      routes := routes } := by
  refine ⟨next.lsdb, next.seqNum, next.routes, ?_⟩
  cases next
  cases node
  simp only [core, mk.injEq] at same ⊢
  simp [same]

def coreOf (nodes : OspfNodes Device) (device : Device) : Option (OspfNode Device) :=
  (nodes.lookup device).map core

theorem exists_of_coreOf {before after : OspfNodes Device} {device : Device}
    (same : coreOf after device = coreOf before device) (found : after.lookup device = some node) :
    ∃ old, before.lookup device = some old ∧ node.core = old.core := by
  unfold coreOf at same
  rw [found] at same
  cases held : before.lookup device with
  | none => simp [held] at same
  | some old => exact ⟨old, rfl, by simpa [held] using same⟩

theorem coreOf_modify {nodes : OspfNodes Device} {device : Device}
    {update : OspfNode Device → OspfNode Device}
    (keeps : ∀ node, nodes.lookup device = some node → (update node).core = node.core) :
    coreOf (nodes.modify device update) = coreOf nodes := by
  funext other
  unfold coreOf
  rw [lookup_modify]
  by_cases same : other = device
  · subst same
    cases found : nodes.lookup other with
    | none => simp
    | some node => simp [keeps node found]
  · simp [same]

theorem coreOf_insert {nodes : OspfNodes Device} {device : Device}
    (found : nodes.lookup device = some node) (keeps : next.core = node.core) :
    coreOf (nodes.insert device next) = coreOf nodes := by
  funext other
  unfold coreOf
  rw [lookup_insert]
  by_cases same : other = device
  · subst same
    simp [found, keeps]
  · simp [same]

theorem coreOf_insert_congr {nodes : OspfNodes Device} {device : Device}
    {left right : OspfNode Device} (same : left.core = right.core) :
    coreOf (nodes.insert device left) = coreOf (nodes.insert device right) := by
  funext other
  unfold coreOf
  rw [lookup_insert, lookup_insert]
  split
  · simp [same]
  · rfl

theorem coreOf_foldl {α : Type} {action : OspfNodes Device → α → OspfNodes Device}
    (keeps : ∀ nodes item, coreOf (action nodes item) = coreOf nodes) (items : List α)
    (nodes : OspfNodes Device) : coreOf (items.foldl action nodes) = coreOf nodes := by
  induction items generalizing nodes with
  | nil => rfl
  | cons item rest ih => exact (ih _).trans (keeps nodes item)

section Node

omit [DecidableEq Device]

theorem Originated.core_eq {allowed : Address → Prop} (originated : Originated allowed node next) :
    next.core = node.core := by
  obtain ⟨lsdb, seqNum, rfl⟩ := originated.frame
  rfl

variable (node : OspfNode Device)

@[simp] theorem core_injectExternalRoutes : node.injectExternalRoutes.core = node.core := rfl

theorem core_generateRouterLsa : node.generateRouterLsa.core = node.core :=
  (originated_generateRouterLsa (fun _ => none) node).core_eq

theorem core_generateSummaryLsa : node.generateSummaryLsa.core = node.core :=
  (originated_generateSummaryLsa node fun _ => True).core_eq

end Node

theorem core_generateNetworkLsa (node : OspfNode Device) (device : Device)
    (routerIdOf : Device → Option Address) :
    (node.generateNetworkLsa device routerIdOf).core = node.core :=
  (originated_generateNetworkLsa routerIdOf node device).core_eq

variable (nodes : OspfNodes Device)

theorem coreOf_refreshLsas (device : Device) : coreOf (refreshLsas nodes device) = coreOf nodes :=
  coreOf_modify fun node _ => (originated_refresh (routerIdOf nodes) node device).core_eq

theorem coreOf_recalcRoutes (filters : FilterEngine Device) (nodes : OspfNodes Device)
    (device : Device) : coreOf (recalcRoutes filters nodes device) = coreOf nodes :=
  coreOf_modify fun _ _ => rfl

theorem coreOf_pullFromPeer (area : AreaId) (device : Device) (result : OspfNodes Device × Bool)
    (peer : Device) : coreOf (pullFromPeer area device result peer).1 = coreOf result.1 := by
  unfold pullFromPeer
  split
  · rename_i node peerNode found _
    split
    · exact coreOf_insert found rfl
    · rfl
  · rfl

theorem coreOf_foldl_pullFromPeer (area : AreaId) (device : Device) (asked : List Device)
    (result : OspfNodes Device × Bool) :
    coreOf (asked.foldl (pullFromPeer area device) result).1 = coreOf result.1 := by
  induction asked generalizing result with
  | nil => rfl
  | cons peer rest ih => exact (ih _).trans (coreOf_pullFromPeer area device result peer)

variable (network : VirtualNetwork Device)

variable (area : AreaId) (active : List Device)

theorem coreOf_pullFromPeers (result : OspfNodes Device × Bool) (device : Device) :
    coreOf (pullFromPeers network area result device).1 = coreOf result.1 :=
  coreOf_foldl_pullFromPeer area device _ result

theorem coreOf_floodPass (nodes : OspfNodes Device) :
    coreOf (floodPass network area active nodes).1 = coreOf nodes := by
  unfold floodPass
  generalize false = flag
  induction active generalizing nodes flag with
  | nil => rfl
  | cons device rest ih =>
    rw [List.foldl_cons]
    exact (ih _ _).trans (coreOf_pullFromPeers network area _ device)

theorem coreOf_floodLoop (guard : Nat) (nodes : OspfNodes Device) :
    coreOf (floodLoop network area active guard nodes) = coreOf nodes := by
  induction guard generalizing nodes with
  | zero => rfl
  | succ guard ih =>
    unfold floodLoop
    dsimp only
    split
    · exact (ih _).trans (coreOf_floodPass network area active nodes)
    · exact coreOf_floodPass network area active nodes

theorem coreOf_floodLsdbArea (filters : FilterEngine Device) (nodes : OspfNodes Device)
    (area : AreaId) : coreOf (floodLsdbArea network filters nodes area) = coreOf nodes := by
  unfold floodLsdbArea refreshArea
  rw [coreOf_foldl (coreOf_recalcRoutes filters), coreOf_floodLoop, coreOf_foldl coreOf_refreshLsas]

theorem coreOf_mergeBothWays (device neighbor : Device) :
    coreOf (mergeBothWays nodes device neighbor) = coreOf nodes := by
  obtain ⟨pull, same, pulls⟩ := mergeBothWays_pulls nodes device neighbor
  have one : ∀ nodes own other, coreOf (pull nodes own other) = coreOf nodes := by
    intro nodes own other
    rcases pulls nodes own other with kept | ⟨node, peer, found, -, merged⟩
    · rw [kept]
    · exact merged ▸ coreOf_insert found rfl
  rw [same, one, one]

variable (surroundings : Surroundings Device)

variable (nodes : OspfNodes Device) (receiver source device other : Device)

theorem coreOf_exchangeLsa (neighbor : Device) :
    coreOf (exchangeLsa surroundings nodes device neighbor) = coreOf nodes := by
  unfold exchangeLsa
  split
  · rw [coreOf_floodLsdbArea, coreOf_mergeBothWays]
    rw [coreOf_foldl fun nodes device => coreOf_modify fun node _ => core_generateSummaryLsa node]
    rw [coreOf_foldl fun nodes device => coreOf_modify fun node _ =>
      core_generateNetworkLsa node device _]
    rw [coreOf_foldl fun nodes device => coreOf_modify fun node _ => core_generateRouterLsa node]
  · rfl

/-- Everything between the last wait of an adjacency and its election keeps the cores. -/
theorem coreOf_before_election :
    coreOf ((exchangeLsa surroundings (nodes.modify receiver generateRouterLsa) receiver
      source).modify receiver injectExternalRoutes) = coreOf nodes := by
  rw [coreOf_modify fun node _ => core_injectExternalRoutes node, coreOf_exchangeLsa,
    coreOf_modify fun node _ => core_generateRouterLsa node]

/-! ## Elections and adjacencies -/

/-- The core of a node without its designated routers. -/
def OspfNode.undesignated (node : OspfNode Device) : OspfNode Device :=
  { node.core with
    dr := none
    bdr := none }

/-- An election changes designated routers and what LSA processing may change. -/
theorem undesignated_electDrBdr : ((electDrBdr nodes device).lookup other).map undesignated =
      (nodes.lookup other).map undesignated := by
  unfold electDrBdr
  cases found : nodes.lookup device with
  | none => rfl
  | some node =>
    dsimp only
    split
    · rfl
    · rename_i top rest _
      let elected : OspfNode Device :=
        { node with
          dr := some (chooseDrBdr (top :: rest) node.dr node.bdr top).1
          bdr := (chooseDrBdr (top :: rest) node.dr node.bdr top).2 }
      have originates : (elected.generateNetworkLsa device (routerIdOf nodes)).undesignated =
          node.undesignated :=
        congrArg (fun core : OspfNode Device => { core with
          dr := none
          bdr := none }) (core_generateNetworkLsa elected device (routerIdOf nodes))
      rw [lookup_insert]
      by_cases same : other = device
      · subst same
        simp only [if_true, found, Option.map_some, Option.some.injEq]
        split
        · rfl
        · exact originates
      · rw [if_neg same]

/-- Neighbour tables of a node table. -/
def neighborsOf (nodes : OspfNodes Device) (device : Device) :
    Option (OrderedMap Device OspfNeighbor) :=
  (nodes.lookup device).map neighbors

theorem neighborsOf_congr {before after : OspfNodes Device} (same : coreOf after = coreOf before) :
    neighborsOf after = neighborsOf before := by
  have reading : ∀ nodes : OspfNodes Device, neighborsOf nodes = fun device =>
      (coreOf nodes device).map neighbors := by
    intro nodes
    funext device
    simp [neighborsOf, coreOf, Function.comp_def, core]
  rw [reading, reading, same]

theorem neighborsOf_electDrBdr : neighborsOf (electDrBdr nodes device) = neighborsOf nodes := by
  have reading : ∀ nodes : OspfNodes Device, neighborsOf nodes = fun other =>
      ((nodes.lookup other).map undesignated).map neighbors := by
    intro nodes
    funext other
    simp [neighborsOf, Function.comp_def, undesignated, core]
  rw [reading, reading]
  funext other
  rw [undesignated_electDrBdr]

theorem neighborsOf_completeAdjacency :
    neighborsOf (completeAdjacency surroundings nodes receiver source) = neighborsOf nodes :=
  (neighborsOf_electDrBdr _ _).trans
    (neighborsOf_congr (coreOf_before_election surroundings nodes receiver source))

theorem lookup_setNeighborState (task : AdjacencyTask Device) (reached : NeighborState)
    (other : Device) :
    (setNeighborState nodes task reached).lookup other = if other = task.receiver then
        (nodes.lookup other).map fun node => node.moveNeighbor task reached
      else nodes.lookup other :=
  lookup_modify _ _ _ _

theorem routerId_moveNeighbor (node : OspfNode Device) (task : AdjacencyTask Device)
    (reached : NeighborState) (peer : Device) :
    ((node.moveNeighbor task reached).neighbors.lookup peer).map OspfNeighbor.routerId =
      (node.neighbors.lookup peer).map OspfNeighbor.routerId := by
  unfold moveNeighbor
  rw [lookup_modify]
  split
  · cases node.neighbors.lookup peer with
    | none => rfl
    | some neighbor =>
      simp only [Option.map_some]
      split <;> rfl
  · rfl

theorem fullWith_of_moveNeighbor {task : AdjacencyTask Device} {reached : NeighborState}
    {peer : Device} (below : reached ≠ .full)
    (full : fullWith (node.moveNeighbor task reached) peer = true) : fullWith node peer = true := by
  unfold fullWith moveNeighbor at full
  unfold fullWith
  dsimp only at full
  rw [lookup_modify] at full
  split at full
  · cases held : node.neighbors.lookup peer with
    | none => simp [held] at full
    | some neighbor =>
      simp only [held, Option.map_some, Option.any_some] at full ⊢
      split at full
      · simp [below] at full
      · exact full
  · exact full

end NetLab.Ospf
