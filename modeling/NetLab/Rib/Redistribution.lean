import NetLab.Rib.Emulator

/-!
# Redistribution between routing protocols

`redistribute` injects the routes of one protocol of a device into another. It only ever
adds: RIP and OSPF record the metric and the source of the last injection of a network,
BGP lists the network among its own. `holds_run_iff` says what a target holds after any
sequence of routing changes and redistributions.
-/

namespace NetLab.Rib

open NetLab.Library NetLab.Network NetLab.Execution List

/-- Protocols that routes are taken from. -/
inductive SourceProto where
  | connected
  | static
  | rip
  | ospf
  | bgp
deriving DecidableEq

/-- Protocols that routes are injected into. -/
inductive TargetProto where
  | rip
  | ospf
  | bgp
deriving DecidableEq

/-- What redistribution reads on a device: the tables of the protocols, the addresses and
the filters. Networks are the prefixes that their texts denote. -/
structure Routing where
  rip : RipTable := {}
  ripNetworks : List Prefix := []
  ospf : OspfTable := {}
  ospfNetworks : List Prefix := []
  bgp : BgpTable := {}
  staticRoutes : List StaticRoute := []
  ips : OrderedMap String Nat := .empty
  filters : DeviceFilters := {}
  redistFilters : OrderedMap (TargetProto × SourceProto) String := .empty

/-- A network that was injected into RIP or OSPF. -/
structure Redistributed where
  metric : Nat
  source : SourceProto
deriving DecidableEq

/-- A device with the networks that were injected into each target. -/
structure RedistNode where
  routing : Routing := {}
  rip : OrderedMap Prefix Redistributed := .empty
  ospf : OrderedMap Prefix Redistributed := .empty
  bgpNetworks : List Prefix := []

def dotted (address : Nat) : String :=
  ".".intercalate ([24, 16, 8, 0].map fun shift => toString ((address >>> shift) &&& 0xff))

/-- The network of an address; what cannot be read stays as it is. -/
def netAddr (ip : String) (length : Nat) : Prefix :=
  match ipToInt ip with
  | none => ⟨ip, length⟩
  | some address =>
    if 32 < length then ⟨ip, length⟩ else ⟨dotted (address &&& prefixMask length), length⟩

namespace Routing

variable (routing : Routing)

def sourceRoutes : SourceProto → List (Prefix × Nat)
  | .connected =>
    (routing.ripNetworks ++ routing.ospfNetworks ++
      routing.ips.entries.map fun entry => netAddr entry.1 entry.2).map fun network =>
        (network, 1)
  | .static =>
    (routing.staticRoutes.filter StaticRoute.active).map fun route => (route.destination, 1)
  | .rip =>
    if routing.rip.enabled then
      (routing.rip.table.filter fun route => decide (route.learnedFrom ≠ "direct")).map
        fun route => (route.destination, route.metric)
    else []
  | .ospf =>
    if routing.ospf.enabled then
      (routing.ospf.routes.filter fun route => decide (route.via ≠ "direct")).map
        fun route => (route.destination, route.metric)
    else []
  | .bgp =>
    if routing.bgp.enabled then routing.bgp.locRib.map fun route => (route.destination, 1)
    else []

/-- `filter_redist`: a network passes the filter of its target and source. -/
def filterRedist (target : TargetProto) (source : SourceProto) (destination : Prefix) : Bool :=
  match routing.redistFilters.lookup (target, source) with
  | none => true
  | some listName =>
    listName == "" ||
      routing.filters.checkPrefixList listName destination.network destination.length

def permitted (target : TargetProto) (source : SourceProto) : List (Prefix × Nat) :=
  (routing.sourceRoutes source).filter fun route => routing.filterRedist target source route.1

/-- A target is running. -/
def runs : TargetProto → Bool
  | .rip => routing.rip.enabled
  | .ospf => routing.ospf.enabled
  | .bgp => routing.bgp.enabled

end Routing

namespace RedistNode

/-- Enter networks with one metric and source. -/
def inject (routes : List (Prefix × Nat)) (entry : Redistributed)
    (table : OrderedMap Prefix Redistributed) : OrderedMap Prefix Redistributed :=
  routes.foldl (fun table route => table.insert route.1 entry) table

def advertise (networks : List Prefix) (network : Prefix) : List Prefix :=
  if network ∈ networks then networks else networks ++ [network]

/-- The device with routes injected into a target. The updates that are sent to the
neighbours are left out. -/
def injectInto (node : RedistNode) (target : TargetProto) (source : SourceProto)
    (metric : Option Nat) (routes : List (Prefix × Nat)) : RedistNode :=
  match target with
  | .rip =>
    { node with rip := inject routes { metric := metric.getD 1, source := source } node.rip }
  | .ospf =>
    { node with ospf := inject routes { metric := metric.getD 20, source := source } node.ospf }
  | .bgp => { node with bgpNetworks := (routes.map Prod.fst).foldl advertise node.bgpNetworks }

/-- `redistribute`, with the number of routes that were injected. -/
def redistribute (node : RedistNode) (target : TargetProto) (source : SourceProto)
    (metric : Option Nat) : RedistNode × Nat :=
  if (node.routing.sourceRoutes source).isEmpty then (node, 0)
  else
    let routes := node.routing.permitted target source
    if routes.isEmpty then (node, 0)
    else if node.routing.runs target then
      (node.injectInto target source metric routes, routes.length)
    else (node, 0)

/-- What happens on a device: a protocol, an address or a filter changes, the operator
configures a network of BGP, or routes are redistributed. -/
inductive Change where
  | routing (routing : Routing)
  | network (network : Prefix)
  | redistribute (target : TargetProto) (source : SourceProto) (metric : Option Nat)

/-- The device after a change. -/
def apply (node : RedistNode) : Change → RedistNode
  | .routing routing => { node with routing := routing }
  | .network network => { node with bgpNetworks := advertise node.bgpNetworks network }
  | .redistribute target source metric => (node.redistribute target source metric).1

/-- The device after a sequence of changes. -/
def run (node : RedistNode) (changes : List Change) : RedistNode := runFrom apply node changes

/-! ## What a target holds -/

/-- What a target holds about a network: its metric and source, or in BGP only that it is
listed. -/
inductive Held where
  | route (entry : Redistributed)
  | listed
deriving DecidableEq

def held (node : RedistNode) (network : Prefix) : TargetProto → Option Held
  | .rip => (node.rip.lookup network).map .route
  | .ospf => (node.ospf.lookup network).map .route
  | .bgp => if network ∈ node.bgpNetworks then some .listed else none

/-- What a redistribution enters. -/
def entered (source : SourceProto) (metric : Option Nat) : TargetProto → Held
  | .rip => .route { metric := metric.getD 1, source := source }
  | .ospf => .route { metric := metric.getD 20, source := source }
  | .bgp => .listed

/-- What a change enters about a network into a target: a redistribution enters the routes
that the source has and the filter permits, if the target runs. -/
def enters (target : TargetProto) (network : Prefix) (node : RedistNode) : Change → Option Held
  | .routing _ => none
  | .network configured =>
    if target = .bgp ∧ configured = network then some .listed else none
  | .redistribute into source metric =>
    if into = target ∧ node.routing.runs target ∧
        network ∈ (node.routing.permitted target source).map Prod.fst then
      some (entered source metric target)
    else none

/-- The entry belongs to a source; BGP does not tell its networks apart. -/
def Held.ofSource (source : SourceProto) : Held → Prop
  | .route entry => entry.source = source
  | .listed => True

/-- The networks that a target holds from a source are those that the source has now and
the filter permits now. -/
def Current (node : RedistNode) (target : TargetProto) (source : SourceProto) : Prop :=
  ∀ network, (∃ entry, node.held network target = some entry ∧ entry.ofSource source) ↔
    network ∈ (node.routing.permitted target source).map Prod.fst

theorem lookup_inject (routes : List (Prefix × Nat)) (entry : Redistributed)
    (table : OrderedMap Prefix Redistributed) (network : Prefix) :
    (inject routes entry table).lookup network =
      if network ∈ routes.map Prod.fst then some entry else table.lookup network := by
  induction routes generalizing table with
  | nil => rfl
  | cons first rest ih =>
    unfold inject at ih ⊢
    rw [foldl_cons, ih, OrderedMap.lookup_insert]
    by_cases here : network = first.1
    · simp [here]
    · have later : network ∈ (first :: rest).map Prod.fst ↔ network ∈ rest.map Prod.fst := by
        rw [map_cons, mem_cons, or_iff_right here]
      rw [if_neg here]
      exact if_congr later.symm rfl rfl

theorem mem_foldl_advertise (routes networks : List Prefix) (network : Prefix) :
    network ∈ routes.foldl advertise networks ↔ network ∈ networks ∨ network ∈ routes := by
  induction routes generalizing networks with
  | nil => simp
  | cons first rest ih =>
    rw [foldl_cons, ih, mem_cons, ← or_assoc]
    refine or_congr_left ?_
    unfold advertise
    split
    case isTrue listed =>
        refine ⟨.inl, ?_⟩
        rintro (old | rfl)
        · exact old
        · exact listed
    case isFalse => rw [mem_append, mem_singleton]

variable (node : RedistNode) (target : TargetProto) (source : SourceProto) (metric : Option Nat)

theorem injectInto_nil : node.injectInto target source metric [] = node := by
  cases target <;> rfl

/-- A target that runs takes the routes that pass the filter; that there are none needs no
case of its own. -/
theorem redistribute_eq : (node.redistribute target source metric).1 =
      if node.routing.runs target then
        node.injectInto target source metric (node.routing.permitted target source)
      else node := by
  unfold redistribute
  dsimp only
  split
  case isTrue noSource =>
      have none : node.routing.permitted target source = [] := by
        unfold Routing.permitted
        rw [isEmpty_iff.mp noSource, filter_nil]
      rw [none, injectInto_nil, ite_self]
  case isFalse =>
      split
      case isTrue allDenied => rw [isEmpty_iff.mp allDenied, injectInto_nil, ite_self]
      case isFalse =>
          split
          case isTrue => rfl
          case isFalse => rfl

theorem held_redistribute (into : TargetProto) (source : SourceProto) (metric : Option Nat)
    (network : Prefix) :
    (node.redistribute into source metric).1.held network target =
      (enters target network node (.redistribute into source metric)).or
        (node.held network target) := by
  rw [redistribute_eq]
  dsimp only [enters]
  by_cases running : node.routing.runs into
  · rw [if_pos running]
    by_cases same : into = target
    · subst same
      by_cases inside : network ∈ (node.routing.permitted into source).map Prod.fst
      · rw [if_pos ⟨rfl, running, inside⟩]
        cases into with
        | rip => simp [injectInto, held, entered, lookup_inject, inside]
        | ospf => simp [injectInto, held, entered, lookup_inject, inside]
        | bgp => simp [injectInto, held, entered, mem_foldl_advertise, inside]
      · rw [if_neg fun all => inside all.2.2]
        cases into with
        | rip => simp [injectInto, held, lookup_inject, inside]
        | ospf => simp [injectInto, held, lookup_inject, inside]
        | bgp => simp [injectInto, held, mem_foldl_advertise, inside]
    · rw [if_neg fun all => same all.1]
      cases into <;> cases target <;> first | rfl | exact absurd rfl same
  · rw [if_neg running, if_neg]
    · rfl
    · rintro ⟨rfl, runs, -⟩
      exact running runs

theorem held_apply (network : Prefix) (node : RedistNode) (change : Change) :
    (node.apply change).held network target =
      (enters target network node change).or (node.held network target) := by
  cases change with
  | routing routing => cases target <;> rfl
  | network configured =>
    cases target with
    | rip => rfl
    | ospf => rfl
    | bgp =>
      have listed : network ∈ advertise node.bgpNetworks configured ↔
          network ∈ node.bgpNetworks ∨ configured = network := by
        simpa [eq_comm] using mem_foldl_advertise [configured] node.bgpNetworks network
      unfold apply held
      dsimp only [enters]
      by_cases here : configured = network
      · rw [if_pos (listed.mpr (.inr here)), if_pos ⟨rfl, here⟩]
        rfl
      · have silent : ¬ (TargetProto.bgp = .bgp ∧ configured = network) := fun both =>
          here both.2
        rw [if_neg silent, Option.none_or]
        exact if_congr (listed.trans (or_iff_left here)) rfl rfl
  | redistribute into source metric => exact held_redistribute node target into source metric network

/-- A target holds about a network what the last change entered that entered it at all,
whether or not the source still has it or the filter still permits it. -/
theorem held_run_iff (node : RedistNode) (changes : List Change) (target : TargetProto)
    (network : Prefix) (entry : Held) :
    (node.run changes).held network target = some entry ↔
      LastWrite apply (enters target network) node changes entry ∨
        (node.held network target = some entry ∧
          Along apply (fun node change => enters target network node change = none) node changes) :=
  view_runFrom_iff (fun node => held node network target) (held_apply target network)

def withStatic : RedistNode where
  routing :=
    { rip := { enabled := true }
      staticRoutes := [{ destination := ⟨"10.0.0.0", 8⟩, nextHop := "192.168.1.1", ad := 1 }] }

def removeStatic : List Change :=
  [.redistribute .rip .static none, .routing { rip := { enabled := true } },
    .redistribute .rip .static none]

/-- RIP still holds the static route that is gone. -/
theorem removed_static_held : ¬ (withStatic.run removeStatic).Current .rip .static := by
  intro current
  have gone : (withStatic.run removeStatic).routing.permitted .rip .static = [] := by
    decide +kernel
  have held : (withStatic.run removeStatic).held ⟨"10.0.0.0", 8⟩ .rip =
      some (.route { metric := 1, source := .static }) := by
    decide +kernel
  have inside := (current ⟨"10.0.0.0", 8⟩).mp ⟨_, held, rfl⟩
  rw [gone] at inside
  cases inside

end RedistNode

end NetLab.Rib
