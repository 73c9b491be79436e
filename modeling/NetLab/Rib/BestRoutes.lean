import NetLab.Library.Selection
import NetLab.Rib.Emulator
import Mathlib.Data.Prod.Lex

/-!
# Route selection

`get_best_routes` picks one route for each destination, `get_ecmp_routes` all next
hops of equal distance and metric. Each collects its candidates from the routing
tables anew; `bestCandidates_eq` and `ecmpCandidates_eq` express both collections as
views of one list of entries.
-/

namespace NetLab.Rib

open NetLab.Library NetLab.Network Emulator
open OrderedMap

/-- Where a route comes from, in the order in which candidates are collected. -/
inductive RouteSource where
  | connected
  | static
  | rip
  | ospf
  | eigrp
  | bgp
deriving DecidableEq

/-- Administrative distances. -/
def adValue : RouteSource → Nat
  | .connected => 0
  | .static => 1
  | .eigrp => 90
  | .ospf => 110
  | .rip => 120
  | .bgp => 20

/-- Administrative distance of a redistributed EIGRP route. -/
def externalEigrpAd : Nat := 170

/-- A candidate route. Only `get_best_routes` looks for its interface. -/
structure Candidate where
  destination : Prefix
  nextHop : String
  ad : Nat
  source : RouteSource
  metric : Nat
  iface : String := ""
deriving DecidableEq

/-- The next hop stands for a connected network. -/
def unspecified (nextHop : String) : Bool := nextHop == "0.0.0.0" || nextHop == ""

/-- The first name that is not empty. -/
def firstNamed (first second : String) : String := if first = "" then second else first

namespace Emulator

variable (emulator : Emulator) (device : String)

/-- Static routes whose next hop is reachable. -/
def activeStatics : List StaticRoute :=
  ((emulator.rib.lookup device).getD {}).staticRoutes.filter StaticRoute.active

def ripRoutes : List RipTableRoute :=
  match emulator.rip.lookup device with
  | some node => if node.enabled then node.table else []
  | none => []

def ospfRoutes : List OspfTableRoute :=
  match emulator.ospf.lookup device with
  | some node => if node.enabled then node.routes else []
  | none => []

def ownRouterId : String := ((emulator.ospf.lookup device).map OspfTable.routerId).getD ""

def eigrpRoutes : List EigrpTableRoute := ((emulator.eigrp.lookup device).getD {}).getRoutes

/-- The best paths of a device that runs BGP. -/
def bgpRoutes : List BgpTableRoute :=
  match emulator.bgp.lookup device with
  | some node => if node.enabled then node.locRib else []
  | none => []

/-! ## The best route -/

/-- The interface shown for a learned route. -/
def learnedIface (destination : Prefix) (nextHop : String) : String :=
  firstNamed (emulator.ifaceForNexthop device nextHop) (emulator.ifaceForNetwork device destination)

/-- Candidate for a static route; at distance 0 and without a next hop it is connected. -/
def staticCandidate (route : StaticRoute) : Candidate :=
  let isConnected := route.ad == 0 && unspecified route.nextHop
  { destination := route.destination
    nextHop := route.nextHop
    ad := route.ad
    source := if isConnected then .connected else .static
    metric := 0
    iface :=
      if isConnected then emulator.ifaceForNetwork device route.destination
      else emulator.ifaceForNexthop device route.nextHop }

def ripCandidate (route : RipTableRoute) : Candidate :=
  let source : RouteSource := if route.learnedFrom = "direct" then .connected else .rip
  { destination := route.destination
    nextHop := if route.learnedFrom = "direct" then "0.0.0.0" else route.nextHop
    ad := adValue source
    source := source
    metric := route.metric
    iface := emulator.learnedIface device route.destination route.nextHop }

/-- Candidate for an OSPF route, except one through the device itself. -/
def ospfCandidate (route : OspfTableRoute) : Option Candidate :=
  let ownRid := emulator.ownRouterId device
  if route.via ≠ "direct" ∧ ownRid ≠ "" ∧ route.nextHop = ownRid then none
  else
    let source : RouteSource := if route.via = "direct" then .connected else .ospf
    some
      { destination := route.destination
        nextHop := route.nextHop
        ad := adValue source
        source := source
        metric := route.metric
        iface := emulator.learnedIface device route.destination route.nextHop }

def eigrpCandidate (route : EigrpTableRoute) : Candidate :=
  { destination := route.destination
    nextHop := route.nextHop
    ad := if route.external then externalEigrpAd else adValue .eigrp
    source := .eigrp
    metric := route.fd
    iface := emulator.learnedIface device route.destination route.nextHop }

/-- Candidate for a best path of BGP. -/
def bgpCandidate (route : BgpTableRoute) : Candidate :=
  { destination := route.destination
    nextHop := route.nextHop
    ad := adValue .bgp
    source := .bgp
    metric := route.med
    iface := emulator.learnedIface device route.destination route.nextHop }

/-- The interface through which a candidate leaves, if it can be told. -/
def exitIface (candidate : Candidate) : String :=
  if candidate.iface ≠ "" then candidate.iface
  else if candidate.source = .connected ∨ candidate.source = .static then ""
  else
    let nextHop := emulator.resolveLearnedNextHop device candidate.nextHop
    if nextHop = "" then "" else emulator.ifaceForNexthop device nextHop

/-- The candidate does not leave through a shut interface. -/
def exitsUp (candidate : Candidate) : Bool :=
  emulator.exitIface device candidate == "" ||
    !decide (normIface (emulator.exitIface device candidate) ∈
      (emulator.network.downInterfaces device).map normIface)

/-- The candidates of `get_best_routes`. -/
def bestCandidates : List Candidate :=
  ((emulator.activeStatics device).map (emulator.staticCandidate device) ++
    (emulator.ripRoutes device).map (emulator.ripCandidate device) ++
    (emulator.ospfRoutes device).filterMap (emulator.ospfCandidate device) ++
    (emulator.eigrpRoutes device).map (emulator.eigrpCandidate device) ++
    (emulator.bgpRoutes device).map (emulator.bgpCandidate device)).filter
    (emulator.exitsUp device)

/-- Enter a candidate if it is the first for its destination, or has a smaller distance,
or the same distance and a smaller metric. -/
def chooseRoute (best : OrderedMap Prefix Candidate) (candidate : Candidate) :
    OrderedMap Prefix Candidate :=
  match best.lookup candidate.destination with
  | none => best.insert candidate.destination candidate
  | some current =>
    if candidate.ad < current.ad ∨
        (candidate.ad = current.ad ∧ candidate.metric < current.metric) then
      best.insert candidate.destination candidate
    else best

def bestRoutes : OrderedMap Prefix Candidate :=
  (emulator.bestCandidates device).foldl chooseRoute .empty

/-- `get_best_routes`. -/
def getBestRoutes : List Candidate := (emulator.bestRoutes device).values

end Emulator

/-! ## Equal-cost routes -/

/-- The equal-cost routes to one destination. -/
structure EcmpGroup where
  destination : Prefix
  ad : Nat
  metric : Nat
  source : RouteSource
  nextHops : List String := []
deriving DecidableEq

/-- Number of next hops that a group holds. -/
def maxPaths : Nat := 4

namespace Emulator

variable (emulator : Emulator) (device : String)

/-- The candidates of `get_ecmp_routes`. -/
def ecmpCandidates : List Candidate :=
  (emulator.activeStatics device).map (fun route =>
      { destination := route.destination, nextHop := route.nextHop, ad := route.ad
        source := .static, metric := 0 }) ++
    ((emulator.ripRoutes device).filter fun route => decide (route.learnedFrom ≠ "direct")).map
      (fun route =>
        { destination := route.destination, nextHop := route.nextHop, ad := adValue .rip
          source := .rip, metric := route.metric }) ++
    ((emulator.ospfRoutes device).filter fun route => decide (route.via ≠ "direct")).map
      (fun route =>
        { destination := route.destination, nextHop := route.nextHop, ad := adValue .ospf
          source := .ospf, metric := route.metric }) ++
    (emulator.eigrpRoutes device).map fun route =>
      { destination := route.destination, nextHop := route.nextHop
        ad := if route.external then externalEigrpAd else adValue .eigrp
        source := .eigrp, metric := route.fd }

/-- Keep the least distance and metric of the candidates for each destination. -/
def enterScore (scores : OrderedMap Prefix (Nat × Nat)) (candidate : Candidate) :
    OrderedMap Prefix (Nat × Nat) :=
  match scores.lookup candidate.destination with
  | none => scores.insert candidate.destination (candidate.ad, candidate.metric)
  | some current =>
    if candidate.ad < current.1 ∨
        (candidate.ad = current.1 ∧ candidate.metric < current.2) then
      scores.insert candidate.destination (candidate.ad, candidate.metric)
    else scores

/-- Enter a next hop that is new, as long as there is room. -/
def enterHop (nextHops : List String) (nextHop : String) : List String :=
  if nextHop ∉ nextHops ∧ nextHops.length < maxPaths then nextHops ++ [nextHop] else nextHops

def enterGroup (scores : OrderedMap Prefix (Nat × Nat)) (groups : OrderedMap Prefix EcmpGroup)
    (candidate : Candidate) : OrderedMap Prefix EcmpGroup :=
  if scores.lookup candidate.destination = some (candidate.ad, candidate.metric) then
    let group := (groups.lookup candidate.destination).getD
      { destination := candidate.destination
        ad := candidate.ad
        metric := candidate.metric
        source := candidate.source }
    groups.insert candidate.destination
      { group with nextHops := enterHop group.nextHops candidate.nextHop }
  else groups

/-- The equal-cost routes to each destination. -/
def ecmpGroups : OrderedMap Prefix EcmpGroup :=
  let candidates := emulator.ecmpCandidates device
  candidates.foldl (enterGroup (candidates.foldl enterScore .empty)) .empty

/-- `get_ecmp_routes`. -/
def getEcmpRoutes : List EcmpGroup := (emulator.ecmpGroups device).values

end Emulator

/-! ## What is selected -/

/-- Distance and metric, compared in this order. -/
def Candidate.score (candidate : Candidate) : Nat ×ₗ Nat :=
  toLex (candidate.ad, candidate.metric)

theorem Candidate.score_lt {first second : Candidate} : first.score < second.score ↔
    first.ad < second.ad ∨ (first.ad = second.ad ∧ first.metric < second.metric) :=
  Prod.Lex.toLex_lt_toLex

theorem Candidate.score_eq {first second : Candidate} : first.score = second.score ↔
    first.ad = second.ad ∧ first.metric = second.metric := by
  unfold Candidate.score
  rw [toLex_inj, Prod.mk.injEq]

def candidatesFor (destination : Prefix) (candidates : List Candidate) : List Candidate :=
  candidates.filter fun candidate => decide (candidate.destination = destination)

theorem bestRoutes_eq (emulator : Emulator) (device : String) : emulator.bestRoutes device =
      leastPerKey Candidate.destination Candidate.score (emulator.bestCandidates device) := by
  have same : chooseRoute = chooseLeast Candidate.destination Candidate.score := by
    funext best candidate
    unfold chooseRoute chooseLeast
    cases best.lookup candidate.destination with
    | none => rfl
    | some current => exact if_congr Candidate.score_lt.symm rfl rfl
  unfold bestRoutes
  rw [same]
  rfl

theorem lookup_bestRoutes (emulator : Emulator) (device : String) (destination : Prefix) :
    (emulator.bestRoutes device).lookup destination =
      (candidatesFor destination (emulator.bestCandidates device)).argmin Candidate.score := by
  rw [bestRoutes_eq]
  exact lookup_leastPerKey _ _ _ destination

section Ecmp

variable (destination : Prefix) (candidates : List Candidate)

theorem lookup_scores : (candidates.foldl enterScore .empty).lookup destination =
    ((candidatesFor destination candidates).argmin Candidate.score).map fun least =>
      (least.ad, least.metric) := by
  induction candidates using List.reverseRecOn with
  | nil => rfl
  | append_singleton candidates last ih =>
    unfold candidatesFor at ih ⊢
    rw [List.foldl_append, List.foldl_cons, List.foldl_nil, List.filter_append]
    generalize candidates.foldl enterScore .empty = scores at ih
    unfold enterScore
    by_cases here : last.destination = destination
    · subst here
      rw [List.filter_singleton, decide_eq_true rfl, cond_true, List.argmin_concat, ih]
      cases found : (candidates.filter fun candidate =>
        decide (candidate.destination = last.destination)).argmin Candidate.score with
      | none => simp
      | some current =>
        simp only [Option.map_some, Candidate.score_lt]
        split
        · simp
        · rw [ih, found]
    · rw [List.filter_singleton, decide_eq_false here, cond_false, List.append_nil, ← ih]
      have apart : destination ≠ last.destination := fun same => here same.symm
      split
      · simp [lookup_insert, apart]
      · split
        · simp [lookup_insert, apart]
        · rfl

/-- The group that candidates of one distance and metric form. -/
def groupOf : List Candidate → Option EcmpGroup
  | [] => none
  | first :: rest =>
    some
      { destination := first.destination
        ad := first.ad
        metric := first.metric
        source := first.source
        nextHops := ((first :: rest).map Candidate.nextHop).foldl enterHop [] }

theorem groupOf_append_singleton (candidates : List Candidate) (last : Candidate) :
    groupOf (candidates ++ [last]) =
      let group := (groupOf candidates).getD
        { destination := last.destination
          ad := last.ad
          metric := last.metric
          source := last.source }
      some { group with nextHops := enterHop group.nextHops last.nextHop } := by
  cases candidates with
  | nil => rfl
  | cons first rest =>
    have hops : ((first :: (rest ++ [last])).map Candidate.nextHop).foldl enterHop [] =
        enterHop (((first :: rest).map Candidate.nextHop).foldl enterHop [])
          last.nextHop := by
      rw [← List.cons_append, List.map_append, List.foldl_append]
      rfl
    simp only [List.cons_append, groupOf, Option.getD_some]
    rw [hops]

theorem lookup_groups (scores : OrderedMap Prefix (Nat × Nat)) :
    (candidates.foldl (enterGroup scores) .empty).lookup destination =
      groupOf ((candidatesFor destination candidates).filter fun candidate =>
        decide (scores.lookup destination = some (candidate.ad, candidate.metric))) := by
  induction candidates using List.reverseRecOn with
  | nil => rfl
  | append_singleton candidates last ih =>
    unfold candidatesFor at ih ⊢
    rw [List.foldl_append, List.foldl_cons, List.foldl_nil, List.filter_append, List.filter_append]
    generalize candidates.foldl (enterGroup scores) .empty = groups at ih
    unfold enterGroup
    by_cases here : last.destination = destination
    · subst here
      rw [List.filter_singleton, decide_eq_true rfl, cond_true, List.filter_singleton]
      by_cases least : scores.lookup last.destination = some (last.ad, last.metric)
      · rw [decide_eq_true least, cond_true, groupOf_append_singleton, ← ih, if_pos least]
        exact lookup_insert_self _ _ _
      · rw [decide_eq_false least, cond_false, List.append_nil, ← ih, if_neg least]
    · have apart : destination ≠ last.destination := fun same => here same.symm
      rw [List.filter_singleton, decide_eq_false here, cond_false, List.filter_nil,
        List.append_nil, ← ih]
      split
      · simp [lookup_insert, apart]
      · rfl

/-- The group of a destination: its first candidate of least distance and metric gives
the source, all of them the next hops. -/
theorem lookup_ecmpGroups (emulator : Emulator) (device : String) (destination : Prefix) :
    (emulator.ecmpGroups device).lookup destination =
      ((candidatesFor destination (emulator.ecmpCandidates device)).argmin Candidate.score).map
        fun least =>
          { destination := destination
            ad := least.ad
            metric := least.metric
            source := least.source
            nextHops := (((candidatesFor destination (emulator.ecmpCandidates device)).filter
              fun candidate => decide (candidate.score = least.score)).map
                Candidate.nextHop).foldl enterHop [] } := by
  unfold ecmpGroups
  dsimp only
  rw [lookup_groups, lookup_scores]
  have named : ∀ candidate ∈ candidatesFor destination (emulator.ecmpCandidates device),
      candidate.destination = destination :=
    fun candidate member => of_decide_eq_true (List.mem_filter.mp member).2
  generalize candidatesFor destination (emulator.ecmpCandidates device) = choices at named
  cases found : choices.argmin Candidate.score with
  | none =>
    rw [List.argmin_eq_none.mp found]
    rfl
  | some least =>
    have sameTest : (fun candidate : Candidate => decide ((some least).map
        (fun least => (least.ad, least.metric)) = some (candidate.ad, candidate.metric))) =
        fun candidate => decide (candidate.score = least.score) := by
      funext candidate
      simp [Candidate.score_eq, eq_comm]
    rw [sameTest]
    obtain ⟨front, back, shape, before, -⟩ := argmin_eq_some_iff.mp found
    have none : front.filter (fun candidate => decide (candidate.score = least.score)) = [] := by
      refine List.filter_eq_nil_iff.mpr fun candidate member same => ?_
      exact absurd (of_decide_eq_true same) (before candidate member).ne'
    have first : choices.filter (fun candidate => decide (candidate.score = least.score)) =
        least :: back.filter fun candidate => decide (candidate.score = least.score) := by
      rw [shape, List.filter_append, none, List.filter_cons, if_pos (by simp), List.nil_append]
    rw [Option.map_some, first]
    simp only [groupOf]
    rw [named least (shape ▸ by simp)]

end Ecmp

/-! ## The common entries -/

/-- An entry of one of the tables that routes are selected from. -/
inductive Entry where
  | static (route : StaticRoute)
  | rip (route : RipTableRoute)
  | ospf (route : OspfTableRoute)
  | eigrp (route : EigrpTableRoute)
  | bgp (route : BgpTableRoute)
deriving DecidableEq

namespace Entry

/-- The place of the entry's table in the order of collection. -/
def rank : Entry → Nat
  | .static _ => 0
  | .rip _ => 1
  | .ospf _ => 2
  | .eigrp _ => 3
  | .bgp _ => 4

def destination : Entry → Prefix
  | .static route => route.destination
  | .rip route => route.destination
  | .ospf route => route.destination
  | .eigrp route => route.destination
  | .bgp route => route.destination

/-- What `get_ecmp_routes` sees of an entry. -/
def ecmpView : Entry → Option Candidate
  | .static route =>
    some
      { destination := route.destination, nextHop := route.nextHop, ad := route.ad
        source := .static, metric := 0 }
  | .rip route =>
    if route.learnedFrom ≠ "direct" then
      some
        { destination := route.destination, nextHop := route.nextHop, ad := adValue .rip
          source := .rip, metric := route.metric }
    else none
  | .ospf route =>
    if route.via ≠ "direct" then
      some
        { destination := route.destination, nextHop := route.nextHop, ad := adValue .ospf
          source := .ospf, metric := route.metric }
    else none
  | .eigrp route =>
    some
      { destination := route.destination, nextHop := route.nextHop
        ad := if route.external then externalEigrpAd else adValue .eigrp
        source := .eigrp, metric := route.fd }
  | .bgp _ => none

end Entry

namespace Emulator

variable (emulator : Emulator) (device : String)

/-- All entries, table by table. -/
def entries : List Entry :=
  (emulator.activeStatics device).map .static ++ (emulator.ripRoutes device).map .rip ++
    (emulator.ospfRoutes device).map .ospf ++ (emulator.eigrpRoutes device).map .eigrp ++
    (emulator.bgpRoutes device).map .bgp

/-- The candidate that `get_best_routes` makes of an entry, before it looks at the
interfaces. -/
def bestCandidate : Entry → Option Candidate
  | .static route => some (emulator.staticCandidate device route)
  | .rip route => some (emulator.ripCandidate device route)
  | .ospf route => emulator.ospfCandidate device route
  | .eigrp route => some (emulator.eigrpCandidate device route)
  | .bgp route => some (emulator.bgpCandidate device route)

/-- What `get_best_routes` sees of an entry. -/
def bestView (entry : Entry) : Option Candidate :=
  (emulator.bestCandidate device entry).filter (emulator.exitsUp device)

/-- The entries come table by table. -/
theorem entries_sorted :
    (emulator.entries device).Pairwise fun first second => first.rank ≤ second.rank := by
  have block : ∀ {Route : Type} (routes : List Route) (entry : Route → Entry) (rank : Nat),
      (∀ route, (entry route).rank = rank) →
      (routes.map entry).Pairwise fun first second => first.rank ≤ second.rank := by
    intro Route routes entry rank constant
    refine List.pairwise_map.mpr (List.pairwise_of_forall fun first second => ?_)
    rw [constant, constant]
  unfold entries
  simp only [List.pairwise_append, List.mem_append, List.mem_map]
  refine ⟨⟨⟨⟨block _ _ 0 fun _ => rfl, block _ _ 1 fun _ => rfl, ?_⟩, block _ _ 2 fun _ => rfl, ?_⟩,
    block _ _ 3 fun _ => rfl, ?_⟩, block _ _ 4 fun _ => rfl, ?_⟩
  · rintro _ ⟨first, -, rfl⟩ _ ⟨second, -, rfl⟩
    simp [Entry.rank]
  · rintro _ (⟨first, -, rfl⟩ | ⟨first, -, rfl⟩) _ ⟨second, -, rfl⟩ <;> simp [Entry.rank]
  · rintro _ ((⟨first, -, rfl⟩ | ⟨first, -, rfl⟩) | ⟨first, -, rfl⟩) _ ⟨second, -, rfl⟩ <;>
      simp [Entry.rank]
  · rintro _ (((⟨first, -, rfl⟩ | ⟨first, -, rfl⟩) | ⟨first, -, rfl⟩) | ⟨first, -, rfl⟩)
      _ ⟨second, -, rfl⟩ <;> simp [Entry.rank]

section

variable {Route : Type} {candidate : Route → Candidate} (view : Entry → Option Candidate)
  (entry : Route → Entry)
include view entry

theorem filterMap_table (seen : ∀ route, view (entry route) = some (candidate route))
    (routes : List Route) : (routes.map entry).filterMap view = routes.map candidate := by
  rw [List.filterMap_map, ← List.filterMap_eq_map]
  exact List.filterMap_congr fun route _ => seen route

theorem filterMap_tested (test : Route → Bool)
    (seen : ∀ route, view (entry route) = if test route then some (candidate route) else none)
    (routes : List Route) :
    (routes.map entry).filterMap view = (routes.filter test).map candidate := by
  induction routes with
  | nil => rfl
  | cons route rest ih =>
    rw [List.map_cons, List.filterMap_cons, seen, List.filter_cons]
    cases test route with
    | true => simp [ih]
    | false => simp [ih]

end

/-- `get_best_routes` collects what it sees of the entries. -/
theorem bestCandidates_eq : emulator.bestCandidates device =
      (emulator.entries device).filterMap (emulator.bestView device) := by
  have separate : ∀ items : List Entry, items.filterMap (emulator.bestView device) =
      (items.filterMap (emulator.bestCandidate device)).filter (emulator.exitsUp device) := by
    intro items
    rw [List.filter_filterMap]
    rfl
  rw [separate]
  unfold bestCandidates entries
  have static := filterMap_table (emulator.bestCandidate device) Entry.static
    (fun _ => rfl) (emulator.activeStatics device)
  have rip := filterMap_table (emulator.bestCandidate device) Entry.rip
    (fun _ => rfl) (emulator.ripRoutes device)
  have ospf : ((emulator.ospfRoutes device).map Entry.ospf).filterMap
      (emulator.bestCandidate device) =
      (emulator.ospfRoutes device).filterMap (emulator.ospfCandidate device) := by
    rw [List.filterMap_map]
    rfl
  have eigrp := filterMap_table (emulator.bestCandidate device) Entry.eigrp
    (fun _ => rfl) (emulator.eigrpRoutes device)
  have bgp := filterMap_table (emulator.bestCandidate device) Entry.bgp
    (fun _ => rfl) (emulator.bgpRoutes device)
  simp only [List.filterMap_append, static, rip, ospf, eigrp, bgp]

/-- `get_ecmp_routes` collects what it sees of the entries. -/
theorem ecmpCandidates_eq :
    emulator.ecmpCandidates device = (emulator.entries device).filterMap Entry.ecmpView := by
  unfold ecmpCandidates entries
  have static := filterMap_table Entry.ecmpView Entry.static
    (fun _ => rfl) (emulator.activeStatics device)
  have rip := filterMap_tested Entry.ecmpView Entry.rip
    (fun route => decide (route.learnedFrom ≠ "direct"))
    (fun _ => by simp [Entry.ecmpView]; rfl) (emulator.ripRoutes device)
  have ospf := filterMap_tested Entry.ecmpView Entry.ospf
    (fun route => decide (route.via ≠ "direct"))
    (fun _ => by simp [Entry.ecmpView]; rfl) (emulator.ospfRoutes device)
  have eigrp := filterMap_table Entry.ecmpView Entry.eigrp
    (fun _ => rfl) (emulator.eigrpRoutes device)
  have bgp : ((emulator.bgpRoutes device).map Entry.bgp).filterMap Entry.ecmpView = [] := by
    simp [List.filterMap_map, Function.comp_def, Entry.ecmpView]
  simp only [List.filterMap_append, static, rip, ospf, eigrp, bgp, List.append_nil]

end Emulator

end NetLab.Rib
