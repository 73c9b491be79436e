import NetLab.Ospf.Engine

/-!
# First hops of computed routes

A route found by the SPF run leads over the first link of the path along which its
router was reached. That link is listed in an LSA of the node's own, so the first
hop of every internal route is a router that such an LSA names, or the node itself.
-/

namespace NetLab.Ospf

open NetLab.Library NetLab.Network
open OrderedMap List

variable {Device : Type}

/-- A router ID is the node's own, or named by an LSA of the node's own. -/
def NamedByOwn (lsdb : Lsdb Device) (myRid target : Address) : Prop :=
  target = myRid ∨ ∃ lsa ∈ lsdb.values, lsa.advRouter = myRid ∧
    ∃ link ∈ lsa.links, target ∈ link.targets

/-- A route is connected or leads over an allowed router, and its next hop is allowed. -/
structure LeadsOver (allowed : Address → Prop) (route : OspfRoute Device) : Prop where
  via : route.via = .connected ∨ ∃ hop, allowed hop ∧ route.via = .router hop
  nextHop : ∃ hop, allowed hop ∧ route.nextHop = .router hop

def InheritsHop (allowed : Address → Prop) (myRid : Address) (candidate : Candidate) : Prop :=
  (candidate.router = myRid ∧ candidate.via = none ∧ candidate.nextHop = none) ∨
    (∃ hop, allowed hop ∧ candidate.via = some hop) ∧
      ∃ hop, allowed hop ∧ candidate.nextHop = some hop

/-- What the SPF loop maintains. -/
structure SpfInvariant (allowed : Address → Prop) (myRid : Address) (state : SpfState Device) :
    Prop where
  queue : ∀ candidate ∈ state.queue, InheritsHop allowed myRid candidate
  routes : ∀ route ∈ state.routes, LeadsOver allowed route

section Step

variable {allowed : Address → Prop} {myRid : Address} {state : SpfState Device}
  {current : Candidate}

theorem SpfInvariant.relax (invariant : SpfInvariant allowed myRid state)
    (inherits : InheritsHop allowed myRid current) {router : Address} (cost : Nat)
    (named : current.router = myRid → allowed router) :
    SpfInvariant allowed myRid (state.relax current router cost) := by
  unfold SpfState.relax
  split
  · exact invariant
  · dsimp only
    split
    · refine ⟨fun candidate member => ?_, invariant.routes⟩
      rcases mem_append.mp member with old | new
      · exact invariant.queue candidate old
      · rw [mem_singleton] at new
        subst new
        rcases inherits with ⟨isRoot, noVia, noHop⟩ | ⟨⟨hop, good, isVia⟩, next, goodNext, isNext⟩
        · have good := named isRoot
          exact .inr ⟨⟨router, good, by simp [inheritHop, noVia]⟩,
            router, good, by simp [inheritHop, noHop]⟩
        · exact .inr ⟨⟨hop, good, by simp [inheritHop, isVia]⟩,
            next, goodNext, by simp [inheritHop, isNext]⟩
    · exact invariant

theorem SpfInvariant.addRoute (invariant : SpfInvariant allowed myRid state)
    {route : OspfRoute Device} (leads : LeadsOver allowed route) :
    SpfInvariant allowed myRid (state.addRoute route) := by
  refine ⟨invariant.queue, fun other member => ?_⟩
  rcases mem_append.mp member with old | new
  · exact invariant.routes other old
  · rw [mem_singleton] at new
    exact new ▸ leads

theorem InheritsHop.leadsOver (inherits : InheritsHop allowed myRid current) :
    (∀ self, (current.router = myRid → allowed self) →
      ∃ hop, allowed hop ∧ current.via.getD self = hop) ∧
    (∀ self, (current.router = myRid → allowed self) →
      ∃ hop, allowed hop ∧ current.nextHop.getD self = hop) := by
  rcases inherits with ⟨isRoot, noVia, noHop⟩ | ⟨⟨hop, good, isVia⟩, next, goodNext, isNext⟩
  · exact ⟨fun self named => ⟨self, named isRoot, by simp [noVia]⟩,
      fun self named => ⟨self, named isRoot, by simp [noHop]⟩⟩
  · exact ⟨fun self _ => ⟨hop, good, by simp [isVia]⟩,
      fun self _ => ⟨next, goodNext, by simp [isNext]⟩⟩

theorem SpfInvariant.scanLink (invariant : SpfInvariant allowed myRid state)
    (inherits : InheritsHop allowed myRid current) (own : allowed myRid) (area : AreaId)
    {lsa : OspfLsa Device} (advertised : lsa.advRouter = current.router) {link : LsaLink Device}
    (named : current.router = myRid → ∀ target ∈ link.targets, allowed target) :
    SpfInvariant allowed myRid (SpfState.scanLink myRid area current lsa state link) := by
  have self : ∀ rid, rid = current.router → current.router = myRid → allowed rid := by
    rintro rid rfl isRoot
    exact isRoot ▸ own
  obtain ⟨viaHop, nextHop⟩ := inherits.leadsOver
  unfold SpfState.scanLink
  split
  · apply invariant.addRoute
    constructor
    · rcases inherits with ⟨-, noVia, -⟩ | ⟨⟨hop, good, isVia⟩, -⟩
      · exact .inl (by simp [noVia])
      · exact .inr ⟨hop, good, by simp [isVia]⟩
    · obtain ⟨hop, good, same⟩ := nextHop current.router (self _ rfl)
      exact ⟨hop, good, by simp [same]⟩
  · exact invariant.relax inherits _ fun isRoot => named isRoot _ (by simp [LsaLink.targets])
  · exact invariant.relax inherits _ fun isRoot => named isRoot _ (by simp [LsaLink.targets])
  · rename_i attached _ _
    have listed : ∀ router ∈ attached, current.router = myRid → allowed router :=
      fun router member isRoot => named isRoot router member
    clear named
    induction attached generalizing state with
    | nil => exact invariant
    | cons router rest ih =>
      rw [foldl_cons]
      refine ih ?_ fun other member => listed other (mem_cons_of_mem _ member)
      split
      · exact invariant
      · exact invariant.relax inherits _ (listed router mem_cons_self)
  · apply invariant.addRoute
    constructor
    · obtain ⟨hop, good, same⟩ := viaHop lsa.advRouter (self _ advertised)
      exact .inr ⟨hop, good, by simp [same]⟩
    · obtain ⟨hop, good, same⟩ := nextHop lsa.advRouter (self _ advertised)
      exact ⟨hop, good, by simp [same]⟩
  · exact invariant

end Step

section Run

variable {myRid : Address} {lsdb : Lsdb Device}

theorem SpfInvariant.expand {state : SpfState Device} {current : Candidate} (area : AreaId)
    (invariant : SpfInvariant (NamedByOwn lsdb myRid) myRid state)
    (inherits : InheritsHop (NamedByOwn lsdb myRid) myRid current) :
    SpfInvariant (NamedByOwn lsdb myRid) myRid (SpfState.expand myRid area lsdb state current) := by
  have links : ∀ lsa ∈ lsdb.values, lsa.advRouter = current.router →
      ∀ (links : List (LsaLink Device)), (∀ link ∈ links, link ∈ lsa.links) →
      ∀ state : SpfState Device, SpfInvariant (NamedByOwn lsdb myRid) myRid state →
      SpfInvariant (NamedByOwn lsdb myRid) myRid
        (links.foldl (SpfState.scanLink myRid area current lsa) state) := by
    intro lsa stored advertised links
    induction links with
    | nil => exact fun _ _ invariant => invariant
    | cons link rest ih =>
      intro subset state invariant
      refine ih (fun other member => subset other (mem_cons_of_mem _ member)) _ ?_
      refine invariant.scanLink inherits (.inl rfl) area advertised fun isRoot target member => ?_
      exact .inr ⟨lsa, stored, advertised.trans isRoot, link, subset link mem_cons_self, member⟩
  have lsas : ∀ (lsas : List (OspfLsa Device)), (∀ lsa ∈ lsas, lsa ∈ lsdb.values) →
      ∀ state : SpfState Device, SpfInvariant (NamedByOwn lsdb myRid) myRid state →
      SpfInvariant (NamedByOwn lsdb myRid) myRid (lsas.foldl (fun state lsa =>
        if lsa.advRouter = current.router then
          lsa.links.foldl (SpfState.scanLink myRid area current lsa) state
        else state) state) := by
    intro lsas
    induction lsas with
    | nil => exact fun _ _ invariant => invariant
    | cons lsa rest ih =>
      intro subset state invariant
      refine ih (fun other member => subset other (mem_cons_of_mem _ member)) _ ?_
      dsimp only
      split
      · rename_i advertised
        exact links lsa (subset lsa mem_cons_self) advertised lsa.links
          (fun _ member => member) state invariant
      · exact invariant
  exact lsas lsdb.values (fun _ member => member) state invariant

theorem SpfInvariant.loop (area : AreaId) (fuel : Nat) {state : SpfState Device}
    (invariant : SpfInvariant (NamedByOwn lsdb myRid) myRid state) :
    SpfInvariant (NamedByOwn lsdb myRid) myRid (spfLoop myRid area lsdb fuel state) := by
  induction fuel generalizing state with
  | zero => exact invariant
  | succ fuel ih =>
    unfold spfLoop
    have sorted : ∀ candidate, candidate ∈ state.queue.insertionSort
        (fun left right => left.cost ≤ right.cost) → InheritsHop _ myRid candidate :=
      fun candidate member => invariant.queue candidate ((mem_insertionSort _).mp member)
    split
    · exact invariant
    · rename_i current queue order
      rw [order] at sorted
      have rest : ∀ candidate ∈ queue, InheritsHop (NamedByOwn lsdb myRid) myRid candidate :=
        fun candidate member => sorted candidate (mem_cons_of_mem _ member)
      split
      · exact ih ⟨rest, invariant.routes⟩
      · apply ih
        exact SpfInvariant.expand area ⟨rest, invariant.routes⟩ (sorted current mem_cons_self)

theorem spfRoutes_leadOver (area : AreaId) :
    ∀ route ∈ spfRoutes myRid area lsdb, LeadsOver (NamedByOwn lsdb myRid) route := by
  refine (SpfInvariant.loop area _ ⟨fun candidate member => ?_, by simp⟩).routes
  rw [mem_singleton] at member
  subst member
  exact .inl ⟨rfl, rfl, rfl⟩

end Run

/-- Choosing between two routes to a destination invents none. -/
theorem mem_keepCheaper {best : OrderedMap (Address × Nat) (OspfRoute Device)}
    {next route : OspfRoute Device} (member : route ∈ (keepCheaper best next).values) :
    route = next ∨ route ∈ best.values := by
  have inserted : route ∈ (best.insert (next.network, next.length) next).values →
      route = next ∨ route ∈ best.values := by
    intro member
    obtain ⟨key, held⟩ := mem_values_iff.mp member
    rw [lookup_insert] at held
    split at held
    · exact .inl (Option.some.inj held).symm
    · exact .inr (mem_values_iff.mpr ⟨key, held⟩)
  unfold keepCheaper at member
  split at member
  · exact inserted member
  · split at member
    · exact inserted member
    · exact .inr member

theorem mem_bestRoutes {routes : List (OspfRoute Device)} {route : OspfRoute Device}
    (member : route ∈ (bestRoutes routes).values) : route ∈ routes := by
  suffices general : ∀ (found : List (OspfRoute Device))
      (best : OrderedMap (Address × Nat) (OspfRoute Device)),
      route ∈ (found.foldl keepCheaper best).values → route ∈ found ∨ route ∈ best.values by
    rcases general routes .empty member with found | impossible
    · exact found
    · simp [OrderedMap.values, OrderedMap.empty] at impossible
  intro found
  induction found with
  | nil => exact fun _ member => .inr member
  | cons next rest ih =>
    intro best member
    rcases ih _ member with later | kept
    · exact .inl (mem_cons_of_mem _ later)
    · rcases mem_keepCheaper kept with rfl | earlier
      · exact .inl mem_cons_self
      · exact .inr earlier

/-- Routes of a node after a recalculation: internal ones lead over routers named by
own LSAs, external ones to the device that they were learned from. -/
theorem recalcRoutes_leadOver {node : OspfNode Device} {filters : DeviceFilters}
    {route : OspfRoute Device} (member : route ∈ (node.recalcRoutes filters).routes) :
    LeadsOver (NamedByOwn node.lsdb node.routerId) route ∨
      ∃ network info, node.learnedExternal.lookup network = some info ∧
        route.via = .device info.nextHop ∧ route.nextHop = .device info.nextHop := by
  rcases mem_append.mp member with internal | external
  · left
    exact spfRoutes_leadOver node.areaId route (mem_bestRoutes (mem_filter.mp internal).1)
  · right
    obtain ⟨⟨network, info⟩, learned, made⟩ := mem_filterMap.mp external
    refine ⟨network, info, mem_entries_iff.mp learned, ?_⟩
    dsimp only at made
    split at made
    · simp at made
    · split at made
      · simp at made
      · cases made
        exact ⟨rfl, rfl⟩

end NetLab.Ospf
