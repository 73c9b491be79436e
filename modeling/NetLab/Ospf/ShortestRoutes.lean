import Mathlib.Algebra.BigOperators.Group.List.Basic
import NetLab.Library.Folds
import NetLab.Library.Selection
import NetLab.Library.SimplePaths
import NetLab.Ospf.Engine

/-!
# Routes over least-cost paths

The database of a router is a graph: the transit and point-to-point links of router
LSAs with their metrics, and the attachments of network LSAs at cost one. The SPF run
takes the cheapest candidate, skips a router that it has visited already, and offers the
routers next to it. Its invariant has two parts. What is in the tables is backed by a
simple path through visited routers (`Searching`), and every router that has been visited
has offered its neighbours and its networks (`Expanded`). When the queue is empty the
distances are closed under the links, hence the least ones.
-/

namespace NetLab.Ospf

open NetLab.Library NetLab.Network List OspfLsa
open OrderedMap

variable {Device : Type} {router : Address}

/-! ## The graph of a database -/

def OspfRoute.destination (route : OspfRoute Device) : Address × Nat :=
  (route.network, route.length)

/-- Routers that a link of an LSA leads to, with the cost. -/
def OspfLsa.hops (lsa : OspfLsa Device) (link : LsaLink Device) : List (Address × Nat) :=
  match lsa.lsType, link with
  | .router, .transit linkId _ metric _ => [(linkId, metric)]
  | .router, .p2p linkId metric _ => [(linkId, metric)]
  | .network, .network _ attached _ => attached.map fun router => (router, 1)
  | _, _ => []

def OspfLsa.offer (lsa : OspfLsa Device) (link : LsaLink Device) : Option ((Address × Nat) × Nat) :=
  match lsa.lsType, link with
  | .router, .stub linkId _ metric network => some ((linkId, network.length.getD 24), metric)
  | .summary, .summary network _ metric _ =>
    some ((network.address, network.length.getD 24), metric)
  | _, _ => none

/-- One router is next to another in the database. -/
def Adjoins (lsdb : Lsdb Device) : Links Address := fun router next cost =>
  ∃ lsa ∈ lsdb.values, lsa.advRouter = router ∧ ∃ link ∈ lsa.links, (next, cost) ∈ lsa.hops link

def Offers (lsdb : Lsdb Device) (router : Address) (destination : Address × Nat) (metric : Nat) :
    Prop :=
  ∃ lsa ∈ lsdb.values, lsa.advRouter = router ∧
    ∃ link ∈ lsa.links, lsa.offer link = some (destination, metric)

/-- Some path from the source reaches a router that offers the destination. The first hop
is the first router behind the source, or the source when it offers the destination
itself. -/
def Leads (lsdb : Lsdb Device) (source : Address) (destination : Address × Nat) (hop : Address)
    (total : Nat) : Prop :=
  ∃ behind router cost metric, SimplePath (Adjoins lsdb) source behind router cost ∧
    Offers lsdb router destination metric ∧ hop = behind.head?.getD source ∧
    total = cost + metric

/-- Routes are the least-cost ones: one for each destination that some path leads to. -/
structure ShortestRoutes (lsdb : Lsdb Device) (source : Address)
    (routes : List (OspfRoute Device)) : Prop where
  once : (routes.map OspfRoute.destination).Nodup
  offered : ∀ destination, destination ∈ routes.map OspfRoute.destination ↔
    ∃ hop total, Leads lsdb source destination hop total
  shortest : ∀ route ∈ routes, (∃ hop, route.nextHop = .router hop ∧
      Leads lsdb source route.destination hop route.metric) ∧
    ∀ hop total, Leads lsdb source route.destination hop total → route.metric ≤ total

/-! ## Invariant of the search -/

variable {lsdb : Lsdb Device} {myRid : Address} {area : AreaId}

/-- A candidate has come along a simple path whose routers before the last are visited. -/
def Arrives (lsdb : Lsdb Device) (myRid : Address) (visited : List Address)
    (candidate : Candidate) : Prop :=
  ∃ behind, SimplePath (Adjoins lsdb) myRid behind candidate.router candidate.cost ∧
    candidate.nextHop = behind.head? ∧ ∀ router ∈ behind.dropLast, router ∈ visited

/-- A visited router as it was taken from the queue. -/
structure Reached (lsdb : Lsdb Device) (myRid : Address) (state : SpfState Device)
    (candidate : Candidate) : Prop where
  visited : candidate.router ∈ state.visited
  cost : state.dist.lookup candidate.router = some candidate.cost
  arrives : Arrives lsdb myRid state.visited candidate

/-- What holds of the tables between two steps. -/
structure Searching (lsdb : Lsdb Device) (myRid : Address) (state : SpfState Device) : Prop where
  start : state.dist.lookup myRid = some 0
  rooted : myRid ∈ state.visited ∨ ∀ candidate ∈ state.queue, candidate.router = myRid
  arrive : ∀ candidate ∈ state.queue, Arrives lsdb myRid state.visited candidate
  bounded : ∀ candidate ∈ state.queue,
    ∃ cost ≤ candidate.cost, state.dist.lookup candidate.router = some cost
  pending : ∀ router cost, state.dist.lookup router = some cost → router ∈ state.visited ∨
    ∃ candidate ∈ state.queue, candidate.router = router ∧ candidate.cost = cost
  reached : ∀ router ∈ state.visited,
    ∃ candidate, candidate.router = router ∧ Reached lsdb myRid state candidate
  ordered : ∀ router ∈ state.visited, ∀ cost, state.dist.lookup router = some cost →
    ∀ candidate ∈ state.queue, cost ≤ candidate.cost
  routes : ∀ route ∈ state.routes, ∃ candidate metric, Reached lsdb myRid state candidate ∧
    Offers lsdb candidate.router route.destination metric ∧
    route.metric = candidate.cost + metric ∧
    route.nextHop = .router (candidate.nextHop.getD candidate.router)

/-- The router being expanded is the last of the visited ones in order of cost. -/
structure Current (lsdb : Lsdb Device) (myRid : Address) (state : SpfState Device)
    (current : Candidate) : Prop where
  reached : Reached lsdb myRid state current
  rooted : myRid ∈ state.visited
  greatest : ∀ router ∈ state.visited, ∀ cost, state.dist.lookup router = some cost →
    cost ≤ current.cost

def Relaxed (state : SpfState Device) (router : Address) (cost : Nat) : Prop :=
  ∃ found ≤ cost, state.dist.lookup router = some found

/-- A link of an LSA has been processed for a router at a cost. -/
structure Scanned (state : SpfState Device) (cost : Nat) (lsa : OspfLsa Device)
    (link : LsaLink Device) : Prop where
  hops : ∀ hop ∈ lsa.hops link, Relaxed state hop.1 (cost + hop.2)
  offer : ∀ destination metric, lsa.offer link = some (destination, metric) →
    ∃ route ∈ state.routes, route.destination = destination ∧ route.metric = cost + metric

/-- A router has offered its neighbours and its networks. -/
def Expanded (lsdb : Lsdb Device) (state : SpfState Device) (router : Address) : Prop :=
  ∃ cost, state.dist.lookup router = some cost ∧ ∀ lsa ∈ lsdb.values, lsa.advRouter = router →
    ∀ link ∈ lsa.links, Scanned state cost lsa link

/-- One state has grown out of another while a router was being expanded: nothing has
become farther, and visited routers have kept their cost. -/
structure Grown (before after : SpfState Device) : Prop where
  visited : after.visited = before.visited
  nearer : ∀ router cost, before.dist.lookup router = some cost → Relaxed after router cost
  kept : ∀ router ∈ before.visited, after.dist.lookup router = before.dist.lookup router
  routes : ∀ route ∈ before.routes, route ∈ after.routes

namespace Grown

theorem refl (state : SpfState Device) : Grown state state :=
  ⟨rfl, fun _ cost held => ⟨cost, le_rfl, held⟩, fun _ _ => rfl, fun _ member => member⟩

theorem trans {first second third : SpfState Device} (front : Grown first second)
    (back : Grown second third) : Grown first third where
  visited := back.visited.trans front.visited
  nearer := by
    intro router cost held
    obtain ⟨middle, short, found⟩ := front.nearer router cost held
    obtain ⟨final, shorter, stored⟩ := back.nearer router middle found
    exact ⟨final, shorter.trans short, stored⟩
  kept := fun router member =>
    (back.kept router (front.visited ▸ member)).trans (front.kept router member)
  routes := fun route member => back.routes route (front.routes route member)

variable {before after : SpfState Device}

section

variable (grown : Grown before after)
include grown

theorem relaxed {cost : Nat} (done : Relaxed before router cost) : Relaxed after router cost := by
  obtain ⟨found, short, held⟩ := done
  obtain ⟨final, shorter, stored⟩ := grown.nearer router found held
  exact ⟨final, shorter.trans short, stored⟩

theorem scanned {cost : Nat} {lsa : OspfLsa Device} {link : LsaLink Device}
    (done : Scanned before cost lsa link) : Scanned after cost lsa link where
  hops := fun hop member => grown.relaxed (done.hops hop member)
  offer := by
    intro destination metric offered
    obtain ⟨route, member, found⟩ := done.offer destination metric offered
    exact ⟨route, grown.routes route member, found⟩

theorem reached {candidate : Candidate} (done : Reached lsdb myRid before candidate) :
    Reached lsdb myRid after candidate where
  visited := grown.visited ▸ done.visited
  cost := (grown.kept _ done.visited).trans done.cost
  arrives := grown.visited ▸ done.arrives

theorem expanded (visited : router ∈ before.visited) (done : Expanded lsdb before router) :
    Expanded lsdb after router := by
  obtain ⟨cost, held, scanned⟩ := done
  exact ⟨cost, (grown.kept router visited).trans held, fun lsa stored advertised link member =>
    grown.scanned (scanned lsa stored advertised link member)⟩

theorem current {current : Candidate} (expanding : Current lsdb myRid before current) :
    Current lsdb myRid after current where
  reached := grown.reached expanding.reached
  rooted := grown.visited ▸ expanding.rooted
  greatest := by
    intro router member cost held
    rw [grown.visited] at member
    rw [grown.kept router member] at held
    exact expanding.greatest router member cost held

end

end Grown

/-! ## One link -/

section Scan

variable {state : SpfState Device} {current : Candidate}

theorem Current.arrives (expanding : Current lsdb myRid state current) {cost : Nat}
    (adjoins : Adjoins lsdb current.router router cost) (new : router ∉ state.visited)
    (via : Option Address) :
    Arrives lsdb myRid state.visited
      { cost := current.cost + cost
        router
        via
        nextHop := inheritHop current.nextHop router } := by
  obtain ⟨behind, path, hop, passed⟩ := expanding.reached.arrives
  have inside : ∀ other ∈ behind, other ∈ state.visited := by
    intro other member
    rcases path.mem_behind member with rfl | before
    · exact expanding.reached.visited
    · exact passed other before
  refine ⟨behind ++ [router], path.step adjoins ?_, ?_, ?_⟩
  · rw [mem_cons, not_or]
    exact ⟨fun same => new (same ▸ expanding.rooted), fun member => new (inside router member)⟩
  · rw [hop]
    cases behind <;> rfl
  · rw [dropLast_concat]
    exact inside

def enqueue (state : SpfState Device) (candidate : Candidate) : SpfState Device :=
  { state with
    dist := state.dist.insert candidate.router candidate.cost
    queue := state.queue ++ [candidate] }

theorem Grown.enqueue {candidate : Candidate} (new : candidate.router ∉ state.visited)
    (shorter : ∀ found, state.dist.lookup candidate.router = some found → candidate.cost < found) :
    Grown state (enqueue state candidate) where
  visited := rfl
  nearer := by
    intro router found held
    change ∃ cost ≤ found, (state.dist.insert _ _).lookup router = some cost
    rw [lookup_insert]
    split
    case isTrue same =>
        subst same
        exact ⟨_, (shorter found held).le, rfl⟩
    case isFalse => exact ⟨found, le_rfl, held⟩
  kept := by
    intro router member
    have apart : router ≠ candidate.router := fun same => new (same ▸ member)
    exact lookup_insert_of_ne _ _ apart
  routes := fun _ member => member

theorem Searching.enqueue (searching : Searching lsdb myRid state)
    (expanding : Current lsdb myRid state current) {candidate : Candidate}
    (arrives : Arrives lsdb myRid state.visited candidate) (far : current.cost ≤ candidate.cost)
    (new : candidate.router ∉ state.visited)
    (shorter : ∀ found, state.dist.lookup candidate.router = some found → candidate.cost < found) :
    Searching lsdb myRid (enqueue state candidate) := by
  have grown : Grown state (Ospf.enqueue state candidate) := .enqueue new shorter
  have queued : ∀ other ∈ (Ospf.enqueue state candidate).queue,
      other ∈ state.queue ∨ other = candidate := by
    intro other member
    exact (mem_append.mp member).imp_right mem_singleton.mp
  constructor
  case start => exact (grown.kept myRid expanding.rooted).trans searching.start
  case rooted => exact .inl expanding.rooted
  case arrive =>
      intro other member
      rcases queued other member with old | rfl
      · exact searching.arrive other old
      · exact arrives
  case bounded =>
      intro other member
      rcases queued other member with old | rfl
      · obtain ⟨cost, bound, held⟩ := searching.bounded other old
        obtain ⟨found, short, stored⟩ := grown.nearer other.router cost held
        exact ⟨found, short.trans bound, stored⟩
      · exact ⟨_, le_rfl, lookup_insert_self _ _ _⟩
  case pending =>
      intro router cost held
      change (state.dist.insert _ _).lookup router = some cost at held
      rw [lookup_insert] at held
      split at held
      case isTrue same =>
          cases held
          exact .inr ⟨candidate, mem_append_right _ mem_cons_self, same.symm, rfl⟩
      case isFalse =>
          refine (searching.pending router cost held).imp_right ?_
          rintro ⟨other, member, found⟩
          exact ⟨other, mem_append_left _ member, found⟩
  case reached =>
      intro router member
      obtain ⟨other, same, reached⟩ := searching.reached router member
      exact ⟨other, same, grown.reached reached⟩
  case ordered =>
      intro router member cost held other isQueued
      rw [grown.kept router member] at held
      rcases queued other isQueued with old | rfl
      · exact searching.ordered router member cost held other old
      · exact (expanding.greatest router member cost held).trans far
  case routes =>
      intro route member
      obtain ⟨other, metric, reached, found⟩ := searching.routes route member
      exact ⟨other, metric, grown.reached reached, found⟩

/-- What a scan keeps while a router is being expanded, compared with the state before. -/
structure Scanning (lsdb : Lsdb Device) (myRid : Address) (current : Candidate)
    (before state : SpfState Device) : Prop where
  searching : Searching lsdb myRid state
  current : Current lsdb myRid state current
  grown : Grown before state

variable {before : SpfState Device}

section

variable (scanning : Scanning lsdb myRid current before state)
include scanning

/-- Offering a router next to the one being expanded. -/
theorem Scanning.relax {cost : Nat} (adjoins : Adjoins lsdb current.router router cost) :
    Scanning lsdb myRid current before (state.relax current router (current.cost + cost)) ∧
      Grown state (state.relax current router (current.cost + cost)) ∧
      Relaxed (state.relax current router (current.cost + cost)) router (current.cost + cost) := by
  obtain ⟨searching, expanding, grown⟩ := scanning
  unfold SpfState.relax
  split
  case isTrue visited =>
      obtain ⟨candidate, rfl, reached⟩ := searching.reached router visited
      have near := expanding.greatest _ visited _ reached.cost
      exact ⟨⟨searching, expanding, grown⟩, .refl state, candidate.cost, by omega, reached.cost⟩
  case isFalse new =>
      dsimp only
      split
      case isFalse known =>
          refine ⟨⟨searching, expanding, grown⟩, .refl state, ?_⟩
          cases held : state.dist.lookup router with
          | none => simp [held] at known
          | some found =>
            rw [held] at known
            exact ⟨found, by simpa using known, held⟩
      case isTrue improves =>
          have shorter : ∀ found, state.dist.lookup router = some found →
              current.cost + cost < found := by
            intro found held
            simpa [held] using improves
          have more : Grown state (enqueue state
              { cost := current.cost + cost
                router
                via := inheritHop current.via router
                nextHop := inheritHop current.nextHop router }) := .enqueue new shorter
          have found := searching.enqueue expanding
            (expanding.arrives adjoins new (inheritHop current.via router))
            (Nat.le_add_right _ _) new shorter
          exact ⟨⟨found, more.current expanding, grown.trans more⟩, more,
            _, le_rfl, lookup_insert_self _ _ _⟩

theorem Scanning.addRoute {route : OspfRoute Device} {metric : Nat}
    (offers : Offers lsdb current.router route.destination metric)
    (total : route.metric = current.cost + metric)
    (hop : route.nextHop = .router (current.nextHop.getD current.router)) :
    Scanning lsdb myRid current before (state.addRoute route) ∧
      Grown state (state.addRoute route) := by
  obtain ⟨searching, expanding, grown⟩ := scanning
  have more : Grown state (state.addRoute route) :=
    ⟨rfl, (Grown.refl state).nearer, fun _ _ => rfl, fun _ member => mem_append_left _ member⟩
  refine ⟨⟨⟨searching.start, searching.rooted, searching.arrive, searching.bounded,
    searching.pending, ?_, searching.ordered, ?_⟩, more.current expanding, grown.trans more⟩, more⟩
  · intro router member
    obtain ⟨other, same, reached⟩ := searching.reached router member
    exact ⟨other, same, more.reached reached⟩
  · intro other member
    rcases mem_append.mp member with old | new
    · obtain ⟨candidate, advertised, reached, found⟩ := searching.routes other old
      exact ⟨candidate, advertised, more.reached reached, found⟩
    · rw [mem_singleton.mp new]
      exact ⟨current, metric, more.reached expanding.reached, offers, total, hop⟩

/-- Offer a router attached to a network, unless it is the root. -/
def relaxAttached (myRid : Address) (current : Candidate) (state : SpfState Device)
    (router : Address) : SpfState Device :=
  if router = myRid then state else state.relax current router (current.cost + 1)

theorem Scanning.relaxAttached (adjoins : Adjoins lsdb current.router router 1) :
    Scanning lsdb myRid current before (relaxAttached myRid current state router) ∧
      Grown state (relaxAttached myRid current state router) ∧
      Relaxed (relaxAttached myRid current state router) router (current.cost + 1) := by
  unfold Ospf.relaxAttached
  split
  case isTrue isRoot =>
      rw [isRoot]
      exact ⟨scanning, .refl state, 0, Nat.zero_le _, scanning.searching.start⟩
  case isFalse => exact scanning.relax adjoins

/-- Offering all of them. -/
theorem Scanning.relaxAll {attached : List Address}
    (adjoins : ∀ router ∈ attached, Adjoins lsdb current.router router 1) :
    (Scanning lsdb myRid current before (attached.foldl (Ospf.relaxAttached myRid current) state) ∧
      Grown state (attached.foldl (Ospf.relaxAttached myRid current) state)) ∧
      ∀ router ∈ attached, Relaxed (attached.foldl (Ospf.relaxAttached myRid current) state)
        router (current.cost + 1) := by
  refine foldl_done (fun now => Scanning lsdb myRid current before now ∧ Grown state now)
    (fun now router => Relaxed now router (current.cost + 1)) ?_ ?_ ?_ ⟨scanning, .refl state⟩
  · rintro now router member ⟨good, grown⟩
    obtain ⟨kept, more, -⟩ := good.relaxAttached (adjoins router member)
    exact ⟨kept, grown.trans more⟩
  · rintro now router member ⟨good, -⟩
    exact (good.relaxAttached (adjoins router member)).2.2
  · rintro now router other member ⟨good, -⟩ done
    exact (good.relaxAttached (adjoins router member)).2.1.relaxed done

section

variable {lsa : OspfLsa Device} (stored : lsa ∈ lsdb.values)
  (advertised : lsa.advRouter = current.router)
include stored advertised

/-- A link has been processed when its neighbours and its network have been offered. -/
theorem Scanning.scanLink {link : LsaLink Device} (member : link ∈ lsa.links) :
    Scanning lsdb myRid current before (SpfState.scanLink myRid area current lsa state link) ∧
      Grown state (SpfState.scanLink myRid area current lsa state link) ∧
      Scanned (SpfState.scanLink myRid area current lsa state link) current.cost lsa link := by
  have adjoins : ∀ hop ∈ lsa.hops link, Adjoins lsdb current.router hop.1 hop.2 :=
    fun hop leads => ⟨lsa, stored, advertised, link, member, leads⟩
  have offers : ∀ destination metric, lsa.offer link = some (destination, metric) →
      Offers lsdb current.router destination metric :=
    fun destination metric offered => ⟨lsa, stored, advertised, link, member, offered⟩
  -- a link that offers a network leads to no router
  have adds : ∀ route : OspfRoute Device, ∀ metric, lsa.hops link = [] →
      lsa.offer link = some (route.destination, metric) → route.metric = current.cost + metric →
      route.nextHop = .router (current.nextHop.getD current.router) →
      Scanning lsdb myRid current before (state.addRoute route) ∧
        Grown state (state.addRoute route) ∧
        Scanned (state.addRoute route) current.cost lsa link := by
    intro route metric noHops offered total hop
    obtain ⟨kept, more⟩ := scanning.addRoute (offers _ _ offered) total hop
    refine ⟨kept, more, fun hop leads => ?_, fun destination advertised isOffered => ?_⟩
    · rw [noHops] at leads
      cases leads
    · rw [offered] at isOffered
      cases isOffered
      exact ⟨route, mem_append_right _ mem_cons_self, rfl, total⟩
  -- and the other way round
  have leads : ∀ router cost, lsa.hops link = [(router, cost)] → lsa.offer link = none →
      Scanning lsdb myRid current before (state.relax current router (current.cost + cost)) ∧
        Grown state (state.relax current router (current.cost + cost)) ∧
        Scanned (state.relax current router (current.cost + cost)) current.cost lsa link := by
    intro router cost hops noOffer
    obtain ⟨kept, more, done⟩ := scanning.relax (adjoins (router, cost) (by simp [hops]))
    refine ⟨kept, more, fun hop leads => ?_, fun destination metric offered => ?_⟩
    · rw [hops, mem_singleton] at leads
      rw [leads]
      exact done
    · rw [noOffer] at offered
      cases offered
  unfold SpfState.scanLink
  split
  case h_1 isRouter =>
      exact adds _ _ (by simp [hops, isRouter])
        (by simp [offer, isRouter, OspfRoute.destination]) rfl rfl
  case h_2 isRouter =>
      exact leads _ _ (by simp [hops, isRouter]) (by simp [offer, isRouter])
  case h_3 isRouter =>
      exact leads _ _ (by simp [hops, isRouter]) (by simp [offer, isRouter])
  case h_4 attached _ isNetwork =>
      have hops : ∀ mask dr, lsa.hops (.network mask attached dr) =
          attached.map fun router => (router, 1) := by simp [hops, isNetwork]
      rw [hops] at adjoins
      obtain ⟨⟨kept, more⟩, done⟩ := scanning.relaxAll fun router inside =>
        adjoins (router, 1) (mem_map.mpr ⟨router, inside, rfl⟩)
      refine ⟨kept, more, fun hop leads => ?_, fun destination metric offered => ?_⟩
      · rw [hops] at leads
        obtain ⟨router, inside, rfl⟩ := mem_map.mp leads
        exact done router inside
      · simp [offer, isNetwork] at offered
  case h_5 network _ metric areaId isSummary =>
      refine adds _ metric (by simp [hops, isSummary])
        (by simp [offer, isSummary, OspfRoute.destination]) rfl ?_
      rw [advertised]
  case h_6 =>
      refine ⟨scanning, .refl state, fun hop leads => ?_, fun destination metric offered => ?_⟩
      · unfold hops at leads
        grind
      · unfold offer at offered
        grind

theorem Scanning.scanLinks :
    (Scanning lsdb myRid current before
        (lsa.links.foldl (SpfState.scanLink myRid area current lsa) state) ∧
      Grown state (lsa.links.foldl (SpfState.scanLink myRid area current lsa) state)) ∧
      ∀ link ∈ lsa.links, Scanned
        (lsa.links.foldl (SpfState.scanLink myRid area current lsa) state) current.cost lsa link := by
  refine foldl_done (fun now => Scanning lsdb myRid current before now ∧ Grown state now)
    (fun now link => Scanned now current.cost lsa link) ?_ ?_ ?_ ⟨scanning, .refl state⟩
  · rintro now link member ⟨good, grown⟩
    exact ⟨(good.scanLink stored advertised member).1,
      grown.trans (good.scanLink stored advertised member).2.1⟩
  · rintro now link member ⟨good, -⟩
    exact (good.scanLink stored advertised member).2.2
  · rintro now link other member ⟨good, -⟩ done
    exact (good.scanLink stored advertised member).2.1.scanned done

end

end

theorem Searching.expand (searching : Searching lsdb myRid state) (area : AreaId)
    (expanding : Current lsdb myRid state current) :
    Searching lsdb myRid (SpfState.expand myRid area lsdb state current) ∧
      Grown state (SpfState.expand myRid area lsdb state current) ∧
      Expanded lsdb (SpfState.expand myRid area lsdb state current) current.router := by
  have pass : Scanning lsdb myRid current state (SpfState.expand myRid area lsdb state current) ∧
      ∀ lsa ∈ lsdb.values, lsa.advRouter = current.router → ∀ link ∈ lsa.links,
        Scanned (SpfState.expand myRid area lsdb state current) current.cost lsa link := by
    refine foldl_done (Scanning lsdb myRid current state)
      (fun now lsa => lsa.advRouter = current.router → ∀ link ∈ lsa.links,
        Scanned now current.cost lsa link) ?_ ?_ ?_ ⟨searching, expanding, .refl state⟩
    · intro now lsa stored good
      split
      case isTrue advertised => exact (good.scanLinks stored advertised).1.1
      case isFalse => exact good
    · intro now lsa stored good advertised
      rw [if_pos advertised]
      exact (good.scanLinks stored advertised).2
    · intro now lsa other stored good done own link member
      split
      case isTrue advertised =>
          exact (good.scanLinks stored advertised).1.2.scanned (done own link member)
      case isFalse => exact done own link member
  obtain ⟨kept, done⟩ := pass
  exact ⟨kept.searching, kept.grown, current.cost, kept.current.reached.cost, done⟩

end Scan

/-! ## Taking the next candidate -/

section Take

variable {state : SpfState Device} {current : Candidate} {queue : List Candidate}

theorem mem_queue_of_sorted
    (order : state.queue.insertionSort (fun left right => left.cost ≤ right.cost) =
      current :: queue) :
    (∀ candidate, candidate ∈ state.queue ↔ candidate = current ∨ candidate ∈ queue) ∧
      ∀ candidate ∈ queue, current.cost ≤ candidate.cost := by
  have sorted := state.queue.pairwise_insertionSort fun left right : Candidate =>
    left.cost ≤ right.cost
  rw [order] at sorted
  refine ⟨fun candidate => ?_, (pairwise_cons.mp sorted).1⟩
  rw [← mem_insertionSort fun left right : Candidate => left.cost ≤ right.cost, order, mem_cons]

section

variable (searching : Searching lsdb myRid state)
  (taken : ∀ candidate, candidate ∈ state.queue ↔ candidate = current ∨ candidate ∈ queue)
include searching taken

theorem Searching.skip (visited : current.router ∈ state.visited) :
    Searching lsdb myRid { state with queue } where
  start := searching.start
  rooted := searching.rooted.imp_right fun roots candidate member =>
    roots candidate ((taken candidate).mpr (.inr member))
  arrive := fun candidate member => searching.arrive candidate ((taken candidate).mpr (.inr member))
  bounded := fun candidate member =>
    searching.bounded candidate ((taken candidate).mpr (.inr member))
  pending := by
    intro router cost held
    rcases searching.pending router cost held with done | ⟨candidate, member, same, found⟩
    · exact .inl done
    · rcases (taken candidate).mp member with rfl | rest
      · exact .inl (same ▸ visited)
      · exact .inr ⟨candidate, rest, same, found⟩
  reached := by
    intro router member
    obtain ⟨candidate, same, reached⟩ := searching.reached router member
    exact ⟨candidate, same, reached.visited, reached.cost, reached.arrives⟩
  ordered := fun router member cost held candidate rest =>
    searching.ordered router member cost held candidate ((taken candidate).mpr (.inr rest))
  routes := by
    intro route member
    obtain ⟨candidate, metric, reached, found⟩ := searching.routes route member
    exact ⟨candidate, metric, ⟨reached.visited, reached.cost, reached.arrives⟩, found⟩

/-- The cheapest candidate for a new router holds its distance, and the router is
visited. -/
theorem Searching.visit (cheapest : ∀ candidate ∈ queue, current.cost ≤ candidate.cost)
    (new : current.router ∉ state.visited) :
    Searching lsdb myRid { state with
          queue
          visited := current.router :: state.visited } ∧
      Current lsdb myRid { state with
          queue
          visited := current.router :: state.visited } current := by
  have front : current ∈ state.queue := (taken current).mpr (.inl rfl)
  have behind : ∀ candidate ∈ queue, candidate ∈ state.queue := fun candidate member =>
    (taken candidate).mpr (.inr member)
  have more : ∀ candidate, Arrives lsdb myRid state.visited candidate →
      Arrives lsdb myRid (current.router :: state.visited) candidate := by
    rintro candidate ⟨path, simple, hop, passed⟩
    exact ⟨path, simple, hop, fun router member => mem_cons_of_mem _ (passed router member)⟩
  have still : ∀ candidate, Reached lsdb myRid state candidate → Reached lsdb myRid { state with
          queue
          visited := current.router :: state.visited } candidate :=
    fun candidate reached =>
      ⟨mem_cons_of_mem _ reached.visited, reached.cost, more candidate reached.arrives⟩
  -- the last cost entered for the router is the cheapest one queued
  have distance : state.dist.lookup current.router = some current.cost := by
    obtain ⟨cost, bound, held⟩ := searching.bounded current front
    rcases searching.pending _ _ held with visited | ⟨candidate, member, same, found⟩
    · exact absurd visited new
    · have least : current.cost ≤ candidate.cost := by
        rcases (taken candidate).mp member with rfl | rest
        · exact le_rfl
        · exact cheapest candidate rest
      rw [held]
      congr 1
      omega
  have here : Reached lsdb myRid { state with
        queue
        visited := current.router :: state.visited } current :=
    ⟨mem_cons_self, distance, more current (searching.arrive current front)⟩
  have rooted : myRid ∈ current.router :: state.visited := by
    rcases searching.rooted with visited | roots
    · exact mem_cons_of_mem _ visited
    · exact roots current front ▸ mem_cons_self
  refine ⟨⟨searching.start, .inl rooted, fun candidate member =>
    more candidate (searching.arrive candidate (behind candidate member)),
    fun candidate member => searching.bounded candidate (behind candidate member), ?_, ?_, ?_, ?_⟩,
    here, rooted, ?_⟩
  · intro router cost held
    rcases searching.pending router cost held with visited | ⟨candidate, member, same, found⟩
    · exact .inl (mem_cons_of_mem _ visited)
    · rcases (taken candidate).mp member with rfl | rest
      · exact .inl (same ▸ mem_cons_self)
      · exact .inr ⟨candidate, rest, same, found⟩
  · intro router member
    rcases mem_cons.mp member with rfl | old
    · exact ⟨current, rfl, here⟩
    · obtain ⟨candidate, same, reached⟩ := searching.reached router old
      exact ⟨candidate, same, still candidate reached⟩
  · intro router member cost held candidate rest
    rcases mem_cons.mp member with rfl | old
    · cases distance.symm.trans held
      exact cheapest candidate rest
    · exact searching.ordered router old cost held candidate (behind candidate rest)
  · intro route member
    obtain ⟨candidate, metric, reached, found⟩ := searching.routes route member
    exact ⟨candidate, metric, still candidate reached, found⟩
  · intro router member cost held
    rcases mem_cons.mp member with rfl | old
    · cases distance.symm.trans held
      exact le_rfl
    · exact searching.ordered router old cost held current front

end

end Take

/-! ## Termination -/

/-- The most candidates that the LSA can put in the queue. -/
def OspfLsa.weight (lsa : OspfLsa Device) : Nat :=
  (lsa.links.map fun link => link.targets.length).sum

/-- The most rounds that are left: one for each candidate queued, and for each that a
router not yet visited can queue. -/
def SpfState.potential (lsdb : Lsdb Device) (state : SpfState Device) : Nat :=
  state.queue.length +
    (lsdb.values.map fun lsa => if lsa.advRouter ∈ state.visited then 0 else lsa.weight).sum

section Potential

variable {state : SpfState Device} {current : Candidate}

theorem length_queue_relax (state : SpfState Device) (current : Candidate) (router : Address)
    (cost : Nat) : (state.relax current router cost).queue.length ≤ state.queue.length + 1 := by
  unfold SpfState.relax
  split
  · exact Nat.le_succ _
  · dsimp only
    split
    · simp
    · exact Nat.le_succ _

theorem length_queue_scanLink (state : SpfState Device) (current : Candidate)
    (lsa : OspfLsa Device) (link : LsaLink Device) :
    (SpfState.scanLink myRid area current lsa state link).queue.length ≤
      state.queue.length + link.targets.length := by
  unfold SpfState.scanLink
  split
  · exact Nat.le_add_right _ _
  · exact length_queue_relax ..
  · exact length_queue_relax ..
  · rename_i attached _ _
    have adds : ∀ (now : SpfState Device) router,
        (relaxAttached myRid current now router).queue.length ≤ now.queue.length + 1 := by
      intro now router
      unfold relaxAttached
      split
      · exact Nat.le_succ _
      · exact length_queue_relax ..
    have each := foldl_measure_le (fun now : SpfState Device => now.queue.length) (fun _ => 1)
      adds attached state
    have total : (attached.map fun _ => 1).sum = attached.length := by simp
    rw [total] at each
    exact each
  · exact Nat.le_add_right _ _
  · exact Nat.le_add_right _ _

theorem length_queue_expand (lsdb : Lsdb Device) (myRid : Address) (area : AreaId)
    (state : SpfState Device) (current : Candidate) :
    (SpfState.expand myRid area lsdb state current).queue.length ≤ state.queue.length +
      (lsdb.values.map fun lsa => if lsa.advRouter = current.router then lsa.weight else 0).sum := by
  refine foldl_measure_le (fun now : SpfState Device => now.queue.length) _ ?_ lsdb.values state
  intro now lsa
  split
  · exact foldl_measure_le (fun now : SpfState Device => now.queue.length)
      (fun link : LsaLink Device => link.targets.length)
      (fun now link => length_queue_scanLink now current lsa link) lsa.links now
  · exact Nat.le_refl _

theorem weight_visit (lsas : List (OspfLsa Device)) {visited : List Address}
    (new : router ∉ visited) :
    (lsas.map fun lsa => if lsa.advRouter ∈ router :: visited then 0 else lsa.weight).sum +
        (lsas.map fun lsa => if lsa.advRouter = router then lsa.weight else 0).sum =
      (lsas.map fun lsa => if lsa.advRouter ∈ visited then 0 else lsa.weight).sum := by
  rw [← sum_map_add]
  refine congrArg List.sum (map_congr_left fun lsa _ => ?_)
  by_cases own : lsa.advRouter = router
  · simp [own, new]
  · simp [own]

end Potential

/-! ## The loop -/

/-- What holds between two rounds. -/
structure Between (lsdb : Lsdb Device) (myRid : Address) (state : SpfState Device) : Prop where
  searching : Searching lsdb myRid state
  expanded : ∀ router ∈ state.visited, Expanded lsdb state router

theorem Expanded.requeue {state : SpfState Device} (done : Expanded lsdb state router)
    (queue : List Candidate) (visited : List Address) :
    Expanded lsdb { state with
        queue
        visited } router := by
  obtain ⟨cost, held, scanned⟩ := done
  exact ⟨cost, held, fun lsa stored advertised link member =>
    ⟨(scanned lsa stored advertised link member).hops,
      (scanned lsa stored advertised link member).offer⟩⟩

theorem Between.loop (area : AreaId) (fuel : Nat) {state : SpfState Device} (between : Between lsdb myRid state)
    (enough : state.potential lsdb ≤ fuel) :
    Between lsdb myRid (spfLoop myRid area lsdb fuel state) ∧
      (spfLoop myRid area lsdb fuel state).queue = [] := by
  induction fuel generalizing state with
  | zero =>
    refine ⟨between, eq_nil_of_length_eq_zero ?_⟩
    unfold SpfState.potential at enough
    change state.queue.length = 0
    omega
  | succ fuel ih =>
    unfold spfLoop
    split
    case h_1 order =>
        have length := congrArg List.length order
        rw [length_insertionSort] at length
        exact ⟨between, eq_nil_of_length_eq_zero length⟩
    case h_2 current queue order =>
        obtain ⟨taken, cheapest⟩ := mem_queue_of_sorted order
        have length : state.queue.length = queue.length + 1 := by
          have length := congrArg List.length order
          rwa [length_insertionSort] at length
        unfold SpfState.potential at enough
        split
        case isTrue visited =>
            refine ih ⟨between.searching.skip taken visited, fun router member =>
              (between.expanded router member).requeue queue _⟩ ?_
            unfold SpfState.potential
            dsimp only
            omega
        case isFalse new =>
            obtain ⟨searching, expanding⟩ := between.searching.visit taken cheapest new
            obtain ⟨kept, grown, done⟩ := searching.expand area expanding
            refine ih ⟨kept, fun router member => ?_⟩ ?_
            · rw [grown.visited] at member
              rcases mem_cons.mp member with rfl | old
              · exact done
              · exact grown.expanded (mem_cons_of_mem _ old)
                  ((between.expanded router old).requeue queue _)
            · have bound := length_queue_expand lsdb myRid area { state with
                  queue
                  visited := current.router :: state.visited } current
              have used := weight_visit lsdb.values new
              unfold SpfState.potential
              rw [grown.visited]
              dsimp only at bound ⊢
              omega

/-- The loop begins with the root as its only candidate, and has fuel enough. -/
theorem between_start (lsdb : Lsdb Device) (myRid : Address) : Between lsdb myRid
        { dist := OrderedMap.empty.insert myRid 0
          visited := []
          queue := [{ cost := 0, router := myRid, via := none, nextHop := none }]
          routes := [] } := by
  have root : ∀ candidate ∈ [({ cost := 0, router := myRid, via := none, nextHop := none } :
      Candidate)], candidate = { cost := 0, router := myRid, via := none, nextHop := none } :=
    fun candidate member => mem_singleton.mp member
  have held : (OrderedMap.empty.insert myRid 0 : OrderedMap Address Nat).lookup myRid = some 0 :=
    lookup_insert_self _ _ _
  refine ⟨⟨held, .inr fun candidate member => by rw [root candidate member], ?_, ?_, ?_, ?_, ?_, ?_⟩,
    fun router member => nomatch member⟩
  · intro candidate member
    rw [root candidate member]
    exact ⟨[], .here, rfl, fun router member => nomatch member⟩
  · intro candidate member
    rw [root candidate member]
    exact ⟨0, le_rfl, held⟩
  · intro router cost stored
    rw [lookup_insert, lookup_empty] at stored
    split at stored
    case isTrue same =>
        cases stored
        exact .inr ⟨_, mem_cons_self, same.symm, rfl⟩
    case isFalse => cases stored
  · exact fun router member => nomatch member
  · exact fun router member => nomatch member
  · exact fun route member => nomatch member

/-- The search ends with an empty queue. -/
theorem exists_finished (lsdb : Lsdb Device) (myRid : Address) (area : AreaId) :
    ∃ final : SpfState Device, Between lsdb myRid final ∧ final.queue = [] ∧
      spfRoutes myRid area lsdb = final.routes := by
  have enough : SpfState.potential lsdb
      { dist := OrderedMap.empty.insert myRid 0
        visited := []
        queue := [{ cost := 0, router := myRid, via := none, nextHop := none }]
        routes := [] } ≤ spfFuel lsdb := by
    have weights : (lsdb.values.map fun lsa => if lsa.advRouter ∈ ([] : List Address) then 0
        else lsa.weight) = lsdb.values.map weight :=
      map_congr_left fun lsa _ => if_neg not_mem_nil
    unfold SpfState.potential spfFuel
    rw [weights, length_singleton]
    change 1 + (lsdb.values.map weight).sum ≤ (lsdb.values.map weight).sum + 2
    omega
  obtain ⟨between, finished⟩ := (between_start lsdb myRid).loop area (spfFuel lsdb) enough
  exact ⟨_, between, finished, rfl⟩

/-- With an empty queue every path to an offer is matched by a route that is no longer. -/
theorem Between.exists_route {final : SpfState Device} (between : Between lsdb myRid final)
    (finished : final.queue = []) {destination : Address × Nat} {hop : Address} {total : Nat}
    (leads : Leads lsdb myRid destination hop total) :
    ∃ route ∈ final.routes, route.destination = destination ∧ route.metric ≤ total := by
  have visited : ∀ {router cost}, final.dist.lookup router = some cost →
      router ∈ final.visited := by
    intro router cost held
    rcases between.searching.pending router cost held with visited | ⟨candidate, queued, -⟩
    · exact visited
    · rw [finished] at queued
      cases queued
  obtain ⟨behind, router, cost, metric, path, ⟨lsa, stored, advertised, link, member, offered⟩, -,
    rfl⟩ := leads
  obtain ⟨found, short, held⟩ : ∃ found ≤ cost, final.dist.lookup router = some found := by
    refine path.exists_le (fun router cost => final.dist.lookup router = some cost)
      between.searching.start ?_
    intro middle cost next weight held adjoins
    obtain ⟨cost', held', scanned⟩ := between.expanded middle (visited held)
    cases held.symm.trans held'
    obtain ⟨lsa, stored, advertised, link, member, hops⟩ := adjoins
    exact (scanned lsa stored advertised link member).hops _ hops
  obtain ⟨cost', held', scanned⟩ := between.expanded router (visited held)
  cases held.symm.trans held'
  obtain ⟨route, inside, same, metric⟩ :=
    (scanned lsa stored advertised link member).offer destination metric offered
  exact ⟨route, inside, same, by omega⟩

theorem Searching.leads {final : SpfState Device} (searching : Searching lsdb myRid final)
    {route : OspfRoute Device} (member : route ∈ final.routes) :
    ∃ hop, route.nextHop = .router hop ∧ Leads lsdb myRid route.destination hop route.metric := by
  obtain ⟨candidate, metric, reached, offers, total, hop⟩ := searching.routes route member
  obtain ⟨behind, path, first, -⟩ := reached.arrives
  refine ⟨_, hop, behind, candidate.router, candidate.cost, metric, path, offers, ?_, total⟩
  rw [first]
  cases behind with
  | nil => exact path.eq_source
  | cons => rfl

/-! ## The routes of a node -/

theorem bestRoutes_eq (routes : List (OspfRoute Device)) :
    bestRoutes routes = leastPerKey OspfRoute.destination OspfRoute.metric routes := by
  have same : (keepCheaper : OrderedMap (Address × Nat) (OspfRoute Device) → _) =
      chooseLeast OspfRoute.destination OspfRoute.metric := by
    funext best route
    unfold keepCheaper chooseLeast OspfRoute.destination
    cases best.lookup (route.network, route.length) <;> rfl
  unfold bestRoutes leastPerKey
  rw [same]

theorem bestRoutes_shortest (lsdb : Lsdb Device) (myRid : Address) (area : AreaId) :
    ShortestRoutes lsdb myRid (bestRoutes (spfRoutes myRid area lsdb)).values := by
  obtain ⟨final, between, finished, found⟩ := exists_finished lsdb myRid area
  rw [found, bestRoutes_eq]
  have kept : ∀ route ∈ (leastPerKey OspfRoute.destination OspfRoute.metric final.routes).values,
      route ∈ final.routes := by
    intro route member
    obtain ⟨wanted, held⟩ := mem_values_iff.mp member
    exact (key_of_lookup_leastPerKey held).1
  refine ⟨?_, fun destination => ⟨fun member => ?_, ?_⟩, fun route member => ⟨?_, ?_⟩⟩
  · rw [map_values_leastPerKey]
    exact keys_nodup _
  · obtain ⟨route, chosen, rfl⟩ := mem_map.mp member
    obtain ⟨hop, -, leads⟩ := between.searching.leads (kept route chosen)
    exact ⟨hop, route.metric, leads⟩
  · rintro ⟨hop, total, leads⟩
    obtain ⟨route, inside, rfl, -⟩ := between.exists_route finished leads
    obtain ⟨chosen, member, same⟩ :=
      exists_mem_leastPerKey OspfRoute.destination OspfRoute.metric inside
    exact mem_map.mpr ⟨chosen, member, same⟩
  · exact between.searching.leads (kept route member)
  · intro hop total leads
    obtain ⟨other, inside, same, bound⟩ := between.exists_route finished leads
    exact (le_of_mem_leastPerKey member inside same).trans bound

/-- Without a distribute list and without external routes, a recalculation leaves the
least-cost routes of the node's database. -/
theorem recalcRoutes_shortest {node : OspfNode Device} {filters : DeviceFilters}
    (unfiltered : filters.distributeLists.lookup (.ospf, .inbound) = none)
    (internal : node.learnedExternal = .empty) :
    ShortestRoutes node.lsdb node.routerId (node.recalcRoutes filters).routes := by
  have passes : ∀ destination, filters.permits .ospf .inbound destination = true := by
    intro destination
    unfold DeviceFilters.permits
    rw [unfiltered]
  have all : (node.recalcRoutes filters).routes =
      (bestRoutes (spfRoutes node.routerId node.areaId node.lsdb)).values := by
    unfold OspfNode.recalcRoutes OspfNode.injectExternalRoutes DeviceFilters.filterRoutes
    dsimp only
    rw [internal]
    simp only [passes, filter_true]
    exact append_nil _
  rw [all]
  exact bestRoutes_shortest node.lsdb node.routerId node.areaId

local instance pairPriorities : NeZero 256 := ⟨by decide⟩

/-- A router with one neighbour, which offers a stub network. -/
def pairNode : OspfNode Bool where
  routerId := ⟨1, 1, 1, 1⟩
  lsdb := OrderedMap.empty.insert ⟨⟨1, 1, 1, 1⟩, .router, ⟨1, 1, 1, 1⟩⟩
    { lsType := .router
      lsId := ⟨1, 1, 1, 1⟩
      advRouter := ⟨1, 1, 1, 1⟩
      seqNum := 1
      links := [.p2p ⟨2, 2, 2, 2⟩ 10 true] } |>.insert ⟨⟨2, 2, 2, 2⟩, .router, ⟨2, 2, 2, 2⟩⟩
    { lsType := .router
      lsId := ⟨2, 2, 2, 2⟩
      advRouter := ⟨2, 2, 2, 2⟩
      seqNum := 1
      links := [.stub ⟨10, 0, 2, 0⟩ 0xffffff00 10 ⟨⟨10, 0, 2, 0⟩, some 24⟩] }

/-- The stub network is reached over the neighbour. -/
theorem pairNode_shortest :
    ShortestRoutes pairNode.lsdb pairNode.routerId (pairNode.recalcRoutes {}).routes ∧
      (pairNode.recalcRoutes {}).routes =
        [{ network := ⟨10, 0, 2, 0⟩
           length := 24
           metric := 20
           via := .router ⟨2, 2, 2, 2⟩
           nextHop := .router ⟨2, 2, 2, 2⟩
           type := .intraArea
           area := 0 }] :=
  ⟨recalcRoutes_shortest rfl rfl, by decide⟩

end NetLab.Ospf
