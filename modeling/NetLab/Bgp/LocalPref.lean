import NetLab.Bgp.BestPaths
import NetLab.Bgp.Fixpoint

/-!
# Local preference inside an AS

A route passed on inside an AS, or between the members of a confederation, is meant
to keep the local preference its sender gives it. The engine leaves the preference
out of what it advertises, so a receiver starts again from 100;
`local_pref_carried_iff` says when that makes no difference.
-/

namespace NetLab.Bgp

open NetLab.Library NetLab.Network NetLab.Execution List Option

variable {Device : Type} [DecidableEq Device]

namespace BgpNode

variable (node : BgpNode Device)

/-- The session stays inside the AS or the confederation. -/
def isInternal (session : BgpSession) : Bool :=
  !node.isEbgp session || decide (session.remoteAs ∈ node.confederationPeers)

def transitAdvert (device : Device) (session : BgpSession) (best : LocRoute Device) :
    Advert Device :=
  { destination := best.destination
    route :=
      { nextHop := device
        med := best.route.med
        asPath := node.advertisedPath session best.route.asPath
        origin := best.route.origin
        communities := best.route.communities } }

theorem transitAdverts_eq (device neighbor : Device) (session : BgpSession) :
    node.transitAdverts device neighbor session =
      (node.locRib.filter fun best => node.passesOn neighbor session best.learnedFrom).map
        (node.transitAdvert device session) := rfl

def routeMapPref (name : String) : Option Nat :=
  if name = "" then none else (node.routeMaps.lookup name).bind RouteMap.localPref

omit [DecidableEq Device] in
theorem localPref_routeMap (name : String) (route : BgpRoute Device) :
    (if name = "" then route else node.applyRouteMap name route).localPref =
      (node.routeMapPref name).getD route.localPref := by
  unfold routeMapPref applyRouteMap
  split
  · rfl
  · cases node.routeMaps.lookup name with
    | none => rfl
    | some clauses => rfl

/-- The local preference set by the inbound route map of a session end. -/
def inboundPref (session : Option BgpSession) : Option Nat :=
  session.bind fun session => node.routeMapPref session.routeMapIn

omit [DecidableEq Device] in
/-- An accepted route has the preference of the inbound route map, or 100. -/
theorem localPref_acceptAdvert {filters : DeviceFilters} {sender : Device} {ebgpHop : Bool}
    {session : Option BgpSession} {advert : Advert Device} {route : BgpRoute Device}
    (accepted : node.acceptAdvert filters sender ebgpHop session advert = some route) :
    route.localPref = (node.inboundPref session).getD 100 := by
  unfold acceptAdvert at accepted
  dsimp only at accepted
  obtain ⟨-, accepted⟩ := ite_none_left_eq_some.mp accepted
  obtain ⟨-, accepted⟩ := ite_none_left_eq_some.mp accepted
  obtain ⟨-, accepted⟩ := ite_none_left_eq_some.mp accepted
  cases session with
  | none =>
    obtain rfl := Option.some.inj accepted
    rfl
  | some session =>
    obtain rfl := Option.some.inj accepted
    rw [localPref_routeMap]
    rfl

end BgpNode

namespace BgpEngine

variable {filters : FilterEngine Device} {engine : BgpEngine Device}

/-- The route that a receiver accepts for a best path of the sender, under the policies
of the session between them. -/
def receivedFor (filters : FilterEngine Device) (engine : BgpEngine Device)
    (device neighbor : Device) (session : BgpSession) (best : LocRoute Device) :
    Option (BgpRoute Device) :=
  ((engine.node device).exportAdvert (filters device) session
    ((engine.node device).transitAdvert device session best)).bind
    ((engine.node neighbor).acceptAdvert (filters neighbor) device
      ((engine.node device).isEbgp session) (engine.session neighbor device))

/-- The local preference that a best path should have at a receiver: the sender's,
unless a route map of the session sets another. -/
def carriedPref (engine : BgpEngine Device) (device neighbor : Device) (session : BgpSession)
    (best : LocRoute Device) : Nat :=
  ((engine.node neighbor).inboundPref (engine.session neighbor device)).getD
    (((engine.node device).routeMapPref session.routeMapOut).getD best.route.localPref)

/-- Every best path that a speaker passes on inside its AS or confederation, and that is
accepted, is held there with the preference carried over. -/
def LocalPrefCarried (filters : FilterEngine Device) (engine : BgpEngine Device) : Prop :=
  ∀ device neighbor session, engine.Delivers device neighbor session →
    (engine.node device).isInternal session = true →
    ∀ best ∈ (engine.node device).locRib,
      (engine.node device).passesOn neighbor session best.learnedFrom = true →
      (engine.receivedFor filters device neighbor session best).isSome = true →
      ∃ held, (engine.node neighbor).ribIn.lookup (device, best.destination) = some held ∧
        held.localPref = engine.carriedPref device neighbor session best

/-- Every such best path has preference 100 when it leaves its sender, or a preference
set by the inbound route map of the session. -/
def PrefsDefault (filters : FilterEngine Device) (engine : BgpEngine Device) : Prop :=
  ∀ device neighbor session, engine.Delivers device neighbor session →
    (engine.node device).isInternal session = true →
    ∀ best ∈ (engine.node device).locRib,
      (engine.node device).passesOn neighbor session best.learnedFrom = true →
      (engine.receivedFor filters device neighbor session best).isSome = true →
      ((engine.node neighbor).inboundPref (engine.session neighbor device)).isSome = true ∨
        ((engine.node device).routeMapPref session.routeMapOut).getD best.route.localPref = 100

theorem wantedFrom_of_best (fits : engine.Fits) {device neighbor : Device} {session : BgpSession}
    (enabled : engine.isEnabled device = true) {best : LocRoute Device}
    (member : best ∈ (engine.node device).locRib)
    (passed : (engine.node device).passesOn neighbor session best.learnedFrom = true)
    {route : BgpRoute Device}
    (received : engine.receivedFor filters device neighbor session best = some route) :
    (engine.wantedFrom filters device neighbor session).lookup best.destination = some route := by
  have fit := fits device enabled
  obtain ⟨only, single⟩ := fit.present _ _ _ (fit.chosen best member).1
  have same : best = only := by
    have inside : best ∈ (engine.node device).locRib.filter fun entry =>
        entry.destination = best.destination := mem_filter.mpr ⟨member, by simp⟩
    rw [single] at inside
    exact mem_singleton.mp inside
  subst same
  unfold wantedFrom
  dsimp only
  rw [BgpNode.lookup_wantedRoutes, BgpNode.computeAdverts_eq, BgpNode.transitAdverts_eq,
    filterMap_append, filterMap_append]
  -- the best path is the only transit advert for its destination, and comes last
  have last : ((((engine.node device).locRib.filter fun best =>
      (engine.node device).passesOn neighbor session best.learnedFrom).map
        ((engine.node device).transitAdvert device session)).filterMap
      ((engine.node device).exportAdvert (filters device) session)).filterMap (fun advert =>
        if advert.destination = best.destination then
          (engine.node neighbor).acceptAdvert (filters neighbor) device
            ((engine.node device).isEbgp session) (engine.session neighbor device) advert
        else none) = [route] := by
    rw [filterMap_map, filterMap_filterMap, filterMap_filter]
    have pointwise : ∀ other : LocRoute Device,
        (if (engine.node device).passesOn neighbor session other.learnedFrom = true then
          (((engine.node device).exportAdvert (filters device) session ∘
            (engine.node device).transitAdvert device session) other).bind fun advert =>
              if advert.destination = best.destination then
                (engine.node neighbor).acceptAdvert (filters neighbor) device
                  ((engine.node device).isEbgp session) (engine.session neighbor device) advert
              else none
        else none) =
        if decide (other.destination = best.destination) = true then
          if (engine.node device).passesOn neighbor session other.learnedFrom = true then
            engine.receivedFor filters device neighbor session other
          else none
        else none := by
      intro other
      unfold receivedFor
      rw [Function.comp_apply]
      cases passed : (engine.node device).exportAdvert (filters device) session
          ((engine.node device).transitAdvert device session other) with
      | none => simp
      | some exported =>
        have named : exported.destination = other.destination :=
          BgpNode.exportAdvert_destination passed
        simp only [bind_some, named, decide_eq_true_eq]
        by_cases here : other.destination = best.destination
        · simp [here]
        · simp [here]
    simp only [pointwise]
    rw [← filterMap_filter, single]
    simp [passed, received]
  rw [last]
  simp

/-- At a fixpoint the local preferences are carried over exactly if they are the
default or set again. -/
theorem local_pref_carried_iff (synced : engine.Synced) (quiet : (engine.round filters).2 = false) :
    engine.LocalPrefCarried filters ↔ engine.PrefsDefault filters := by
  have heldFor : ∀ {device neighbor : Device} {session : BgpSession},
      engine.Delivers device neighbor session → ∀ {best : LocRoute Device},
      best ∈ (engine.node device).locRib →
      (engine.node device).passesOn neighbor session best.learnedFrom = true →
      (engine.receivedFor filters device neighbor session best).isSome = true →
      ∃ held, (engine.node neighbor).ribIn.lookup (device, best.destination) = some held ∧
        held.localPref =
          ((engine.node neighbor).inboundPref (engine.session neighbor device)).getD 100 := by
    intro device neighbor session delivers best member passed received
    obtain ⟨route, found⟩ := isSome_iff_exists.mp received
    have wanted := wantedFrom_of_best (fits_of_synced synced) delivers.1 member passed found
    obtain ⟨held, lookup, fresh⟩ :=
      (RibIn.held_of_not_differs (not_differs_of_quiet quiet delivers) best.destination).2 _ wanted
    obtain ⟨exported, -, accepted⟩ := bind_eq_some_iff.mp found
    refine ⟨held, lookup, ?_⟩
    rw [(BgpRoute.of_not_outdated fresh).2.1]
    exact BgpNode.localPref_acceptAdvert _ accepted
  constructor
  · intro carried device neighbor session delivers internal best member passed received
    obtain ⟨held, lookup, expected⟩ :=
      carried device neighbor session delivers internal best member passed received
    obtain ⟨other, found, actual⟩ := heldFor delivers member passed received
    obtain rfl := Option.some.inj (lookup.symm.trans found)
    have same := expected.symm.trans actual
    unfold carriedPref at same
    cases inbound : (engine.node neighbor).inboundPref (engine.session neighbor device) with
    | none =>
      rw [inbound] at same
      exact .inr same
    | some preference => exact .inl rfl
  · intro default device neighbor session delivers internal best member passed received
    obtain ⟨held, lookup, actual⟩ := heldFor delivers member passed received
    refine ⟨held, lookup, actual.trans ?_⟩
    unfold carriedPref
    rcases default device neighbor session delivers internal best member passed received with
      inbound | same
    · obtain ⟨preference, set⟩ := isSome_iff_exists.mp inbound
      rw [set]
      rfl
    · rw [same]

/-- R1 prefers the route of its external neighbour, R2 is in the AS of R1. -/
def preferredExit : BgpEngine String :=
  (runFrom handle initial ([.start "X" 65002, .start "R1" 65001, .start "R2" 65001,
    .addNeighbor "X" "R1" 65001, .addNeighbor "R1" "X" 65002, .addNeighbor "R1" "R2" 65001,
    .addNeighbor "R2" "R1" 65001, .addRouteMap "R1" "EXIT" [] (some 200) none [] false,
    .setNeighborRouteMap "R1" "X" "EXIT" .inbound, .openSession "X" "R1",
    .openSession "R1" "R2", .advertiseNetwork "X" ⟨"10.0.0.0", some 8⟩].map
      (Call.mk fun _ => {}))).propagateBgp fun _ => {}

/-- R1's end of its session with R2. -/
def preferredExitSession : BgpSession := { remoteAs := 65001, state := .established }

/-- The best path of R1. -/
def preferredExitBest : LocRoute String :=
  ⟨⟨"10.0.0.0", 8⟩, "X", { nextHop := "X", localPref := 200, asPath := [65002] }⟩

theorem preferredExit_quiet : (preferredExit.round fun _ => {}).2 = false := by decide +kernel

theorem preferredExit_synced : preferredExit.Synced := synced_propagateBgp _ _

theorem preferredExit_delivers : preferredExit.Delivers "R1" "R2" preferredExitSession :=
  ⟨by decide +kernel, by decide +kernel, rfl, by decide +kernel⟩

theorem preferredExit_reset : ¬ preferredExit.LocalPrefCarried fun _ => {} := by
  intro carried
  obtain ⟨held, lookup, same⟩ := carried "R1" "R2" preferredExitSession preferredExit_delivers
    (by decide +kernel) preferredExitBest (by decide +kernel) (by decide +kernel) (by decide +kernel)
  have expected : preferredExit.carriedPref "R1" "R2" preferredExitSession preferredExitBest = 200 := by
    decide +kernel
  have actual : ((preferredExit.node "R2").ribIn.lookup ("R1", ⟨"10.0.0.0", 8⟩)).map
      BgpRoute.localPref = some 100 := by decide +kernel
  have stored : (preferredExit.node "R2").ribIn.lookup ("R1", ⟨"10.0.0.0", 8⟩) = some held := lookup
  rw [stored, map_some, same, expected] at actual
  exact absurd actual (by decide)

/-- R1 has preference 200 for the route, and R2 of the same AS holds it with 100. -/
theorem preferredExit_lost : preferredExit.Synced ∧ (preferredExit.round fun _ => {}).2 = false ∧
    ¬ preferredExit.LocalPrefCarried fun _ => {} :=
  ⟨preferredExit_synced, preferredExit_quiet, preferredExit_reset⟩

/-- R1's preference is not the default one, then. -/
theorem preferredExit_not_default : ¬ preferredExit.PrefsDefault fun _ => {} := fun default =>
  preferredExit_reset
    ((local_pref_carried_iff preferredExit_synced preferredExit_quiet).mpr default)

end BgpEngine

end NetLab.Bgp
