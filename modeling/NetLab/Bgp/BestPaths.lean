import NetLab.Bgp.Machine
import NetLab.Bgp.Propagation

/-!
# The best paths fit the received routes

`bestPaths` picks, for every destination received, one route than which none is
better. Every operation of the engine recomputes the best paths of the speakers
whose tables it changes, except for the updates of external peers and the start of
a speaker that held routes before; `fits_throughout_iff` says when those two keep
the tables in step.
-/

namespace NetLab.Bgp

open NetLab.Library NetLab.Network NetLab.Execution BgpRoute
open OrderedMap List

variable {Device : Type} [DecidableEq Device]

/-! ## The order of preference -/

omit [DecidableEq Device] in
theorem BgpRoute.better_irrefl (route : BgpRoute Device) : route.better route = false := by
  simp [better]

omit [DecidableEq Device] in
theorem BgpRoute.better_iff (candidate current : BgpRoute Device) :
    candidate.better current = true ↔ (candidate.stale = false ∧ current.stale = true) ∨
      (candidate.stale = current.stale ∧ (current.localPref < candidate.localPref ∨
        (candidate.localPref = current.localPref ∧
          (candidate.asPath.length < current.asPath.length ∨
          (candidate.asPath.length = current.asPath.length ∧ candidate.med < current.med))))) := by
  unfold better
  split
  case isTrue differ =>
      cases fresh : candidate.stale <;> cases old : current.stale <;> simp_all
  case isFalse same =>
      have stale : candidate.stale = current.stale := by simpa using same
      split
      case isTrue preference => simp [stale]; omega
      case isFalse preference =>
          split
          case isTrue path => simp [stale]; omega
          case isFalse path => simp [stale]; omega

omit [DecidableEq Device] in
theorem BgpRoute.better_trans {first second third : BgpRoute Device}
    (front : first.better second = true) (back : second.better third = true) :
    first.better third = true := by
  rw [better_iff] at front back ⊢
  rcases front with ⟨fresh, old⟩ | ⟨sameFront, front⟩
  · rcases back with ⟨fresh', old'⟩ | ⟨sameBack, -⟩
    · exact .inl ⟨fresh, old'⟩
    · exact .inl ⟨fresh, sameBack ▸ old⟩
  · rcases back with ⟨fresh', old'⟩ | ⟨sameBack, back⟩
    · exact .inl ⟨sameFront.trans fresh', old'⟩
    · exact .inr ⟨sameFront.trans sameBack, by omega⟩

/-! ## What the best paths are -/

/-- The best paths fit the received routes: one for each destination received, from
among its routes, and none of these is better. -/
structure LocRibFits (node : BgpNode Device) : Prop where
  present : ∀ learnedFrom destination route,
    node.ribIn.lookup (learnedFrom, destination) = some route →
      ∃ best, (node.locRib.filter fun entry => entry.destination = destination) = [best]
  chosen : ∀ best ∈ node.locRib,
    node.ribIn.lookup (best.learnedFrom, best.destination) = some best.route ∧
      ∀ learnedFrom route, node.ribIn.lookup (learnedFrom, best.destination) = some route →
        route.better best.route = false

/-- What the choice has to show for the routes seen so far. -/
private structure ChosenFrom (seen : List ((Device × Prefix) × BgpRoute Device))
    (best : OrderedMap Prefix (LocRoute Device)) : Prop where
  present : ∀ entry ∈ seen, ∃ chosen, best.lookup entry.1.2 = some chosen
  chosen : ∀ destination chosen, best.lookup destination = some chosen →
    chosen.destination = destination ∧ ((chosen.learnedFrom, destination), chosen.route) ∈ seen ∧
      ∀ entry ∈ seen, entry.1.2 = destination → entry.2.better chosen.route = false

omit [DecidableEq Device] in
private theorem ChosenFrom.choose {seen : List ((Device × Prefix) × BgpRoute Device)}
    {best : OrderedMap Prefix (LocRoute Device)} (sound : ChosenFrom seen best)
    (entry : (Device × Prefix) × BgpRoute Device) :
    ChosenFrom (seen ++ [entry]) (chooseBest best entry) := by
  obtain ⟨⟨learnedFrom, destination⟩, route⟩ := entry
  unfold chooseBest
  dsimp only
  have first : ∀ chosen, best.lookup destination = some chosen → route.better chosen.route = false →
      ChosenFrom (seen ++ [((learnedFrom, destination), route)]) best := by
    intro chosen found worse
    refine ⟨fun entry member => ?_, fun other held lookup => ?_⟩
    · rcases mem_append.mp member with old | fresh
      · exact sound.present entry old
      · obtain rfl := mem_singleton.mp fresh
        exact ⟨chosen, found⟩
    · obtain ⟨same, member, best⟩ := sound.chosen other held lookup
      refine ⟨same, mem_append_left _ member, fun entry seen named => ?_⟩
      rcases mem_append.mp seen with old | fresh
      · exact best entry old named
      · obtain rfl := mem_singleton.mp fresh
        dsimp only at named
        subst named
        obtain rfl := Option.some.inj (found.symm.trans lookup)
        exact worse
  have replaced : (∀ entry ∈ seen, entry.1.2 = destination → entry.2.better route = false) →
      ChosenFrom (seen ++ [((learnedFrom, destination), route)])
        (best.insert destination ⟨destination, learnedFrom, route⟩) := by
    intro unbeaten
    refine ⟨fun entry member => ?_, fun other held lookup => ?_⟩
    · rw [lookup_insert]
      split
      · exact ⟨_, rfl⟩
      case isFalse apart =>
          rcases mem_append.mp member with old | fresh
          · exact sound.present entry old
          · obtain rfl := mem_singleton.mp fresh
            exact absurd rfl apart
    · rw [lookup_insert] at lookup
      split at lookup
      case isTrue here =>
          subst here
          obtain rfl := Option.some.inj lookup
          refine ⟨rfl, mem_append_right _ (mem_singleton.mpr rfl), fun entry seen named => ?_⟩
          rcases mem_append.mp seen with old | fresh
          · exact unbeaten entry old named
          · obtain rfl := mem_singleton.mp fresh
            exact better_irrefl route
      case isFalse apart =>
          obtain ⟨same, member, best⟩ := sound.chosen other held lookup
          refine ⟨same, mem_append_left _ member, fun entry seen named => ?_⟩
          rcases mem_append.mp seen with old | fresh
          · exact best entry old named
          · obtain rfl := mem_singleton.mp fresh
            exact absurd named.symm apart
  cases found : best.lookup destination with
  | none =>
    refine replaced fun entry member named => ?_
    obtain ⟨chosen, held⟩ := sound.present entry member
    rw [named, found] at held
    cases held
  | some current =>
    dsimp only
    split
    case isTrue wins =>
        refine replaced fun entry member named => ?_
        -- a route better than the winner would have been better than the old best
        by_contra beaten
        have old := (sound.chosen destination current found).2.2 entry member named
        have improved := better_trans (by simpa using beaten) wins
        rw [old] at improved
        cases improved
    case isFalse loses => exact first current found (by simpa using loses)

theorem locRibFits_recalc (node : BgpNode Device) : LocRibFits node.recalcBestPath := by
  have sound : ∀ (rest seen : List ((Device × Prefix) × BgpRoute Device))
      (best : OrderedMap Prefix (LocRoute Device)), ChosenFrom seen best →
      ChosenFrom (seen ++ rest) (rest.foldl chooseBest best) := by
    intro rest
    induction rest with
    | nil => exact fun seen best sound => by simpa using sound
    | cons entry rest ih =>
      intro seen best sound
      have next := ih _ _ (sound.choose entry)
      simpa using next
  have chosen := sound node.ribIn.entries [] .empty
    ⟨fun _ member => (by cases member), fun _ _ lookup => (by cases lookup)⟩
  rw [nil_append] at chosen
  constructor
  · intro learnedFrom destination route held
    obtain ⟨best, found⟩ := chosen.present _ (mem_entries_iff.mpr held)
    exact ⟨best, filter_values_of_named (fun _ _ lookup => (chosen.chosen _ _ lookup).1) found⟩
  · intro best member
    obtain ⟨destination, found⟩ := mem_values_iff.mp member
    obtain ⟨rfl, held, unbeaten⟩ := chosen.chosen destination best found
    refine ⟨mem_entries_iff.mp held, fun learnedFrom route other => ?_⟩
    exact unbeaten _ (mem_entries_iff.mpr other) rfl

omit [DecidableEq Device] in
/-- Fitting is about the two tables only. -/
theorem LocRibFits.congr [DecidableEq Device] {node next : BgpNode Device} (fits : LocRibFits node)
    (ribIn : next.ribIn = node.ribIn) (locRib : next.locRib = node.locRib) : LocRibFits next :=
  ⟨by rw [ribIn, locRib]; exact fits.present, by rw [ribIn, locRib]; exact fits.chosen⟩

/-! ## Announcements of external peers -/

/-- Storing an announced prefix keeps the tables in step: the best path to it, if
there is one, comes from the same peer, and no route of another neighbour is better. -/
def Announceable (node : BgpNode Device) (peer : Device) (update : ParsedUpdate Device)
    (destination : Prefix) : Prop :=
  (∀ best ∈ node.locRib, best.destination = destination → best.learnedFrom = peer) ∧
    ∀ learnedFrom route, learnedFrom ≠ peer →
      node.ribIn.lookup (learnedFrom, destination) = some route →
      route.better (update.route peer) = false

section Announce

variable {node : BgpNode Device} {peer : Device} {update : ParsedUpdate Device}

/-- Announcements leave the settings of a speaker alone. -/
theorem enabled_foldl_announce (prefixes : List Prefix) :
    (prefixes.foldl (announce peer update) node).enabled = node.enabled := by
  induction prefixes generalizing node with
  | nil => rfl
  | cons announced rest ih => exact ih

theorem locRib_foldl_announce (prefixes : List Prefix) (destination : Prefix) :
    ((prefixes.foldl (announce peer update) node).locRib.filter fun best =>
        best.destination = destination) =
      if destination ∈ prefixes then
        ((node.locRib.filter fun best => best.destination = destination).filter fun best =>
          !decide (best.learnedFrom = peer)) ++ [⟨destination, peer, update.route peer⟩]
      else node.locRib.filter fun best => best.destination = destination := by
  induction prefixes generalizing node with
  | nil => simp
  | cons announced rest ih =>
    have step : ((announce peer update node announced).locRib.filter fun best =>
        best.destination = destination) =
        if destination = announced then
          ((node.locRib.filter fun best => best.destination = destination).filter fun best =>
            !decide (best.learnedFrom = peer)) ++ [⟨destination, peer, update.route peer⟩]
        else node.locRib.filter fun best => best.destination = destination := by
      unfold announce
      dsimp only
      rw [filter_append, filter_filter]
      split
      case isTrue here =>
          subst here
          rw [filter_filter]
          congr 1
          · refine filter_congr fun best _ => ?_
            by_cases named : best.destination = destination <;> simp [named]
          · simp
      case isFalse apart =>
          rw [show List.filter (fun best : LocRoute Device => decide (best.destination = destination))
            [⟨announced, peer, update.route peer⟩] = [] by simp [Ne.symm apart], append_nil]
          refine filter_congr fun best _ => ?_
          by_cases named : best.destination = destination
          · simp [named, apart]
          · simp [named]
    rw [foldl_cons, ih, step]
    by_cases here : destination = announced
    · subst here
      simp
    · simp [here]

theorem lookup_foldl_announce (node : BgpNode Device) (peer : Device)
    (update : ParsedUpdate Device) (prefixes : List Prefix) (key : Device × Prefix) :
    (prefixes.foldl (announce peer update) node).ribIn.lookup key =
      if key.1 = peer ∧ key.2 ∈ prefixes then some (update.route peer)
      else node.ribIn.lookup key := by
  induction prefixes generalizing node with
  | nil => simp
  | cons announced rest ih =>
    rw [foldl_cons, ih]
    have step : (announce peer update node announced).ribIn.lookup key =
        if key = (peer, announced) then some (update.route peer)
        else node.ribIn.lookup key := by
      unfold announce
      dsimp only
      rw [lookup_insert, lookup_erase]
      split
      · rfl
      · rfl
    rw [step]
    by_cases own : key.1 = peer
    · by_cases later : key.2 ∈ rest
      · simp [own, later]
      · by_cases here : key.2 = announced
        · have same : key = (peer, announced) := Prod.ext own here
          simp [same]
        · have other : key ≠ (peer, announced) := fun same => here (congrArg Prod.snd same)
          simp [own, later, here, other]
    · have other : key ≠ (peer, announced) := fun same => own (congrArg Prod.fst same)
      simp [own, other]

/-- An update of an external peer keeps the tables in step exactly if each of its
prefixes can be stored so. -/
theorem locRibFits_announce_iff (fits : LocRibFits node) (prefixes : List Prefix) :
    LocRibFits (prefixes.foldl (announce peer update) node) ↔
      ∀ destination ∈ prefixes, Announceable node peer update destination := by
  constructor
  · intro kept destination announced
    have held := (lookup_foldl_announce node peer update prefixes (peer, destination)).trans
      (if_pos ⟨rfl, announced⟩)
    obtain ⟨only, single⟩ := kept.present _ _ _ held
    rw [locRib_foldl_announce, if_pos announced] at single
    have none : ((node.locRib.filter fun best => best.destination = destination).filter
        fun best => !decide (best.learnedFrom = peer)) = [] := by
      have length := congrArg List.length single
      rw [length_append] at length
      exact eq_nil_of_length_eq_zero (by simpa using length)
    refine ⟨fun best member named => ?_, fun learnedFrom route other lookup => ?_⟩
    · by_contra foreign
      have inside : best ∈ ((node.locRib.filter fun best => best.destination = destination).filter
          fun best => !decide (best.learnedFrom = peer)) := by simp [member, named, foreign]
      rw [none] at inside
      cases inside
    · have stored : (⟨destination, peer, update.route peer⟩ : LocRoute Device) ∈
          (prefixes.foldl (announce peer update) node).locRib := by
        have inside : (⟨destination, peer, update.route peer⟩ : LocRoute Device) ∈
            ((prefixes.foldl (announce peer update) node).locRib.filter fun best =>
              best.destination = destination) := by
          rw [locRib_foldl_announce, if_pos announced]
          exact mem_append_right _ (mem_singleton.mpr rfl)
        exact (mem_filter.mp inside).1
      refine (kept.chosen _ stored).2 learnedFrom route ?_
      rw [lookup_foldl_announce, if_neg fun both => other both.1]
      exact lookup
  · intro storable
    have single : ∀ destination ∈ prefixes,
        ((prefixes.foldl (announce peer update) node).locRib.filter fun best =>
          best.destination = destination) = [⟨destination, peer, update.route peer⟩] := by
      intro destination announced
      rw [locRib_foldl_announce, if_pos announced]
      have none : ((node.locRib.filter fun best => best.destination = destination).filter
          fun best => !decide (best.learnedFrom = peer)) = [] := by
        refine filter_eq_nil_iff.mpr fun best member foreign => ?_
        obtain ⟨inside, named⟩ := mem_filter.mp member
        have own := (storable destination announced).1 best inside (of_decide_eq_true named)
        simp [own] at foreign
      rw [none, nil_append]
    constructor
    · intro learnedFrom destination route lookup
      by_cases announced : destination ∈ prefixes
      · exact ⟨_, single destination announced⟩
      · rw [lookup_foldl_announce, if_neg fun both => announced both.2] at lookup
        rw [locRib_foldl_announce, if_neg announced]
        exact fits.present _ _ _ lookup
    · intro best member
      have inside : best ∈ ((prefixes.foldl (announce peer update) node).locRib.filter fun entry =>
          entry.destination = best.destination) := mem_filter.mpr ⟨member, by simp⟩
      by_cases announced : best.destination ∈ prefixes
      · rw [single _ announced, mem_singleton] at inside
        generalize best.destination = destination at inside announced
        subst inside
        refine ⟨by rw [lookup_foldl_announce, if_pos ⟨rfl, announced⟩], fun learnedFrom route lookup => ?_⟩
        rw [lookup_foldl_announce] at lookup
        split at lookup
        case isTrue =>
            obtain rfl := Option.some.inj lookup
            exact better_irrefl _
        case isFalse other =>
            exact (storable destination announced).2 learnedFrom route
              (fun same => other ⟨same, announced⟩) lookup
      · rw [locRib_foldl_announce, if_neg announced] at inside
        obtain ⟨held, unbeaten⟩ := fits.chosen best (mem_filter.mp inside).1
        refine ⟨by rw [lookup_foldl_announce, if_neg fun both => announced both.2]; exact held, ?_⟩
        intro learnedFrom route lookup
        rw [lookup_foldl_announce, if_neg fun both => announced both.2] at lookup
        exact unbeaten learnedFrom route lookup

end Announce

/-! ## Operations -/

namespace BgpEngine

variable {engine : BgpEngine Device} {filters : FilterEngine Device}

/-- The best paths of every enabled speaker fit its received routes. -/
def Fits (engine : BgpEngine Device) : Prop :=
  ∀ device, engine.isEnabled device = true → LocRibFits (engine.node device)

theorem node_recalcAll (engine : BgpEngine Device) (device : Device) :
    engine.recalcAll.node device =
      if engine.isEnabled device = true then (engine.node device).recalcBestPath
      else engine.node device := by
  unfold recalcAll isEnabled node
  dsimp only
  rw [lookup_mapValues]
  cases engine.nodes.lookup device with
  | none => rfl
  | some node =>
    rw [Option.map_some, Option.getD_some, Option.getD_some]

/-- After the best paths have been recomputed they fit. -/
theorem fits_of_synced (synced : engine.Synced) : engine.Fits := by
  intro device enabled
  have same := node_recalcAll engine device
  rw [synced, if_pos enabled] at same
  rw [same]
  exact locRibFits_recalc _

theorem fits_propagateBgp (engine : BgpEngine Device) : (engine.propagateBgp filters).Fits :=
  fits_of_synced (synced_propagateBgp filters engine)

section

variable (fits : engine.Fits)
include fits

variable (device neighbor : Device)

/-- Changing a speaker whose tables fit afterwards, if it is enabled then. -/
theorem Fits.modifyNode {update : BgpNode Device → BgpNode Device} (device : Device)
    (here : (update (engine.node device)).enabled = true → LocRibFits (update (engine.node device))) :
    (engine.modifyNode device update).Fits := by
  intro other enabled
  unfold isEnabled at enabled
  rw [node_modifyNode] at enabled ⊢
  split at enabled
  case isTrue named =>
      rw [if_pos named]
      exact here enabled
  case isFalse apart =>
      rw [if_neg apart]
      exact fits other enabled

/-- Changing settings of a speaker. -/
theorem Fits.configure {update : BgpNode Device → BgpNode Device}
    (enabled : (update (engine.node device)).enabled = (engine.node device).enabled)
    (ribIn : (update (engine.node device)).ribIn = (engine.node device).ribIn)
    (locRib : (update (engine.node device)).locRib = (engine.node device).locRib) :
    (engine.modifyNode device update).Fits :=
  fits.modifyNode device fun up => (fits device (enabled.symm.trans up)).congr ribIn locRib

theorem Fits.modifySession (update : BgpSession → BgpSession) :
    (engine.modifySession device neighbor update).Fits := by
  intro other enabled
  rw [isEnabled_modifySession] at enabled
  rw [node_modifySession]
  split
  case isTrue => exact (fits other enabled).congr rfl rfl
  case isFalse => exact fits other enabled

theorem Fits.setState (state : SessionState) :
    (engine.setState device neighbor state).Fits := fits.modifySession _ _ _

theorem Fits.reconfigureSession (update : BgpSession → BgpSession) :
    (engine.reconfigureSession filters device neighbor update).Fits := by
  unfold BgpEngine.reconfigureSession
  dsimp only
  split
  · exact fits.configure device rfl rfl rfl
  · exact fits_propagateBgp _

theorem Fits.exchangeUpdates : (engine.exchangeUpdates filters device neighbor).Fits :=
  exchangeUpdates_keeps (fun _ _ => fits_propagateBgp _) fits device neighbor

theorem Fits.beginOpen : (engine.beginOpen device neighbor).1.Fits := by
  unfold BgpEngine.beginOpen
  split
  · exact fits
  · split
    · exact fits.setState _ _ _
    · split
      · exact (fits.setState _ _ _).setState _ _ _
      · exact fits.setState _ _ _

theorem Fits.establish :
    (engine.establish device neighbor).Fits := (fits.setState _ _ _).setState _ _ _

theorem Fits.openSession : (engine.openSession filters device neighbor).Fits := by
  unfold BgpEngine.openSession
  dsimp only
  split
  · have confirmed := ((fits.beginOpen device neighbor).setState device neighbor .openSent).setState
      device neighbor .openConfirm
    exact ((confirmed.establish device neighbor).exchangeUpdates _ _).exchangeUpdates _ _
  · exact fits.beginOpen device neighbor

theorem Fits.advertiseNetwork (statement : NetworkStatement) :
    (engine.advertiseNetwork filters device statement).Fits := by
  unfold BgpEngine.advertiseNetwork
  dsimp only
  have configured : (engine.modifyNode device fun node =>
      if statement ∈ node.networks then node
      else { node with networks := node.networks ++ [statement] }).Fits := by
    refine fits.configure device ?_ ?_ ?_ <;> split <;> rfl
  exact foldl_sendUpdate_keeps (fun _ _ => fits_propagateBgp _) configured device _

theorem Fits.downEnd : (engine.downEnd device neighbor).1.Fits := by
  unfold BgpEngine.downEnd
  split
  · exact fits
  · split
    · exact (fits.setState _ _ _).modifyNode device fun _ => locRibFits_recalc _
    · exact fits

theorem Fits.sessionDown : (engine.sessionDown filters device neighbor).Fits := by
  unfold BgpEngine.sessionDown
  dsimp only
  split
  · exact fits_propagateBgp _
  · exact (fits.downEnd _ _).downEnd _ _

theorem Fits.expireStale : (engine.expireStale device neighbor).Fits := by
  unfold BgpEngine.expireStale
  split
  · exact fits
  · split
    · exact fits
    · exact fits.modifyNode device fun _ => locRibFits_recalc _

theorem Fits.addNeighbor (remoteAs : Nat) : (engine.addNeighbor device neighbor remoteAs).Fits := by
  unfold BgpEngine.addNeighbor
  have created : (engine.modifyNode device id).Fits := fits.configure device rfl rfl rfl
  dsimp only
  split
  · exact created.configure device rfl rfl rfl
  · exact created

/-- The operations that change tables without recomputing the best paths: a start of
a speaker has to find them in step, and an external update must be one that can be
stored so. -/
def KeepsFit (engine : BgpEngine Device) (call : Call Device) : Prop :=
  match call.operation with
  | .start device _ => LocRibFits (engine.node device)
  | .applyUpdate device peer update =>
    engine.isEnabled device = true → ∀ destination ∈ update.prefixes,
        Announceable (engine.node device) peer update destination
  | _ => True

/-- A step keeps the best paths in step exactly if it meets the condition. -/
theorem fits_handle_iff (call : Call Device) :
    (engine.handle call).Fits ↔ engine.KeepsFit call := by
  obtain ⟨filters, operation⟩ := call
  cases operation
  case start device localAs =>
      constructor
      · intro kept
        have here := kept device (by
          change (engine.start device localAs).isEnabled device = true
          rw [isEnabled_start, if_pos rfl])
        change LocRibFits ((engine.modifyNode device _).node device) at here
        rw [node_modifyNode, if_pos rfl] at here
        exact here.congr rfl rfl
      · intro here
        exact fits.modifyNode device fun _ => LocRibFits.congr here rfl rfl
  case applyUpdate device peer update =>
      constructor
      · intro kept enabled
        refine (locRibFits_announce_iff (fits device enabled) update.prefixes).mp ?_
        have here := kept device (by
          change ((engine.modifyNode device _).node device).enabled = true
          rw [node_modifyNode, if_pos rfl, enabled_foldl_announce]
          exact enabled)
        change LocRibFits ((engine.modifyNode device _).node device) at here
        rw [node_modifyNode, if_pos rfl] at here
        exact here
      · intro storable
        refine fits.modifyNode device fun enabled => ?_
        rw [enabled_foldl_announce] at enabled
        exact (locRibFits_announce_iff (fits device enabled) update.prefixes).mpr (storable enabled)
  case addNeighbor => exact iff_of_true (fits.addNeighbor _ _ _) trivial
  case setNeighborPassword device _ _ =>
      have created : (engine.modifyNode device id).Fits := fits.configure device rfl rfl rfl
      exact iff_of_true (created.modifySession _ _ _) trivial
  case setNeighborRouteMap => exact iff_of_true (fits.reconfigureSession _ _ _) trivial
  case setNeighborPrefixList => exact iff_of_true (fits.reconfigureSession _ _ _) trivial
  case setNeighborSendCommunity => exact iff_of_true (fits.reconfigureSession _ _ _) trivial
  case setNeighborRouteReflectorClient =>
      exact iff_of_true (fits.reconfigureSession _ _ _) trivial
  case addRouteMap => exact iff_of_true (fits.configure _ rfl rfl rfl) trivial
  case setGracefulRestart => exact iff_of_true (fits.configure _ rfl rfl rfl) trivial
  case setLlgr => exact iff_of_true (fits.configure _ rfl rfl rfl) trivial
  case setConfederationIdentifier => exact iff_of_true (fits.configure _ rfl rfl rfl) trivial
  case addConfederationPeer => exact iff_of_true (fits.configure _ rfl rfl rfl) trivial
  case addRoa => exact iff_of_true (fits.configure _ rfl rfl rfl) trivial
  case setRpkiInvalidDrop => exact iff_of_true (fits.configure _ rfl rfl rfl) trivial
  case beginOpen => exact iff_of_true (fits.beginOpen _ _) trivial
  case confirmOpen => exact iff_of_true (fits.setState _ _ _) trivial
  case establish => exact iff_of_true (fits.establish _ _) trivial
  case exchangeUpdates => exact iff_of_true (fits.exchangeUpdates _ _) trivial
  case openSession => exact iff_of_true (fits.openSession _ _) trivial
  case advertiseNetwork => exact iff_of_true (fits.advertiseNetwork _ _) trivial
  case sessionDown => exact iff_of_true (fits.sessionDown _ _) trivial
  case expireStale => exact iff_of_true (fits.expireStale _ _) trivial
  case propagateBgp => exact iff_of_true (fits_propagateBgp _) trivial
  case syncSession => exact iff_of_true (fits.configure _ rfl rfl rfl) trivial

end

theorem fits_initial : (initial : BgpEngine Device).Fits := fun _ enabled => by cases enabled

/-- In every state that a run passes through the best paths fit the received routes,
exactly if each of its steps keeps them in step. -/
theorem fits_throughout_iff (calls : List (Call Device)) :
    Throughout handle Fits (initial : BgpEngine Device) calls ↔
      Along handle KeepsFit (initial : BgpEngine Device) calls := by
  have exactStep : ∀ (engine : BgpEngine Device) (call : Call Device), True → engine.Fits →
      ((engine.handle call).Fits ↔ engine.KeepsFit call) :=
    fun _ call _ fits => fits_handle_iff fits call
  exact throughout_iff_along (fun _ _ _ => trivial) exactStep trivial fits_initial calls

/-- A speaker hears of one destination from two external peers. -/
def twoExternalPeers : List (Call String) :=
  [⟨fun _ => {}, .start "R1" 65001⟩,
    ⟨fun _ => {}, .applyUpdate "R1" "192.0.2.1" { asPath := [65002], prefixes := [⟨"10.0.0.0", 8⟩] }⟩,
    ⟨fun _ => {}, .applyUpdate "R1" "192.0.2.2"
      { asPath := [65003, 65004], prefixes := [⟨"10.0.0.0", 8⟩] }⟩]

/-- Both routes are best paths then. -/
theorem twoExternalPeers_unfit : ¬ (runFrom handle initial twoExternalPeers).Fits := by
  intro fits
  have enabled : (runFrom handle initial twoExternalPeers).isEnabled "R1" = true := by
    decide +kernel
  have held : ((runFrom handle initial twoExternalPeers).node "R1").ribIn.lookup
      ("192.0.2.1", ⟨"10.0.0.0", 8⟩) = some { nextHop := "192.0.2.1", asPath := [65002] } := by
    decide +kernel
  obtain ⟨best, single⟩ := (fits "R1" enabled).present _ _ _ held
  have two : (((runFrom handle initial twoExternalPeers).node "R1").locRib.filter fun entry =>
      entry.destination = ⟨"10.0.0.0", 8⟩).length = 2 := by decide +kernel
  rw [single] at two
  cases two

end BgpEngine

end NetLab.Bgp
