import NetLab.Library.Hearsay
import NetLab.Bgp.LoopPrevention
import NetLab.Bgp.LocalPref

/-!
# Ghost routes

A held route is supported if it can be followed over established sessions, from best path
to best path, to a speaker that originates its destination. At a fixpoint each held route
is what its sender advertises, with a path that grows at the border of an AS and stays
inside, so a route without support must have come around a ring of reflections.
`no_ghost_routes` says that there is none without such a ring.
-/

namespace NetLab.Bgp.BgpEngine

open NetLab.Library NetLab.Network NetLab.Execution BgpNode Option

variable {Device : Type} [DecidableEq Device] {destination : Prefix}

/-- A route that `receiver` holds from `sender` leads over established sessions, along the
best paths, to a speaker with the destination among its networks. -/
inductive Supported (engine : BgpEngine Device) (destination : Prefix) : Device → Device → Prop
  | own {sender receiver : Device} (forth : engine.established sender receiver = true)
      (back : engine.established receiver sender = true) {statement : NetworkStatement}
      (originated : statement ∈ (engine.node sender).networks)
      (named : statement.destination = destination) :
      Supported engine destination sender receiver
  | learned {sender receiver : Device} (forth : engine.established sender receiver = true)
      (back : engine.established receiver sender = true) {best : LocRoute Device}
      (chosen : best ∈ (engine.node sender).locRib) (named : best.destination = destination)
      (support : Supported engine destination best.learnedFrom sender) :
      Supported engine destination sender receiver

def InternalHop (engine : BgpEngine Device) (hop : Device × Device) : Prop :=
  ∃ session, engine.session hop.1 hop.2 = some session ∧ session.state = .established ∧
    (engine.node hop.1).isEbgp session = false

/-- Routes that came over one internal hop are passed on over the next. -/
def Reflects (engine : BgpEngine Device) (incoming outgoing : Device × Device) : Prop :=
  incoming.2 = outgoing.1 ∧ engine.InternalHop incoming ∧ engine.InternalHop outgoing ∧
    ∃ session, engine.session outgoing.1 outgoing.2 = some session ∧
      (engine.node outgoing.1).passesOn outgoing.2 session incoming.1 = true

/-- No route comes back over the hop on which it was reflected. -/
def Ringless (engine : BgpEngine Device) : Prop :=
  ∀ hop, ¬ Relation.TransGen engine.Reflects hop hop

/-- The operations at issue. A session that is opened towards an enabled neighbour is
configured at both ends. -/
def TwoSided (engine : BgpEngine Device) (call : Call Device) : Prop :=
  match call.operation with
  | .start _ _ | .addNeighbor _ _ _ | .setNeighborRouteReflectorClient _ _ _
  | .advertiseNetwork _ _ | .sessionDown _ _ => True
  | .openSession device neighbor => (engine.session device neighbor).isSome = true →
      engine.isEnabled neighbor = true → (engine.session neighbor device).isSome = true
  | _ => False

/-! ## What these operations keep -/

/-- A speaker without confederation and graceful restart, and without passwords. Sessions
belong to enabled speakers, and these have an AS number. -/
structure Plain (node : BgpNode Device) : Prop where
  confederation : node.confederationId = none
  restart : node.gracefulRestartDefault = false
  llgr : node.llgrDefault = false
  numbered : node.enabled = true → node.localAs.isSome = true
  sessions : ∀ neighbor session, node.sessions.lookup neighbor = some session →
    node.enabled = true ∧ session.password = "" ∧ session.gracefulRestart = false ∧
      session.llgr = false

/-- All speakers are plain, both ends of a session are established, and what a speaker
holds comes over established sessions. -/
structure Grounded (engine : BgpEngine Device) : Prop where
  plain : ∀ device, Plain (engine.node device)
  paired : ∀ device neighbor, engine.established device neighbor = true →
    engine.established neighbor device = true
  delivered : ∀ receiver sender destination route,
    (engine.node receiver).ribIn.lookup (sender, destination) = some route →
      engine.established sender receiver = true

variable {engine other : BgpEngine Device} {filters : FilterEngine Device}

theorem plain_default : Plain ({} : BgpNode Device) where
  confederation := rfl
  restart := rfl
  llgr := rfl
  numbered := fun enabled => by cases enabled
  sessions := fun _ _ found => by cases found

theorem grounded_initial : (initial : BgpEngine Device).Grounded where
  plain := fun _ => plain_default
  paired := fun _ _ up => by cases up
  delivered := fun _ _ _ _ held => by cases held

theorem plain_modifyNode (plain : ∀ device, Plain (engine.node device)) (device : Device)
    {update : BgpNode Device → BgpNode Device} (kept : Plain (update (engine.node device)))
    (changed : Device) : Plain ((engine.modifyNode device update).node changed) := by
  rw [node_modifyNode]
  split
  · exact kept
  · exact plain changed

theorem plain_modifySession (plain : ∀ device, Plain (engine.node device))
    (device neighbor : Device) {update : BgpSession → BgpSession}
    (kept : ∀ session, (update session).password = session.password ∧
      (update session).gracefulRestart = session.gracefulRestart ∧
      (update session).llgr = session.llgr) (changed : Device) :
    Plain ((engine.modifySession device neighbor update).node changed) := by
  rw [node_modifySession]
  split
  case isFalse => exact plain changed
  case isTrue =>
      refine ⟨(plain changed).confederation, (plain changed).restart, (plain changed).llgr,
        (plain changed).numbered, fun peer session found => ?_⟩
      rw [OrderedMap.lookup_modify] at found
      split at found
      case isFalse => exact (plain changed).sessions peer session found
      case isTrue =>
          obtain ⟨before, held, rfl⟩ := map_eq_some_iff.mp found
          obtain ⟨enabled, password, restart, llgr⟩ := (plain changed).sessions peer before held
          obtain ⟨samePassword, sameRestart, sameLlgr⟩ := kept before
          exact ⟨enabled, samePassword.trans password, sameRestart.trans restart,
            sameLlgr.trans llgr⟩

theorem plain_of_config (plain : ∀ device, Plain (engine.node device))
    (same : other.config = engine.config) (device : Device) : Plain (other.node device) := by
  have blank := blank_of_config same device
  have enabled : (other.node device).enabled = (engine.node device).enabled :=
    isEnabled_of_config same device
  have known := plain device
  refine ⟨(congrArg confederationId blank :).trans known.confederation,
    (congrArg gracefulRestartDefault blank :).trans known.restart,
    (congrArg llgrDefault blank :).trans known.llgr, fun speaks => ?_,
    fun neighbor session found => ?_⟩
  · rw [localAs_of_config same]
    exact known.numbered (enabled.symm.trans speaks)
  · rw [sessions_of_config same] at found
    rw [enabled]
    exact known.sessions neighbor session found

/-- A step that keeps the speakers plain, takes no session down and brings no route. -/
theorem Grounded.steady (grounded : engine.Grounded) (plain : ∀ device, Plain (other.node device))
    (paired : ∀ device neighbor, other.established device neighbor = true →
      other.established neighbor device = true)
    (stays : ∀ device neighbor, engine.established device neighbor = true →
      other.established device neighbor = true)
    (held : ∀ receiver key route, (other.node receiver).ribIn.lookup key = some route →
      ∃ before, (engine.node receiver).ribIn.lookup key = some before) : other.Grounded where
  plain := plain
  paired := paired
  delivered := fun receiver sender destination route found => by
    obtain ⟨before, old⟩ := held receiver _ route found
    exact stays sender receiver (grounded.delivered receiver sender destination before old)

/-- A round delivers over established sessions only. -/
theorem Grounded.roundStep (grounded : engine.Grounded) : (roundStep filters engine).Grounded := by
  have config : (engine.roundStep filters).config = engine.config := config_round filters engine
  refine ⟨plain_of_config grounded.plain config, fun device neighbor up => ?_,
    fun receiver sender destination route held => ?_⟩
  · rw [established_of_config config] at up ⊢
    exact grounded.paired device neighbor up
  · rw [established_of_config config]
    rw [ribIn_roundStep] at held
    split at held
    case isFalse => cases held
    case isTrue =>
        rcases held_absorb filters engine receiver _ _ held with
          ⟨before, found, -⟩ | ⟨session, -, -, found, up, -⟩
        · exact grounded.delivered receiver sender destination before found
        · exact established_iff.mpr ⟨session, found, up⟩

theorem Grounded.propagateBgp (grounded : engine.Grounded) :
    (engine.propagateBgp filters).Grounded := by
  rw [propagateBgp_eq_iterate]
  generalize engine.effectiveRounds filters = count
  induction count with
  | zero => exact grounded
  | succ count ih =>
    rw [Function.iterate_succ_apply']
    exact ih.roundStep

/-! ## Operations -/

theorem Grounded.exchangeUpdates (grounded : engine.Grounded) (device neighbor : Device) :
    (engine.exchangeUpdates filters device neighbor).Grounded :=
  exchangeUpdates_keeps (fun _ grounded => grounded.propagateBgp) grounded device neighbor

/-- A change to one speaker that keeps its sessions and its received routes. -/
theorem Grounded.configure (grounded : engine.Grounded) (device : Device)
    {update : BgpNode Device → BgpNode Device}
    (plain : Plain (engine.node device) → Plain (update (engine.node device)))
    (sessions : ∀ node, (update node).sessions = node.sessions)
    (ribIn : ∀ node, (update node).ribIn = node.ribIn) :
    (engine.modifyNode device update).Grounded := by
  have same : ∀ first second, (engine.modifyNode device update).established first second =
      engine.established first second := by
    intro first second
    unfold established
    rw [session_modifyNode_of_keeps _ _ _ _ sessions]
  refine grounded.steady (plain_modifyNode grounded.plain device (plain (grounded.plain device)))
    (fun first second up => ?_) (fun first second up => (same first second).trans up)
    (fun receiver key route found => ?_)
  · rw [same] at up ⊢
    exact grounded.paired first second up
  · rw [node_modifyNode] at found
    split at found
    case isTrue here =>
        rw [ribIn] at found
        exact ⟨route, here ▸ found⟩
    case isFalse => exact ⟨route, found⟩

theorem Grounded.start (grounded : engine.Grounded) (device : Device) (localAs : Nat) :
    (engine.start device localAs).Grounded :=
  grounded.configure device
    (fun plain => ⟨plain.confederation, plain.restart, plain.llgr, fun _ => rfl,
      fun neighbor session found => ⟨rfl, (plain.sessions neighbor session found).2⟩⟩)
    (fun _ => rfl) fun _ => rfl

theorem configuredSession_plain {node : BgpNode Device} (plain : Plain node) (neighbor : Device)
    (remoteAs : Nat) : (configuredSession node neighbor remoteAs).password = "" ∧
      (configuredSession node neighbor remoteAs).gracefulRestart = false ∧
      (configuredSession node neighbor remoteAs).llgr = false := by
  unfold configuredSession
  cases found : node.sessions.lookup neighbor with
  | none => exact ⟨rfl, plain.restart, plain.llgr⟩
  | some session => exact (plain.sessions neighbor session found).2

theorem Grounded.addNeighbor (grounded : engine.Grounded) (device neighbor : Device)
    (remoteAs : Nat) : (engine.addNeighbor device neighbor remoteAs).Grounded := by
  refine grounded.steady (fun changed => ?_) (fun first second up => ?_)
    (fun first second up => ?_) (fun receiver key route found => ?_)
  · rw [node_addNeighbor]
    split
    case isFalse => exact grounded.plain changed
    case isTrue configures =>
        have plain := grounded.plain device
        refine ⟨plain.confederation, plain.restart, plain.llgr, plain.numbered,
          fun peer session found => ?_⟩
        rw [OrderedMap.lookup_insert] at found
        split at found
        · obtain rfl := Option.some.inj found
          exact ⟨configures.2, configuredSession_plain plain neighbor remoteAs⟩
        · exact plain.sessions peer session found
  · rw [established_addNeighbor] at up ⊢
    exact grounded.paired first second up
  · rw [established_addNeighbor]
    exact up
  · rw [node_addNeighbor] at found
    split at found
    case isTrue here =>
        rw [here.1]
        exact ⟨route, found⟩
    case isFalse => exact ⟨route, found⟩

theorem Grounded.setNeighborRouteReflectorClient (grounded : engine.Grounded)
    (device neighbor : Device) (client : Bool) :
    (engine.setNeighborRouteReflectorClient filters device neighbor client).Grounded := by
  have created : (engine.modifyNode device id).Grounded :=
    grounded.configure device id (fun _ => rfl) fun _ => rfl
  unfold BgpEngine.setNeighborRouteReflectorClient reconfigureSession
  dsimp only
  generalize engine.modifyNode device id = prepared at created ⊢
  split
  · exact created
  · have same : ∀ first second, (prepared.modifySession device neighbor fun session =>
        { session with reflectorClient := client }).established first second =
          prepared.established first second := by
      intro first second
      unfold established
      rw [session_modifySession]
      split
      · cases prepared.session first second <;> rfl
      · rfl
    refine Grounded.propagateBgp (created.steady
      (plain_modifySession created.plain device neighbor fun _ => ⟨rfl, rfl, rfl⟩)
      (fun first second up => ?_) (fun first second up => (same first second).trans up)
      fun receiver key route found => ?_)
    · rw [same] at up ⊢
      exact created.paired first second up
    · rw [node_modifySession] at found
      split at found <;> exact ⟨route, found⟩

theorem Grounded.advertiseNetwork (grounded : engine.Grounded) (device : Device)
    (statement : NetworkStatement) :
    (engine.advertiseNetwork filters device statement).Grounded := by
  refine foldl_sendUpdate_keeps (fun _ grounded => grounded.propagateBgp)
    (grounded.configure device (fun plain => ?_) (fun node => ?_) fun node => ?_) device _
  · split
    · exact plain
    · exact ⟨plain.confederation, plain.restart, plain.llgr, plain.numbered, plain.sessions⟩
  · split <;> rfl
  · split <;> rfl

/-! ## Opening a session -/

theorem plain_setState (plain : ∀ device, Plain (engine.node device)) (device neighbor : Device)
    (state : SessionState) (changed : Device) :
    Plain ((engine.setState device neighbor state).node changed) := by
  refine plain_modifySession plain device neighbor ?_ changed
  exact fun session => ⟨rfl, rfl, rfl⟩

variable {device neighbor : Device}

section

variable (grounded : engine.Grounded) (own : (engine.session device neighbor).isSome = true)
  (peer : (engine.session neighbor device).isSome = true)
include grounded own peer

/-- Between plain speakers that both have an end of the session the opening goes on. -/
theorem Grounded.beginOpen_eq :
    engine.beginOpen device neighbor = (engine.setState device neighbor .connect, true) := by
  obtain ⟨session, held⟩ := isSome_iff_exists.mp own
  obtain ⟨back, found⟩ := isSome_iff_exists.mp peer
  obtain ⟨-, password, -⟩ := (grounded.plain device).sessions neighbor session held
  obtain ⟨enabled, peerPassword, -⟩ := (grounded.plain neighbor).sessions device back found
  have expected : engine.passwordOf neighbor device = "" := by
    simp [passwordOf, found, peerPassword]
  have speaks : engine.isEnabled neighbor = true := enabled
  unfold beginOpen
  rw [held]
  dsimp only
  rw [if_neg (by simp [speaks]), if_neg (by simp [password, expected])]

theorem Grounded.handshake : (engine.handshake device neighbor).Grounded := by
  have narrows : Narrows engine (engine.handshake device neighbor) :=
    (((narrows_beginOpen engine device neighbor).trans (narrows_setState _ _ _ _)).trans
      (narrows_setState _ _ _ _)).trans (narrows_establish _ _ _)
  have up : ∀ first second, (engine.handshake device neighbor).established first second =
      if (first = device ∧ second = neighbor) ∨ (first = neighbor ∧ second = device) then true
      else engine.established first second := by
    intro first second
    unfold BgpEngine.handshake
    rw [grounded.beginOpen_eq own peer, established_establish]
    by_cases named : (first = device ∧ second = neighbor) ∨ (first = neighbor ∧ second = device)
    · rw [if_pos named, if_pos named]
      rcases named with ⟨rfl, rfl⟩ | ⟨rfl, rfl⟩
      · simpa using own
      · simpa using peer
    · have apart : ¬ (first = device ∧ second = neighbor) := fun both => named (.inl both)
      rw [if_neg named, if_neg named, established_setState, established_setState,
        established_setState, if_neg apart, if_neg apart, if_neg apart]
  refine grounded.steady (fun changed => ?_) (fun first second established => ?_)
    (fun first second established => ?_) fun receiver key route held => ?_
  · unfold BgpEngine.handshake establish
    rw [grounded.beginOpen_eq own peer]
    exact plain_setState (plain_setState (plain_setState (plain_setState (plain_setState
      grounded.plain _ _ _) _ _ _) _ _ _) _ _ _) _ _ _ changed
  · rw [up] at established ⊢
    split at established
    case isTrue named => rw [if_pos (named.symm.imp And.symm And.symm)]
    case isFalse =>
        split
        · rfl
        · exact grounded.paired first second established
  · rw [up]
    split
    · rfl
    · exact established
  · obtain ⟨before, found, -⟩ := narrows.held receiver key route held
    exact ⟨before, found⟩

end

theorem Grounded.openSession_disabled (grounded : engine.Grounded)
    (disabled : ¬ engine.isEnabled neighbor = true) :
    (engine.setState device neighbor .active).Grounded := by
  have down : engine.established device neighbor = false := by
    by_contra up
    obtain ⟨session, held, -⟩ :=
      established_iff.mp (grounded.paired device neighbor (by simpa using up))
    exact disabled ((grounded.plain neighbor).sessions device session held).1
  have same : ∀ first second, (engine.setState device neighbor .active).established first second =
      engine.established first second := by
    intro first second
    rw [established_setState]
    split
    case isTrue named =>
        rw [named.1, named.2, down]
        simp
    case isFalse => rfl
  refine grounded.steady (plain_setState grounded.plain _ _ _) (fun first second up => ?_)
    (fun first second up => (same first second).trans up) fun receiver key route held => ?_
  · rw [same] at up ⊢
    exact grounded.paired first second up
  · obtain ⟨before, found, -⟩ := (narrows_setState engine device neighbor .active).held receiver key
      route held
    exact ⟨before, found⟩

theorem Grounded.openSession (grounded : engine.Grounded)
    (twoSided : (engine.session device neighbor).isSome = true →
      engine.isEnabled neighbor = true → (engine.session neighbor device).isSome = true) :
    (engine.openSession filters device neighbor).Grounded := by
  by_cases own : (engine.session device neighbor).isSome = true
  · by_cases enabled : engine.isEnabled neighbor = true
    · have peer := twoSided own enabled
      have opened : engine.openSession filters device neighbor =
          ((engine.handshake device neighbor).exchangeUpdates filters device neighbor).exchangeUpdates
            filters device neighbor := by
        unfold BgpEngine.openSession BgpEngine.handshake
        rw [grounded.beginOpen_eq own peer]
        dsimp only
        rw [if_pos rfl]
      rw [opened]
      exact ((grounded.handshake own peer).exchangeUpdates device neighbor).exchangeUpdates
        device neighbor
    · obtain ⟨session, held⟩ := isSome_iff_exists.mp own
      have same : engine.openSession filters device neighbor =
          engine.setState device neighbor .active := by
        simp [BgpEngine.openSession, beginOpen, held, enabled]
      rw [same]
      exact grounded.openSession_disabled enabled
  · have same : engine.openSession filters device neighbor = engine := by
      simp [BgpEngine.openSession, beginOpen, not_isSome_iff_eq_none.mp own]
    rw [same]
    exact grounded

/-! ## Losing a session -/

theorem plain_downEnd (plain : ∀ device, Plain (engine.node device)) (device neighbor : Device)
    (changed : Device) : Plain ((engine.downEnd device neighbor).1.node changed) := by
  unfold downEnd
  split
  · exact plain changed
  · split
    · have idle := plain_setState plain device neighbor .idle
      have here := idle device
      refine plain_modifyNode idle device ?_ changed
      exact ⟨here.confederation, here.restart, here.llgr, here.numbered, here.sessions⟩
    · exact plain changed

theorem lost_downEnd (plain : ∀ device, Plain (engine.node device))
    (up : engine.established device neighbor = true) {key : Device × Prefix}
    {route : BgpRoute Device}
    (held : ((engine.downEnd device neighbor).1.node device).ribIn.lookup key = some route) :
    key.1 ≠ neighbor := by
  obtain ⟨session, found, established⟩ := established_iff.mp up
  obtain ⟨-, -, restart, llgr⟩ := (plain device).sessions neighbor session found
  unfold downEnd at held
  rw [found] at held
  dsimp only at held
  rw [if_pos established, restart, llgr] at held
  dsimp only at held
  rw [node_modifyNode, if_pos rfl] at held
  unfold loseNeighbor recalcBestPath loseRoutes at held
  dsimp only at held
  rw [Bool.or_self, if_neg (by simp), OrderedMap.lookup_filter] at held
  exact of_decide_eq_true (filter_eq_some_iff.mp held).2

theorem Grounded.sessionDown (grounded : engine.Grounded) (device neighbor : Device) :
    (engine.sessionDown filters device neighbor).Grounded := by
  have plain := plain_downEnd (plain_downEnd grounded.plain device neighbor) neighbor device
  have established : ∀ first second,
      ((engine.downEnd device neighbor).1.downEnd neighbor device).1.established first second =
        if (first = device ∧ second = neighbor) ∨ (first = neighbor ∧ second = device) then false
        else engine.established first second := by
    intro first second
    rw [← established_of_config (config_sessionDown filters engine device neighbor),
      established_sessionDown]
  have down : ((engine.downEnd device neighbor).1.downEnd neighbor device).1.Grounded := by
    refine ⟨plain, fun first second up => ?_, fun receiver sender destination route held => ?_⟩
    · rw [established] at up ⊢
      split at up
      case isTrue => cases up
      case isFalse apart =>
          rw [if_neg fun named => apart (named.symm.imp And.symm And.symm)]
          exact grounded.paired first second up
    · obtain ⟨middle, afterFirst, -⟩ := (narrows_downEnd _ neighbor device).held receiver _ route held
      obtain ⟨before, found, -⟩ := (narrows_downEnd _ device neighbor).held receiver _ middle afterFirst
      have forth := grounded.delivered receiver sender destination before found
      have back := grounded.paired sender receiver forth
      rw [established, if_neg]
      · exact forth
      · -- the end of the receiver was up, so the routes of the sender are gone
        rintro (⟨rfl, rfl⟩ | ⟨rfl, rfl⟩)
        · by_cases self : receiver = sender
          · subst self
            exact lost_downEnd grounded.plain forth afterFirst rfl
          · refine lost_downEnd (plain_downEnd grounded.plain sender receiver) ?_ held rfl
            rw [established_downEnd, if_neg fun named => self named.1]
            exact back
        · exact lost_downEnd grounded.plain back afterFirst rfl
  unfold BgpEngine.sessionDown
  dsimp only
  split
  · exact down.propagateBgp
  · exact down

theorem Grounded.handle (grounded : engine.Grounded) {call : Call Device}
    (twoSided : engine.TwoSided call) : (engine.handle call).Grounded := by
  obtain ⟨filters, operation⟩ := call
  cases operation with
  | start device localAs => exact grounded.start device localAs
  | addNeighbor device neighbor remoteAs => exact grounded.addNeighbor device neighbor remoteAs
  | setNeighborRouteReflectorClient device neighbor client =>
    exact grounded.setNeighborRouteReflectorClient device neighbor client
  | advertiseNetwork device statement => exact grounded.advertiseNetwork device statement
  | sessionDown device neighbor => exact grounded.sessionDown device neighbor
  | openSession device neighbor => exact grounded.openSession twoSided
  | _ => exact twoSided.elim

/-! ## At a fixpoint -/

omit [DecidableEq Device] in
/-- The outbound policy never shortens a path. -/
theorem length_exportAdvert {node : BgpNode Device} {filters : DeviceFilters}
    {session : BgpSession} {advert exported : Advert Device}
    (passed : node.exportAdvert filters session advert = some exported) :
    advert.route.asPath.length ≤ exported.route.asPath.length := by
  obtain ⟨-, same⟩ := ite_none_right_eq_some.mp passed
  obtain rfl := Option.some.inj same
  have mapped : advert.route.asPath.length ≤ (if session.routeMapOut = "" then advert
      else { advert with route := node.applyRouteMap session.routeMapOut advert.route } :
        Advert Device).route.asPath.length := by
    split
    · exact le_rfl
    case isFalse named =>
        have path := node.asPath_routeMap session.routeMapOut advert.route
        rw [if_neg named] at path
        dsimp only
        rw [path, List.length_append]
        exact Nat.le_add_left _ _
  by_cases sends : session.sendCommunity = true
  · rw [if_pos sends]
    exact mapped
  · rw [if_neg sends]
    exact mapped

variable {held : BgpRoute Device} {receiver sender : Device}

theorem mem_nodes_of_held {key : Device × Prefix}
    (found : (engine.node receiver).ribIn.lookup key = some held) :
    receiver ∈ engine.nodes.keys := by
  by_contra missing
  have nothing : engine.node receiver = {} := by
    unfold node
    rw [OrderedMap.lookup_eq_none_iff.mpr missing]
    rfl
  rw [nothing] at found
  cases found

/-- At a fixpoint a held route is for a network of its sender or a best path of it, whose
path is shorter if the session leaves the sender's AS, and not longer else. -/
theorem Grounded.source_of_held (grounded : engine.Grounded) (fits : engine.Fits)
    (quiet : (engine.round filters).2 = false)
    (found : (engine.node receiver).ribIn.lookup (sender, destination) = some held) :
    ∃ session, engine.session sender receiver = some session ∧ session.state = .established ∧
      ((∃ statement ∈ (engine.node sender).networks, statement.destination = destination) ∨
        ∃ best ∈ (engine.node sender).locRib, best.destination = destination ∧
          (engine.node sender).ribIn.lookup (best.learnedFrom, destination) = some best.route ∧
          (engine.node sender).passesOn receiver session best.learnedFrom = true ∧
          best.route.asPath.length +
            (if (engine.node sender).isEbgp session = true then 1 else 0) ≤ held.asPath.length) := by
  obtain ⟨session, known, up⟩ :=
    established_iff.mp (grounded.delivered receiver sender destination held found)
  have plain := grounded.plain sender
  have enabled : (engine.node sender).enabled = true := (plain.sessions receiver session known).1
  have delivers : engine.Delivers sender receiver session :=
    ⟨enabled, known, up, mem_nodes_of_held found⟩
  obtain ⟨advert, sent, exported, passed, named, route, accepted, fresh⟩ :=
    exists_advert_of_held quiet delivers found
  refine ⟨session, known, up, ?_⟩
  rcases List.mem_append.mp sent with own | transit
  · obtain ⟨statement, originated, rfl⟩ := List.mem_map.mp own
    exact .inl ⟨statement, originated, named⟩
  · rw [transitAdverts_eq] at transit
    obtain ⟨best, member, rfl⟩ := List.mem_map.mp transit
    obtain ⟨chosen, passes⟩ := List.mem_filter.mp member
    have here : best.destination = destination := named
    refine .inr ⟨best, chosen, here, here ▸ ((fits sender enabled).chosen best chosen).1, passes, ?_⟩
    have stored : held.asPath = route.asPath := (BgpRoute.of_not_outdated fresh).1
    have prepended := (asPath_acceptAdvert _ accepted).1
    have grown := length_exportAdvert passed
    have advertised : ((engine.node sender).transitAdvert sender session best).route.asPath.length =
        best.route.asPath.length +
          (if (engine.node sender).isEbgp session = true then 1 else 0) := by
      obtain ⟨number, own⟩ := isSome_iff_exists.mp (plain.numbered enabled)
      unfold transitAdvert advertisedPath leavingConfederation
      rw [plain.confederation, ite_self, own]
      dsimp only
      split
      · rw [toList_some, List.singleton_append, List.length_cons]
      · rfl
    rw [stored, prepended, List.length_append]
    omega

/-- A route without support whose path has a given length. -/
def Unsupported (engine : BgpEngine Device) (destination : Prefix) (length : Nat)
    (hop : Device × Device) : Prop :=
  ∃ held, (engine.node hop.2).ribIn.lookup (hop.1, destination) = some held ∧
    held.asPath.length = length ∧ ¬ engine.Supported destination hop.1 hop.2

/-- When all routes with shorter paths are supported, one without support came over an
internal hop, from a route without support that was passed on. -/
theorem Grounded.unsupported_leads (grounded : engine.Grounded) (fits : engine.Fits)
    (quiet : (engine.round filters).2 = false) {length : Nat}
    (shorter : ∀ receiver sender held,
      (engine.node receiver).ribIn.lookup (sender, destination) = some held →
        held.asPath.length < length → engine.Supported destination sender receiver)
    {hop : Device × Device} (unsupported : engine.Unsupported destination length hop) :
    engine.InternalHop hop ∧ ∃ incoming, engine.Unsupported destination length incoming ∧
      incoming.2 = hop.1 ∧ ∃ session, engine.session hop.1 hop.2 = some session ∧
        (engine.node hop.1).passesOn hop.2 session incoming.1 = true := by
  obtain ⟨held, found, rfl, baseless⟩ := unsupported
  have forth := grounded.delivered hop.2 hop.1 destination held found
  have back := grounded.paired hop.1 hop.2 forth
  obtain ⟨session, known, up, source⟩ := grounded.source_of_held fits quiet found
  rcases source with ⟨statement, originated, named⟩ | ⟨best, chosen, named, lookup, passes, grown⟩
  · exact absurd (.own forth back originated named) baseless
  · have alike : ¬ engine.Supported destination best.learnedFrom hop.1 :=
      fun support => baseless (.learned forth back chosen named support)
    have notShorter : ¬ best.route.asPath.length < held.asPath.length :=
      fun less => alike (shorter hop.1 best.learnedFrom best.route lookup less)
    have inside : (engine.node hop.1).isEbgp session = false := by
      by_contra leaves
      rw [if_pos (by simpa using leaves)] at grown
      exact notShorter grown
    refine ⟨⟨session, known, up, inside⟩, (best.learnedFrom, hop.1),
      ⟨best.route, lookup, ?_, alike⟩, rfl, session, known, passes⟩
    exact le_antisymm ((Nat.le_add_right _ _).trans grown) (not_lt.mp notShorter)

theorem Grounded.supported (grounded : engine.Grounded) (fits : engine.Fits)
    (quiet : (engine.round filters).2 = false) (ringless : engine.Ringless)
    (found : (engine.node receiver).ribIn.lookup (sender, destination) = some held) :
    engine.Supported destination sender receiver := by
  -- by induction on the length of the path, and against a ring for each length
  induction size : held.asPath.length using Nat.strong_induction_on
    generalizing receiver sender held with
  | _ length shorter =>
    by_contra baseless
    have leads : ∀ {hop}, engine.Unsupported destination length hop → _ :=
      fun unsupported => grounded.unsupported_leads fits quiet
        (fun receiver sender held lookup less => shorter _ less lookup rfl) unsupported
    have inside : ∀ {hop}, engine.Unsupported destination length hop →
        hop.1 ∈ engine.nodes.keys ∧ hop.2 ∈ engine.nodes.keys := by
      intro hop unsupported
      obtain ⟨session, known, -⟩ := (leads unsupported).1
      obtain ⟨held, lookup, -⟩ := unsupported
      exact ⟨mem_nodes_of_session known, mem_nodes_of_held lookup⟩
    let Speaker := { device // device ∈ engine.nodes.keys }
    let hopOf : Speaker × Speaker → Device × Device := fun hop => (hop.1.1, hop.2.1)
    have finite : Finite Speaker := (List.finite_toSet engine.nodes.keys).to_subtype
    have start : engine.Unsupported destination length (sender, receiver) :=
      ⟨held, found, size, baseless⟩
    have nonempty : ∃ hop : Speaker × Speaker, engine.Unsupported destination length (hopOf hop) :=
      ⟨(⟨sender, (inside start).1⟩, ⟨receiver, (inside start).2⟩), start⟩
    have successor : ∀ hop, engine.Unsupported destination length (hopOf hop) →
        ∃ incoming, engine.Unsupported destination length (hopOf incoming) ∧
          Function.swap (fun incoming outgoing =>
            engine.Reflects (hopOf incoming) (hopOf outgoing)) hop incoming := by
      intro hop unsupported
      obtain ⟨internal, incoming, before, same, passes⟩ := leads unsupported
      obtain ⟨first, second⟩ := inside before
      exact ⟨(⟨incoming.1, first⟩, ⟨incoming.2, second⟩), before, same,
        (leads before).1, internal, passes⟩
    obtain ⟨hop, ring⟩ := Hearsay.exists_ring nonempty successor
    exact ringless (hopOf hop)
      ((Relation.transGen_swap.mp ring).lift hopOf fun _ _ reflects => reflects)

theorem Supported.originated (supported : engine.Supported destination sender receiver) :
    ∃ device, ∃ statement ∈ (engine.node device).networks, statement.destination = destination := by
  induction supported with
  | own _ _ originated named => exact ⟨_, _, originated, named⟩
  | learned _ _ _ _ _ ih => exact ih

/-- After any of these operations, at the fixpoint of a propagation and without a ring of
reflections, every held route leads to a speaker that originates its destination; a
destination that nobody originates is held nowhere. -/
theorem no_ghost_routes (calls : List (Call Device)) (filters : FilterEngine Device)
    (twoSided : Along handle TwoSided initial calls)
    (quiet : (((runFrom handle initial calls).propagateBgp filters).round filters).2 = false)
    (ringless : ((runFrom handle initial calls).propagateBgp filters).Ringless) :
    let engine := (runFrom handle initial calls).propagateBgp filters
    (∀ receiver sender destination held,
      (engine.node receiver).ribIn.lookup (sender, destination) = some held →
        engine.Supported destination sender receiver) ∧
    ∀ destination, (∀ device, ∀ statement ∈ (engine.node device).networks,
        statement.destination ≠ destination) →
      ∀ receiver sender, (engine.node receiver).ribIn.lookup (sender, destination) = none := by
  intro engine
  have grounded : engine.Grounded :=
    (invariant_along (fun _ _ grounded permitted => grounded.handle permitted) grounded_initial
      twoSided : (runFrom handle initial calls).Grounded).propagateBgp
  have supported : ∀ receiver sender destination held,
      (engine.node receiver).ribIn.lookup (sender, destination) = some held →
        engine.Supported destination sender receiver :=
    fun receiver sender destination held found =>
      grounded.supported (fits_propagateBgp _) quiet ringless found
  refine ⟨supported, fun destination abandoned receiver sender => ?_⟩
  by_contra present
  obtain ⟨held, found⟩ := ne_none_iff_exists'.mp present
  obtain ⟨device, statement, originated, named⟩ :=
    (supported receiver sender destination held found).originated
  exact abandoned device statement originated named

/-! ## Concrete runs -/

instance decidableTwoSided (engine : BgpEngine Device) (call : Call Device) :
    Decidable (engine.TwoSided call) := by
  unfold TwoSided
  split <;> infer_instance

instance decidableInternalHop (engine : BgpEngine Device) (hop : Device × Device) :
    Decidable (engine.InternalHop hop) :=
  inferInstanceAs (Decidable (∃ session ∈ engine.session hop.1 hop.2, _))

instance decidableReflects (engine : BgpEngine Device) (incoming outgoing : Device × Device) :
    Decidable (engine.Reflects incoming outgoing) :=
  inferInstanceAs (Decidable (_ ∧ _ ∧ _ ∧ ∃ session ∈ engine.session outgoing.1 outgoing.2, _))

local instance reflectionSize : NeZero 3 := ⟨by decide⟩

/-- Speaker 1 learns a network from another AS and reflects it to speaker 2. -/
def reflection : List (Call (Fin 3)) :=
  [.start 0 65000, .start 1 65001, .start 2 65001, .addNeighbor 0 1 65001,
    .addNeighbor 1 0 65000, .addNeighbor 1 2 65001, .addNeighbor 2 1 65001,
    .setNeighborRouteReflectorClient 1 2 true, .openSession 0 1, .openSession 1 2,
    .advertiseNetwork 0 ⟨"10.0.0.0", some 8⟩].map (Call.mk fun _ => {})

/-- The fixpoint of the reflection. -/
def reflected : BgpEngine (Fin 3) :=
  (runFrom handle initial reflection).propagateBgp fun _ => {}

/-- No route that came over the one internal session is passed on over an internal one. -/
theorem reflected_ringless : reflected.Ringless := by
  have apart : ∀ incoming outgoing : Fin 3 × Fin 3, ¬ reflected.Reflects incoming outgoing := by
    decide +kernel
  intro hop ring
  cases ring with
  | single reflects => exact apart _ _ reflects
  | tail _ reflects => exact apart _ _ reflects

theorem reflected_no_ghost_routes : (∀ receiver sender destination held,
      (reflected.node receiver).ribIn.lookup (sender, destination) = some held →
        reflected.Supported destination sender receiver) ∧
    ∀ destination, (∀ device, ∀ statement ∈ (reflected.node device).networks,
        statement.destination ≠ destination) →
      ∀ receiver sender, (reflected.node receiver).ribIn.lookup (sender, destination) = none :=
  no_ghost_routes reflection (fun _ => {}) (by decide +kernel) (by decide +kernel)
    reflected_ringless

/-- Three speakers of an AS, each a reflector for the next one, and speaker 0 outside. The
session that closes the ring is opened last, and then the outside is lost. -/
def reflectorRing : List (Call (Fin 4)) :=
  [.start 0 65000, .start 1 65001, .start 2 65001, .start 3 65001, .addNeighbor 0 1 65001,
    .addNeighbor 1 0 65000, .addNeighbor 1 2 65001, .addNeighbor 2 1 65001,
    .addNeighbor 2 3 65001, .addNeighbor 3 2 65001, .addNeighbor 3 1 65001,
    .addNeighbor 1 3 65001, .setNeighborRouteReflectorClient 1 2 true,
    .setNeighborRouteReflectorClient 2 3 true, .setNeighborRouteReflectorClient 3 1 true,
    .openSession 0 1, .openSession 1 2, .openSession 2 3,
    .advertiseNetwork 0 ⟨"10.0.0.0", some 8⟩, .openSession 3 1, .sessionDown 0 1].map
      (Call.mk fun _ => {})

local instance oneSidedSize : NeZero 2 := ⟨by decide⟩

/-- Speaker 1 has no end of the session that speaker 0 opens and loses again. -/
def oneSided : List (Call (Fin 2)) :=
  [.start 0 65000, .start 1 65001, .addNeighbor 0 1 65001,
    .advertiseNetwork 0 ⟨"10.0.0.0", some 8⟩, .openSession 0 1, .sessionDown 0 1].map
      (Call.mk fun _ => {})

/-- The fixpoints after these runs. -/
def ringed : BgpEngine (Fin 4) :=
  (runFrom handle initial reflectorRing).propagateBgp fun _ => {}

def abandoned : BgpEngine (Fin 2) :=
  (runFrom handle initial oneSided).propagateBgp fun _ => {}

/-- The three reflectors hold a route from each other, at a fixpoint, that nobody outside
sends; and the speaker without an end keeps the route of a session that is gone. -/
theorem ring_holds_ghost : ((ringed.round fun _ => {}).2 = false ∧
      ((ringed.node 1).ribIn.lookup (3, ⟨"10.0.0.0", 8⟩)).map BgpRoute.stale = some false ∧
      ¬ ringed.Supported ⟨"10.0.0.0", 8⟩ 3 1) ∧
    (abandoned.round fun _ => {}).2 = false ∧
      ((abandoned.node 1).ribIn.lookup (0, ⟨"10.0.0.0", 8⟩)).map BgpRoute.stale = some false ∧
      ¬ abandoned.Supported ⟨"10.0.0.0", 8⟩ 0 1 := by
  refine ⟨⟨by decide +kernel, by decide +kernel, ?_⟩, by decide +kernel, by decide +kernel, ?_⟩
  · have closed : ∀ sender : Fin 4, sender ≠ 0 → (ringed.node sender).networks = [] ∧
        ∀ best ∈ (ringed.node sender).locRib, best.learnedFrom ≠ 0 := by
      decide +kernel
    -- no best path of the ring leads out of it
    have never : ∀ sender receiver, ringed.Supported ⟨"10.0.0.0", 8⟩ sender receiver →
        sender = 0 := by
      intro sender receiver supported
      induction supported with
      | own _ _ originated _ =>
        by_contra inside
        rw [(closed _ inside).1] at originated
        cases originated
      | learned _ _ chosen _ _ ih =>
        by_contra inside
        exact (closed _ inside).2 _ chosen ih
    exact fun supported => absurd (never 3 1 supported) (by decide)
  · have down : abandoned.established 0 1 = false := by decide +kernel
    intro supported
    cases supported with
    | own forth _ _ _ => exact absurd (down.symm.trans forth) (by decide)
    | learned forth _ _ _ _ => exact absurd (down.symm.trans forth) (by decide)

end NetLab.Bgp.BgpEngine
