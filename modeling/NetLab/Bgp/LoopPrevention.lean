import NetLab.Bgp.BestPaths
import NetLab.Bgp.Fixpoint

/-!
# Loop prevention by the AS path

A speaker must not hold a route from another AS that has already been through its
own AS or its confederation. The engine looks for one number, on sessions that
leave the sender's AS, and before the inbound route map; `loopFree_throughout` says
which steps that covers.
-/

namespace NetLab.Bgp

open NetLab.Library NetLab.Network NetLab.Execution
open OrderedMap List Option

variable {Device : Type} [DecidableEq Device] {route : BgpRoute Device}

namespace BgpNode

variable (node : BgpNode Device)

/-- The numbers by which a speaker finds itself in an AS path: its own AS and the
identifier of its confederation. -/
def ownNumbers : List Nat := node.localAs.toList ++ node.confederationId.toList

def Clear (asPath : List Nat) : Prop := ∀ number ∈ node.ownNumbers, number ∉ asPath

omit [DecidableEq Device] in
theorem clear_iff {asPath : List Nat} : node.Clear asPath ↔
    (∀ number, node.localAs = some number → number ∉ asPath) ∧
      ∀ identifier, node.confederationId = some identifier → identifier ∉ asPath := by
  unfold Clear ownNumbers
  simp only [mem_append, mem_toList]
  exact ⟨fun clear => ⟨fun _ own => clear _ (.inl own), fun _ own => clear _ (.inr own)⟩,
    fun both _ own => own.elim (both.1 _) (both.2 _)⟩

def routeMapPrepend (name : String) : List Nat :=
  if name = "" then [] else ((node.routeMaps.lookup name).map RouteMap.prepend).getD []

def inboundPrepend (session : Option BgpSession) : List Nat :=
  (session.map fun session => node.routeMapPrepend session.routeMapIn).getD []

omit [DecidableEq Device] in
theorem asPath_routeMap (name : String) (route : BgpRoute Device) :
    (if name = "" then route else node.applyRouteMap name route).asPath =
      node.routeMapPrepend name ++ route.asPath := by
  unfold routeMapPrepend applyRouteMap
  split
  · rfl
  · cases node.routeMaps.lookup name with
    | none => rfl
    | some clauses => rfl

omit [DecidableEq Device] in
/-- The path of an accepted route is the advertised one behind what the inbound route
map prepends; on a session that leaves the sender's AS it was searched for the
receiver's AS. -/
theorem asPath_acceptAdvert {filters : DeviceFilters} {sender : Device} {ebgpHop : Bool}
    {session : Option BgpSession} {advert : Advert Device}
    (accepted : node.acceptAdvert filters sender ebgpHop session advert = some route) :
    route.asPath = node.inboundPrepend session ++ advert.route.asPath ∧
      (ebgpHop = true → ∀ number, node.localAs = some number → number ∉ advert.route.asPath) := by
  unfold acceptAdvert at accepted
  dsimp only at accepted
  obtain ⟨passed, accepted⟩ := ite_none_left_eq_some.mp accepted
  obtain ⟨-, accepted⟩ := ite_none_left_eq_some.mp accepted
  obtain ⟨-, accepted⟩ := ite_none_left_eq_some.mp accepted
  constructor
  · cases session with
    | none =>
      obtain rfl := Option.some.inj accepted
      rfl
    | some session =>
      obtain rfl := Option.some.inj accepted
      exact asPath_routeMap node _ _
  · intro leaving number own inside
    exact passed (by simp [leaving, own, inside])

/-- What acceptance does not look at: the receiver's AS on a session that the sender
takes for an internal one, the confederation identifier, and the numbers that the
inbound route map prepends. -/
def Unsearched (ebgpHop : Bool) (session : Option BgpSession) (asPath : List Nat) : Prop :=
  (ebgpHop = false ∧ ∃ number, node.localAs = some number ∧ number ∈ asPath) ∨
    (∃ identifier, node.confederationId = some identifier ∧ identifier ∈ asPath) ∨
    ∃ number ∈ node.ownNumbers, number ∈ node.inboundPrepend session

omit [DecidableEq Device] in
/-- An accepted route holds one of the receiver's numbers exactly if it does so where
acceptance does not look. -/
theorem clear_acceptAdvert_iff {filters : DeviceFilters} {sender : Device} {ebgpHop : Bool}
    {session : Option BgpSession} {advert : Advert Device}
    (accepted : node.acceptAdvert filters sender ebgpHop session advert = some route) :
    node.Clear route.asPath ↔ ¬ node.Unsearched ebgpHop session advert.route.asPath := by
  obtain ⟨path, searched⟩ := node.asPath_acceptAdvert accepted
  rw [path]
  constructor
  · rintro clear (⟨-, number, own, inside⟩ | ⟨identifier, own, inside⟩ | ⟨number, own, inside⟩)
    · exact (node.clear_iff.mp clear).1 number own (mem_append_right _ inside)
    · exact (node.clear_iff.mp clear).2 identifier own (mem_append_right _ inside)
    · exact clear number own (mem_append_left _ inside)
  · intro covered
    have prepended : ∀ number ∈ node.ownNumbers, number ∉ node.inboundPrepend session :=
      fun number own inside => covered (.inr (.inr ⟨number, own, inside⟩))
    have advertised : node.Clear advert.route.asPath := by
      refine node.clear_iff.mpr ⟨fun number own inside => ?_, fun identifier own inside =>
        covered (.inr (.inl ⟨identifier, own, inside⟩))⟩
      cases hop : ebgpHop with
      | true => exact searched hop number own inside
      | false => exact covered (.inl ⟨hop, number, own, inside⟩)
    intro number own inside
    rcases mem_append.mp inside with front | back
    · exact prepended number own front
    · exact advertised number own back

end BgpNode

variable {device neighbor : Device} {other : BgpEngine Device}

namespace BgpEngine

variable {filters : FilterEngine Device} {engine : BgpEngine Device}

/-- The AS number of a neighbour: its own when it is a speaker, else the one that the
session names. -/
def neighborAs (engine : BgpEngine Device) (device neighbor : Device) : Option Nat :=
  (engine.localAs neighbor).or (engine.remoteAs device neighbor)

/-- The neighbour is in another AS, or another member of the confederation. -/
def Foreign (engine : BgpEngine Device) (device neighbor : Device) : Prop :=
  engine.neighborAs device neighbor ≠ engine.localAs device

instance (engine : BgpEngine Device) (device neighbor : Device) :
    Decidable (engine.Foreign device neighbor) := inferInstanceAs (Decidable (_ ≠ _))

/-- No speaker holds a route from another AS whose path names its own AS or its
confederation. -/
def LoopFree (engine : BgpEngine Device) : Prop :=
  ∀ device neighbor destination route, engine.Foreign device neighbor →
    (engine.node device).ribIn.lookup (neighbor, destination) = some route →
    (engine.node device).Clear route.asPath

/-! ## Steps that bring no new path -/

/-- `other` has the same AS numbers as `engine`, and holds only paths that `engine`
holds. -/
structure Narrows (engine other : BgpEngine Device) : Prop where
  localAs : ∀ device, other.localAs device = engine.localAs device
  confederationId : ∀ device,
    (other.node device).confederationId = (engine.node device).confederationId
  remoteAs : ∀ device neighbor, other.remoteAs device neighbor = engine.remoteAs device neighbor
  held : ∀ device key route, (other.node device).ribIn.lookup key = some route →
    ∃ before, (engine.node device).ribIn.lookup key = some before ∧ before.asPath = route.asPath

theorem Narrows.refl (engine : BgpEngine Device) : Narrows engine engine :=
  ⟨fun _ => rfl, fun _ => rfl, fun _ _ => rfl, fun _ _ route held => ⟨route, held, rfl⟩⟩

theorem Narrows.trans {first second third : BgpEngine Device} (front : Narrows first second)
    (back : Narrows second third) : Narrows first third where
  localAs device := (back.localAs device).trans (front.localAs device)
  confederationId device := (back.confederationId device).trans (front.confederationId device)
  remoteAs device neighbor := (back.remoteAs device neighbor).trans (front.remoteAs device neighbor)
  held device key route lookup := by
    obtain ⟨middle, found, path⟩ := back.held device key route lookup
    obtain ⟨before, start, same⟩ := front.held device key middle found
    exact ⟨before, start, same.trans path⟩

theorem foreign_congr (localAs : ∀ device, other.localAs device = engine.localAs device)
    (remoteAs : ∀ device neighbor, other.remoteAs device neighbor = engine.remoteAs device neighbor)
    (device neighbor : Device) :
    other.Foreign device neighbor ↔ engine.Foreign device neighbor := by
  unfold Foreign neighborAs
  rw [localAs, localAs, remoteAs]

variable {device : Device} {number : Nat}

theorem clear_congr (localAs : other.localAs device = engine.localAs device)
    (confederationId : (other.node device).confederationId = (engine.node device).confederationId)
    (asPath : List Nat) : (other.node device).Clear asPath ↔ (engine.node device).Clear asPath := by
  unfold BgpEngine.localAs at localAs
  unfold BgpNode.Clear BgpNode.ownNumbers
  rw [localAs, confederationId]

theorem LoopFree.narrow (loopFree : engine.LoopFree) (narrows : Narrows engine other) :
    other.LoopFree := by
  intro device neighbor destination route foreign held
  obtain ⟨before, found, path⟩ := narrows.held device _ route held
  rw [clear_congr (narrows.localAs device) (narrows.confederationId device), ← path]
  exact loopFree device neighbor destination before
    ((foreign_congr narrows.localAs narrows.remoteAs device neighbor).mp foreign) found

theorem narrows_modifySession (engine : BgpEngine Device) (device neighbor : Device)
    {update : BgpSession → BgpSession} (keeps : ∀ session, (update session).remoteAs = session.remoteAs) :
    Narrows engine (engine.modifySession device neighbor update) where
  localAs other := localAs_modifySession engine device neighbor other update
  confederationId other := by
    rw [node_modifySession]
    split <;> rfl
  remoteAs first second := by
    unfold remoteAs
    rw [session_modifySession]
    split
    · cases engine.session first second with
      | none => rfl
      | some session => exact congrArg some (keeps session)
    · rfl
  held other key route lookup := by
    rw [node_modifySession] at lookup
    refine ⟨route, ?_, rfl⟩
    split at lookup <;> exact lookup

/-- A change to a speaker that keeps its numbers and brings no path. -/
theorem narrows_modifyNode (engine : BgpEngine Device) (device : Device)
    {update : BgpNode Device → BgpNode Device}
    (localAs : (update (engine.node device)).localAs = (engine.node device).localAs)
    (confederationId :
      (update (engine.node device)).confederationId = (engine.node device).confederationId)
    (remoteAs : ∀ neighbor, ((update (engine.node device)).sessions.lookup neighbor).map
      BgpSession.remoteAs = ((engine.node device).sessions.lookup neighbor).map BgpSession.remoteAs)
    (held : ∀ key route, (update (engine.node device)).ribIn.lookup key = some route →
      ∃ before, (engine.node device).ribIn.lookup key = some before ∧
        before.asPath = route.asPath) :
    Narrows engine (engine.modifyNode device update) where
  localAs other := by
    unfold BgpEngine.localAs
    rw [node_modifyNode]
    split
    case isTrue here => rw [localAs, here]
    case isFalse => rfl
  confederationId other := by
    rw [node_modifyNode]
    split
    case isTrue here => rw [confederationId, here]
    case isFalse => rfl
  remoteAs other neighbor := by
    unfold BgpEngine.remoteAs session
    rw [node_modifyNode]
    split
    case isTrue here => rw [remoteAs, here]
    case isFalse => rfl
  held other key route lookup := by
    rw [node_modifyNode] at lookup
    split at lookup
    case isTrue here => exact here ▸ held key route lookup
    case isFalse => exact ⟨route, lookup, rfl⟩

/-- A change to the other settings of a speaker. -/
theorem narrows_configure (engine : BgpEngine Device) (device : Device)
    {update : BgpNode Device → BgpNode Device}
    (localAs : ∀ node, (update node).localAs = node.localAs)
    (confederationId : ∀ node, (update node).confederationId = node.confederationId)
    (sessions : ∀ node, (update node).sessions = node.sessions)
    (ribIn : ∀ node, (update node).ribIn = node.ribIn) :
    Narrows engine (engine.modifyNode device update) :=
  narrows_modifyNode engine device (localAs _) (confederationId _) (fun _ => by rw [sessions])
    fun key route lookup => ⟨route, by rwa [ribIn] at lookup, rfl⟩

theorem narrows_setState (engine : BgpEngine Device) (device neighbor : Device)
    (state : SessionState) : Narrows engine (engine.setState device neighbor state) :=
  narrows_modifySession engine device neighbor fun _ => rfl

theorem lookup_loseRoutes {ribIn : RibIn Device} {neighbor : Device} {keep : Bool}
    {key : Device × Prefix} (held : (loseRoutes ribIn neighbor keep).lookup key = some route) :
    ∃ before, ribIn.lookup key = some before ∧ before.asPath = route.asPath := by
  unfold loseRoutes at held
  split at held
  case isTrue =>
      rw [lookup_mapValues] at held
      obtain ⟨before, found, same⟩ := map_eq_some_iff.mp held
      refine ⟨before, found, ?_⟩
      rw [← same]
      split <;> rfl
  case isFalse =>
      rw [lookup_filter] at held
      exact ⟨route, (filter_eq_some_iff.mp held).1, rfl⟩

theorem narrows_loseNeighbor (engine : BgpEngine Device) (device neighbor : Device) (keep : Bool) :
    Narrows engine (engine.modifyNode device fun node => loseNeighbor node neighbor keep) :=
  narrows_modifyNode engine device rfl rfl (fun _ => rfl) fun _ _ => lookup_loseRoutes

theorem narrows_beginOpen (engine : BgpEngine Device) (device neighbor : Device) :
    Narrows engine (engine.beginOpen device neighbor).1 := by
  unfold beginOpen
  split
  · exact .refl engine
  · split
    · exact narrows_setState _ _ _ _
    · split
      · exact (narrows_setState _ _ _ _).trans (narrows_setState _ _ _ _)
      · exact narrows_setState _ _ _ _

theorem narrows_establish (engine : BgpEngine Device) (device neighbor : Device) :
    Narrows engine (engine.establish device neighbor) :=
  (narrows_setState _ _ _ _).trans (narrows_setState _ _ _ _)

theorem narrows_downEnd (engine : BgpEngine Device) (device neighbor : Device) :
    Narrows engine (engine.downEnd device neighbor).1 := by
  unfold downEnd
  split
  · exact .refl engine
  · split
    · exact (narrows_setState _ _ _ _).trans (narrows_loseNeighbor _ _ _ _)
    · exact .refl engine

theorem narrows_expireStale (engine : BgpEngine Device) (device neighbor : Device) :
    Narrows engine (engine.expireStale device neighbor) := by
  unfold expireStale
  split
  · exact .refl engine
  · split
    · exact .refl engine
    · exact narrows_loseNeighbor _ _ _ _

/-! ## Rounds -/

/-- A path held after the session ends have contributed was held before, or is the path
of a route that one of them wants there. -/
theorem held_absorb (filters : FilterEngine Device) (engine : BgpEngine Device) (receiver : Device)
    (hops : List (Device × Device)) (ribIn : RibIn Device) {key : Device × Prefix}
    (held : (hops.foldl (absorb filters engine receiver) ribIn).lookup key = some route) :
    (∃ before, ribIn.lookup key = some before ∧ before.asPath = route.asPath) ∨
      ∃ session wanted, (key.1, receiver) ∈ hops ∧ engine.session key.1 receiver = some session ∧
        session.state = .established ∧
        (engine.wantedFrom filters key.1 receiver session).lookup key.2 = some wanted ∧
        wanted.asPath = route.asPath := by
  induction hops generalizing ribIn with
  | nil => exact .inl ⟨route, held, rfl⟩
  | cons hop rest ih =>
    rcases ih _ held with ⟨before, found, path⟩ | ⟨session, wanted, member, others⟩
    case inr => exact .inr ⟨session, wanted, mem_cons_of_mem _ member, others⟩
    case inl =>
        unfold absorb at found
        split at found
        case h_1 => exact .inl ⟨before, found, path⟩
        case h_2 session known =>
            split at found
            case isFalse => exact .inl ⟨before, found, path⟩
            case isTrue delivered =>
                obtain ⟨up, rfl⟩ := delivered
                rw [RibIn.lookup_synchronize] at found
                split at found
                case isFalse => exact .inl ⟨before, found, path⟩
                case isTrue own =>
                    obtain ⟨wanted, lookup, merged⟩ := map_eq_some_iff.mp found
                    refine .inr ⟨session, wanted, ?_, by rw [own]; exact known, up,
                      by rw [own]; exact lookup, ?_⟩
                    · rw [own]
                      exact mem_cons_self ..
                    · rw [← path, ← merged]
                      exact (asPath_mergeRoute _ _).symm

/-- A delivery towards a speaker in another AS brings no route past the search: what is
accepted there holds none of the receiver's numbers where acceptance does not look. -/
def RoundGuarded (filters : FilterEngine Device) (engine : BgpEngine Device) : Prop :=
  ∀ device neighbor session, engine.Delivers device neighbor session →
    engine.Foreign neighbor device →
    ∀ advert ∈ (engine.node device).computeAdverts (filters device) device neighbor session,
      ((engine.node neighbor).acceptAdvert (filters neighbor) device
        ((engine.node device).isEbgp session) (engine.session neighbor device) advert).isSome →
      ¬ (engine.node neighbor).Unsearched ((engine.node device).isEbgp session)
        (engine.session neighbor device) advert.route.asPath

/-- A round leaves the AS numbers alone. -/
theorem numbers_of_config (same : other.config = engine.config) (device : Device) :
    other.localAs device = engine.localAs device ∧
      (other.node device).confederationId = (engine.node device).confederationId := by
  refine ⟨localAs_of_config same device, ?_⟩
  have field := congrArg BgpNode.confederationId (blank_of_config same device)
  exact field

theorem ribIn_roundStep (filters : FilterEngine Device) (engine : BgpEngine Device)
    (device : Device) : ((roundStep filters engine).node device).ribIn =
      if device ∈ engine.nodes.keys then
        engine.sessionEnds.foldl (absorb filters engine device) (engine.node device).ribIn
      else .empty := by
  have kept : ((roundStep filters engine).node device).ribIn =
      ((engine.deliverAll filters).1.node device).ribIn := by
    change ((engine.deliverAll filters).1.recalcAll.node device).ribIn = _
    rw [node_recalcAll]
    split <;> rfl
  rw [kept]
  have ribs := hasRibs_deliverAll filters engine device
  cases found : engine.nodes.lookup device with
  | none =>
    rw [found] at ribs
    rw [if_neg (lookup_eq_none_iff.mp found), node, ribs]
    rfl
  | some node =>
    rw [found] at ribs
    rw [if_pos (mem_keys_iff.mpr ⟨node, found⟩), BgpEngine.node, ribs]
    rfl

section

variable (loopFree : engine.LoopFree)
include loopFree

theorem loopFree_roundStep (guarded : engine.RoundGuarded filters) :
    (roundStep filters engine).LoopFree := by
  intro device neighbor destination route foreign held
  have config : (roundStep filters engine).config = engine.config := config_round filters engine
  obtain ⟨localAs, confederationId⟩ := numbers_of_config config device
  rw [clear_congr localAs confederationId]
  have apart : engine.Foreign device neighbor :=
    (foreign_congr (fun other => (numbers_of_config config other).1)
      (fun first second => remoteAs_of_config config first second) device neighbor).mp foreign
  rw [ribIn_roundStep] at held
  split at held
  case isFalse => cases held
  case isTrue known =>
      rcases held_absorb filters engine device _ _ held with
        ⟨before, found, path⟩ | ⟨session, wanted, member, found, up, lookup, path⟩
      · rw [← path]
        exact loopFree device neighbor destination before apart found
      · obtain ⟨advert, sent, -, accepted⟩ := BgpNode.exists_advert_of_wanted lookup
        have delivers : engine.Delivers neighbor device session :=
          ⟨(mem_sessionEnds.mp member).1, found, up, known⟩
        rw [← path, BgpNode.clear_acceptAdvert_iff _ accepted]
        exact guarded neighbor device session delivers apart advert sent (by rw [accepted]; rfl)

def PropagationGuarded (filters : FilterEngine Device) (engine : BgpEngine Device) : Prop :=
  ∀ count < engine.effectiveRounds filters,
    RoundGuarded filters ((roundStep filters)^[count] engine)

theorem loopFree_propagateBgp (guarded : engine.PropagationGuarded filters) :
    (engine.propagateBgp filters).LoopFree := by
  rw [propagateBgp_eq_iterate]
  have along : ∀ count ≤ engine.effectiveRounds filters,
      ((roundStep filters)^[count] engine).LoopFree := by
    intro count
    induction count with
    | zero => exact fun _ => loopFree
    | succ count ih =>
      intro within
      rw [Function.iterate_succ_apply']
      exact loopFree_roundStep (ih (Nat.le_of_succ_le within)) (guarded count within)
  exact along _ le_rfl

/-! ## Operations -/

/-- An update sent over a session is guarded if the propagation that it may start is. -/
def SendGuarded (filters : FilterEngine Device) (engine : BgpEngine Device)
    (device neighbor : Device) : Prop :=
  engine.established device neighbor = true → engine.PropagationGuarded filters

def ExchangeGuarded (filters : FilterEngine Device) (engine : BgpEngine Device)
    (device neighbor : Device) : Prop :=
  engine.SendGuarded filters device neighbor ∧
    (engine.sendUpdate filters device neighbor).SendGuarded filters neighbor device

/-- An opening that goes on, up to its first updates. -/
def handshake (engine : BgpEngine Device) (device neighbor : Device) : BgpEngine Device :=
  (((engine.beginOpen device neighbor).1.setState device neighbor .openSent).setState device
    neighbor .openConfirm).establish device neighbor

/-- A speaker with one more `network` statement. -/
def originate (engine : BgpEngine Device) (device : Device) (statement : NetworkStatement) :
    BgpEngine Device :=
  engine.modifyNode device fun node =>
    if statement ∈ node.networks then node
    else { node with networks := node.networks ++ [statement] }

/-- The routes held from a neighbour hold none of the speaker's numbers. -/
def RoutesClear (engine : BgpEngine Device) (device neighbor : Device) : Prop :=
  ∀ destination route, (engine.node device).ribIn.lookup (neighbor, destination) = some route →
    (engine.node device).Clear route.asPath

/-- The change of a session end that is followed by a propagation is guarded. -/
def ReconfigureGuarded (filters : FilterEngine Device) (engine : BgpEngine Device)
    (device neighbor : Device) (update : BgpSession → BgpSession) : Prop :=
  (engine.session device neighbor).isSome →
    ((engine.modifyNode device id).modifySession device neighbor update).PropagationGuarded filters

/-- The AS number of an external session after its state has been written. -/
def syncedAs (engine : BgpEngine Device) (device peer : Device) (peerAs : Option Nat) : Nat :=
  (peerAs.filter fun number => decide (number ≠ 0)).getD ((engine.remoteAs device peer).getD 0)

/-- Where a step must bring no route past the search: propagations are guarded, external
updates name none of the receiver's numbers, and a command that changes an AS number
finds no route that holds it. -/
def GuardsPaths (engine : BgpEngine Device) (call : Call Device) : Prop :=
  match call.operation with
  | .start device number =>
    (∀ neighbor destination route, neighbor ≠ device →
      engine.neighborAs device neighbor ≠ some number →
      (engine.node device).ribIn.lookup (neighbor, destination) = some route →
      { engine.node device with localAs := some number }.Clear route.asPath) ∧
    ∀ holder, holder ≠ device → engine.localAs holder ≠ some number →
      engine.RoutesClear holder device
  | .setConfederationIdentifier device identifier =>
    ∀ neighbor destination route, engine.Foreign device neighbor →
      (engine.node device).ribIn.lookup (neighbor, destination) = some route →
      identifier ∉ route.asPath
  | .addNeighbor device neighbor number =>
    engine.isEnabled device = true → engine.localAs neighbor = none →
      engine.localAs device ≠ some number → engine.RoutesClear device neighbor
  | .syncSession device peer peerAs _ =>
    engine.localAs peer = none → engine.localAs device ≠ some (engine.syncedAs device peer peerAs) →
      engine.RoutesClear device peer
  | .applyUpdate device peer update =>
    update.prefixes ≠ [] → engine.Foreign device peer → (engine.node device).Clear update.asPath
  | .setNeighborRouteMap device neighbor name direction =>
    engine.ReconfigureGuarded call.filters device neighbor fun session =>
      match direction with
      | .inbound => { session with routeMapIn := name }
      | .outbound => { session with routeMapOut := name }
  | .setNeighborPrefixList device neighbor name direction =>
    engine.ReconfigureGuarded call.filters device neighbor fun session =>
      match direction with
      | .inbound => { session with prefixListIn := name }
      | .outbound => { session with prefixListOut := name }
  | .setNeighborSendCommunity device neighbor enabled =>
    engine.ReconfigureGuarded call.filters device neighbor fun session =>
      { session with sendCommunity := enabled }
  | .setNeighborRouteReflectorClient device neighbor client =>
    engine.ReconfigureGuarded call.filters device neighbor fun session =>
      { session with reflectorClient := client }
  | .exchangeUpdates device neighbor => engine.ExchangeGuarded call.filters device neighbor
  | .openSession device neighbor =>
    (engine.beginOpen device neighbor).2 = true →
      (engine.handshake device neighbor).ExchangeGuarded call.filters device neighbor ∧
      ((engine.handshake device neighbor).exchangeUpdates call.filters device
        neighbor).ExchangeGuarded call.filters device neighbor
  | .advertiseNetwork device statement =>
    Along (fun engine neighbor => engine.sendUpdate call.filters device neighbor)
      (fun engine neighbor => engine.SendGuarded call.filters device neighbor)
      (engine.originate device statement)
      ((engine.originate device statement).node device).sessions.keys
  | .sessionDown device neighbor =>
    ((engine.downEnd device neighbor).2 ||
      ((engine.downEnd device neighbor).1.downEnd neighbor device).2) = true →
      ((engine.downEnd device neighbor).1.downEnd neighbor device).1.PropagationGuarded call.filters
  | .propagateBgp => engine.PropagationGuarded call.filters
  | _ => True

theorem loopFree_sendUpdate (guarded : engine.SendGuarded filters device neighbor) :
    (engine.sendUpdate filters device neighbor).LoopFree := by
  unfold sendUpdate
  split
  · exact loopFree
  case h_2 session found =>
      split
      case isTrue up =>
          exact loopFree_propagateBgp loopFree (guarded (established_iff.mpr ⟨session, found, up⟩))
      case isFalse => exact loopFree

theorem loopFree_exchangeUpdates (guarded : engine.ExchangeGuarded filters device neighbor) :
    (engine.exchangeUpdates filters device neighbor).LoopFree :=
  loopFree_sendUpdate (loopFree_sendUpdate loopFree guarded.1) guarded.2

theorem loopFree_reconfigureSession {update : BgpSession → BgpSession}
    (keeps : ∀ session, (update session).remoteAs = session.remoteAs)
    (guarded : engine.ReconfigureGuarded filters device neighbor update) :
    (engine.reconfigureSession filters device neighbor update).LoopFree := by
  have created := loopFree.narrow (narrows_configure engine device (fun _ => rfl)
    (fun _ => rfl) (fun _ => rfl) fun _ => rfl)
  unfold reconfigureSession
  dsimp only
  rw [session_modifyNode_id]
  cases found : engine.session device neighbor with
  | none => exact created
  | some session =>
    exact loopFree_propagateBgp (created.narrow (narrows_modifySession _ _ _ keeps))
      (guarded (by rw [found]; rfl))

theorem loopFree_openSession
    (guarded : engine.GuardsPaths ⟨filters, .openSession device neighbor⟩) :
    (engine.openSession filters device neighbor).LoopFree := by
  unfold openSession
  dsimp only
  split
  case isTrue goesOn =>
      obtain ⟨first, second⟩ := guarded goesOn
      have narrows : Narrows engine (engine.handshake device neighbor) :=
        (((narrows_beginOpen engine device neighbor).trans (narrows_setState _ _ _ _)).trans
          (narrows_setState _ _ _ _)).trans (narrows_establish _ _ _)
      exact loopFree_exchangeUpdates (loopFree_exchangeUpdates (loopFree.narrow narrows) first)
        second
  case isFalse => exact loopFree.narrow (narrows_beginOpen engine device neighbor)

end

theorem narrows_originate (engine : BgpEngine Device) (device : Device)
    (statement : NetworkStatement) : Narrows engine (engine.originate device statement) := by
  refine narrows_configure engine device ?_ ?_ ?_ ?_ <;> intro node <;> split <;> rfl

theorem loopFree_advertiseNetwork (loopFree : engine.LoopFree) {statement : NetworkStatement}
    (guarded : engine.GuardsPaths ⟨filters, .advertiseNetwork device statement⟩) :
    (engine.advertiseNetwork filters device statement).LoopFree := by
  have sent : ∀ (neighbors : List Device) (engine : BgpEngine Device), engine.LoopFree →
      Along (fun engine neighbor => engine.sendUpdate filters device neighbor)
        (fun engine neighbor => engine.SendGuarded filters device neighbor) engine neighbors →
      (neighbors.foldl (fun engine neighbor => engine.sendUpdate filters device neighbor)
        engine).LoopFree := by
    intro neighbors
    induction neighbors with
    | nil => exact fun _ loopFree _ => loopFree
    | cons neighbor rest ih =>
      exact fun _ loopFree along => ih _ (loopFree_sendUpdate loopFree along.1) along.2
  exact sent _ _ (loopFree.narrow (narrows_originate engine device statement)) guarded

theorem loopFree_sessionDown (loopFree : engine.LoopFree)
    (guarded : engine.GuardsPaths ⟨filters, .sessionDown device neighbor⟩) :
    (engine.sessionDown filters device neighbor).LoopFree := by
  have down := (loopFree.narrow (narrows_downEnd engine device neighbor)).narrow
    (narrows_downEnd _ neighbor device)
  unfold sessionDown
  dsimp only
  split
  case isTrue lost => exact loopFree_propagateBgp down (guarded lost)
  case isFalse => exact down

theorem loopFree_start (loopFree : engine.LoopFree)
    (guarded : engine.GuardsPaths ⟨filters, .start device number⟩) :
    (engine.start device number).LoopFree := by
  obtain ⟨own, others⟩ := guarded
  intro holder neighbor destination route foreign held
  unfold Foreign neighborAs at foreign
  rw [localAs_start, localAs_start, remoteAs_start] at foreign
  have node : (engine.start device number).node holder = if holder = device then
      { engine.node device with enabled := true, localAs := some number }
      else engine.node holder := node_modifyNode _ _ _ _
  rw [node] at held ⊢
  by_cases here : holder = device
  · subst here
    rw [if_pos rfl] at held ⊢
    rw [if_pos rfl] at foreign
    by_cases self : neighbor = holder
    · rw [if_pos self] at foreign
      exact absurd rfl foreign
    · rw [if_neg self] at foreign
      exact own neighbor destination route self foreign held
  · rw [if_neg here] at held foreign ⊢
    by_cases renumbered : neighbor = device
    · subst renumbered
      rw [if_pos rfl] at foreign
      exact others holder here foreign.symm destination route held
    · rw [if_neg renumbered] at foreign
      exact loopFree holder neighbor destination route foreign held

theorem loopFree_setConfederationIdentifier (loopFree : engine.LoopFree) {identifier : Nat}
    (guarded : engine.GuardsPaths ⟨filters, .setConfederationIdentifier device identifier⟩) :
    (engine.setConfederationIdentifier device identifier).LoopFree := by
  intro holder neighbor destination route foreign held
  have node := node_modifyNode engine device holder fun node =>
    { node with confederationId := some identifier }
  have localAs : ∀ other, (engine.setConfederationIdentifier device identifier).localAs other =
      engine.localAs other := by
    intro other
    unfold BgpEngine.localAs setConfederationIdentifier
    rw [node_modifyNode]
    split
    case isTrue here => rw [here]
    case isFalse => rfl
  have remoteAs : ∀ first second,
      (engine.setConfederationIdentifier device identifier).remoteAs first second =
        engine.remoteAs first second := by
    intro first second
    have keeps : ∀ node : BgpNode Device,
        { node with confederationId := some identifier }.sessions = node.sessions := fun _ => rfl
    unfold BgpEngine.remoteAs setConfederationIdentifier
    rw [session_modifyNode_of_keeps _ _ _ _ keeps]
  have apart := (foreign_congr localAs remoteAs holder neighbor).mp foreign
  unfold setConfederationIdentifier at held ⊢
  rw [node] at held ⊢
  by_cases here : holder = device
  · subst here
    rw [if_pos rfl] at held ⊢
    refine (BgpNode.clear_iff _).mpr ⟨?_, ?_⟩
    · exact ((BgpNode.clear_iff _).mp (loopFree holder neighbor destination route apart held)).1
    · intro number own
      obtain rfl := Option.some.inj own
      exact guarded neighbor destination route apart held
  · rw [if_neg here] at held ⊢
    exact loopFree holder neighbor destination route apart held

theorem loopFree_of_renamed (loopFree : engine.LoopFree)
    (localAs : ∀ device, other.localAs device = engine.localAs device) (confederationId : ∀ device,
      (other.node device).confederationId = (engine.node device).confederationId)
    (remoteAs : ∀ first second, other.remoteAs first second =
      if first = device ∧ second = neighbor then some number else engine.remoteAs first second)
    (ribIn : ∀ device, (other.node device).ribIn = (engine.node device).ribIn)
    (clear : engine.localAs neighbor = none → engine.localAs device ≠ some number →
      engine.RoutesClear device neighbor) : other.LoopFree := by
  intro holder sender destination route foreign held
  rw [clear_congr (localAs holder) (confederationId holder)]
  rw [ribIn] at held
  unfold Foreign neighborAs at foreign
  rw [localAs, localAs, remoteAs] at foreign
  by_cases named : holder = device ∧ sender = neighbor
  · rw [if_pos named] at foreign
    obtain ⟨rfl, rfl⟩ := named
    cases known : engine.localAs sender with
    | none =>
      rw [known] at foreign
      exact clear known foreign.symm destination route held
    | some own =>
      refine loopFree holder sender destination route ?_ held
      unfold Foreign neighborAs
      rw [known] at foreign ⊢
      exact foreign
  · rw [if_neg named] at foreign
    exact loopFree holder sender destination route foreign held

theorem loopFree_addNeighbor (loopFree : engine.LoopFree)
    (guarded : engine.GuardsPaths ⟨filters, .addNeighbor device neighbor number⟩) :
    (engine.addNeighbor device neighbor number).LoopFree := by
  by_cases enabled : engine.isEnabled device = true
  · refine loopFree_of_renamed loopFree (fun _ => localAs_addNeighbor ..) ?_
      (fun first second => ?_) ?_ (guarded enabled)
    · intro other
      rw [node_addNeighbor]
      split
      case isTrue here => rw [here.1]
      case isFalse => rfl
    · rw [remoteAs_addNeighbor]
      simp [enabled]
    · intro other
      rw [node_addNeighbor]
      split
      case isTrue here => rw [here.1]
      case isFalse => rfl
  · refine loopFree.narrow ⟨fun _ => localAs_addNeighbor .., ?_, ?_, ?_⟩
    · intro other
      rw [node_addNeighbor, if_neg fun both => enabled both.2]
    · intro first second
      rw [remoteAs_addNeighbor, if_neg fun both => enabled both.2]
    · intro other key route held
      rw [node_addNeighbor, if_neg fun both => enabled both.2] at held
      exact ⟨route, held, rfl⟩

theorem loopFree_syncSession (loopFree : engine.LoopFree) {peer : Device} {peerAs : Option Nat}
    {state : SessionState}
    (guarded : engine.GuardsPaths ⟨filters, .syncSession device peer peerAs state⟩) :
    (engine.syncSession device peer peerAs state).LoopFree := by
  refine loopFree_of_renamed loopFree ?_ ?_ ?_ ?_ guarded
  · intro other
    unfold BgpEngine.localAs syncSession
    rw [node_modifyNode]
    split
    case isTrue here => rw [here]
    case isFalse => rfl
  · intro other
    unfold syncSession
    rw [node_modifyNode]
    split
    case isTrue here => rw [here]
    case isFalse => rfl
  · intro first second
    unfold BgpEngine.remoteAs session syncSession
    rw [node_modifyNode]
    by_cases here : first = device
    · rw [if_pos here]
      dsimp only
      rw [lookup_insert]
      by_cases named : second = peer
      · rw [if_pos named, if_pos ⟨here, named⟩]
        unfold syncedAs BgpEngine.remoteAs session
        cases (engine.node device).sessions.lookup peer with
        | none => cases peerAs.filter fun number => decide (number ≠ 0) <;> rfl
        | some session => rfl
      · rw [if_neg named, if_neg fun both => named both.2, here]
    · rw [if_neg here, if_neg fun both => here both.1]
  · intro other
    unfold syncSession
    rw [node_modifyNode]
    split
    case isTrue here => rw [here]
    case isFalse => rfl

theorem blank_foldl_announce (peer : Device) (update : ParsedUpdate Device) (node : BgpNode Device)
    (prefixes : List Prefix) :
    (prefixes.foldl (announce peer update) node).blank = node.blank := by
  induction prefixes generalizing node with
  | nil => rfl
  | cons announced rest ih => exact ih _

theorem loopFree_applyUpdate (loopFree : engine.LoopFree) {peer : Device}
    {update : ParsedUpdate Device}
    (guarded : engine.GuardsPaths ⟨filters, .applyUpdate device peer update⟩) :
    (engine.applyUpdate device peer update).LoopFree := by
  have node : ∀ other, (engine.applyUpdate device peer update).node other =
      if other = device then update.prefixes.foldl (announce peer update) (engine.node device)
      else engine.node other := fun other => node_modifyNode _ _ _ _
  have blank : ∀ other, ((engine.applyUpdate device peer update).node other).blank =
      (engine.node other).blank := by
    intro other
    rw [node]
    split
    case isTrue here => rw [blank_foldl_announce, here]
    case isFalse => rfl
  have localAs : ∀ other, (engine.applyUpdate device peer update).localAs other =
      engine.localAs other := fun other => by
    have field := congrArg BgpNode.localAs (blank other)
    exact field
  have confederationId : ∀ other,
      ((engine.applyUpdate device peer update).node other).confederationId =
        (engine.node other).confederationId := fun other => by
    have field := congrArg BgpNode.confederationId (blank other)
    exact field
  have remoteAs : ∀ first second, (engine.applyUpdate device peer update).remoteAs first second =
      engine.remoteAs first second := fun first second => by
    have field := congrArg BgpNode.sessions (blank first)
    exact congrArg (fun sessions => (OrderedMap.lookup sessions second).map BgpSession.remoteAs)
      field
  intro holder sender destination route foreign held
  rw [clear_congr (localAs holder) (confederationId holder)]
  have apart := (foreign_congr localAs remoteAs holder sender).mp foreign
  rw [node] at held
  split at held
  case isFalse => exact loopFree holder sender destination route apart held
  case isTrue here =>
      subst here
      rw [lookup_foldl_announce] at held
      split at held
      case isFalse => exact loopFree holder sender destination route apart held
      case isTrue announced =>
          obtain ⟨rfl, member⟩ := announced
          obtain rfl := Option.some.inj held
          exact guarded (ne_nil_of_mem member) apart

/-- A guarded step brings no route that has been through its receiver before. -/
theorem loopFree_handle (engine : BgpEngine Device) (call : Call Device)
    (loopFree : engine.LoopFree) (guarded : engine.GuardsPaths call) :
    (engine.handle call).LoopFree := by
  obtain ⟨filters, operation⟩ := call
  have configured : ∀ (device : Device) {update : BgpNode Device → BgpNode Device},
      (∀ node, (update node).localAs = node.localAs) →
      (∀ node, (update node).confederationId = node.confederationId) →
      (∀ node, (update node).sessions = node.sessions) →
      (∀ node, (update node).ribIn = node.ribIn) → (engine.modifyNode device update).LoopFree :=
    fun device _ localAs confederationId sessions ribIn =>
      loopFree.narrow (narrows_configure engine device localAs confederationId sessions ribIn)
  have resettled : ∀ (device : Device) {update : BgpNode Device → BgpNode Device}
      (reset : BgpSession → BgpSession),
      (∀ session, (reset session).remoteAs = session.remoteAs) →
      (∀ node, (update node).localAs = node.localAs) →
      (∀ node, (update node).confederationId = node.confederationId) →
      (∀ node, (update node).sessions = node.sessions.mapValues fun _ => reset) →
      (∀ node, (update node).ribIn = node.ribIn) → (engine.modifyNode device update).LoopFree := by
    intro device update reset keeps localAs confederationId sessions ribIn
    refine loopFree.narrow (narrows_modifyNode engine device (localAs _) (confederationId _) ?_
      fun key route held => ⟨route, by rwa [ribIn] at held, rfl⟩)
    intro neighbor
    rw [sessions, lookup_mapValues]
    cases (engine.node device).sessions.lookup neighbor with
    | none => rfl
    | some session => exact congrArg some (keeps session)
  cases operation
  case start => exact loopFree_start loopFree guarded
  case addNeighbor => exact loopFree_addNeighbor loopFree guarded
  case setNeighborPassword device neighbor password =>
      exact (configured device (fun _ => rfl) (fun _ => rfl) (fun _ => rfl)
        fun _ => rfl).narrow (narrows_modifySession _ _ _ fun _ => rfl)
  case setNeighborRouteMap _ _ _ direction =>
      exact loopFree_reconfigureSession loopFree (by intro _; cases direction <;> rfl) guarded
  case setNeighborPrefixList _ _ _ direction =>
      exact loopFree_reconfigureSession loopFree (by intro _; cases direction <;> rfl) guarded
  case setNeighborSendCommunity =>
      exact loopFree_reconfigureSession loopFree (fun _ => rfl) guarded
  case setNeighborRouteReflectorClient =>
      exact loopFree_reconfigureSession loopFree (fun _ => rfl) guarded
  case addRouteMap device _ _ _ _ _ _ =>
      exact configured device (fun _ => rfl) (fun _ => rfl) (fun _ => rfl) fun _ => rfl
  case setGracefulRestart device enabled restartTime =>
      exact resettled device (fun session => { session with
          gracefulRestart := enabled
          restartTime := restartTime.getD session.restartTime })
        (fun _ => rfl) (fun _ => rfl) (fun _ => rfl) (fun _ => rfl) fun _ => rfl
  case setLlgr device enabled =>
      exact resettled device (fun session => { session with llgr := enabled })
        (fun _ => rfl) (fun _ => rfl) (fun _ => rfl) (fun _ => rfl) fun _ => rfl
  case setConfederationIdentifier =>
      exact loopFree_setConfederationIdentifier loopFree guarded
  case addConfederationPeer device _ =>
      exact configured device (fun _ => rfl) (fun _ => rfl) (fun _ => rfl) fun _ => rfl
  case addRoa device _ =>
      exact configured device (fun _ => rfl) (fun _ => rfl) (fun _ => rfl) fun _ => rfl
  case setRpkiInvalidDrop device _ =>
      exact configured device (fun _ => rfl) (fun _ => rfl) (fun _ => rfl) fun _ => rfl
  case beginOpen => exact loopFree.narrow (narrows_beginOpen _ _ _)
  case confirmOpen => exact loopFree.narrow (narrows_setState _ _ _ _)
  case establish => exact loopFree.narrow (narrows_establish _ _ _)
  case exchangeUpdates => exact loopFree_exchangeUpdates loopFree guarded
  case openSession => exact loopFree_openSession loopFree guarded
  case advertiseNetwork => exact loopFree_advertiseNetwork loopFree guarded
  case sessionDown => exact loopFree_sessionDown loopFree guarded
  case expireStale => exact loopFree.narrow (narrows_expireStale _ _ _)
  case propagateBgp => exact loopFree_propagateBgp loopFree guarded
  case syncSession => exact loopFree_syncSession loopFree guarded
  case applyUpdate => exact loopFree_applyUpdate loopFree guarded

theorem loopFree_initial : (initial : BgpEngine Device).LoopFree := fun _ _ _ _ _ held => by
  cases held

/-- In every state that a guarded run passes through no speaker holds a route from
another AS that has been through its own AS or its confederation. -/
theorem loopFree_throughout (calls : List (Call Device))
    (guarded : Along handle GuardsPaths (initial : BgpEngine Device) calls) :
    Throughout handle LoopFree (initial : BgpEngine Device) calls :=
  throughout_of_along (fun engine call => loopFree_handle engine call) loopFree_initial guarded

/-- An external peer in another AS announces a route through that AS only. -/
theorem loopFree_throughout_external : Throughout handle LoopFree (initial : BgpEngine String)
      [⟨fun _ => {}, .start "R1" 65001⟩,
        ⟨fun _ => {}, .syncSession "R1" "192.0.2.1" (some 65002) .established⟩,
        ⟨fun _ => {}, .applyUpdate "R1" "192.0.2.1"
          { asPath := [65002], prefixes := [⟨"10.0.0.0", 8⟩] }⟩] := by
  refine loopFree_throughout _ ⟨⟨?_, ?_⟩, ?_, ?_, trivial⟩
  · exact fun _ _ _ _ _ held => by cases held
  · exact fun _ _ _ _ _ held => by cases held
  · exact fun _ _ _ _ held => by cases held
  · exact fun _ _ => by unfold BgpNode.Clear; decide

/-- An external peer in another AS announces a route that has been through the AS of the
speaker. -/
def loopedAnnouncement : List (Call String) :=
  [⟨fun _ => {}, .start "R1" 65001⟩,
    ⟨fun _ => {}, .syncSession "R1" "192.0.2.1" (some 65002) .established⟩,
    ⟨fun _ => {}, .applyUpdate "R1" "192.0.2.1"
      { asPath := [65002, 65001], prefixes := [⟨"10.0.0.0", 8⟩] }⟩]

/-- The announced route is held, although its path names the AS of the speaker. -/
theorem loopedAnnouncement_held :
    ¬ Throughout handle LoopFree (initial : BgpEngine String) loopedAnnouncement := by
  rintro ⟨-, -, -, loopFree⟩
  have held := loopFree "R1" "192.0.2.1" ⟨"10.0.0.0", 8⟩
    { nextHop := "192.0.2.1", asPath := [65002, 65001] } (by decide) (by decide)
  exact absurd (held 65001 (by decide)) (by decide)

end BgpEngine

end NetLab.Bgp
