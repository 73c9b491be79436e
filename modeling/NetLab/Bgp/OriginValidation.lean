import NetLab.Library.Folds
import NetLab.Library.LeadingBits
import NetLab.Bgp.LoopPrevention

/-!
# Origin validation

The authorisations of a speaker say which AS may originate a destination, and a speaker that
drops invalid routes refuses them when they are advertised to it. A propagation looks at
every route again that is advertised over an established session. Routes that nobody
advertises any more, and those that an external peer announces, it does not look at:
`enforced_iff`.
-/

namespace NetLab.Bgp

open NetLab.Library NetLab.Network NetLab.Execution List Option

variable {Device : Type} [DecidableEq Device]

/-! ## Validation -/

/-- The destination is inside the authorised one: it is no shorter, and has its leading
bits. -/
def Roa.Covers (roa : Roa) (destination : Prefix) : Prop :=
  roa.destination.length ≤ destination.length ∧
    leadingBits 32 roa.destination.length (addressValue destination.network) =
      leadingBits 32 roa.destination.length (addressValue roa.destination.network)

/-- Validation as the standard has it: not found without a covering authorisation, valid
when one of these allows the origin and the length, and invalid otherwise. -/
structure ValidatesOrigins (node : BgpNode Device) (destination : Prefix) (originAs : Nat) :
    Prop where
  notFound : node.rpkiValidate destination originAs = .notFound ↔
    ¬ ∃ roa ∈ node.roas, roa.Covers destination
  valid : node.rpkiValidate destination originAs = .valid ↔
    ∃ roa ∈ node.roas, roa.Covers destination ∧ roa.originAs = originAs ∧
      destination.length ≤ roa.maxLength
  invalid : node.rpkiValidate destination originAs = .invalid ↔
    (∃ roa ∈ node.roas, roa.Covers destination) ∧
      ¬ ∃ roa ∈ node.roas, roa.Covers destination ∧ roa.originAs = originAs ∧
        destination.length ≤ roa.maxLength

omit [DecidableEq Device] in
theorem mem_coveringRoas {node : BgpNode Device} {destination : Prefix} {roa : Roa} :
    roa ∈ node.coveringRoas destination ↔ roa ∈ node.roas ∧ roa.Covers destination := by
  unfold BgpNode.coveringRoas Roa.Covers
  rw [mem_filter, Bool.and_eq_true, decide_eq_true_eq, beq_iff_eq]
  have masks := @and_leadingMask_eq_iff 32 roa.destination.length
    (addressValue destination.network) (addressValue roa.destination.network)
  rw [← masks]
  rfl

omit [DecidableEq Device] in
theorem validatesOrigins (node : BgpNode Device) (destination : Prefix) (originAs : Nat) :
    ValidatesOrigins node destination originAs := by
  have covered : (node.coveringRoas destination).isEmpty = true ↔
      ¬ ∃ roa ∈ node.roas, roa.Covers destination := by
    rw [List.isEmpty_iff, eq_nil_iff_forall_not_mem]
    simp only [mem_coveringRoas, not_and, not_exists]
  have allowed : ((node.coveringRoas destination).any fun roa =>
      decide (destination.length ≤ roa.maxLength) && originAs == roa.originAs) = true ↔
      ∃ roa ∈ node.roas, roa.Covers destination ∧ roa.originAs = originAs ∧
        destination.length ≤ roa.maxLength := by
    rw [List.any_eq_true]
    simp only [mem_coveringRoas, Bool.and_eq_true, decide_eq_true_eq, beq_iff_eq]
    constructor
    · rintro ⟨roa, ⟨member, covers⟩, short, origin⟩
      exact ⟨roa, member, covers, origin.symm, short⟩
    · rintro ⟨roa, member, covers, origin, short⟩
      exact ⟨roa, ⟨member, covers⟩, short, origin.symm⟩
  have inside : (∃ roa ∈ node.roas, roa.Covers destination ∧ roa.originAs = originAs ∧
      destination.length ≤ roa.maxLength) → ∃ roa ∈ node.roas, roa.Covers destination := by
    rintro ⟨roa, member, covers, -⟩
    exact ⟨roa, member, covers⟩
  by_cases found : ∃ roa ∈ node.roas, roa.Covers destination
  · have some : (node.coveringRoas destination).isEmpty ≠ true := fun none => covered.mp none found
    by_cases permitted : ∃ roa ∈ node.roas, roa.Covers destination ∧ roa.originAs = originAs ∧
        destination.length ≤ roa.maxLength
    · have result : node.rpkiValidate destination originAs = .valid :=
        (if_neg some).trans (if_pos (allowed.mpr permitted))
      exact ⟨iff_of_false (by simp [result]) (not_not_intro found), iff_of_true result permitted,
        iff_of_false (by simp [result]) fun both => both.2 permitted⟩
    · have result : node.rpkiValidate destination originAs = .invalid :=
        (if_neg some).trans (if_neg fun any => permitted (allowed.mp any))
      exact ⟨iff_of_false (by simp [result]) (not_not_intro found),
        iff_of_false (by simp [result]) permitted, iff_of_true result ⟨found, permitted⟩⟩
  · have result : node.rpkiValidate destination originAs = .notFound :=
      if_pos (covered.mpr found)
    have none : ¬ ∃ roa ∈ node.roas, roa.Covers destination ∧ roa.originAs = originAs ∧
        destination.length ≤ roa.maxLength := fun permitted => found (inside permitted)
    exact ⟨iff_of_true result found, iff_of_false (by simp [result]) none,
      iff_of_false (by simp [result]) fun both => found both.1⟩

/-! ## Enforcement -/

namespace BgpNode

variable (node : BgpNode Device)

def advertisesTo (neighbor : Device) : Bool :=
  node.enabled &&
    (node.sessions.lookup neighbor).any fun session => decide (session.state = .established)

/-- The AS that a held route comes from. A path that the inbound route map has made up as a
whole was advertised without one. -/
def originAs (sender : Device) (advertised : Bool) (route : BgpRoute Device) : Option Nat :=
  if advertised = true ∧ route.asPath = node.inboundPrepend (node.sessions.lookup sender) then none
  else route.asPath.getLast?

/-- What the authorisations of a speaker say about a route that it holds. -/
def originState (sender : Device) (advertised : Bool) (destination : Prefix)
    (route : BgpRoute Device) : RpkiState :=
  match node.originAs sender advertised route with
  | none => .notFound
  | some origin => node.rpkiValidate destination origin

end BgpNode

namespace BgpEngine

/-- The verdict of a speaker on a route that it holds from a sender. -/
def originState (engine : BgpEngine Device) (device sender : Device) (destination : Prefix)
    (route : BgpRoute Device) : RpkiState :=
  (engine.node device).originState sender ((engine.node sender).advertisesTo device) destination
    route

/-- A speaker that drops invalid routes holds none that is not stale. -/
def Enforced (engine : BgpEngine Device) (device : Device) : Prop :=
  (engine.node device).rpkiInvalidDrop = true → ∀ sender destination held,
    (engine.node device).ribIn.lookup (sender, destination) = some held → held.stale = false →
      engine.originState device sender destination held ≠ .invalid

/-- The two ways in which routes arrive. -/
inductive Arrival (Device : Type) where
  | propagation (filters : FilterEngine Device)
  | announcement (device peer : Device) (update : ParsedUpdate Device)

def arrive (engine : BgpEngine Device) : Arrival Device → BgpEngine Device
  | .propagation filters => engine.propagateBgp filters
  | .announcement device peer update => engine.applyUpdate device peer update

/-- Origins are validated as the standard has it, and after an arrival every speaker that it
concerns holds no invalid route if it drops them. -/
structure EnforcedAfter (engine : BgpEngine Device) (arrival : Arrival Device) : Prop where
  validates : ∀ device destination origin,
    ValidatesOrigins (engine.node device) destination origin
  enforced : ∀ device, (match arrival with
    | .propagation _ => True
    | .announcement receiver _ _ => device = receiver) → (engine.arrive arrival).Enforced device

/-- Among the routes that an arrival does not look at there is no invalid one: before a
propagation those from neighbours that do not advertise, before an announcement all that
stay and those announced. -/
def UncheckedValid (engine : BgpEngine Device) : Arrival Device → Prop
  | .propagation _ => ∀ device, (engine.node device).rpkiInvalidDrop = true →
      ∀ sender destination held, (engine.node sender).advertisesTo device = false →
        (engine.node device).ribIn.lookup (sender, destination) = some held →
        held.stale = false → engine.originState device sender destination held ≠ .invalid
  | .announcement device peer update => (engine.node device).rpkiInvalidDrop = true →
      (∀ sender destination held, ¬ (sender = peer ∧ destination ∈ update.prefixes) →
        (engine.node device).ribIn.lookup (sender, destination) = some held →
        held.stale = false → engine.originState device sender destination held ≠ .invalid) ∧
      ∀ destination ∈ update.prefixes,
        engine.originState device peer destination (update.route peer) ≠ .invalid

variable {filters : FilterEngine Device} {engine other : BgpEngine Device}

/-- The verdict on a route depends on the configuration only. -/
theorem originState_of_blank
    (same : ∀ device, (other.node device).blank = (engine.node device).blank)
    (device sender : Device) (destination : Prefix) (route : BgpRoute Device) :
    other.originState device sender destination route =
      engine.originState device sender destination route := by
  change (other.node device).blank.originState sender
    ((other.node sender).blank.advertisesTo device) destination route = _
  rw [same, same]
  rfl

theorem dropsInvalid_of_blank
    (same : ∀ device, (other.node device).blank = (engine.node device).blank) (device : Device) :
    (other.node device).rpkiInvalidDrop = (engine.node device).rpkiInvalidDrop := by
  have field := congrArg BgpNode.rpkiInvalidDrop (same device)
  exact field

theorem advertisesTo_of_blank
    (same : ∀ device, (other.node device).blank = (engine.node device).blank)
    (device sender : Device) :
    (other.node sender).advertisesTo device = (engine.node sender).advertisesTo device := by
  change (other.node sender).blank.advertisesTo device = _
  rw [same]
  rfl

theorem advertisesTo_iff {sender device : Device} :
    (engine.node sender).advertisesTo device = true ↔ engine.isEnabled sender = true ∧
      ∃ session, engine.session sender device = some session ∧ session.state = .established := by
  unfold BgpNode.advertisesTo isEnabled BgpEngine.session
  rw [Bool.and_eq_true, Option.any_eq_true]
  simp only [decide_eq_true_eq]

theorem originState_of_accepted {device sender : Device} {ebgpHop : Bool}
    {advert : Advert Device} {route held : BgpRoute Device}
    (drops : (engine.node device).rpkiInvalidDrop = true)
    (advertised : (engine.node sender).advertisesTo device = true)
    (accepted : (engine.node device).acceptAdvert (filters device) sender ebgpHop
      (engine.session device sender) advert = some route) (path : held.asPath = route.asPath) :
    engine.originState device sender advert.destination held ≠ .invalid := by
  have prepended : route.asPath =
      (engine.node device).inboundPrepend ((engine.node device).sessions.lookup sender) ++
        advert.route.asPath := (BgpNode.asPath_acceptAdvert _ accepted).1
  unfold BgpNode.acceptAdvert at accepted
  dsimp only at accepted
  obtain ⟨-, accepted⟩ := ite_none_left_eq_some.mp accepted
  obtain ⟨-, accepted⟩ := ite_none_left_eq_some.mp accepted
  obtain ⟨checked, -⟩ := ite_none_left_eq_some.mp accepted
  unfold originState BgpNode.originState BgpNode.originAs
  rw [advertised, path, prepended]
  cases last : advert.route.asPath.getLast? with
  | none =>
    rw [getLast?_eq_none_iff.mp last, append_nil, if_pos ⟨rfl, rfl⟩]
    exact nofun
  | some origin =>
    rw [last] at checked
    rw [if_neg, getLast?_append, last]
    · exact fun invalid => checked ⟨invalid, drops⟩
    · rintro ⟨-, same⟩
      rw [append_right_eq_self.mp same] at last
      cases last

/-! ## Propagation -/

/-- No route held from a neighbour that advertises is invalid if the speaker drops such
routes, and every other route is held as before. -/
structure Checked (engine : BgpEngine Device) (device : Device) (before ribIn : RibIn Device) :
    Prop where
  advertised : (engine.node device).rpkiInvalidDrop = true → ∀ sender destination held,
    (engine.node sender).advertisesTo device = true →
      ribIn.lookup (sender, destination) = some held →
        engine.originState device sender destination held ≠ .invalid
  others : ∀ sender destination, (engine.node sender).advertisesTo device = false →
    ribIn.lookup (sender, destination) = before.lookup (sender, destination)

theorem originState_of_wanted {device sender : Device} {session : BgpSession}
    {destination : Prefix} {wanted held : BgpRoute Device}
    (drops : (engine.node device).rpkiInvalidDrop = true)
    (advertised : (engine.node sender).advertisesTo device = true)
    (lookup : (engine.wantedFrom filters sender device session).lookup destination = some wanted)
    (path : held.asPath = wanted.asPath) :
    engine.originState device sender destination held ≠ .invalid := by
  obtain ⟨advert, -, rfl, accepted⟩ := BgpNode.exists_advert_of_wanted lookup
  exact originState_of_accepted drops advertised accepted path

/-- One session end replaces the routes of its own speaker, and only if that speaker
advertises to the receiver. -/
theorem lookup_absorb (device : Device) {hop : Device × Device}
    (member : hop ∈ engine.sessionEnds) (ribIn : RibIn Device) (sender : Device)
    (destination : Prefix) :
    (¬ (hop = (sender, device) ∧ (engine.node sender).advertisesTo device = true) ∧
        (absorb filters engine device ribIn hop).lookup (sender, destination) =
          ribIn.lookup (sender, destination)) ∨
      (hop = (sender, device) ∧ (engine.node sender).advertisesTo device = true ∧
        ∀ held, (absorb filters engine device ribIn hop).lookup (sender, destination) = some held →
          (engine.node device).rpkiInvalidDrop = true →
            engine.originState device sender destination held ≠ .invalid) := by
  obtain ⟨speaker, receiver⟩ := hop
  obtain ⟨enabled, session, known⟩ := mem_sessionEnds.mp member
  unfold absorb
  dsimp only
  rw [known]
  dsimp only
  by_cases delivered : session.state = .established ∧ receiver = device
  · obtain ⟨up, rfl⟩ := delivered
    rw [if_pos ⟨up, rfl⟩, RibIn.lookup_synchronize]
    have advertised : (engine.node speaker).advertisesTo receiver = true :=
      advertisesTo_iff.mpr ⟨enabled, session, known, up⟩
    by_cases own : sender = speaker
    · subst own
      refine .inr ⟨rfl, advertised, fun held found drops => ?_⟩
      rw [if_pos rfl] at found
      obtain ⟨wanted, lookup, rfl⟩ := map_eq_some_iff.mp found
      exact originState_of_wanted drops advertised lookup (asPath_mergeRoute _ _)
    · rw [if_neg own]
      exact .inl ⟨fun both => own (congrArg Prod.fst both.1).symm, rfl⟩
  · rw [if_neg delivered]
    refine .inl ⟨?_, rfl⟩
    rintro ⟨same, advertised⟩
    obtain ⟨rfl, rfl⟩ := Prod.mk.inj same
    obtain ⟨-, other, found, up⟩ := advertisesTo_iff.mp advertised
    cases known.symm.trans found
    exact delivered ⟨up, rfl⟩

/-- A round looks at all routes that are advertised, and at no others. -/
theorem checked_roundStep (filters : FilterEngine Device) (engine : BgpEngine Device)
    (device : Device) :
    engine.Checked device (engine.node device).ribIn
      ((roundStep filters engine).node device).ribIn := by
  have pass : (∀ sender destination, (engine.node sender).advertisesTo device = false →
      (engine.sessionEnds.foldl (absorb filters engine device) (engine.node device).ribIn).lookup
        (sender, destination) = (engine.node device).ribIn.lookup (sender, destination)) ∧
      ∀ hop ∈ engine.sessionEnds, hop.2 = device →
        (engine.node hop.1).advertisesTo device = true → ∀ destination held,
          (engine.sessionEnds.foldl (absorb filters engine device)
            (engine.node device).ribIn).lookup (hop.1, destination) = some held →
          (engine.node device).rpkiInvalidDrop = true →
            engine.originState device hop.1 destination held ≠ .invalid := by
    refine foldl_done (fun ribIn : RibIn Device => ∀ sender destination,
        (engine.node sender).advertisesTo device = false → ribIn.lookup (sender, destination) =
          (engine.node device).ribIn.lookup (sender, destination))
      (fun (ribIn : RibIn Device) (hop : Device × Device) => hop.2 = device → (engine.node hop.1).advertisesTo device = true →
        ∀ destination held, ribIn.lookup (hop.1, destination) = some held →
          (engine.node device).rpkiInvalidDrop = true →
            engine.originState device hop.1 destination held ≠ .invalid) ?_ ?_ ?_ fun _ _ _ => rfl
    · intro ribIn hop member kept sender destination silent
      rcases lookup_absorb device member ribIn sender destination with ⟨-, same⟩ | ⟨-, advertised, -⟩
      · exact same.trans (kept sender destination silent)
      · exact absurd advertised (by simp [silent])
    · intro ribIn hop member _ here advertised destination
      rcases lookup_absorb device member ribIn hop.1 destination with ⟨elsewhere, -⟩ | ⟨-, -, valid⟩
      · exact absurd ⟨Prod.ext rfl here, advertised⟩ elsewhere
      · exact valid
    · intro ribIn hop other member _ done here advertised destination held found drops
      rcases lookup_absorb device member ribIn other.1 destination with ⟨-, same⟩ | ⟨-, -, valid⟩
      · exact done here advertised destination held (same ▸ found) drops
      · exact valid held found drops
  rw [ribIn_roundStep]
  split
  case isTrue =>
      refine ⟨fun drops sender destination held advertised found => ?_, pass.1⟩
      obtain ⟨enabled, session, known, -⟩ := advertisesTo_iff.mp advertised
      exact pass.2 (sender, device) (mem_sessionEnds.mpr ⟨enabled, session, known⟩) rfl advertised
        destination held found drops
  case isFalse missing =>
      have blank : engine.node device = {} := by
        unfold node
        rw [OrderedMap.lookup_eq_none_iff.mpr missing]
        rfl
      rw [blank]
      exact ⟨fun _ _ _ _ _ found => (nomatch found), fun _ _ _ => rfl⟩

theorem checked_propagateBgp (filters : FilterEngine Device) (engine : BgpEngine Device)
    (device : Device) :
    engine.Checked device (engine.node device).ribIn
      ((engine.propagateBgp filters).node device).ribIn := by
  have rounds : ∀ count, ((roundStep filters)^[count] engine).config = engine.config ∧
      engine.Checked device (engine.node device).ribIn
        (((roundStep filters)^[count + 1] engine).node device).ribIn := by
    intro count
    induction count with
    | zero => exact ⟨rfl, checked_roundStep filters engine device⟩
    | succ count ih =>
      obtain ⟨config, checked⟩ := ih
      have still : ((roundStep filters)^[count + 1] engine).config = engine.config := by
        rw [Function.iterate_succ_apply']
        exact (config_round filters _).trans config
      have same := blank_of_config still
      have next := checked_roundStep filters ((roundStep filters)^[count + 1] engine) device
      have speaking : ∀ sender,
          (((roundStep filters)^[count + 1] engine).node sender).advertisesTo device =
            (engine.node sender).advertisesTo device := advertisesTo_of_blank same device
      refine ⟨still, fun drops sender destination held advertised found => ?_,
        fun sender destination silent => ?_⟩
      · rw [Function.iterate_succ_apply'] at found
        have valid := next.advertised ((dropsInvalid_of_blank same device).trans drops) sender
          destination held ((speaking sender).trans advertised) found
        rwa [originState_of_blank same] at valid
      · rw [Function.iterate_succ_apply']
        exact (next.others sender destination ((speaking sender).trans silent)).trans
          (checked.others sender destination silent)
  rw [propagateBgp_eq_iterate]
  unfold effectiveRounds
  split
  · exact (rounds 39).2
  · exact (rounds 0).2

/-! ## Arrivals -/

/-- What a speaker holds after the announcements of an external peer. -/
theorem lookup_applyUpdate (engine : BgpEngine Device) (device peer : Device)
    (update : ParsedUpdate Device) (sender : Device) (destination : Prefix) :
    ((engine.applyUpdate device peer update).node device).ribIn.lookup (sender, destination) =
      if sender = peer ∧ destination ∈ update.prefixes then some (update.route peer)
      else (engine.node device).ribIn.lookup (sender, destination) := by
  unfold applyUpdate
  rw [node_modifyNode, if_pos rfl, lookup_foldl_announce]

theorem blank_applyUpdate (engine : BgpEngine Device) (device peer other : Device)
    (update : ParsedUpdate Device) :
    ((engine.applyUpdate device peer update).node other).blank = (engine.node other).blank := by
  unfold applyUpdate
  rw [node_modifyNode]
  split
  case isTrue same =>
      subst same
      generalize engine.node other = node
      induction update.prefixes generalizing node with
      | nil => rfl
      | cons announced rest ih => exact (ih _).trans rfl
  case isFalse => rfl

/-- After an arrival invalid routes are kept out if and only if there are none among those
that it does not look at. -/
theorem enforced_iff (engine : BgpEngine Device) (arrival : Arrival Device) :
    engine.EnforcedAfter arrival ↔ engine.UncheckedValid arrival := by
  have validates : ∀ device destination origin,
      ValidatesOrigins (engine.node device) destination origin := fun device =>
    validatesOrigins (engine.node device)
  cases arrival with
  | propagation filters =>
    have same := blank_of_config (config_propagateBgp filters engine)
    constructor
    · intro kept device drops sender destination held silent found fresh
      have after := (checked_propagateBgp filters engine device).others sender destination silent
      have valid := kept.enforced device trivial
        ((dropsInvalid_of_blank same device).trans drops) sender destination held
        (after.trans found) fresh
      exact originState_of_blank same device sender destination held ▸ valid
    · intro valid
      refine ⟨validates, fun device _ drops sender destination held found fresh => ?_⟩
      rw [arrive, dropsInvalid_of_blank same] at drops
      rw [arrive, originState_of_blank same]
      have checked := checked_propagateBgp filters engine device
      cases speaking : (engine.node sender).advertisesTo device with
      | true => exact checked.advertised drops sender destination held speaking found
      | false =>
        exact valid device drops sender destination held speaking
          ((checked.others sender destination speaking).symm.trans found) fresh
  | announcement device peer update =>
    have same := fun other => blank_applyUpdate engine device peer other update
    have lookup := lookup_applyUpdate engine device peer update
    constructor
    · intro kept drops
      have enforced := kept.enforced device rfl ((dropsInvalid_of_blank same device).trans drops)
      constructor
      · intro sender destination held stays found fresh
        have valid := enforced sender destination held
          (((lookup sender destination).trans (if_neg stays)).trans found) fresh
        exact originState_of_blank same device sender destination held ▸ valid
      · intro destination announced
        have valid := enforced peer destination (update.route peer)
          ((lookup peer destination).trans (if_pos ⟨rfl, announced⟩)) rfl
        exact originState_of_blank same device peer destination (update.route peer) ▸ valid
    · intro valid
      refine ⟨validates, ?_⟩
      rintro _ rfl drops sender destination held found fresh
      rw [arrive, dropsInvalid_of_blank same] at drops
      rw [arrive, lookup] at found
      rw [arrive, originState_of_blank same]
      obtain ⟨stays, announced⟩ := valid drops
      split at found
      case isTrue new =>
          obtain ⟨rfl, inside⟩ := new
          cases found
          exact announced destination inside
      case isFalse old => exact stays sender destination held old found fresh

/-- A speaker that drops invalid routes, with an authorisation for AS 65002. -/
def guarded : BgpEngine String :=
  runFrom handle initial ([.start "R1" 65001, .addRoa "R1" ⟨⟨"10.0.0.0", 8⟩, 8, 65002⟩,
    .setRpkiInvalidDrop "R1" true].map (Call.mk fun _ => {}))

/-- An external peer announces the authorised network out of another AS. -/
def hijackUpdate : ParsedUpdate String where
  asPath := [65003]
  prefixes := [⟨"10.0.0.0", 8⟩]

theorem guarded_refutes :
    guarded.originState "R1" "192.0.2.1" ⟨"10.0.0.0", 8⟩ (hijackUpdate.route "192.0.2.1") =
      .invalid := by
  have origin : (guarded.node "R1").originAs "192.0.2.1"
      ((guarded.node "192.0.2.1").advertisesTo "R1") (hijackUpdate.route "192.0.2.1") =
        some 65003 := by decide +kernel
  have roas : (guarded.node "R1").roas = [⟨⟨"10.0.0.0", 8⟩, 8, 65002⟩] := by decide +kernel
  unfold originState BgpNode.originState
  rw [origin]
  refine (validatesOrigins _ _ _).invalid.mpr ⟨⟨_, roas ▸ mem_cons_self, le_rfl, rfl⟩, ?_⟩
  rintro ⟨roa, member, -, origin, -⟩
  rw [roas, mem_singleton] at member
  subst member
  cases origin

/-- The hijacked route is held. -/
theorem guarded_hijacked :
    ¬ guarded.EnforcedAfter (.announcement "R1" "192.0.2.1" hijackUpdate) := by
  intro kept
  have held := (lookup_applyUpdate guarded "R1" "192.0.2.1" hijackUpdate "192.0.2.1"
    ⟨"10.0.0.0", 8⟩).trans (if_pos ⟨rfl, mem_cons_self⟩)
  have valid := kept.enforced "R1" rfl (by decide +kernel) _ _ _ held rfl
  rw [arrive, originState_of_blank fun other =>
    blank_applyUpdate guarded "R1" "192.0.2.1" other hijackUpdate] at valid
  exact valid guarded_refutes

end BgpEngine

end NetLab.Bgp
