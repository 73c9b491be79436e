import NetLab.Bgp.LoopPrevention
import NetLab.Bgp.LocalPref

/-!
# The path of an advertised route

Over an external session a speaker is to advertise its own networks under its AS alone,
and every other destination under its AS followed by the path of its best route. Both kinds
of adverts are generated, and for a destination of both kinds the receiver takes the later
one, that of the best route; `pathsWellFormed_iff` says that nothing else goes wrong. In
either case the path is that of a chain of sessions to a speaker that originates the
destination.
-/

namespace NetLab.Bgp.BgpEngine

open NetLab.Library NetLab.Network NetLab.Execution List Option

variable {Device : Type} [DecidableEq Device]

/-! ## What the paths should be -/

/-- An established session that leaves the AS of its sender, whose number is given, without
route maps and outside of confederations. -/
structure ExternalHop (engine : BgpEngine Device) (device neighbor : Device)
    (session : BgpSession) (number : Nat) : Prop where
  delivers : engine.Delivers device neighbor session
  localAs : (engine.node device).localAs = some number
  leaves : (engine.node device).isEbgp session = true
  unmapped : session.routeMapOut = ""
  unmappedIn : ∀ own, engine.session neighbor device = some own → own.routeMapIn = ""
  independent : (engine.node device).confederationId = none

/-- A speaker has a destination among its own networks. -/
def Originates (engine : BgpEngine Device) (device : Device) (destination : Prefix) : Prop :=
  ∃ statement ∈ (engine.node device).networks, statement.destination = destination

instance (engine : BgpEngine Device) (device : Device) (destination : Prefix) :
    Decidable (engine.Originates device destination) :=
  inferInstanceAs (Decidable (∃ statement ∈ _, _))

/-- What a receiver holds over an external session has the sender's AS as its path, or the
sender's AS in front of the path of its best route. -/
def PathLaw (engine : BgpEngine Device) : Prop :=
  ∀ device neighbor session number, engine.ExternalHop device neighbor session number →
    ∀ destination held, (engine.node neighbor).ribIn.lookup (device, destination) = some held →
      if engine.Originates device destination then held.asPath = [number]
      else ∃ best ∈ (engine.node device).locRib, best.destination = destination ∧
        held.asPath = number :: best.route.asPath

/-- A chain of external sessions from a receiver back to a speaker that originates the
destination. -/
inductive Traces (engine : BgpEngine Device) (destination : Prefix) : Device → List Device → Prop
  | own {sender receiver : Device} {session : BgpSession} {number : Nat}
      (hop : engine.ExternalHop sender receiver session number)
      (originated : engine.Originates sender destination) :
      Traces engine destination receiver [sender]
  | learned {sender receiver : Device} {session : BgpSession} {number : Nat}
      {behind : List Device} (hop : engine.ExternalHop sender receiver session number)
      (rest : Traces engine destination sender behind) :
      Traces engine destination receiver (sender :: behind)

/-- A path is the AS sequence of a chain of sessions that visits no speaker twice. -/
def IsTrace (engine : BgpEngine Device) (destination : Prefix) (receiver sender : Device)
    (asPath : List Nat) : Prop :=
  ∃ behind, engine.Traces destination receiver (sender :: behind) ∧
    (receiver :: sender :: behind).Nodup ∧
    (sender :: behind).map (fun device => (engine.node device).localAs) = asPath.map some

def AllExternal (engine : BgpEngine Device) : Prop :=
  ∀ receiver sender destination held,
    (engine.node receiver).ribIn.lookup (sender, destination) = some held →
      ∃ session number, engine.ExternalHop sender receiver session number

/-- The path law holds, and where all routes are held over external sessions the path of
every held and of every best route is that of a chain of sessions. -/
structure PathsWellFormed (engine : BgpEngine Device) : Prop where
  law : engine.PathLaw
  held : engine.AllExternal → ∀ receiver sender destination held,
    (engine.node receiver).ribIn.lookup (sender, destination) = some held →
      engine.IsTrace destination receiver sender held.asPath
  best : engine.AllExternal → ∀ device, engine.isEnabled device = true →
    ∀ best ∈ (engine.node device).locRib,
      engine.IsTrace best.destination device best.learnedFrom best.route.asPath

/-- No speaker passes on a best path for a destination of its own to a neighbour that
accepts it. -/
def OwnUncontested (filters : FilterEngine Device) (engine : BgpEngine Device) : Prop :=
  ∀ device neighbor session number, engine.ExternalHop device neighbor session number →
    ∀ best ∈ (engine.node device).locRib, engine.Originates device best.destination →
      best.learnedFrom ≠ neighbor →
      (engine.receivedFor filters device neighbor session best).isSome = true →
      best.route.asPath = []

/-! ## What a fixpoint gives -/

section Fixpoint

variable {filters : FilterEngine Device} {engine : BgpEngine Device}
  {device neighbor : Device} {session : BgpSession} {number : Nat}

omit [DecidableEq Device] in
theorem asPath_exportAdvert {node : BgpNode Device} {filters : DeviceFilters}
    {advert exported : Advert Device} (unmapped : session.routeMapOut = "")
    (passed : node.exportAdvert filters session advert = some exported) :
    exported.route.asPath = advert.route.asPath := by
  obtain ⟨-, same⟩ := ite_none_right_eq_some.mp passed
  obtain rfl := Option.some.inj same
  rw [if_pos unmapped]
  split <;> rfl

/-- The receiver has not looked at the path of a held route in vain, and keeps it as it was
advertised. -/
theorem ExternalHop.asPath_accepted (hop : engine.ExternalHop device neighbor session number)
    {advert exported : Advert Device} {route : BgpRoute Device}
    (passed : (engine.node device).exportAdvert (filters device) session advert = some exported)
    (accepted : (engine.node neighbor).acceptAdvert (filters neighbor) device
      ((engine.node device).isEbgp session) (engine.session neighbor device) exported =
        some route) :
    route.asPath = advert.route.asPath ∧
      ∀ own, (engine.node neighbor).localAs = some own → own ∉ advert.route.asPath := by
  obtain ⟨path, searched⟩ := BgpNode.asPath_acceptAdvert _ accepted
  have exports := asPath_exportAdvert hop.unmapped passed
  have nothing : (engine.node neighbor).inboundPrepend (engine.session neighbor device) = [] := by
    unfold BgpNode.inboundPrepend
    cases found : engine.session neighbor device with
    | none => rfl
    | some own =>
      rw [map_some, getD_some, hop.unmappedIn own found]
      rfl
  rw [nothing, nil_append, exports] at path
  rw [exports] at searched
  exact ⟨path, searched hop.leaves⟩

theorem ExternalHop.leavingConfederation (hop : engine.ExternalHop device neighbor session number) :
    (engine.node device).leavingConfederation session = none := by
  unfold BgpNode.leavingConfederation
  rw [hop.independent, ite_self]

theorem ExternalHop.asPath_transit (hop : engine.ExternalHop device neighbor session number)
    (best : LocRoute Device) :
    ((engine.node device).transitAdvert device session best).route.asPath =
      number :: best.route.asPath := by
  unfold BgpNode.transitAdvert BgpNode.advertisedPath
  rw [hop.leavingConfederation, hop.localAs]
  exact if_pos hop.leaves

/-- Over an external session a held route is a network of the sender's own or a best path
of it, and its path does not have the receiver's AS. -/
theorem ExternalHop.source (hop : engine.ExternalHop device neighbor session number)
    (quiet : (engine.round filters).2 = false) {destination : Prefix} {held : BgpRoute Device}
    (found : (engine.node neighbor).ribIn.lookup (device, destination) = some held) :
    (∀ own, (engine.node neighbor).localAs = some own → own ∉ held.asPath) ∧
      ((engine.Originates device destination ∧ held.asPath = [number]) ∨
        ∃ best ∈ (engine.node device).locRib, best.destination = destination ∧
          best.learnedFrom ≠ neighbor ∧
          (engine.receivedFor filters device neighbor session best).isSome = true ∧
          held.asPath = number :: best.route.asPath) := by
  obtain ⟨advert, sent, exported, passed, named, route, accepted, fresh⟩ :=
    exists_advert_of_held quiet hop.delivers found
  obtain ⟨path, searched⟩ := hop.asPath_accepted passed accepted
  have stored : held.asPath = advert.route.asPath :=
    (BgpRoute.of_not_outdated fresh).1.trans path
  rw [stored]
  refine ⟨searched, ?_⟩
  rcases mem_append.mp sent with own | transit
  · obtain ⟨statement, originated, rfl⟩ := mem_map.mp own
    refine .inl ⟨⟨statement, originated, named⟩, ?_⟩
    rw [hop.leavingConfederation, hop.localAs]
    rfl
  · rw [BgpNode.transitAdverts_eq] at transit
    obtain ⟨best, member, rfl⟩ := mem_map.mp transit
    obtain ⟨chosen, passes⟩ := mem_filter.mp member
    have elsewhere : best.learnedFrom ≠ neighbor := by
      simpa using (Bool.and_eq_true_iff.mp passes).1
    refine .inr ⟨best, chosen, named, elsewhere, ?_, hop.asPath_transit best⟩
    unfold receivedFor
    rw [passed, bind_some, accepted]
    rfl

/-- A best path that is passed on and accepted is held under the sender's AS in front of
its own path. -/
theorem ExternalHop.held_of_best (hop : engine.ExternalHop device neighbor session number)
    (fits : engine.Fits) (quiet : (engine.round filters).2 = false) {best : LocRoute Device}
    (chosen : best ∈ (engine.node device).locRib) (elsewhere : best.learnedFrom ≠ neighbor)
    (received : (engine.receivedFor filters device neighbor session best).isSome = true) :
    ∃ held, (engine.node neighbor).ribIn.lookup (device, best.destination) = some held ∧
      held.asPath = number :: best.route.asPath := by
  obtain ⟨route, accepts⟩ := isSome_iff_exists.mp received
  have passes : (engine.node device).passesOn neighbor session best.learnedFrom = true := by
    unfold BgpNode.passesOn
    rw [hop.leaves]
    simpa using elsewhere
  have wanted := wantedFrom_of_best fits hop.delivers.1 chosen passes accepts
  obtain ⟨held, found, fresh⟩ := (RibIn.held_of_not_differs
    (not_differs_of_quiet quiet hop.delivers) best.destination).2 _ wanted
  obtain ⟨exported, passed, accepted⟩ := bind_eq_some_iff.mp accepts
  refine ⟨held, found, (BgpRoute.of_not_outdated fresh).1.trans ?_⟩
  rw [(hop.asPath_accepted passed accepted).1, hop.asPath_transit]

theorem notMem_of_path {devices : List Device} {asPath : List Nat}
    (numbers : devices.map (fun device => (engine.node device).localAs) = asPath.map some)
    {receiver : Device}
    (searched : ∀ own, (engine.node receiver).localAs = some own → own ∉ asPath) :
    receiver ∉ devices := by
  intro member
  have numbered : (engine.node receiver).localAs ∈ asPath.map some := by
    rw [← numbers]
    exact mem_map.mpr ⟨receiver, member, rfl⟩
  obtain ⟨own, inside, same⟩ := mem_map.mp numbered
  exact searched own same.symm inside

/-- Where all routes are held over external sessions, each of them leads along a chain. -/
theorem isTrace_of_held (fits : engine.Fits) (quiet : (engine.round filters).2 = false)
    (external : engine.AllExternal) {receiver sender : Device} {destination : Prefix}
    {held : BgpRoute Device}
    (found : (engine.node receiver).ribIn.lookup (sender, destination) = some held) :
    engine.IsTrace destination receiver sender held.asPath := by
  -- by induction on the length of the path, which grows by one with every hop
  induction size : held.asPath.length using Nat.strong_induction_on
    generalizing receiver sender held with
  | _ length shorter =>
    obtain ⟨session, number, hop⟩ := external receiver sender destination held found
    obtain ⟨searched, source⟩ := hop.source quiet found
    rcases source with ⟨originated, path⟩ | ⟨best, chosen, rfl, -, -, path⟩
    · have numbers : [sender].map (fun device => (engine.node device).localAs) =
          held.asPath.map some := by
        rw [path, map_singleton, map_singleton, hop.localAs]
      exact ⟨[], .own hop originated, nodup_cons.mpr
        ⟨notMem_of_path numbers searched, nodup_singleton sender⟩, numbers⟩
    · have earlier := ((fits sender hop.delivers.1).chosen best chosen).1
      obtain ⟨behind, traces, distinct, numbers⟩ :=
        shorter best.route.asPath.length (by rw [← size, path]; exact Nat.lt_succ_self _)
          earlier rfl
      have longer : (sender :: best.learnedFrom :: behind).map
          (fun device => (engine.node device).localAs) = held.asPath.map some := by
        rw [path, map_cons, numbers, hop.localAs, map_cons]
      exact ⟨best.learnedFrom :: behind, .learned hop traces,
        nodup_cons.mpr ⟨notMem_of_path longer searched, distinct⟩, longer⟩

/-- At a fixpoint the advertised paths are well formed if and only if no speaker passes on
a best path for a destination of its own. -/
theorem pathsWellFormed_iff (synced : engine.Synced) (quiet : (engine.round filters).2 = false) :
    engine.PathsWellFormed ↔ engine.OwnUncontested filters := by
  have fits := fits_of_synced synced
  constructor
  · intro formed device neighbor session number hop best chosen originated elsewhere received
    obtain ⟨held, found, path⟩ := hop.held_of_best fits quiet chosen elsewhere received
    have law := formed.law device neighbor session number hop best.destination held found
    rw [if_pos originated, path] at law
    exact (List.cons.inj law).2
  · intro uncontested
    refine ⟨fun device neighbor session number hop destination held found => ?_,
      fun external receiver sender destination held found =>
        isTrace_of_held fits quiet external found,
      fun external device enabled best chosen =>
        isTrace_of_held fits quiet external ((fits device enabled).chosen best chosen).1⟩
    obtain ⟨-, source⟩ := hop.source quiet found
    split
    case isTrue originated =>
        rcases source with ⟨-, path⟩ | ⟨best, chosen, rfl, elsewhere, received, path⟩
        · exact path
        · rw [path, uncontested device neighbor session number hop best chosen originated
            elsewhere received]
    case isFalse foreign =>
        rcases source with ⟨originated, -⟩ | ⟨best, chosen, named, -, -, path⟩
        · exact absurd originated foreign
        · exact ⟨best, chosen, named, path⟩

end Fixpoint

/-- Speakers 0, 1 and 2 in a row, each in an AS of its own; those of a list originate the
same network. -/
def rowCalls (origins : List (Fin 3)) : List (Operation (Fin 3)) :=
  [.start 0 65001, .start 1 65002, .start 2 65003, .addNeighbor 0 1 65002,
    .addNeighbor 1 0 65001, .addNeighbor 1 2 65003, .addNeighbor 2 1 65002, .openSession 0 1,
    .openSession 1 2] ++ origins.map fun device => .advertiseNetwork device ⟨"10.0.0.0", some 8⟩

def row (origins : List (Fin 3)) : BgpEngine (Fin 3) :=
  (runFrom handle initial ((rowCalls origins).map (Call.mk fun _ => {}))).propagateBgp fun _ => {}

/-- With one origin there is nothing to contest. -/
theorem row_pathsWellFormed : (row [0]).PathsWellFormed := by
  have quiet : ((row [0]).round fun _ => {}).2 = false := by decide +kernel
  refine (pathsWellFormed_iff (synced_propagateBgp _ _) quiet).mpr ?_
  have apart : ∀ device : Fin 3, ∀ best ∈ ((row [0]).node device).locRib,
      ¬ (row [0]).Originates device best.destination := by decide +kernel
  intro device neighbor session number hop best chosen originated
  exact absurd originated (apart device best chosen)

/-- Speaker 1 originates the network too, and speaker 2 holds it with speaker 0's AS in its
path. -/
theorem row_second_origin : (row [0, 1]).Synced ∧
    ((row [0, 1]).round fun _ => {}).2 = false ∧ ¬ (row [0, 1]).PathsWellFormed := by
  refine ⟨synced_propagateBgp _ _, by decide +kernel, fun formed => ?_⟩
  have hop : (row [0, 1]).ExternalHop 1 2 { remoteAs := 65003, state := .established } 65002 :=
    { delivers := ⟨by decide +kernel, by decide +kernel, rfl, by decide +kernel⟩
      localAs := by decide +kernel
      leaves := by decide +kernel
      unmapped := rfl
      unmappedIn := by
        intro own found
        have expected : (row [0, 1]).session 2 1 =
            some { remoteAs := 65002, state := .established } := by decide +kernel
        cases expected.symm.trans found
        rfl
      independent := by decide +kernel }
  have paths : (((row [0, 1]).node 2).ribIn.lookup (1, ⟨"10.0.0.0", 8⟩)).map BgpRoute.asPath =
      some [65002, 65001] := by decide +kernel
  obtain ⟨held, found, path⟩ := map_eq_some_iff.mp paths
  have law := formed.law 1 2 _ _ hop _ held found
  rw [if_pos (by decide +kernel), path] at law
  cases law

end NetLab.Bgp.BgpEngine
