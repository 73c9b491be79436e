import NetLab.Eigrp.Machine
import NetLab.Library.Execution
import NetLab.Library.Hearsay
import Mathlib.Data.Prod.Lex
import Mathlib.Data.Finset.Prod
import Mathlib.Order.OrderIsoNat
import Mathlib.Algebra.GroupWithZero.Nat

/-!
# Cascades of EIGRP updates

An update that changes a table is passed on before its sender goes on, with no bound on
the depth and none on the metric. A cascade ends if no update closes a ring of routers
that have the destination from each other, and no sender has a destination twice. Then
the routes come to rest as labels taken over by hearsay do, and the calls that are left
only get fewer.
-/

namespace NetLab.Eigrp

open NetLab.Library NetLab.Network NetLab.Execution List Function Call EigrpRoute

variable {Device : Type} [DecidableEq Device]

namespace EigrpWorld

variable (world : EigrpWorld Device)

/-- Learned-from links for the destination lead from one router to another. -/
def LeadsTo (destination : Prefix) (first second : Device) : Prop :=
  Relation.ReflTransGen (fun device peer => world.HasLearned device destination peer) first second

/-- The receiver has no route to the destination of the entry, or one from elsewhere that
the entry replaces. -/
def TakesOver (receiver source : Device) (entry : EigrpEntry) : Prop :=
  ∀ existing ∈ routeTo (world.nodes receiver).topology entry.destination,
    existing.learnedFrom ≠ some source ∧ accepts existing source entry = true

/-- The sender of an update that is handled has each destination once, and the receiver
takes none over whose learned-from links lead from the sender back to it. -/
def Grounded : Call Device → Prop
  | .sendUpdate device (peer :: _) =>
    device ∈ (world.nodes peer).neighbors →
    ((world.nodes device).topology.map destination).Nodup ∧
    ∀ entry ∈ world.received peer device, world.TakesOver peer device entry →
      ¬ world.LeadsTo entry.destination device peer
  | _ => True

def StepGrounded : EigrpEvent Device → Prop
  | .proceed => ∀ call ∈ world.calls.head?, world.Grounded call
  | _ => True

/-- No router has a destination, through others, from itself. -/
def NoRing : Prop :=
  ∀ destination device,
    ¬ Relation.TransGen (fun first second => world.HasLearned first destination second) device device

end EigrpWorld

variable {world : EigrpWorld Device}

/-! ## Rings -/

omit [DecidableEq Device] in
theorem noRing_of_fewer (noRing : world.NoRing) {nodes : Device → EigrpNode Device}
    (fewer : ∀ device, ∀ route ∈ (nodes device).topology, route.learnedFrom ≠ none →
      route ∈ (world.nodes device).topology) :
    EigrpWorld.NoRing { world with nodes } := by
  refine fun destination device ring => noRing destination device ?_
  refine Relation.TransGen.mono (fun first second learned => ?_) _ _ ring
  obtain ⟨route, member, same, isSource⟩ := learned
  exact ⟨route, fewer first route member (by rw [isSource]; exact Option.some_ne_none _), same,
    isSource⟩

theorem received_once (notRedistributing : ∀ device, (world.nodes device).redistributed = [])
    {source : Device} (once : ((world.nodes source).topology.map destination).Nodup)
    (receiver : Device) :
    ((world.received receiver source).map EigrpEntry.destination).Nodup := by
  have listed : (((world.nodes source).updateEntries receiver).map
      EigrpEntry.destination).Nodup := by
    rw [EigrpNode.updateEntries, notRedistributing, map_nil, append_nil, map_map]
    exact once.sublist (filter_sublist.map _)
  exact listed.sublist (((filter_sublist).trans filter_sublist).map _)

/-- A learned route of a router that handles an update was there, or is taken over from
the sender. -/
theorem learned_cases (sound : world.Sound) {receiver source : Device}
    (once : ((world.nodes source).topology.map destination).Nodup)
    {route : EigrpRoute Device} (member : route ∈ (world.learned receiver source).1)
    (learned : route.learnedFrom ≠ none) :
    route ∈ (world.nodes receiver).topology ∨ route.learnedFrom = some source ∧
      (world.HasLearned receiver route.destination source ∨
        ∃ entry ∈ world.received receiver source, entry.destination = route.destination ∧
          world.TakesOver receiver source entry) := by
  have notRedistributing := fun device => (sound device).notRedistributing
  rcases mem_receiveEntries member with old | ⟨listed, isListed, offered⟩
  · exact .inl old
  have counts : routeTo (world.learned receiver source).1 route.destination = some route :=
    ((sound receiver).wellFormed.receiveEntries _).routeTo_learned member learned
  have isSource : route.learnedFrom = some source := by rw [offered]; rfl
  rcases routeTo_receiveEntries (peerIp world.surroundings.network receiver source) source
    (world.nodes receiver).topology (received_once notRedistributing once receiver)
    route.destination with ⟨-, unlisted⟩ | ⟨entry, isEntry, same, decided⟩
  · exact absurd (by rw [offered]; rfl) (unlisted listed isListed)
  have result := Option.some.inj (counts.symm.trans decided)
  cases before : routeTo (world.nodes receiver).topology route.destination with
  | none =>
    refine .inr ⟨isSource, .inr ⟨entry, isEntry, same, fun existing found => ?_⟩⟩
    rw [same, before] at found
    cases found
  | some existing =>
    rw [before, outcome] at result
    have isExisting : existing ∈ (world.nodes receiver).topology := mem_of_find?_eq_some before
    split at result
    · rename_i accepted
      by_cases same' : existing.learnedFrom = some source
      · have destination : existing.destination = route.destination := by
          simpa using find?_some before
        exact .inr ⟨isSource, .inl ⟨existing, isExisting, destination, same'⟩⟩
      · refine .inr ⟨isSource, .inr ⟨entry, isEntry, same, fun other found => ?_⟩⟩
        rw [same, before] at found
        cases found
        exact ⟨same', accepted⟩
    · rw [result]
      exact .inl isExisting

theorem noRing_step (sound : world.Sound) (noRing : world.NoRing) {event : EigrpEvent Device}
    (grounded : world.StepGrounded event) : (world.step event).NoRing := by
  have effect := world.step_effect event
  suffices after : EigrpWorld.NoRing { world with nodes := (world.step event).nodes } from after
  generalize (world.step event).nodes = nodes at effect
  have ofUpdate : ∀ (changed : Device) (node : EigrpNode Device),
      (∀ route ∈ node.topology, route.learnedFrom ≠ none → route ∈ (world.nodes changed).topology) →
      EigrpWorld.NoRing { world with nodes := Function.update world.nodes changed node } := by
    intro changed node fewer
    refine noRing_of_fewer noRing fun device route member learned => ?_
    by_cases same : device = changed
    · rw [same, update_self] at member
      rw [same]
      exact fewer route member learned
    · rwa [update_of_ne same] at member
  cases effect with
  | same => exact noRing
  | meets receiver source => exact ofUpdate receiver _ fun _ member _ => member
  | configures configured kValues passiveIfaces => exact ofUpdate configured _ fun _ member _ => member
  | loses loser lost => exact ofUpdate loser _ fun _ member _ => (mem_filter.mp member).1
  | shuts shut => exact ofUpdate shut _ fun _ member _ => by cases member
  | starts started asn networks =>
    refine ofUpdate started _ fun route member learned => ?_
    rcases mem_addDirect member with before | ⟨destination, -, rfl⟩
    · exact before
    · exact absurd rfl learned
  | learns receiver source targets rest isProceed call enabled sourceEnabled isNeighbor =>
    subst isProceed
    obtain ⟨once, apart⟩ := grounded (.sendUpdate source (receiver :: targets))
      (by rw [call]; rfl) isNeighbor
    intro destination
    have edges : ∀ first second, EigrpWorld.HasLearned { world with
        nodes := Function.update world.nodes receiver
          { world.nodes receiver with topology := (world.learned receiver source).1 } }
        first destination second → world.HasLearned first destination second ∨
          (first = receiver ∧ second = source) ∧ ∃ entry ∈ world.received receiver source,
            entry.destination = destination ∧ world.TakesOver receiver source entry := by
      rintro first second ⟨route, member, rfl, isSecond⟩
      dsimp only at member
      by_cases same : first = receiver
      · subst same
        rw [update_self] at member
        have learned : route.learnedFrom ≠ none := by
          rw [isSecond]
          exact Option.some_ne_none _
        rcases learned_cases sound once member learned with old | ⟨isSource, before | taken⟩
        · exact .inl ⟨route, old, rfl, isSecond⟩
        · exact .inl (Option.some.inj (isSecond.symm.trans isSource) ▸ before)
        · exact .inr ⟨⟨rfl, Option.some.inj (isSecond.symm.trans isSource)⟩, taken⟩
      · rw [update_of_ne same] at member
        exact .inl ⟨route, member, rfl, isSecond⟩
    by_cases taken : ∃ entry ∈ world.received receiver source,
        entry.destination = destination ∧ world.TakesOver receiver source entry
    · obtain ⟨entry, isEntry, rfl, takes⟩ := taken
      exact Hearsay.no_ring_of_edge (fun first second learned =>
        (edges first second learned).imp_right And.left) (apart entry isEntry takes)
        (noRing entry.destination)
    · intro device ring
      refine noRing destination device (Relation.TransGen.mono (fun first second learned => ?_) _ _ ring)
      exact (edges first second learned).resolve_right fun new => taken new.2

/-! ## A cascade -/

/-- A call that takes routes away. -/
def Call.isLoss : Call Device → Bool
  | .neighborDown _ _ => true
  | .shutdown _ => true
  | _ => false

/-- A state in the middle of a cascade that takes no routes away, with the routers and
destinations it may involve. -/
structure Passing (devices : Finset Device) (destinations : Finset Prefix)
    (world : EigrpWorld Device) : Prop where
  sound : world.Sound
  noRing : world.NoRing
  sends : ∀ call ∈ world.calls, call.isLoss = false
  known : ∀ device, (world.nodes device).enabled = true → device ∈ devices
  listed : ∀ device, ∀ route ∈ (world.nodes device).topology, route.destination ∈ destinations

variable {devices : Finset Device} {destinations : Finset Prefix}

/-- Routes to one destination, as labels that routers take over from each other. -/
def hearsay (network : VirtualNetwork Device) (devices : Finset Device) :
    Hearsay {device // device ∈ devices} (EigrpRoute Device) where
  metric := fd
  source route := route.learnedFrom.bind fun peer =>
    if member : peer ∈ devices then some ⟨peer, member⟩ else none
  pass receiver sender route := offeredRoute (peerIp network receiver sender) sender route.entry
  cost := linkCost
  cost_pos := by decide
  metric_pass _ _ _ := rfl
  source_pass _ sender _ := by simp [offeredRoute, sender.2]

def EigrpWorld.labels (world : EigrpWorld Device) (devices : Finset Device)
    (destination : Prefix) (device : {device // device ∈ devices}) : Option (EigrpRoute Device) :=
  routeTo (world.nodes device).topology destination

section

variable {rest : List (Call Device)} {call : Call Device} {after : EigrpWorld Device}
  (ran : EigrpWorld.Ran world rest call after) (sends : call.isLoss = false)
include ran sends

/-- A call in a cascade leaves alone who is enabled. -/
theorem ran_enabled (device : Device) :
    (after.nodes device).enabled = (world.nodes device).enabled := by
  have update : ∀ (changed : Device) (node : EigrpNode Device),
      node.enabled = (world.nodes changed).enabled →
        (Function.update world.nodes changed node device).enabled =
          (world.nodes device).enabled := by
    intro changed node same
    by_cases here : device = changed
    · rw [here, update_self, same]
    · rw [update_of_ne here]
  cases ran with
  | returns => rfl
  | helloLeft => rfl
  | meets => exact update _ _ rfl
  | answers => rfl
  | updateLeft => rfl
  | learns => exact update _ _ rfl
  | announces => rfl
  | loses => cases sends
  | shuts => cases sends

/-- It changes no table, or is an update that is handled. -/
theorem ran_topology : (∀ device, (after.nodes device).topology = (world.nodes device).topology) ∨
      ∃ receiver source targets, call = .sendUpdate source (receiver :: targets) ∧
        (world.nodes source).enabled = true ∧ source ∈ (world.nodes receiver).neighbors ∧
        ∀ device, (after.nodes device).topology = if device = receiver then
          (world.learned receiver source).1 else (world.nodes device).topology := by
  cases ran with
  | returns => exact .inl fun _ => rfl
  | helloLeft => exact .inl fun _ => rfl
  | meets device peer =>
    refine .inl fun other => ?_
    by_cases here : other = peer
    · simp [here]
    · simp [here]
  | answers => exact .inl fun _ => rfl
  | updateLeft => exact .inl fun _ => rfl
  | learns device peer targets enabled peerEnabled isNeighbor =>
    refine .inr ⟨peer, device, targets, rfl, enabled, isNeighbor, fun other => ?_⟩
    by_cases here : other = peer
    · simp [here]
    · simp [here]
  | announces => exact .inl fun _ => rfl
  | loses => cases sends
  | shuts => cases sends

/-- The calls a cascade makes take no routes away either. -/
theorem ran_sends (others : ∀ other ∈ rest, other.isLoss = false) :
    ∀ other ∈ after.calls, other.isLoss = false := by
  cases ran with
  | returns => exact others
  | helloLeft => exact forall_mem_cons.mpr ⟨rfl, others⟩
  | meets =>
    exact forall_mem_cons.mpr ⟨rfl, forall_mem_cons.mpr ⟨rfl, forall_mem_cons.mpr ⟨rfl, others⟩⟩⟩
  | answers => exact forall_mem_cons.mpr ⟨rfl, others⟩
  | updateLeft => exact forall_mem_cons.mpr ⟨rfl, others⟩
  | learns =>
    refine forall_mem_append.mpr ⟨?_, forall_mem_cons.mpr ⟨rfl, others⟩⟩
    split <;> simp [isLoss]
  | announces => exact forall_mem_cons.mpr ⟨rfl, others⟩
  | loses => cases sends
  | shuts => cases sends

end

theorem Passing.proceed (passing : Passing devices destinations world)
    (grounded : world.StepGrounded .proceed) :
    Passing devices destinations world.proceed := by
  have sound : world.proceed.Sound := passing.sound.step .proceed
  have noRing : world.proceed.NoRing := noRing_step passing.sound passing.noRing grounded
  cases calls : world.calls with
  | nil =>
    have stays : world.proceed = world := by simp [EigrpWorld.proceed, calls]
    rwa [stays]
  | cons call rest =>
    have ran := EigrpWorld.proceed_ran calls
    have sends := passing.sends
    rw [calls] at sends
    obtain ⟨isSend, others⟩ := forall_mem_cons.mp sends
    refine ⟨sound, noRing, ran_sends ran isSend others, fun device isEnabled => ?_,
      fun device route member => ?_⟩
    · exact passing.known device (ran_enabled ran isSend device ▸ isEnabled)
    · rcases ran_topology ran isSend with same | ⟨receiver, source, targets, -, -, -, after⟩
      · rw [same] at member
        exact passing.listed device route member
      · rw [after] at member
        split at member
        · rcases mem_receiveEntries member with old | ⟨entry, isEntry, rfl⟩
          · exact passing.listed receiver route old
          · obtain ⟨⟨sent, isSent, -, rfl⟩, -⟩ :=
              (mem_received fun device => (passing.sound device).notRedistributing).mp isEntry
            exact passing.listed source sent isSent
        · exact passing.listed device route member

theorem Passing.moves (passing : Passing devices destinations world)
    (grounded : world.StepGrounded .proceed) (destination : Prefix) :
    (hearsay world.surroundings.network devices).Moves (world.labels devices destination)
      (world.proceed.labels devices destination) := by
  intro node
  cases calls : world.calls with
  | nil =>
    have stays : world.proceed = world := by simp [EigrpWorld.proceed, calls]
    rw [stays]
    exact .inl rfl
  | cons call rest =>
    have ran := EigrpWorld.proceed_ran calls
    have isSend := passing.sends call (calls ▸ mem_cons_self)
    unfold EigrpWorld.labels
    rcases ran_topology ran isSend with same |
      ⟨receiver, source, targets, isUpdate, enabled, isNeighbor, after⟩
    · rw [same]
      exact .inl rfl
    rw [after]
    obtain ⟨device, isDevice⟩ := node
    dsimp only
    by_cases here : device = receiver
    swap
    · rw [if_neg here]
      exact .inl rfl
    subst here
    rw [if_pos rfl]
    have sendsGrounded : world.Grounded (.sendUpdate source (device :: targets)) := by
      rw [← isUpdate]
      exact grounded call (by rw [calls]; rfl)
    obtain ⟨once, -⟩ := sendsGrounded isNeighbor
    have notRedistributing := fun device => (passing.sound device).notRedistributing
    rcases routeTo_receiveEntries (peerIp world.surroundings.network device source) source
      (world.nodes device).topology (received_once notRedistributing once device)
      destination with ⟨kept, -⟩ | ⟨entry, isEntry, same, decided⟩
    · exact .inl kept
    obtain ⟨⟨route, isRoute, -, rfl⟩, -⟩ := (mem_received notRedistributing).mp isEntry
    have offered : routeTo (world.nodes source).topology destination = some route := by
      rw [← same]
      exact routeTo_of_once isRoute once
    cases before : routeTo (world.nodes device).topology destination with
    | none =>
      rw [before] at decided
      exact .inr ⟨⟨source, passing.known source enabled⟩, route, offered, decided,
        fun old isOld => by cases isOld⟩
    | some existing =>
      rw [before, outcome] at decided
      split at decided
      · rename_i accepted
        refine .inr ⟨⟨source, passing.known source enabled⟩, route, offered, decided,
          fun old isOld => ?_⟩
        cases isOld
        simp only [accepts, Bool.and_eq_true, Bool.or_eq_true, decide_eq_true_eq,
          beq_iff_eq] at accepted
        refine accepted.2.imp_right fun isSource => ?_
        simp [hearsay, isSource, passing.known source enabled]
      · exact .inl decided

/-- Labels that form a ring are routes that do. -/
theorem hasFrom_hasLearned {network : VirtualNetwork Device} {destination : Prefix}
    {first second : {device // device ∈ devices}}
    (hasFrom : (hearsay network devices).HasFrom (world.labels devices destination) first second) :
    world.HasLearned first destination second := by
  obtain ⟨route, isRoute, isSource⟩ := hasFrom
  refine ⟨route, mem_of_find?_eq_some isRoute, by simpa using find?_some isRoute, ?_⟩
  obtain ⟨peer, isPeer, found⟩ := Option.bind_eq_some_iff.mp isSource
  split at found
  · rw [isPeer, ← Option.some.inj found]
  · cases found

/-- Every state of a grounded cascade is one in the middle of it. -/
theorem Passing.iterate (passing : Passing devices destinations world)
    (grounded : ∀ count, (EigrpWorld.proceed^[count] world).StepGrounded .proceed) (count : ℕ) :
    Passing devices destinations (EigrpWorld.proceed^[count] world) := by
  induction count with
  | zero => exact passing
  | succ count ih =>
    rw [iterate_succ_apply']
    exact ih.proceed (grounded count)

/-- The surroundings stay throughout a cascade. -/
theorem iterate_surroundings (world : EigrpWorld Device) (count : ℕ) :
    (EigrpWorld.proceed^[count] world).surroundings = world.surroundings := by
  induction count with
  | zero => rfl
  | succ count ih =>
    rw [iterate_succ_apply', EigrpWorld.proceed_surroundings, ih]

theorem Passing.still (passing : Passing devices destinations world)
    (grounded : ∀ count, (EigrpWorld.proceed^[count] world).StepGrounded .proceed) :
    ∃ start, ∀ later ≥ start, ∀ device destination,
      routeTo ((EigrpWorld.proceed^[later] world).nodes device).topology destination =
        routeTo ((EigrpWorld.proceed^[start] world).nodes device).topology destination := by
  have each : ∀ destination, ∃ start, ∀ later ≥ start,
      (EigrpWorld.proceed^[later] world).labels devices destination =
        (EigrpWorld.proceed^[start] world).labels devices destination := by
    intro destination
    have moves : ∀ time, (hearsay world.surroundings.network devices).Moves
        ((EigrpWorld.proceed^[time] world).labels devices destination)
        ((EigrpWorld.proceed^[time + 1] world).labels devices destination) := by
      intro time
      rw [iterate_succ_apply', ← iterate_surroundings world time]
      exact (passing.iterate grounded time).moves (grounded time) destination
    refine Hearsay.eventually_still moves fun time device ring => ?_
    refine (passing.iterate grounded time).noRing destination device ?_
    exact Relation.TransGen.lift Subtype.val (fun _ _ => hasFrom_hasLearned) _ _ ring
  choose start fixed using each
  refine ⟨destinations.sup start, fun later late device destination => ?_⟩
  by_cases isListed : destination ∈ destinations
  · have early : start destination ≤ destinations.sup start := Finset.le_sup isListed
    by_cases isKnown : device ∈ devices
    · have same := (fixed destination later (early.trans late)).trans
        (fixed destination (destinations.sup start) early).symm
      exact congrFun same ⟨device, isKnown⟩
    · have empty : ∀ time, ((EigrpWorld.proceed^[time] world).nodes device).topology = [] := by
        intro time
        have middle := passing.iterate grounded time
        by_contra nonempty
        exact isKnown (middle.known device ((middle.sound device).enabled nonempty))
      rw [empty, empty]
  · have unlisted : ∀ time,
        routeTo ((EigrpWorld.proceed^[time] world).nodes device).topology destination = none := by
      intro time
      refine find?_eq_none.mpr fun route member same => isListed ?_
      have listed := (passing.iterate grounded time).listed device route member
      rwa [eq_of_beq same] at listed
    rw [unlisted, unlisted]

/-! ## The calls that are left -/

/-- A call of which there is one for each start. -/
def Call.isAnnounce : Call Device → Bool
  | .announce _ => true
  | _ => false

/-- Steps a call has left if nothing changes. -/
def Call.weight : Call Device → ℕ
  | .sendHello _ peers => peers.length + 1
  | .answer _ _ => 3
  | .sendUpdate _ targets => targets.length + 1
  | .announce _ => 1
  | .neighborDown _ _ => 1
  | .shutdown _ => 1

/-- Pairs of known routers of which the first does not have the second as neighbour. -/
def strangers (devices : Finset Device) (world : EigrpWorld Device) : ℕ :=
  ((devices ×ˢ devices).filter fun pair => pair.2 ∉ (world.nodes pair.1).neighbors).card

/-- Starts to be announced, pairs of routers that may still meet, and steps left. -/
def remaining (devices : Finset Device) (world : EigrpWorld Device) : ℕ ×ₗ ℕ ×ₗ ℕ :=
  toLex (world.calls.countP isAnnounce,
    toLex (strangers devices world, (world.calls.map weight).sum))

theorem strangers_meets {receiver source : Device} (isReceiver : receiver ∈ devices)
    (isSource : source ∈ devices) (new : source ∉ (world.nodes receiver).neighbors)
    (calls : List (Call Device)) :
    strangers devices { world with
      nodes := Function.update world.nodes receiver { world.nodes receiver with
        neighbors := (world.nodes receiver).neighbors ++ [source] }
      calls } < strangers devices world := by
  refine Finset.card_lt_card (Finset.ssubset_iff_of_subset ?_ |>.mpr ⟨(receiver, source), ?_, ?_⟩)
  · intro pair member
    obtain ⟨isPair, apart⟩ := Finset.mem_filter.mp member
    refine Finset.mem_filter.mpr ⟨isPair, fun known => apart ?_⟩
    by_cases here : pair.1 = receiver
    · rw [here] at known
      simp [here, known]
    · simpa [here] using known
  · exact Finset.mem_filter.mpr ⟨Finset.mem_product.mpr ⟨isReceiver, isSource⟩, new⟩
  · simp

variable {call : Call Device} {after : EigrpWorld Device}

theorem remaining_announced {before : EigrpWorld Device}
    (fewer : after.calls.countP isAnnounce < before.calls.countP isAnnounce) :
    remaining devices after < remaining devices before :=
  Prod.Lex.toLex_lt_toLex.mpr (.inl fewer)

/-- Steps left count if the rest stays. -/
theorem remaining_lighter {before : EigrpWorld Device}
    (same : after.calls.countP isAnnounce = before.calls.countP isAnnounce)
    (neighbors : ∀ device, (after.nodes device).neighbors = (before.nodes device).neighbors)
    (lighter : (after.calls.map weight).sum < (before.calls.map weight).sum) :
    remaining devices after < remaining devices before := by
  refine Prod.Lex.toLex_lt_toLex.mpr (.inr ⟨same, Prod.Lex.toLex_lt_toLex.mpr (.inr ⟨?_, lighter⟩)⟩)
  simp only [strangers, neighbors]

theorem remaining_decreases {rest : List (Call Device)} (calls : world.calls = call :: rest)
    (ran : EigrpWorld.Ran world rest call after) (sends : call.isLoss = false)
    (passing : Passing devices destinations world) (grounded : world.Grounded call)
    (still : ∀ device destination, routeTo (after.nodes device).topology destination =
      routeTo (world.nodes device).topology destination) :
    remaining devices after < remaining devices world := by
  have nonzero : 0 < call.weight := by cases call <;> simp [weight]
  cases ran with
  | returns =>
    by_cases announces : call.isAnnounce = true
    · refine remaining_announced ?_
      rw [calls, countP_cons_of_pos announces]
      exact Nat.lt_succ_self _
    · refine remaining_lighter ?_ (fun _ => rfl) ?_
      · rw [calls, countP_cons_of_neg announces]
      · rw [calls, map_cons, sum_cons]
        exact Nat.lt_add_of_pos_left nonzero
  | helloLeft device peer peers =>
    refine remaining_lighter ?_ (fun _ => rfl) ?_
    · rw [calls]
      rfl
    · rw [calls]
      simp [weight]
  | meets device peer peers enabled peerEnabled new =>
    refine Prod.Lex.toLex_lt_toLex.mpr (.inr ⟨?_, Prod.Lex.toLex_lt_toLex.mpr (.inl ?_)⟩)
    · rw [calls]
      rfl
    · exact strangers_meets (passing.known peer peerEnabled) (passing.known device enabled) new _
  | answers receiver source =>
    refine remaining_lighter ?_ (fun _ => rfl) ?_
    · rw [calls]
      rfl
    · rw [calls]
      simp [weight]
  | updateLeft device peer targets =>
    refine remaining_lighter ?_ (fun _ => rfl) ?_
    · rw [calls]
      rfl
    · rw [calls]
      simp [weight]
  | learns device peer targets enabled peerEnabled isNeighbor =>
    have unchanged : (world.learned peer device).2 = false := by
      refine Bool.eq_false_iff.mpr fun changed => ?_
      have once := received_once (fun device => (passing.sound device).notRedistributing)
        (grounded isNeighbor).1 peer
      obtain ⟨destination, differs⟩ := receiveEntries_changed once changed
      have same := still peer destination
      dsimp only at same
      rw [update_self] at same
      exact differs same
    rw [unchanged]
    refine remaining_lighter ?_ (fun other => ?_) ?_
    · rw [calls]
      rfl
    · by_cases here : other = peer <;> simp [here]
    · rw [calls]
      simp [weight]
  | announces device =>
    refine remaining_announced ?_
    have isAnnounce : (announce device).isAnnounce = true := rfl
    rw [calls, countP_cons_of_neg Bool.false_ne_true, countP_cons_of_pos isAnnounce]
    exact Nat.lt_succ_self _
  | loses => cases sends
  | shuts => cases sends

theorem Passing.ends (passing : Passing devices destinations world)
    (grounded : ∀ count, (EigrpWorld.proceed^[count] world).StepGrounded .proceed) :
    ∃ count, (EigrpWorld.proceed^[count] world).calls = [] := by
  by_contra endless
  have inProgress : ∀ count, (EigrpWorld.proceed^[count] world).calls ≠ [] :=
    fun count empty => endless ⟨count, empty⟩
  obtain ⟨start, still⟩ := passing.still grounded
  have falls : ∀ time, remaining devices (EigrpWorld.proceed^[start + (time + 1)] world) <
      remaining devices (EigrpWorld.proceed^[start + time] world) := by
    intro time
    have middle := passing.iterate grounded (start + time)
    obtain ⟨call, rest, calls⟩ := exists_cons_of_ne_nil (inProgress (start + time))
    have ran := EigrpWorld.proceed_ran calls
    have isSend := middle.sends call (calls ▸ mem_cons_self)
    have next : EigrpWorld.proceed^[start + (time + 1)] world =
        (EigrpWorld.proceed^[start + time] world).proceed := by
      rw [← iterate_succ_apply' EigrpWorld.proceed]
      rfl
    rw [next]
    refine remaining_decreases calls ran isSend middle
      (grounded (start + time) call (by rw [calls]; rfl)) fun device destination => ?_
    rw [← next, still (start + (time + 1)) (Nat.le_add_right _ _),
      still (start + time) (Nat.le_add_right _ _)]
  have descends : StrictAnti fun time =>
      remaining devices (EigrpWorld.proceed^[start + time] world) :=
    strictAnti_nat_of_succ_lt falls
  exact not_strictAnti_of_wellFoundedLT _ descends

/-- Losses alone are over after as many steps. -/
theorem losses_end {calls : List (Call Device)} (isCalls : world.calls = calls)
    (losses : ∀ call ∈ calls, call.isLoss = true) :
    (EigrpWorld.proceed^[calls.length] world).calls = [] := by
  induction calls generalizing world with
  | nil => exact isCalls
  | cons call rest ih =>
    obtain ⟨isLoss, others⟩ := forall_mem_cons.mp losses
    have ran := EigrpWorld.proceed_ran isCalls
    rw [length_cons, iterate_succ_apply]
    refine ih ?_ others
    generalize world.proceed = after at ran ⊢
    cases ran with
    | returns => rfl
    | loses => rfl
    | shuts => rfl
    | helloLeft => cases isLoss
    | meets => cases isLoss
    | answers => cases isLoss
    | updateLeft => cases isLoss
    | learns => cases isLoss
    | announces => cases isLoss

/-! ## Runs -/

/-- What the steps of grounded runs preserve: there is no ring, the calls in progress take
routes away or send, not both, and finitely many routers are enabled. -/
structure Orderly (world : EigrpWorld Device) : Prop where
  sound : world.Sound
  noRing : world.NoRing
  uniform : (∀ call ∈ world.calls, call.isLoss = true) ∨ ∀ call ∈ world.calls, call.isLoss = false
  finite : {device | (world.nodes device).enabled = true}.Finite

omit [DecidableEq Device] in
theorem orderly_start (surroundings : Surroundings Device) :
    Orderly { surroundings := surroundings } where
  sound := sound_start surroundings
  noRing destination device ring := by
    obtain ⟨route, member, -⟩ := Relation.TransGen.head'_iff.mp ring |>.choose_spec.1
    cases member
  uniform := .inl fun _ member => by cases member
  finite := by simp

theorem uniform_handle (idle : world.calls = []) (event : EigrpEvent Device) :
    (∀ call ∈ (world.handle event).calls, call.isLoss = true) ∨
      ∀ call ∈ (world.handle event).calls, call.isLoss = false := by
  have pushed : ∀ calls : List (Call Device), (world.push calls).calls = calls := by
    intro calls
    rw [EigrpWorld.push_calls, idle, append_nil]
  cases event with
  | start device asn networks => exact .inl (by simp [EigrpWorld.handle, idle])
  | started device =>
    refine .inr ?_
    rw [EigrpWorld.handle, pushed]
    simp [isLoss]
  | stop device =>
    refine .inl ?_
    rw [EigrpWorld.handle, pushed]
    intro call member
    rcases mem_append.mp member with lost | shut
    · obtain ⟨peer, -, rfl⟩ := mem_map.mp lost
      rfl
    · rw [mem_singleton.mp shut]
      rfl
  | helloTimer device =>
    refine .inr ?_
    rw [EigrpWorld.handle, pushed]
    simp [isLoss]
  | holdTimer device peer =>
    refine .inl ?_
    rw [EigrpWorld.handle, pushed]
    simp [isLoss]
  | interfaceDown device peers =>
    refine .inl ?_
    rw [EigrpWorld.handle]
    split
    · rw [idle]
      exact fun _ member => by cases member
    · rw [pushed]
      intro call member
      obtain ⟨peer, -, isCall⟩ := mem_flatMap.mp member
      rcases mem_pair.mp isCall with rfl | rfl <;> rfl
  | interfaceUp device peers =>
    refine .inr ?_
    rw [EigrpWorld.handle]
    split
    · rw [idle]
      exact fun _ member => by cases member
    · rw [pushed]
      intro call member
      obtain ⟨peer, -, isCall⟩ := mem_flatMap.mp member
      rcases mem_pair.mp isCall with rfl | rfl <;> rfl
  | setKValues device kValues => exact .inl (by simp [EigrpWorld.handle, idle])
  | resetNeighbors device =>
    refine .inl ?_
    rw [EigrpWorld.handle, pushed]
    intro call member
    obtain ⟨peer, -, isCall⟩ := mem_flatMap.mp member
    rcases mem_pair.mp isCall with rfl | rfl <;> rfl
  | setPassive device ifaces => exact .inl (by simp [EigrpWorld.handle, idle])
  | reconfigure surroundings => exact .inl (by simp [EigrpWorld.handle, idle])
  | proceed => exact .inl (by simp [EigrpWorld.handle, idle])

theorem uniform_proceed (uniform : (∀ call ∈ world.calls, call.isLoss = true) ∨
    ∀ call ∈ world.calls, call.isLoss = false) :
    (∀ call ∈ world.proceed.calls, call.isLoss = true) ∨
      ∀ call ∈ world.proceed.calls, call.isLoss = false := by
  cases calls : world.calls with
  | nil =>
    have stays : world.proceed = world := by simp [EigrpWorld.proceed, calls]
    rwa [stays]
  | cons call rest =>
    have ran := EigrpWorld.proceed_ran calls
    rw [calls] at uniform
    rcases uniform with losses | sends
    · obtain ⟨isLoss, others⟩ := forall_mem_cons.mp losses
      left
      generalize world.proceed = after at ran ⊢
      cases ran with
      | returns => exact others
      | loses => exact others
      | shuts => exact others
      | helloLeft => cases isLoss
      | meets => cases isLoss
      | answers => cases isLoss
      | updateLeft => cases isLoss
      | learns => cases isLoss
      | announces => cases isLoss
    · obtain ⟨isSend, others⟩ := forall_mem_cons.mp sends
      exact .inr (ran_sends ran isSend others)

theorem finite_step (finite : {device | (world.nodes device).enabled = true}.Finite)
    (event : EigrpEvent Device) :
    {device | ((world.step event).nodes device).enabled = true}.Finite := by
  have effect := world.step_effect event
  generalize (world.step event).nodes = nodes at effect
  have ofUpdate : ∀ (changed : Device) (node : EigrpNode Device),
      {device | (Function.update world.nodes changed node device).enabled = true}.Finite := by
    intro changed node
    refine (finite.insert changed).subset fun device enabled => ?_
    by_cases here : device = changed
    · exact .inl here
    · refine .inr ?_
      have same : (Function.update world.nodes changed node device).enabled =
          (world.nodes device).enabled := by rw [update_of_ne here]
      exact same.symm.trans enabled
  cases effect with
  | same => exact finite
  | meets => exact ofUpdate _ _
  | learns => exact ofUpdate _ _
  | loses => exact ofUpdate _ _
  | shuts => exact ofUpdate _ _
  | starts => exact ofUpdate _ _
  | configures => exact ofUpdate _ _

theorem orderly_step (orderly : Orderly world) {event : EigrpEvent Device}
    (grounded : world.StepGrounded event) : Orderly (world.step event) where
  sound := orderly.sound.step event
  noRing := noRing_step orderly.sound orderly.noRing grounded
  uniform := by
    have handled : (∀ call ∈ (if world.calls.isEmpty then world.handle event else world).calls,
        call.isLoss = true) ∨
        ∀ call ∈ (if world.calls.isEmpty then world.handle event else world).calls,
          call.isLoss = false := by
      split
      · rename_i idle
        exact uniform_handle (List.isEmpty_iff.mp idle) event
      · exact orderly.uniform
    cases event with
    | proceed => exact uniform_proceed orderly.uniform
    | _ => exact handled
  finite := finite_step orderly.finite event

theorem Orderly.ends (orderly : Orderly world)
    (grounded : ∀ count, (EigrpWorld.proceed^[count] world).StepGrounded .proceed) :
    ∃ count, (EigrpWorld.proceed^[count] world).calls = [] := by
  rcases orderly.uniform with losses | sends
  · exact ⟨world.calls.length, losses_end rfl losses⟩
  · have isKnown : ∀ device, (world.nodes device).enabled = true → device ∈ orderly.finite.toFinset :=
      fun device enabled => orderly.finite.mem_toFinset.mpr enabled
    have passing : Passing orderly.finite.toFinset (orderly.finite.toFinset.biUnion fun device =>
          ((world.nodes device).topology.map destination).toFinset) world :=
      { sound := orderly.sound
        noRing := orderly.noRing
        sends
        known := isKnown
        listed := fun device route member => by
          refine Finset.mem_biUnion.mpr ⟨device, isKnown device ?_, ?_⟩
          · exact (orderly.sound device).enabled (ne_nil_of_mem member)
          · exact mem_toFinset.mpr (mem_map.mpr ⟨route, member, rfl⟩) }
    exact passing.ends grounded

theorem runFrom_proceed (world : EigrpWorld Device) (count : ℕ) :
    runFrom EigrpWorld.step world (List.replicate count .proceed) =
      EigrpWorld.proceed^[count] world := by
  induction count generalizing world with
  | zero => rfl
  | succ count ih =>
    rw [replicate_succ, runFrom_cons, ih, iterate_succ_apply]
    rfl

/-- After every run, the calls in progress return if no step of the run and of the
cascade closes a ring, or handles an update of a router that has a destination twice. -/
theorem cascade_ends (surroundings : Surroundings Device) (events : List (EigrpEvent Device))
    (grounded : ∀ count, Along EigrpWorld.step EigrpWorld.StepGrounded
      { surroundings := surroundings } (events ++ List.replicate count .proceed)) :
    ∃ count, (runFrom EigrpWorld.step { surroundings := surroundings }
      (events ++ List.replicate count .proceed)).calls = [] := by
  have preserved : ∀ (world : EigrpWorld Device) (event : EigrpEvent Device), Orderly world →
      world.StepGrounded event → Orderly (world.step event) :=
    fun _ _ orderly grounded => orderly_step orderly grounded
  have orderly : Orderly (runFrom EigrpWorld.step { surroundings := surroundings } events) :=
    invariant_along preserved (orderly_start surroundings) (along_append.mp (grounded 0)).1
  have cascade : ∀ count, (EigrpWorld.proceed^[count] (runFrom EigrpWorld.step
      { surroundings := surroundings } events)).StepGrounded .proceed := by
    intro count
    have along := (along_append.mp (grounded (count + 1))).2
    rw [replicate_succ'] at along
    have last := (along_append.mp along).2.1
    rwa [runFrom_proceed] at last
  obtain ⟨count, idle⟩ := orderly.ends cascade
  refine ⟨count, ?_⟩
  rwa [runFrom_append, runFrom_proceed]

/-! ## A cascade that ends -/

theorem grounded_idle (idle : world.calls = []) (count : ℕ) :
    Along EigrpWorld.step EigrpWorld.StepGrounded world (List.replicate count .proceed) := by
  have stays : world.step .proceed = world := by simp [EigrpWorld.step, EigrpWorld.proceed, idle]
  induction count with
  | zero => trivial
  | succ count ih =>
    refine ⟨fun call member => ?_, by rwa [stays]⟩
    rw [idle] at member
    cases member

theorem grounded_until_idle {events : List (EigrpEvent Device)} {bound : ℕ}
    (grounded : Along EigrpWorld.step EigrpWorld.StepGrounded world
      (events ++ List.replicate bound .proceed))
    (idle : (runFrom EigrpWorld.step world (events ++ List.replicate bound .proceed)).calls = [])
    (count : ℕ) :
    Along EigrpWorld.step EigrpWorld.StepGrounded world
      (events ++ List.replicate count .proceed) := by
  rcases Nat.le_total count bound with early | late
  · have shorter := grounded.take (events.length + count)
    rwa [take_length_add_append, take_replicate, Nat.min_eq_left early] at shorter
  · obtain ⟨later, rfl⟩ := Nat.exists_eq_add_of_le late
    rw [replicate_add, ← append_assoc]
    exact along_append.mpr ⟨grounded, grounded_idle idle later⟩

def EigrpWorld.plain (world : EigrpWorld Device) : Call Device → Bool
  | .sendUpdate device (peer :: _) =>
    decide ((world.nodes device).topology.map destination).Nodup &&
      ((world.received peer device).isEmpty || device != peer &&
        (world.nodes device).topology.all fun route => route.learnedFrom.isNone)
  | _ => true

theorem grounded_of_plain (plain : world.plain call = true) : world.Grounded call := by
  cases call with
  | sendUpdate device targets =>
    cases targets with
    | nil => trivial
    | cons peer targets =>
      simp only [EigrpWorld.plain, Bool.and_eq_true, decide_eq_true_eq, Bool.or_eq_true,
        List.isEmpty_iff, bne_iff_ne, ne_eq, all_eq_true, Option.isNone_iff_eq_none] at plain
      refine fun _ => ⟨plain.1, fun entry isEntry _ leads => ?_⟩
      rcases plain.2 with empty | ⟨different, direct⟩
      · rw [empty] at isEntry
        cases isEntry
      · rcases Relation.ReflTransGen.cases_head leads with same | ⟨next, ⟨route, member, -, learned⟩, -⟩
        · exact different same
        · rw [direct route member] at learned
          cases learned
  | sendHello | answer | announce | neighborDown | shutdown => trivial

local instance pairSize : NeZero 2 := ⟨by decide⟩

/-- Two routers, of which the first originates a network. -/
def pairSurroundings : Surroundings (Fin 2) where
  network :=
    { links := (OrderedMap.empty.insert 0 [1] |>.insert 1 [0])
      interfaceLinks := fun _ _ => none
      linkIfaces := fun _ _ => []
      downInterfaces := fun _ => []
      subifVlans := fun _ => []
      vlanPorts := fun _ => []
      deviceIps := .empty }
  filters := fun _ => {}

/-- Both start, and the first one announces itself. -/
def pairStart : List (EigrpEvent (Fin 2)) :=
  [.start 0 100 [⟨"10.0.0.0", 24⟩], .start 1 100 [], .started 0]

/-- The calls of the start return. -/
theorem pair_start_ends : ∃ count, (runFrom EigrpWorld.step { surroundings := pairSurroundings }
    (pairStart ++ List.replicate count .proceed)).calls = [] := by
  have plain : Along EigrpWorld.step
      (fun world _ => ∀ call ∈ world.calls.head?, world.plain call = true)
      { surroundings := pairSurroundings } (pairStart ++ List.replicate 16 .proceed) := by
    decide +kernel
  have grounded : Along EigrpWorld.step EigrpWorld.StepGrounded { surroundings := pairSurroundings }
      (pairStart ++ List.replicate 16 .proceed) := by
    refine plain.weaken fun world event plain => ?_
    cases event with
    | proceed => exact fun call member => grounded_of_plain (plain call member)
    | _ => trivial
  exact cascade_ends pairSurroundings pairStart (grounded_until_idle grounded (by decide +kernel))

/-! ## A cascade without end -/

/-- The same state with calls below those in progress. -/
def EigrpWorld.above (world : EigrpWorld Device) (waiting : List (Call Device)) :
    EigrpWorld Device :=
  { world with calls := world.calls ++ waiting }

omit [DecidableEq Device] in
theorem eq_above {world base : EigrpWorld Device} {waiting : List (Call Device)}
    (surroundings : world.surroundings = base.surroundings) (nodes : world.nodes = base.nodes)
    (calls : world.calls = base.calls ++ waiting) : world = base.above waiting := by
  obtain ⟨_, _, _⟩ := world
  cases surroundings
  cases nodes
  cases calls
  rfl

omit [DecidableEq Device] in
theorem eq_above_innermost {rest : List (Call Device)} (calls : world.calls = call :: rest) :
    world = EigrpWorld.above { world with calls := [call] } rest :=
  eq_above rfl rfl calls

omit [DecidableEq Device] in
theorem push_above (world : EigrpWorld Device) (waiting calls : List (Call Device)) :
    (world.above waiting).push calls = (world.push calls).above waiting := by
  simp [EigrpWorld.push, EigrpWorld.above]

omit [DecidableEq Device] in
@[simp] theorem above_nodes (world : EigrpWorld Device) (waiting : List (Call Device)) :
    (world.above waiting).nodes = world.nodes := rfl

omit [DecidableEq Device] in
@[simp] theorem above_surroundings (world : EigrpWorld Device) (waiting : List (Call Device)) :
    (world.above waiting).surroundings = world.surroundings := rfl

omit [DecidableEq Device] in
theorem takes_above (world : EigrpWorld Device) (waiting : List (Call Device)) :
    (world.above waiting).takes = world.takes := rfl

theorem setNode_above (world : EigrpWorld Device) (waiting : List (Call Device)) (device : Device)
    (node : EigrpNode Device) :
    (world.above waiting).setNode device node = (world.setNode device node).above waiting := rfl

theorem updateTo_above (world : EigrpWorld Device) (waiting : List (Call Device)) :
    (world.above waiting).updateTo = world.updateTo := rfl

theorem runCall_above (world : EigrpWorld Device) (waiting : List (Call Device))
    (call : Call Device) : (world.above waiting).runCall call = (world.runCall call).above waiting := by
  have hello : ∀ (other : EigrpWorld Device) (receiver source : Device),
      (other.above waiting).receiveHello receiver source =
        (other.receiveHello receiver source).above waiting := by
    intro other receiver source
    simp only [EigrpWorld.receiveHello, takes_above, above_nodes, setNode_above, push_above]
    split_ifs <;> rfl
  have update : ∀ (other : EigrpWorld Device) (receiver source : Device) (entries : List EigrpEntry),
      (other.above waiting).receiveUpdate receiver source entries =
        (other.receiveUpdate receiver source entries).above waiting := by
    intro other receiver source entries
    simp only [EigrpWorld.receiveUpdate, takes_above, above_nodes, above_surroundings,
      setNode_above, push_above]
    by_cases refused : (!other.takes receiver source) = true
    · rw [if_pos refused, if_pos refused]
    · rw [if_neg refused, if_neg refused]
      by_cases stranger : source ∉ (other.nodes receiver).neighbors
      · rw [if_pos stranger, if_pos stranger]
      · rw [if_neg stranger, if_neg stranger]
        rfl
  cases call with
  | sendHello device peers =>
    cases peers with
    | nil => rfl
    | cons peer rest =>
      simp only [EigrpWorld.runCall, above_nodes, push_above, hello]
      split_ifs <;> rfl
  | answer receiver source =>
    simp only [EigrpWorld.runCall, above_nodes, push_above]
    split_ifs <;> rfl
  | sendUpdate device targets =>
    cases targets with
    | nil => rfl
    | cons peer rest =>
      simp only [EigrpWorld.runCall, above_nodes, push_above, updateTo_above, update]
      split_ifs <;> rfl
  | announce device =>
    simp only [EigrpWorld.runCall, above_nodes, push_above]
    split_ifs <;> rfl
  | neighborDown device peer =>
    by_cases known : peer ∈ (world.nodes device).neighbors
    · simp [EigrpWorld.runCall, known, setNode_above]
    · simp [EigrpWorld.runCall, known]
  | shutdown device => rfl

theorem iterate_above {count : ℕ} (busy : ∀ early < count, (EigrpWorld.proceed^[early] world).calls ≠ [])
    (waiting : List (Call Device)) :
    EigrpWorld.proceed^[count] (world.above waiting) =
      (EigrpWorld.proceed^[count] world).above waiting := by
  induction count with
  | zero => rfl
  | succ count ih =>
    rw [iterate_succ_apply', iterate_succ_apply',
      ih fun early before => busy early (Nat.lt_succ_of_lt before)]
    obtain ⟨call, rest, calls⟩ := exists_cons_of_ne_nil (busy count (Nat.lt_succ_self _))
    generalize EigrpWorld.proceed^[count] world = middle at calls ⊢
    have onTop : (middle.above waiting).calls = call :: (rest ++ waiting) := by
      simp [EigrpWorld.above, calls]
    unfold EigrpWorld.proceed
    rw [onTop, calls]
    exact runCall_above { middle with calls := rest } waiting call

/-- A cascade that comes back to its start with calls below is without end. -/
theorem endless_of_return {count : ℕ} {waiting : List (Call Device)} (positive : 0 < count)
    (busy : ∀ early < count, (EigrpWorld.proceed^[early] world).calls ≠ [])
    (returns : EigrpWorld.proceed^[count] world = world.above waiting) (time : ℕ) :
    (EigrpWorld.proceed^[time] world).calls ≠ [] := by
  induction time using Nat.strongRecOn with
  | ind time ih =>
    by_cases early : time < count
    · exact busy time early
    · obtain ⟨later, rfl⟩ := Nat.exists_eq_add_of_le' (Nat.le_of_not_lt early)
      rw [iterate_add_apply, returns,
        iterate_above (fun early before => ih early (by omega)) waiting]
      intro empty
      exact ih later (by omega) (append_eq_nil_iff.mp empty).1

local instance lineOfFourSize : NeZero 4 := ⟨by decide⟩

/-- Routers 0 to 3 in a line. -/
def lineOfFour : Surroundings (Fin 4) where
  network :=
    { links := (OrderedMap.empty.insert 0 [1] |>.insert 1 [0, 2] |>.insert 2 [1, 3] |>.insert 3 [2])
      interfaceLinks := fun _ _ => none
      linkIfaces := fun _ _ => []
      downInterfaces := fun _ => []
      subifVlans := fun _ => []
      vlanPorts := fun _ => []
      deviceIps := .empty }
  filters := fun _ => {}

/-- The networks at the two ends. -/
def westNetwork : Prefix := ⟨"10.0.0.0", 24⟩

def eastNetwork : Prefix := ⟨"10.0.1.0", 24⟩

/-- The ends originate their networks and everybody learns both; then the middle routers
get the network of their own end configured as well. -/
def overlapping : List (EigrpEvent (Fin 4)) :=
  [.start 0 100 [westNetwork], .start 3 100 [eastNetwork], .start 1 100 [], .start 2 100 [],
    .started 1] ++ List.replicate 24 .proceed ++ .started 0 :: List.replicate 14 .proceed ++
    .started 3 :: List.replicate 30 .proceed ++ .start 1 100 [westNetwork] :: .started 1 ::
    List.replicate 30 .proceed ++ [.start 2 100 [eastNetwork]]

/-- Router 2 has started to announce its second network, and sends it to router 1. -/
def flipping : EigrpWorld (Fin 4) :=
  runFrom EigrpWorld.step { surroundings := lineOfFour }
    (overlapping ++ .started 2 :: List.replicate 9 .proceed)

/-- Each of routers 1 and 2 lists a network twice, so every update of one changes the
table of the other, which answers it: the cascade of the last start has no end. -/
theorem overlapping_endless :
    (runFrom EigrpWorld.step { surroundings := lineOfFour } overlapping).calls = [] ∧
      ∀ count, (runFrom EigrpWorld.step { surroundings := lineOfFour }
        (overlapping ++ .started 2 :: List.replicate count .proceed)).calls ≠ [] := by
  refine ⟨by decide +kernel, fun count => ?_⟩
  have innermost : flipping.calls = .sendUpdate 2 [1, 3] :: flipping.calls.drop 1 := by
    decide +kernel
  have isFlipping := eq_above_innermost innermost
  let sending : EigrpWorld (Fin 4) := { flipping with calls := [.sendUpdate 2 [1, 3]] }
  have busy : ∀ early < 3, (EigrpWorld.proceed^[early] sending).calls ≠ [] := by decide +kernel
  have returns : EigrpWorld.proceed^[3] sending =
      sending.above [.sendUpdate 1 [], .sendUpdate 2 [3]] :=
    eq_above (iterate_surroundings sending 3) (by decide +kernel) (by decide +kernel)
  by_cases early : count < 9
  · revert count
    decide +kernel
  · obtain ⟨later, rfl⟩ := Nat.exists_eq_add_of_le (Nat.le_of_not_lt early)
    have continued : runFrom EigrpWorld.step { surroundings := lineOfFour }
        (overlapping ++ .started 2 :: List.replicate (9 + later) .proceed) =
        EigrpWorld.proceed^[later] flipping := by
      rw [replicate_add, ← cons_append, ← append_assoc, runFrom_append, runFrom_proceed]
      rfl
    rw [continued, isFlipping,
      iterate_above (fun before _ => endless_of_return (by decide) busy returns before)]
    intro empty
    exact endless_of_return (by decide) busy returns later (append_eq_nil_iff.mp empty).1

end NetLab.Eigrp
