import NetLab.Eigrp.Machine
import NetLab.Library.Execution
import Mathlib.Logic.Relation

/-!
# Withdrawal in EIGRP

A lost route is announced to nobody. As long as no router loses a route that another one
has learned from it, the distances fall along every learned route down to a network of
its own, so every learned route is supported; the first loss that others depend on can
leave them with nothing behind their routes.
-/

namespace NetLab.Eigrp

open NetLab.Library NetLab.Network NetLab.Execution Function

variable {Device : Type} [DecidableEq Device]

namespace EigrpWorld

variable (world : EigrpWorld Device)

def Originates (device : Device) (destination : Prefix) : Prop :=
  (world.nodes device).enabled = true ∧ (destination ∈ (world.nodes device).networks ∨
    destination ∈ (world.nodes device).redistributed.map Prod.fst)

/-- Current neighbour relations lead from the router to one that originates the
destination. -/
def Supported (device : Device) (destination : Prefix) : Prop :=
  ∃ origin, Relation.ReflTransGen (fun first second => second ∈ (world.nodes first).neighbors)
    device origin ∧ world.Originates origin destination

def LearnedSupported : Prop :=
  ∀ device, ∀ route ∈ (world.nodes device).topology, route.learnedFrom ≠ none →
    world.Supported device route.destination

def DropsUnheard : Call Device → Prop
  | .neighborDown device peer =>
    peer ∈ (world.nodes device).neighbors →
    ∀ route ∈ (world.nodes device).topology, route.learnedFrom = some peer →
      directRoute route.destination ∉ (world.nodes device).topology →
      ∀ listener, ¬ world.HasLearned listener route.destination device
  | .shutdown device =>
    ∀ listener, ∀ route ∈ (world.nodes listener).topology, route.learnedFrom ≠ some device
  | _ => True

/-- The call that the step runs takes no such destination. -/
def StepDropsUnheard : EigrpEvent Device → Prop
  | .proceed => ∀ call ∈ world.calls.head?, world.DropsUnheard call
  | _ => True

def Chained : Prop :=
  ∀ device, ∀ route ∈ (world.nodes device).topology, ∀ peer, route.learnedFrom = some peer →
    ∃ other ∈ (world.nodes peer).topology, other.destination = route.destination ∧
      other.fd + linkCost ≤ route.fd

end EigrpWorld

variable {world : EigrpWorld Device}

/-! ## One step -/

theorem learned_covers (sound : world.Sound) (chained : world.Chained) (receiver source : Device)
    {route : EigrpRoute Device} (member : route ∈ (world.nodes receiver).topology) :
    Covers (world.learned receiver source).1 route := by
  have notRedistributing := fun device => (sound device).notRedistributing
  have wellFormed := (sound source).wellFormed
  cases learned : route.learnedFrom with
  | none => exact covers_of_mem (receiveEntries_direct member learned)
  | some peer =>
    by_cases foreign : peer = source
    · subst foreign
      by_cases listed : ∃ entry ∈ world.received receiver peer, entry.destination = route.destination
      · obtain ⟨entry, isEntry, same⟩ := listed
        obtain ⟨behind, isBehind, behindSame, shorter⟩ := chained receiver route member peer learned
        -- The route behind is listed itself, or the direct one in its place.
        have bounded : ∃ best ∈ world.received receiver peer,
            best.destination = route.destination ∧ best.metric ≤ behind.fd := by
          obtain ⟨⟨listedRoute, isListed, elsewhere, rfl⟩, outbound, inbound⟩ :=
            (mem_received notRedistributing).mp isEntry
          have sameEntry : behind.entry.destination = listedRoute.entry.destination :=
            behindSame.trans same.symm
          by_cases direct : behind.learnedFrom = none
          · refine ⟨behind.entry, ?_, behindSame, Nat.le_refl _⟩
            refine (mem_received notRedistributing).mpr ⟨⟨behind, isBehind, ?_, rfl⟩, ?_, ?_⟩
            · rw [direct]
              exact (Option.some_ne_none _).symm
            · rw [sameEntry]
              exact outbound
            · rw [sameEntry]
              exact inbound
          · refine ⟨_, isEntry, same, ?_⟩
            by_cases listedDirect : listedRoute.learnedFrom = none
            · rw [EigrpRoute.entry, wellFormed.direct listedRoute isListed listedDirect]
              exact wellFormed.least behind isBehind
            · have equal : listedRoute = behind := wellFormed.learned_unique isListed isBehind
                (same.trans behindSame.symm) listedDirect direct
              rw [equal]
              exact Nat.le_refl _
        obtain ⟨best, isBest, bestSame, bound⟩ := bounded
        have settled : Covers (world.learned receiver peer).1 (offeredRoute _ peer best) :=
          receiveEntries_settles (sound receiver).wellFormed (falling_received sound receiver peer)
            isBest
        exact settled.trans bestSame (Nat.le_trans (Nat.add_le_add_right bound linkCost) shorter)
      · refine covers_of_mem (receiveEntries_unlisted member fun entry isEntry same => ?_)
        exact listed ⟨entry, isEntry, same⟩
    · have elsewhere : route.learnedFrom ≠ some source := by
        rw [learned]
        exact fun equal => foreign (Option.some.inj equal)
      exact receiveEntries_foreign member elsewhere (falling_received sound receiver source)

/-- Chains survive a change of one router if what it has now was learned from routes of
before, and it keeps a route as good as each it had that some router has learned from it. -/
theorem chained_update (chained : world.Chained) (changed : Device) (node : EigrpNode Device)
    (learned : ∀ route ∈ node.topology, ∀ peer, route.learnedFrom = some peer →
      ∃ other ∈ (world.nodes peer).topology, other.destination = route.destination ∧
        other.fd + linkCost ≤ route.fd)
    (kept : ∀ listener, ∀ route ∈ (Function.update world.nodes changed node listener).topology,
      route.learnedFrom = some changed → ∀ other ∈ (world.nodes changed).topology,
        other.destination = route.destination → Covers node.topology other) :
    EigrpWorld.Chained { world with nodes := Function.update world.nodes changed node } := by
  intro device route member peer isPeer
  have behind : ∃ other ∈ (world.nodes peer).topology, other.destination = route.destination ∧
      other.fd + linkCost ≤ route.fd := by
    dsimp only at member
    by_cases same : device = changed
    · rw [same, update_self] at member
      exact learned route member peer isPeer
    · rw [update_of_ne same] at member
      exact chained device route member peer isPeer
  obtain ⟨other, isOther, sameDestination, shorter⟩ := behind
  by_cases same : peer = changed
  · subst same
    obtain ⟨best, isBest, bestSame, bound⟩ := kept device route member isPeer other isOther
      sameDestination
    refine ⟨best, ?_, bestSame.trans sameDestination,
      Nat.le_trans (Nat.add_le_add_right bound linkCost) shorter⟩
    dsimp only
    rw [update_self]
    exact isBest
  · refine ⟨other, ?_, sameDestination, shorter⟩
    dsimp only
    rw [update_of_ne same]
    exact isOther

theorem chained_grow (chained : world.Chained) (changed : Device) {node : EigrpNode Device}
    (grows : (world.nodes changed).topology ⊆ node.topology)
    (direct : ∀ route ∈ node.topology,
      route ∈ (world.nodes changed).topology ∨ route.learnedFrom = none) :
    EigrpWorld.Chained { world with nodes := Function.update world.nodes changed node } := by
  refine chained_update chained changed node (fun route member peer isPeer => ?_)
    fun _ _ _ _ other isOther _ => covers_of_mem (grows isOther)
  rcases direct route member with before | isDirect
  · exact chained changed route before peer isPeer
  · rw [isDirect] at isPeer
    cases isPeer

theorem chained_step (sound : world.Sound) (chained : world.Chained) {event : EigrpEvent Device}
    (unheard : world.StepDropsUnheard event) : (world.step event).Chained := by
  have effect := world.step_effect event
  suffices after : EigrpWorld.Chained { world with nodes := (world.step event).nodes } from after
  generalize (world.step event).nodes = nodes at effect
  cases effect with
  | same => exact chained
  | meets receiver source =>
    exact chained_grow chained receiver (List.Subset.refl _) fun _ member => .inl member
  | configures configured kValues passiveIfaces =>
    exact chained_grow chained configured (List.Subset.refl _) fun _ member => .inl member
  | starts started asn networks =>
    refine chained_grow chained started (addDirect_subset _) fun route member => ?_
    rcases mem_addDirect member with before | ⟨destination, -, rfl⟩
    · exact .inl before
    · exact .inr rfl
  | learns receiver source targets rest isProceed call enabled sourceEnabled isNeighbor =>
    refine chained_update chained receiver _ (fun route member peer isPeer => ?_)
      fun _ _ _ _ other isOther _ => learned_covers sound chained receiver source isOther
    rcases mem_receiveEntries member with before | ⟨entry, isEntry, rfl⟩
    · exact chained receiver route before peer isPeer
    · obtain ⟨⟨behind, isBehind, -, rfl⟩, -⟩ :=
        (mem_received fun device => (sound device).notRedistributing).mp isEntry
      cases isPeer
      exact ⟨behind, isBehind, rfl, Nat.le_refl _⟩
  | loses loser lost rest isProceed call isNeighbor =>
    subst isProceed
    have unheard : world.DropsUnheard (.neighborDown loser lost) := unheard _ (by rw [call]; rfl)
    refine chained_update chained loser _ (fun route member peer isPeer =>
      chained loser route (List.mem_filter.mp member).1 peer isPeer) ?_
    intro listener route member isLoser other isOther same
    have heard : world.HasLearned listener other.destination loser := by
      refine ⟨route, ?_, same.symm, isLoser⟩
      by_cases equal : listener = loser
      · rw [equal, update_self] at member
        rw [equal]
        exact (List.mem_filter.mp member).1
      · rwa [update_of_ne equal] at member
    by_cases dropped : other.learnedFrom = some lost
    · by_cases direct : directRoute other.destination ∈ (world.nodes loser).topology
      · refine ⟨directRoute other.destination, List.mem_filter.mpr ⟨direct, rfl⟩, rfl, ?_⟩
        exact (sound loser).wellFormed.least other isOther
      · exact absurd heard (unheard isNeighbor other isOther dropped direct listener)
    · exact covers_of_mem (List.mem_filter.mpr ⟨isOther, by simpa using dropped⟩)
  | shuts shut rest isProceed call =>
    subst isProceed
    have unheard : world.DropsUnheard (.shutdown shut) := unheard _ (by rw [call]; rfl)
    refine chained_update chained shut _ (fun _ member => by cases member) ?_
    intro listener route member isShut other isOther same
    by_cases equal : listener = shut
    · rw [equal, update_self] at member
      cases member
    · rw [update_of_ne equal] at member
      exact absurd isShut (unheard listener route member)

/-! ## Runs -/

omit [DecidableEq Device] in
/-- Down a chain the distances fall, so it ends at a router that originates the
destination. -/
theorem supported_of_chained (sound : world.Sound) (chained : world.Chained) :
    world.LearnedSupported := by
  have descend : ∀ distance device, ∀ route ∈ (world.nodes device).topology,
      route.fd = distance → route.learnedFrom ≠ none →
        world.Supported device route.destination := by
    intro distance
    induction distance using Nat.strongRecOn with
    | ind distance ih =>
      intro device route member isDistance learned
      obtain ⟨peer, isPeer⟩ := Option.ne_none_iff_exists'.mp learned
      have adjacent := (sound device).adjacent route member peer isPeer
      obtain ⟨other, isOther, same, shorter⟩ := chained device route member peer isPeer
      by_cases direct : other.learnedFrom = none
      · refine ⟨peer, .single adjacent, (sound peer).enabled (List.ne_nil_of_mem isOther), .inl ?_⟩
        rw [← same]
        exact (sound peer).configured other isOther direct
      · have positive : 0 < linkCost := by decide
        obtain ⟨origin, path, originates⟩ := ih other.fd (by omega) peer other isOther rfl direct
        rw [same] at originates
        exact ⟨origin, .head adjacent path, originates⟩
  exact fun device route member learned => descend route.fd device route member rfl learned

/-- In every run that takes no destination from a router that another one has learned it
from, every learned route is supported by neighbour relations that lead to a router that
originates its destination. -/
theorem learned_supported (surroundings : Surroundings Device) (events : List (EigrpEvent Device))
    (unheard : Along EigrpWorld.step EigrpWorld.StepDropsUnheard { surroundings := surroundings }
      events) :
    (runFrom EigrpWorld.step { surroundings := surroundings } events).LearnedSupported := by
  have preserved : ∀ (world : EigrpWorld Device) (event : EigrpEvent Device),
      world.Sound ∧ world.Chained → world.StepDropsUnheard event →
        (world.step event).Sound ∧ (world.step event).Chained :=
    fun _ event invariant unheard =>
      ⟨invariant.1.step event, chained_step invariant.1 invariant.2 unheard⟩
  have start : EigrpWorld.Sound { surroundings := surroundings } ∧
      EigrpWorld.Chained { surroundings := surroundings } :=
    ⟨sound_start surroundings, fun _ _ member => by cases member⟩
  obtain ⟨sound, chained⟩ := invariant_along preserved start unheard
  exact supported_of_chained sound chained

/-! ## A line of three routers -/

local instance lineSize : NeZero 3 := ⟨by decide⟩

/-- Routers 0, 1 and 2 in a line, without addresses, VLANs or filters. -/
def lineSurroundings : Surroundings (Fin 3) where
  network :=
    { links := (OrderedMap.empty.insert 0 [1] |>.insert 1 [0, 2] |>.insert 2 [1])
      interfaceLinks := fun _ _ => none
      linkIfaces := fun _ _ => []
      downInterfaces := fun _ => []
      subifVlans := fun _ => []
      vlanPorts := fun _ => []
      deviceIps := .empty }
  filters := fun _ => {}

/-- The network that router 0 originates. -/
def lineNetwork : Prefix := ⟨"10.0.0.0", 24⟩

/-- All three start, router 0 greets router 1, and router 1 greets router 2. -/
def lineStart : List (EigrpEvent (Fin 3)) :=
  [.start 0 100 [lineNetwork], .start 1 100 [], .start 2 100 [], .started 0] ++
    List.replicate 18 .proceed ++ .started 1 :: List.replicate 18 .proceed

/-- A loss can be checked to be unheard among finitely many routers. -/
instance (world : EigrpWorld (Fin 3)) (call : Call (Fin 3)) : Decidable (world.DropsUnheard call) :=
  match call with
  | .neighborDown device peer =>
    inferInstanceAs (Decidable (peer ∈ (world.nodes device).neighbors →
      ∀ route ∈ (world.nodes device).topology, route.learnedFrom = some peer →
        directRoute route.destination ∉ (world.nodes device).topology →
        ∀ listener, ¬ ∃ heard ∈ (world.nodes listener).topology,
          heard.destination = route.destination ∧ heard.learnedFrom = some device))
  | .shutdown device =>
    inferInstanceAs (Decidable (∀ listener, ∀ route ∈ (world.nodes listener).topology,
      route.learnedFrom ≠ some device))
  | .sendHello _ _ => .isTrue trivial
  | .answer _ _ => .isTrue trivial
  | .sendUpdate _ _ => .isTrue trivial
  | .announce _ => .isTrue trivial

instance (world : EigrpWorld (Fin 3)) (event : EigrpEvent (Fin 3)) :
    Decidable (world.StepDropsUnheard event) :=
  match event with
  | .proceed => inferInstanceAs (Decidable (∀ call ∈ world.calls.head?, world.DropsUnheard call))
  | .start _ _ _ => .isTrue trivial
  | .started _ => .isTrue trivial
  | .stop _ => .isTrue trivial
  | .helloTimer _ => .isTrue trivial
  | .holdTimer _ _ => .isTrue trivial
  | .interfaceDown _ _ => .isTrue trivial
  | .interfaceUp _ _ => .isTrue trivial
  | .setKValues _ _ => .isTrue trivial
  | .resetNeighbors _ => .isTrue trivial
  | .setPassive _ _ => .isTrue trivial
  | .reconfigure _ => .isTrue trivial

def lineAfter (event : EigrpEvent (Fin 3)) : EigrpWorld (Fin 3) :=
  runFrom EigrpWorld.step { surroundings := lineSurroundings }
    (lineStart ++ event :: List.replicate 3 .proceed)

/-- The end of the line loses its neighbour, and no router is left with a route that is
not supported. -/
theorem line_end_lost : (lineAfter (.holdTimer 2 1)).LearnedSupported :=
  learned_supported lineSurroundings _ (by decide +kernel)

/-- Router 1 loses its interface to router 0: when all is quiet, router 2 still has the
route, and neither it nor its only neighbour leads to a router that originates it. -/
theorem line_start_lost : (lineAfter (.interfaceDown 1 [0])).calls = [] ∧
    ¬ (lineAfter (.interfaceDown 1 [0])).LearnedSupported := by
  refine ⟨by decide +kernel, fun supported => ?_⟩
  have learned : ∃ route ∈ ((lineAfter (.interfaceDown 1 [0])).nodes 2).topology,
      route.destination = lineNetwork ∧ route.learnedFrom ≠ none := by decide +kernel
  obtain ⟨route, member, same, isLearned⟩ := learned
  obtain ⟨origin, path, originates⟩ := supported 2 route member isLearned
  have closed : ∀ first second : Fin 3, first ≠ 0 →
      second ∈ ((lineAfter (.interfaceDown 1 [0])).nodes first).neighbors → second ≠ 0 := by
    decide +kernel
  have confined : origin ≠ 0 := by
    clear originates
    induction path with
    | refl => decide
    | tail _ adjacent ih => exact closed _ _ ih adjacent
  have configured : ∀ device : Fin 3, device ≠ 0 →
      lineNetwork ∉ ((lineAfter (.interfaceDown 1 [0])).nodes device).networks ∧
        ((lineAfter (.interfaceDown 1 [0])).nodes device).redistributed = [] := by
    decide +kernel
  obtain ⟨-, network | redistributed⟩ := originates
  · exact (configured origin confined).1 (same ▸ network)
  · rw [(configured origin confined).2] at redistributed
    cases redistributed

end NetLab.Eigrp
