import NetLab.Rip.Engine
import NetLab.Library.WeightedGraph

/-!
# RIP metrics are real distances

Over a fixed topology with fixed origins, every finite metric that a router holds,
and every finite metric still on its way to it, is the length of an actual walk to
an origin plus the metric at that origin. The invariant covers tables, packets on
the wire and half-handled responses alike, so late packets cannot break it.
-/

namespace NetLab.Rip

open NetLab.Library NetLab.Network NetLab.Execution WeightedGraph
open OrderedMap List

variable {Device : Type} [DecidableEq Device]

/-- What a router originates: its configured networks and its redistributed routes. -/
structure RipConfig where
  networks : List Prefix := []
  redistributed : OrderedMap Prefix (Option Nat) := .empty

/-- Two devices are one hop apart when a link joins them. -/
def linkGraph (network : VirtualNetwork Device) : WeightedGraph Device := fun left right =>
  if right ∈ network.getNeighbors left ∨ left ∈ network.getNeighbors right then some 1 else none

/-- A router originates a destination with a base metric. -/
inductive Originates (config : Device → RipConfig) (origin : Device) (destination : Prefix) :
    Nat → Prop where
  | network (member : destination ∈ (config origin).networks) :
      Originates config origin destination 0
  | redistributed {metric : Option Nat}
      (found : (config origin).redistributed.lookup destination = some metric) :
      Originates config origin destination (redistributedMetric metric)

section Topology

variable (network : VirtualNetwork Device) (config : Device → RipConfig)

/-- `metric` is the length of a walk from a router to an origin plus the base there. -/
def ReachedAt (router : Device) (destination : Prefix) (metric : Nat) : Prop :=
  ∃ origin base links, Walk (linkGraph network) router origin links ∧
    Originates config origin destination base ∧ metric = base + links

/-- `metric` is witnessed by a walk of at least one link whose second device is `source`. -/
def Witnessed (router source : Device) (destination : Prefix) (metric : Nat) : Prop :=
  ∃ rest, linkGraph network router source = some 1 ∧
    ReachedAt network config source destination rest ∧ metric = rest + 1

/-- The least metric that any walk of at least one link witnesses. -/
noncomputable def shortestDistance (router : Device) (destination : Prefix) : Nat :=
  sInf {metric | ∃ source, Witnessed network config router source destination metric}

/-- An entry offered by `source` is unreachable or becomes a witnessed metric. -/
def SoundOffer (receiver source : Device) (entry : RipEntry) : Prop :=
  entry.metric < infinity →
    Witnessed network config receiver source entry.destination (entry.metric + 1)

/-- The finite learned metrics of one router are witnessed. -/
structure SoundNode (device : Device) (node : RipNode Device) : Prop where
  networks : ∀ destination ∈ node.networks, destination ∈ (config device).networks
  redistributed : ∀ destination metric, node.redistributed.lookup destination = some metric →
    (config device).redistributed.lookup destination = some metric
  table : ∀ route ∈ node.table, route.metric < infinity →
    ∀ source, route.learnedFrom = .peer source →
      Witnessed network config device source route.destination route.metric

/-- The invariant of a whole run. -/
structure Sound (state : RipState Device) : Prop where
  nodes : ∀ device node, state.nodes.lookup device = some node →
    SoundNode network config device node
  inFlight : ∀ receiver packet, (receiver, packet) ∈ state.inFlight →
    ∀ entry ∈ packet.entries, SoundOffer network config receiver packet.srcId entry
  receiving : ∀ task ∈ state.receiving, ∀ entry ∈ task.remaining,
    SoundOffer network config task.receiver task.source entry
  sending : ∀ task ∈ state.sending, ∀ peers, task.remaining = some peers →
    ∀ peer ∈ peers, peer ∈ network.getNeighbors task.sender

/-- Routers that have been configured but have exchanged nothing yet. -/
structure Booted (state : RipState Device) : Prop where
  networks : ∀ device node, state.nodes.lookup device = some node →
    ∀ destination ∈ node.networks, destination ∈ (config device).networks
  redistributed : ∀ device node, state.nodes.lookup device = some node →
    node.redistributed = (config device).redistributed
  table : ∀ device node, state.nodes.lookup device = some node → node.table = []
  inFlight : state.inFlight = []
  receiving : state.receiving = []
  sending : state.sending = []

end Topology

variable {network : VirtualNetwork Device} {config : Device → RipConfig}

/-! ## Tables -/

variable {table : List (RipRoute Device)} {route : RipRoute Device}

omit [DecidableEq Device] in
theorem mem_updateFirst {test : RipRoute Device → Bool} {update : RipRoute Device → RipRoute Device}
    (member : route ∈ updateFirst test update table) :
    route ∈ table ∨ ∃ old, table.find? test = some old ∧ route = update old := by
  induction table with
  | nil => simp [updateFirst] at member
  | cons head rest ih =>
    cases accepted : test head with
    | true =>
      simp only [updateFirst, accepted, if_true, mem_cons] at member
      rcases member with equal | kept
      · exact Or.inr ⟨head, by simp [accepted], equal⟩
      · exact Or.inl (mem_cons_of_mem _ kept)
    | false =>
      simp only [updateFirst, accepted, Bool.false_eq_true, if_false, mem_cons] at member
      rcases member with rfl | member
      · exact Or.inl mem_cons_self
      · rcases ih member with kept | ⟨old, found, equal⟩
        · exact Or.inl (mem_cons_of_mem _ kept)
        · exact Or.inr ⟨old, by simp [accepted, found], equal⟩

omit [DecidableEq Device] in
theorem mem_addRoute {added : RipRoute Device} (member : route ∈ addRoute table added) :
    route = added ∨ route ∈ table := by
  unfold addRoute at member
  split at member
  · rcases mem_updateFirst member with kept | ⟨_, _, equal⟩
    · exact Or.inr kept
    · exact Or.inl equal
  · rcases mem_append.mp member with kept | new
    · exact Or.inr kept
    · exact Or.inl (mem_singleton.mp new)

omit [DecidableEq Device] in
theorem learnedFrom_directTable {networks : List Prefix} (member : route ∈ directTable networks) :
    route.learnedFrom = .direct := by
  have general : ∀ (networks : List Prefix) (table : List (RipRoute Device)),
      (∀ route ∈ table, route.learnedFrom = .direct) →
      ∀ route ∈ networks.foldl (fun table destination => addRoute table
        { destination, metric := 0, nextHop := none, learnedFrom := .direct }) table,
        route.learnedFrom = .direct := by
    intro networks
    induction networks with
    | nil => exact fun table direct => direct
    | cons destination rest ih =>
      intro table direct
      apply ih
      intro route member
      rcases mem_addRoute member with rfl | kept
      · rfl
      · exact direct route kept
  exact general networks [] (by simp) route member

namespace SoundNode

variable {device source : Device} {node : RipNode Device}

theorem of_subset (sound : SoundNode network config device node)
    (subset : ∀ route ∈ table, route ∈ node.table) :
    SoundNode network config device { node with table } :=
  ⟨sound.networks, sound.redistributed, fun route member => sound.table route (subset route member)⟩

theorem updateFirst_witnessed (sound : SoundNode network config device node)
    {destination : Prefix} {metric : Nat} {update : RipRoute Device → RipRoute Device}
    (witnessed : Witnessed network config device source destination metric)
    (updated : ∀ old, node.table.find? (fun route => route.destination == destination) = some old →
      (update old).destination = old.destination ∧ (update old).metric = metric ∧
        (update old).learnedFrom = .peer source) :
    SoundNode network config device { node with
        table := updateFirst (fun route => route.destination == destination) update node.table } := by
  refine ⟨sound.networks, sound.redistributed, fun route member finite origin learned => ?_⟩
  rcases mem_updateFirst member with kept | ⟨old, found, rfl⟩
  · exact sound.table route kept finite origin learned
  · obtain ⟨sameDestination, sameMetric, fromSource⟩ := updated old found
    have destinationEq : old.destination = destination := by
      simpa using find?_some found
    have originEq : source = origin := by
      simpa [fromSource] using learned
    rw [sameDestination, destinationEq, sameMetric, ← originEq]
    exact witnessed

theorem receiveEntry (sound : SoundNode network config device node) {entry : RipEntry}
    (offer : SoundOffer network config device source entry) (filters : DeviceFilters) :
    SoundNode network config device (node.receiveEntry filters source entry).1 := by
  unfold RipNode.receiveEntry
  by_cases unnamed : entry.destination.network = "" ∨ entry.destination.network = "0.0.0.0"
  · simpa only [if_pos unnamed] using sound
  rw [if_neg unnamed]
  split
  · exact sound
  dsimp only
  by_cases unreachable : infinity ≤ min (entry.metric + 1) infinity
  · rw [if_pos unreachable]
    split
    · exact sound.of_subset fun route member => mem_of_mem_eraseP member
    · exact sound
  · rw [if_neg unreachable]
    -- Below infinity the new metric is one more than the offered one.
    have newMetric : min (entry.metric + 1) infinity = entry.metric + 1 := by omega
    have witnessed := offer (by omega)
    rw [newMetric]
    cases found : node.table.find? fun route => route.destination == entry.destination with
    | none =>
      refine ⟨sound.networks, sound.redistributed, fun route member small origin learned => ?_⟩
      rcases mem_addRoute member with rfl | kept
      · cases learned
        exact witnessed
      · exact sound.table route kept small origin learned
    | some existing =>
      dsimp only
      by_cases fromSource : existing.learnedFrom = .peer source
      · rw [if_pos fromSource]
        refine sound.updateFirst_witnessed witnessed fun old foundOld => ⟨rfl, rfl, ?_⟩
        have same : old = existing := Option.some.inj (foundOld.symm.trans found)
        rw [same]
        exact fromSource
      · rw [if_neg fromSource]
        split
        · exact sound.updateFirst_witnessed witnessed fun old _ => ⟨rfl, rfl, rfl⟩
        · exact sound

theorem start (sound : SoundNode network config device node) :
    SoundNode network config device (node.start (config device).networks) := by
  refine ⟨fun destination member => member, sound.redistributed, ?_⟩
  intro route member _ origin learned
  rw [learnedFrom_directTable member] at learned
  cases learned

/-- A time-out only raises a metric to infinity. -/
theorem timeOut (sound : SoundNode network config device node) (destination : Prefix) :
    SoundNode network config device (node.timeOut destination) := by
  refine ⟨sound.networks, sound.redistributed, fun route member finite origin learned => ?_⟩
  rcases mem_updateFirst member with kept | ⟨old, found, rfl⟩
  · exact sound.table route kept finite origin learned
  · by_cases expired : old.metric < infinity
    · simp [expired] at finite
    · simp only [expired, if_false] at finite

theorem collect (sound : SoundNode network config device node) (destination : Prefix) :
    SoundNode network config device (node.collect destination) :=
  sound.of_subset fun _ member => mem_of_mem_eraseP member

theorem updateEntries (sound : SoundNode network config device node) {peer : Device}
    {entry : RipEntry} (member : entry ∈ node.updateEntries peer) (finite : entry.metric < infinity) :
    ReachedAt network config device entry.destination entry.metric := by
  simp only [RipNode.updateEntries, mem_append, mem_map, mem_filter] at member
  rcases member with (⟨destination, configured, rfl⟩ | ⟨⟨destination, metric⟩, injected, rfl⟩) |
      ⟨route, ⟨learned, advertised⟩, rfl⟩
  · exact ⟨device, 0, 0, .nil device, .network (sound.networks destination configured), rfl⟩
  · have found := sound.redistributed destination metric (mem_entries_iff.mp injected)
    exact ⟨device, _, 0, .nil device, .redistributed found, rfl⟩
  · cases from_ : route.learnedFrom with
    | direct => simp [advertisedTo, from_] at advertised
    | peer source =>
      obtain ⟨rest, link, ⟨origin, base, links, walk, originates, rfl⟩, metricEq⟩ :=
        sound.table route learned finite source from_
      refine ⟨origin, base, 1 + links, .cons link walk, originates, ?_⟩
      change route.metric = _
      omega

end SoundNode

theorem updatePacket_sound {surroundings : Surroundings Device}
    {nodes : OrderedMap Device (RipNode Device)} {device peer : Device} {node : RipNode Device}
    {packet : RipPacket Device}
    (sound : SoundNode surroundings.network config device node)
    (linked : peer ∈ surroundings.network.getNeighbors device)
    (sent : updatePacket surroundings nodes device node peer = some packet) :
    ∀ entry ∈ packet.entries, SoundOffer surroundings.network config peer packet.srcId entry := by
  have shape : packet.srcId = device ∧
      ∀ entry ∈ packet.entries, entry ∈ node.updateEntries peer := by
    unfold updatePacket at sent
    dsimp only at sent
    split_ifs at sent
    all_goals
      cases sent
      exact ⟨rfl, fun entry member => (mem_filter.mp member).1⟩
  obtain ⟨rfl, listed⟩ := shape
  intro entry member finite
  refine ⟨entry.metric, ?_, sound.updateEntries (listed entry member) finite, rfl⟩
  simp [linkGraph, linked]

/-! ## Steps -/

namespace Sound

variable {surroundings : Surroundings Device} {state : RipState Device}

theorem setNode (sound : Sound surroundings.network config state) {device : Device}
    {node : RipNode Device} (soundNode : SoundNode surroundings.network config device node) :
    Sound surroundings.network config (state.setNode device node) := by
  refine ⟨fun other otherNode found => ?_, sound.inFlight, sound.receiving, sound.sending⟩
  by_cases same : other = device
  · subst same
    simp only [RipState.setNode, lookup_insert_self, Option.some.injEq] at found
    exact found ▸ soundNode
  · simp only [RipState.setNode, lookup_insert_of_ne _ _ same] at found
    exact sound.nodes other otherNode found

theorem broadcast (sound : Sound surroundings.network config state) {packet : RipPacket Device}
    (unreachable : ∀ entry ∈ packet.entries, entry.metric = infinity) :
    Sound surroundings.network config (state.broadcast surroundings.network packet) := by
  refine ⟨sound.nodes, fun receiver sent member entry listed => ?_, sound.receiving, sound.sending⟩
  rcases mem_append.mp member with old | new
  · exact sound.inFlight receiver sent old entry listed
  · obtain ⟨_, _, equal⟩ := mem_map.mp new
    cases equal
    intro finite
    rw [unreachable entry listed] at finite
    exact absurd finite (Nat.lt_irrefl _)

private theorem mem_set_cases {Task : Type} {tasks : List Task} {index : Nat} {task other : Task}
    (member : other ∈ tasks.set index task) : other ∈ tasks ∨ other = task :=
  mem_or_eq_of_mem_set member

section

variable (sound : Sound surroundings.network config state) (index : Nat)
include sound index

theorem continueSend :
    Sound surroundings.network config (state.continueSend surroundings index) := by
  unfold RipState.continueSend
  cases atIndex : state.sending[index]? with
  | none => exact sound
  | some task =>
    have taskMember : task ∈ state.sending := mem_of_getElem? atIndex
    have erased : ∀ other ∈ state.sending.eraseIdx index, ∀ peers, other.remaining = some peers →
        ∀ peer ∈ peers, peer ∈ surroundings.network.getNeighbors other.sender :=
      fun other member => sound.sending other (mem_of_mem_eraseIdx member)
    dsimp only
    cases found : state.nodes.lookup task.sender with
    | none => exact ⟨sound.nodes, sound.inFlight, sound.receiving, erased⟩
    | some node =>
      dsimp only
      rcases remaining : task.remaining with _ | (_ | ⟨peer, rest⟩)
      · dsimp only
        split
        · refine ⟨sound.nodes, sound.inFlight, sound.receiving, ?_⟩
          intro other member peers pending peer listed
          rcases mem_set_cases member with old | rfl
          · exact sound.sending other old peers pending peer listed
          · cases pending
            exact listed
        · exact ⟨sound.nodes, sound.inFlight, sound.receiving, erased⟩
      · exact ⟨sound.nodes, sound.inFlight, sound.receiving, erased⟩
      · have neighbours := sound.sending task taskMember _ remaining
        refine ⟨sound.nodes, ?_, sound.receiving, ?_⟩
        · intro receiver packet member
          rcases mem_append.mp member with old | new
          · exact sound.inFlight receiver packet old
          · simp only [Option.mem_toList, Option.map_eq_some_iff, Prod.mk.injEq] at new
            obtain ⟨sent, sentEq, rfl, rfl⟩ := new
            exact updatePacket_sound (sound.nodes _ _ found) (neighbours _ mem_cons_self) sentEq
        · intro other member peers pending listedPeer listed
          rcases mem_set_cases member with old | rfl
          · exact sound.sending other old peers pending listedPeer listed
          · cases pending
            exact neighbours listedPeer (mem_cons_of_mem _ listed)

theorem deliver : Sound surroundings.network config (state.deliver index) := by
  unfold RipState.deliver
  cases atIndex : state.inFlight[index]? with
  | none => exact sound
  | some arrival =>
    obtain ⟨receiver, packet⟩ := arrival
    have offered := sound.inFlight receiver packet (mem_of_getElem? atIndex)
    have taken : Sound surroundings.network config
        { state with inFlight := state.inFlight.eraseIdx index } :=
      ⟨sound.nodes, fun other sent member => sound.inFlight other sent
        (mem_of_mem_eraseIdx member), sound.receiving, sound.sending⟩
    dsimp only
    split
    · exact taken
    split
    · exact taken
    split
    · refine ⟨taken.nodes, taken.inFlight, taken.receiving, ?_⟩
      intro task member peers pending
      rcases mem_append.mp member with old | new
      · exact taken.sending task old peers pending
      · rw [mem_singleton.mp new] at pending
        cases pending
    split
    · exact taken
    · refine ⟨taken.nodes, taken.inFlight, ?_, taken.sending⟩
      intro task member
      rcases mem_append.mp member with old | new
      · exact taken.receiving task old
      · rw [mem_singleton.mp new]
        exact offered

theorem continueReceive :
    Sound surroundings.network config (state.continueReceive surroundings index) := by
  unfold RipState.continueReceive
  cases atIndex : state.receiving[index]? with
  | none => exact sound
  | some task =>
    have offered := sound.receiving task (mem_of_getElem? atIndex)
    have erased : ∀ other ∈ state.receiving.eraseIdx index, ∀ entry ∈ other.remaining,
        SoundOffer surroundings.network config other.receiver other.source entry :=
      fun other member => sound.receiving other (mem_of_mem_eraseIdx member)
    dsimp only
    rcases remaining : task.remaining with _ | ⟨entry, rest⟩
    · refine ⟨sound.nodes, sound.inFlight, erased, ?_⟩
      intro sender member peers pending
      rcases mem_append.mp member with old | new
      · exact sound.sending sender old peers pending
      · split at new
        · rw [mem_singleton.mp new] at pending
          cases pending
        · cases new
    · rw [remaining] at offered
      dsimp only
      cases found : state.nodes.lookup task.receiver with
      | none => exact ⟨sound.nodes, sound.inFlight, erased, sound.sending⟩
      | some node =>
        have handled := sound.setNode ((sound.nodes _ _ found).receiveEntry
          (offered entry mem_cons_self) (surroundings.filters task.receiver))
        refine ⟨handled.nodes, handled.inFlight, ?_, handled.sending⟩
        intro other member
        rcases mem_set_cases member with old | rfl
        · exact sound.receiving other old
        · exact fun later listed => offered later (mem_cons_of_mem _ listed)

theorem continueStop : Sound surroundings.network config (state.continueStop index) := by
  unfold RipState.continueStop
  cases state.stopping[index]? with
  | none => exact sound
  | some device =>
    have stopped : Sound surroundings.network config
        { state with stopping := state.stopping.eraseIdx index } :=
      ⟨sound.nodes, sound.inFlight, sound.receiving, sound.sending⟩
    dsimp only
    cases found : state.nodes.lookup device with
    | none => exact stopped
    | some node =>
      have node' := sound.nodes device node found
      exact stopped.setNode ⟨node'.networks, node'.redistributed, node'.table⟩

end

end Sound

theorem step_sound {surroundings : Surroundings Device} {state : RipState Device}
    (sound : Sound surroundings.network config state) (event : RipEvent Device) :
    Sound surroundings.network config
      (step surroundings (fun device => (config device).networks) state event) := by
  have blank : ∀ device, SoundNode surroundings.network config device {} := by
    intro device
    refine ⟨by simp, ?_, by simp⟩
    intro destination metric found
    cases found
  cases event with
  | start device =>
    refine sound.setNode (SoundNode.start ?_)
    cases found : state.nodes.lookup device with
    | none => exact blank device
    | some node => exact sound.nodes device node found
  | stop device =>
    dsimp only [step]
    cases found : state.nodes.lookup device with
    | none => exact sound
    | some node =>
      have warned : Sound surroundings.network config (state.broadcast surroundings.network
            { command := .response, srcId := device, entries := poisonEntries node.table }) := by
        refine sound.broadcast ?_
        intro entry member
        obtain ⟨_, _, rfl⟩ := mem_map.mp member
        rfl
      dsimp only
      split
      · exact ⟨sound.nodes, sound.inFlight, sound.receiving, sound.sending⟩
      · exact ⟨warned.nodes, warned.inFlight, warned.receiving, warned.sending⟩
  | continueStop index => exact sound.continueStop index
  | interfaceDown device peers =>
    dsimp only [step]
    cases found : state.nodes.lookup device with
    | none => exact sound
    | some node =>
      have kept : SoundNode surroundings.network config device
          { node with table := node.table.filter fun route => !learnedThrough peers route } :=
        (sound.nodes device node found).of_subset fun _ member => mem_of_mem_filter member
      have reduced := sound.setNode kept
      dsimp only
      split
      · exact sound
      · split
        · exact reduced
        · refine reduced.broadcast ?_
          intro entry member
          obtain ⟨_, _, rfl⟩ := mem_map.mp member
          rfl
  | sendRequest device =>
    dsimp only [step]
    split
    · exact sound
    · refine sound.broadcast ?_
      intro entry member
      rw [mem_singleton.mp member]
  | sendUpdate device =>
    refine ⟨sound.nodes, sound.inFlight, sound.receiving, ?_⟩
    intro task member peers pending
    rcases mem_append.mp member with old | new
    · exact sound.sending task old peers pending
    · rw [mem_singleton.mp new] at pending
      cases pending
  | continueSend index => exact sound.continueSend index
  | deliver index => exact sound.deliver index
  | continueReceive index => exact sound.continueReceive index
  | timeOut device destination =>
    dsimp only [step]
    cases found : state.nodes.lookup device with
    | none => exact sound
    | some node => exact sound.setNode ((sound.nodes device node found).timeOut destination)
  | collect device destination =>
    dsimp only [step]
    cases found : state.nodes.lookup device with
    | none => exact sound
    | some node => exact sound.setNode ((sound.nodes device node found).collect destination)

/-- Configured routers before any of them has been started. -/
def boot (config : Device → RipConfig) (devices : OrderedMap Device Unit) : RipState Device where
  nodes := devices.mapValues fun device _ => { redistributed := (config device).redistributed }

theorem boot_booted (config : Device → RipConfig) (devices : OrderedMap Device Unit) :
    Booted config (boot config devices) := by
  have shape : ∀ device node, (boot config devices).nodes.lookup device = some node →
      node = { redistributed := (config device).redistributed } := by
    intro device node found
    simp only [boot, lookup_mapValues, Option.map_eq_some_iff] at found
    obtain ⟨_, _, rfl⟩ := found
    rfl
  refine ⟨?_, ?_, ?_, rfl, rfl, rfl⟩
  all_goals
    intro device node found
    rw [shape device node found]
  exact fun _ listed => absurd listed not_mem_nil

theorem Booted.sound {state : RipState Device} (booted : Booted config state) :
    Sound network config state := by
  refine ⟨fun device node found => ⟨booted.networks device node found, ?_, ?_⟩, ?_, ?_, ?_⟩
  · rw [booted.redistributed device node found]
    exact fun _ _ => id
  · simp [booted.table device node found]
  · simp [booted.inFlight]
  · simp [booted.receiving]
  · simp [booted.sending]

/-- Along every run of the engine, a finite metric learned from `source` is the length
of a walk router, source, ..., origin plus the metric at that origin, and so never
below the shortest distance. -/
theorem learned_metric_witnessed (surroundings : Surroundings Device)
    (config : Device → RipConfig) (start : RipState Device) (booted : Booted config start)
    (events : List (RipEvent Device)) (router : Device) (node : RipNode Device)
    (found : (runFrom (step surroundings fun device => (config device).networks) start
      events).nodes.lookup router = some node)
    (route : RipRoute Device) (listed : route ∈ node.table) (finite : route.metric < 16)
    (source : Device) (learned : route.learnedFrom = .peer source) :
    (∃ origin base links, linkGraph surroundings.network router source = some 1 ∧
      Walk (linkGraph surroundings.network) source origin links ∧
      Originates config origin route.destination base ∧ route.metric = base + (links + 1)) ∧
    shortestDistance surroundings.network config router route.destination ≤ route.metric := by
  have preserved : ∀ state event, Sound surroundings.network config state →
      Sound surroundings.network config
        (step surroundings (fun device => (config device).networks) state event) :=
    fun _ event holds => step_sound holds event
  have sound := invariant_of_step preserved booted.sound events
  have witnessed := (sound.nodes router node found).table route listed finite source learned
  refine ⟨?_, Nat.sInf_le ⟨source, witnessed⟩⟩
  obtain ⟨rest, link, ⟨origin, base, links, walk, originates, rfl⟩, metricEq⟩ := witnessed
  exact ⟨origin, base, links, link, walk, originates, by omega⟩

/-- Two routers joined by one link, without addresses, filters or shut interfaces. -/
def pairNetwork : VirtualNetwork String where
  links := ⟨[("r1", ["r2"]), ("r2", ["r1"])], by decide⟩
  interfaceLinks _ _ := none
  linkIfaces _ _ := []
  downInterfaces _ := []
  subifVlans _ := []
  vlanPorts _ := []
  deviceIps := .empty

/-- `r1` owns one network. -/
def pairConfig (device : String) : RipConfig :=
  if device = "r1" then { networks := [⟨"10.0.0.0", 8⟩] } else {}

/-- Both routers start, `r1` sends an update and `r2` handles it. -/
def pairEvents : List (RipEvent String) :=
  [.start "r1", .start "r2", .sendUpdate "r1", .continueSend 0, .continueSend 0, .deliver 0,
    .continueReceive 0]

/-- The route that `r2` learns in that run is one link away from its origin. -/
theorem learned_metric_witnessed_pair :
    (∃ origin base links, linkGraph pairNetwork "r2" "r1" = some 1 ∧
      Walk (linkGraph pairNetwork) "r1" origin links ∧
      Originates pairConfig origin ⟨"10.0.0.0", 8⟩ base ∧ 1 = base + (links + 1)) ∧
    shortestDistance pairNetwork pairConfig "r2" ⟨"10.0.0.0", 8⟩ ≤ 1 :=
  learned_metric_witnessed ⟨pairNetwork, fun _ => {}⟩ pairConfig
    (boot pairConfig ⟨[("r1", ()), ("r2", ())], by decide⟩) (boot_booted _ _) pairEvents "r2"
    { enabled := true
      table := [{ destination := ⟨"10.0.0.0", 8⟩, metric := 1, nextHop := some "r1",
                  learnedFrom := .peer "r1" }] }
    (by decide) _ (mem_singleton.mpr rfl) (by decide) "r1" rfl

end NetLab.Rip
