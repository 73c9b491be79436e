import NetLab.Eigrp.Table

/-!
# Steps of the EIGRP engine

Every step does one of a few things to the routers, and every fact about runs is derived
from this list: a router meets a neighbour, learns from an update, loses a neighbour,
is shut down or started, or nothing that routing depends on changes.
-/

namespace NetLab.Eigrp

open NetLab.Library NetLab.Network List

variable {Device : Type} [DecidableEq Device] {world : EigrpWorld Device}

def EigrpWorld.received (world : EigrpWorld Device) (receiver source : Device) : List EigrpEntry :=
  (world.surroundings.filters receiver).filterRoutes EigrpEntry.destination .eigrp .inbound
    (world.updateTo source receiver)

/-- The table of a router after an update of a neighbour, and whether it changed. -/
def EigrpWorld.learned (world : EigrpWorld Device) (receiver source : Device) :
    List (EigrpRoute Device) × Bool :=
  receiveEntries (peerIp world.surroundings.network receiver source) source
    (world.nodes receiver).topology (world.received receiver source)

def EigrpWorld.HasLearned (world : EigrpWorld Device) (device : Device) (destination : Prefix)
    (peer : Device) : Prop :=
  ∃ route ∈ (world.nodes device).topology, route.destination = destination ∧
    route.learnedFrom = some peer

/-- What a step does to the data of the routers. -/
inductive Effect (world : EigrpWorld Device) (event : EigrpEvent Device) :
    (Device → EigrpNode Device) → Prop where
  | same : Effect world event world.nodes
  | meets (receiver source : Device) (enabled : (world.nodes receiver).enabled = true)
      (sourceEnabled : (world.nodes source).enabled = true)
      (new : source ∉ (world.nodes receiver).neighbors) :
      Effect world event (Function.update world.nodes receiver { world.nodes receiver with
          neighbors := (world.nodes receiver).neighbors ++ [source] })
  | learns (receiver source : Device) (targets : List Device) (rest : List (Call Device))
      (isProceed : event = .proceed)
      (call : world.calls = .sendUpdate source (receiver :: targets) :: rest)
      (enabled : (world.nodes receiver).enabled = true)
      (sourceEnabled : (world.nodes source).enabled = true)
      (isNeighbor : source ∈ (world.nodes receiver).neighbors) :
      Effect world event (Function.update world.nodes receiver
        { world.nodes receiver with topology := (world.learned receiver source).1 })
  | loses (device peer : Device) (rest : List (Call Device)) (isProceed : event = .proceed)
      (call : world.calls = .neighborDown device peer :: rest)
      (isNeighbor : peer ∈ (world.nodes device).neighbors) :
      Effect world event (Function.update world.nodes device
        ((world.nodes device).neighborDown peer))
  | shuts (device : Device) (rest : List (Call Device)) (isProceed : event = .proceed)
      (call : world.calls = .shutdown device :: rest) :
      Effect world event (Function.update world.nodes device (world.nodes device).shutdown)
  | starts (device : Device) (asn : Nat) (networks : List Prefix) :
      Effect world event (Function.update world.nodes device
        ((world.nodes device).start asn networks))
  | configures (device : Device) (kValues : List Nat) (passiveIfaces : List String) :
      Effect world event (Function.update world.nodes device
        { world.nodes device with kValues, passiveIfaces })

namespace EigrpWorld

variable (world : EigrpWorld Device) (receiver source device : Device) (node : EigrpNode Device)
  (calls : List (Call Device))

omit [DecidableEq Device] in
@[simp] theorem push_nodes : (world.push calls).nodes = world.nodes := rfl

omit [DecidableEq Device] in
omit [DecidableEq Device] in
@[simp] theorem push_calls : (world.push calls).calls = calls ++ world.calls := rfl

@[simp] theorem setNode_calls : (world.setNode device node).calls = world.calls := rfl

@[simp] theorem setNode_nodes :
    (world.setNode device node).nodes = Function.update world.nodes device node := rfl

theorem receiveHello_cases : world.receiveHello receiver source = world ∨
      (world.nodes receiver).enabled = true ∧ source ∉ (world.nodes receiver).neighbors ∧
      world.receiveHello receiver source = (world.setNode receiver { world.nodes receiver with
          neighbors := (world.nodes receiver).neighbors ++ [source] }).push
          [.sendUpdate receiver [source], .answer receiver source] := by
  unfold receiveHello
  by_cases takes : world.takes receiver source = true
  · have enabled : (world.nodes receiver).enabled = true := by
      simp only [EigrpWorld.takes, Bool.and_eq_true] at takes
      exact takes.1.1
    by_cases kValues : (world.nodes source).kValues = (world.nodes receiver).kValues
    · by_cases known : source ∈ (world.nodes receiver).neighbors
      · exact .inl (by simp [takes, known])
      · exact .inr ⟨enabled, known, by simp [takes, kValues, known]⟩
    · exact .inl (by simp [takes, kValues])
  · exact .inl (by simp [takes])

/-- Handling an update leaves all as it is, or puts the new table in place and passes on
a change. -/
theorem receiveUpdate_cases (entries : List EigrpEntry) :
    world.receiveUpdate receiver source entries = world ∨
      (world.nodes receiver).enabled = true ∧ source ∈ (world.nodes receiver).neighbors ∧
      world.receiveUpdate receiver source entries =
        let handled := receiveEntries (peerIp world.surroundings.network receiver source) source
          (world.nodes receiver).topology
          ((world.surroundings.filters receiver).filterRoutes EigrpEntry.destination .eigrp
            .inbound entries)
        (world.setNode receiver { world.nodes receiver with topology := handled.1 }).push
          (if handled.2 then [.sendUpdate receiver (world.nodes receiver).neighbors] else []) := by
  unfold receiveUpdate
  by_cases takes : world.takes receiver source = true
  · have enabled : (world.nodes receiver).enabled = true := by
      simp only [EigrpWorld.takes, Bool.and_eq_true] at takes
      exact takes.1.1
    by_cases known : source ∈ (world.nodes receiver).neighbors
    · exact .inr ⟨enabled, known, by simp [takes, known]⟩
    · exact .inl (by simp [known])
  · exact .inl (by simp [takes])

/-- What running a call comes to. Everything but the routers and the stack stays. -/
inductive Ran (world : EigrpWorld Device) (rest : List (Call Device)) :
    Call Device → EigrpWorld Device → Prop where
  | returns (call : Call Device) : Ran world rest call { world with calls := rest }
  | helloLeft (device peer : Device) (peers : List Device) :
      Ran world rest (.sendHello device (peer :: peers))
        { world with calls := .sendHello device peers :: rest }
  | meets (device peer : Device) (peers : List Device)
      (enabled : (world.nodes device).enabled = true)
      (peerEnabled : (world.nodes peer).enabled = true)
      (new : device ∉ (world.nodes peer).neighbors) :
      Ran world rest (.sendHello device (peer :: peers)) { world with
          nodes := Function.update world.nodes peer
            { world.nodes peer with neighbors := (world.nodes peer).neighbors ++ [device] }
          calls := .sendUpdate peer [device] :: .answer peer device ::
            .sendHello device peers :: rest }
  | answers (receiver source : Device) :
      Ran world rest (.answer receiver source)
        { world with calls := .sendHello receiver [source] :: rest }
  | updateLeft (device peer : Device) (targets : List Device) :
      Ran world rest (.sendUpdate device (peer :: targets))
        { world with calls := .sendUpdate device targets :: rest }
  | learns (device peer : Device) (targets : List Device)
      (enabled : (world.nodes device).enabled = true)
      (peerEnabled : (world.nodes peer).enabled = true)
      (isNeighbor : device ∈ (world.nodes peer).neighbors) :
      Ran world rest (.sendUpdate device (peer :: targets)) { world with
          nodes := Function.update world.nodes peer
            { world.nodes peer with topology := (world.learned peer device).1 }
          calls := (if (world.learned peer device).2 then
            [.sendUpdate peer (world.nodes peer).neighbors] else []) ++
              .sendUpdate device targets :: rest }
  | announces (device : Device) :
      Ran world rest (.announce device)
        { world with calls := .sendUpdate device (world.nodes device).neighbors :: rest }
  | loses (device peer : Device) (isNeighbor : peer ∈ (world.nodes device).neighbors) :
      Ran world rest (.neighborDown device peer) { world with
          nodes := Function.update world.nodes device ((world.nodes device).neighborDown peer)
          calls := rest }
  | shuts (device : Device) :
      Ran world rest (.shutdown device) { world with
          nodes := Function.update world.nodes device (world.nodes device).shutdown
          calls := rest }

theorem runCall_ran (rest : List (Call Device)) (call : Call Device) :
    Ran world rest call ({ world with calls := rest }.runCall call) := by
  cases call with
  | sendHello device peers =>
    cases peers with
    | nil => exact .returns _
    | cons peer peers =>
      simp only [runCall]
      by_cases enabled : (world.nodes device).enabled = true
      · simp only [enabled, Bool.not_true, Bool.false_eq_true, if_false]
        by_cases peerEnabled : (world.nodes peer).enabled = true
        · simp only [peerEnabled, if_true]
          rcases receiveHello_cases ({ world with calls := rest }.push
            [.sendHello device peers]) peer device with same | ⟨-, new, met⟩
          · rw [same]
            exact .helloLeft device peer peers
          · rw [met]
            exact .meets device peer peers enabled peerEnabled new
        · simp only [peerEnabled, Bool.false_eq_true, if_false]
          exact .helloLeft device peer peers
      · simp only [enabled, Bool.not_false, if_true]
        exact .returns _
  | answer receiver source =>
    simp only [runCall]
    split
    · exact .returns _
    · exact .answers receiver source
  | sendUpdate device targets =>
    cases targets with
    | nil => exact .returns _
    | cons peer targets =>
      simp only [runCall]
      by_cases enabled : (world.nodes device).enabled = true
      · simp only [enabled, Bool.not_true, Bool.false_eq_true, if_false]
        split
        · exact .updateLeft device peer targets
        · split
          · exact .updateLeft device peer targets
          · rcases receiveUpdate_cases ({ world with calls := rest }.push
              [.sendUpdate device targets]) peer device (world.updateTo device peer) with
              same | ⟨peerEnabled, isNeighbor, learned⟩
            · have unchanged := same
              simp only [EigrpWorld.updateTo] at unchanged ⊢
              rw [unchanged]
              exact .updateLeft device peer targets
            · simp only [EigrpWorld.updateTo] at learned ⊢
              rw [learned]
              exact .learns device peer targets enabled peerEnabled isNeighbor
      · simp only [enabled, Bool.not_false, if_true]
        exact .returns _
  | announce device =>
    simp only [runCall]
    split
    · exact .returns _
    · exact .announces device
  | neighborDown device peer =>
    simp only [runCall]
    split
    · rename_i isNeighbor
      exact .loses device peer isNeighbor
    · exact .returns _
  | shutdown device => exact .shuts device

/-- With calls in progress, the innermost one runs. -/
theorem proceed_ran {world : EigrpWorld Device} {call : Call Device} {rest : List (Call Device)}
    (calls : world.calls = call :: rest) : Ran world rest call world.proceed := by
  have ran := world.runCall_ran rest call
  unfold proceed
  rw [calls]
  exact ran

/-- Running calls leaves the surroundings alone. -/
theorem proceed_surroundings : world.proceed.surroundings = world.surroundings := by
  cases calls : world.calls with
  | nil => simp [proceed, calls]
  | cons call rest =>
    have ran := proceed_ran calls
    generalize world.proceed = after at ran ⊢
    cases ran <;> rfl

theorem step_effect (event : EigrpEvent Device) : Effect world event (world.step event).nodes := by
  have waits : ∀ after : EigrpWorld Device, Effect world event after.nodes →
      Effect world event (if world.calls.isEmpty then after else world).nodes := by
    intro after effect
    split
    · exact effect
    · exact .same
  cases event with
  | proceed =>
    cases calls : world.calls with
    | nil =>
      have stays : world.proceed = world := by simp [proceed, calls]
      simp only [step, stays]
      exact .same
    | cons call rest =>
      have ran := proceed_ran calls
      simp only [step]
      generalize world.proceed = after at ran ⊢
      cases ran with
      | returns => exact .same
      | helloLeft => exact .same
      | meets device peer peers enabled peerEnabled new =>
        exact .meets peer device peerEnabled enabled new
      | answers => exact .same
      | updateLeft => exact .same
      | learns device peer targets enabled peerEnabled isNeighbor =>
        exact .learns peer device targets rest rfl calls peerEnabled enabled isNeighbor
      | announces => exact .same
      | loses device peer isNeighbor => exact .loses device peer rest rfl calls isNeighbor
      | shuts device => exact .shuts device rest rfl calls
  | start device asn networks => exact waits _ (.starts device asn networks)
  | started device => exact waits _ .same
  | stop device => exact waits _ .same
  | helloTimer device => exact waits _ .same
  | holdTimer device peer => exact waits _ .same
  | interfaceDown device peers =>
    refine waits _ ?_
    simp only [handle]
    split <;> exact .same
  | interfaceUp device peers =>
    refine waits _ ?_
    simp only [handle]
    split <;> exact .same
  | setKValues device kValues =>
    exact waits _ (.configures device kValues (world.nodes device).passiveIfaces)
  | resetNeighbors device => exact waits _ .same
  | setPassive device ifaces => exact waits _ (.configures device (world.nodes device).kValues ifaces)
  | reconfigure surroundings => exact waits _ .same

end EigrpWorld

/-! ## Invariants of every run -/

/-- What holds of every router in every run: the table is well formed, its direct routes
are configured, its learned ones come from neighbours, only an enabled router has routes,
and nothing is redistributed. -/
structure EigrpNode.Sound (node : EigrpNode Device) : Prop where
  wellFormed : WellFormed node.topology
  configured : ∀ route ∈ node.topology, route.learnedFrom = none → route.destination ∈ node.networks
  adjacent : ∀ route ∈ node.topology, ∀ peer, route.learnedFrom = some peer → peer ∈ node.neighbors
  enabled : node.topology ≠ [] → node.enabled = true
  notRedistributing : node.redistributed = []

/-- All routers are sound. -/
def EigrpWorld.Sound (world : EigrpWorld Device) : Prop := ∀ device, (world.nodes device).Sound

omit [DecidableEq Device] in
theorem sound_start (surroundings : Surroundings Device) :
    EigrpWorld.Sound { surroundings := surroundings } := fun _ =>
  { wellFormed := wellFormed_nil
    configured := fun _ member => by cases member
    adjacent := fun _ member => by cases member
    enabled := fun nonempty => absurd rfl nonempty
    notRedistributing := rfl }

theorem mem_addMember_of_mem {α : Type} [DecidableEq α] {element other : α} {set : List α}
    (member : other ∈ set) : other ∈ VirtualNetwork.addMember element set := by
  unfold VirtualNetwork.addMember
  split
  · exact member
  · exact mem_append_left _ member

omit [DecidableEq Device] in
theorem mem_start_networks {node : EigrpNode Device} {destination : Prefix}
    (member : destination ∈ node.networks) (asn : Nat) (networks : List Prefix) :
    destination ∈ (node.start asn networks).networks := by
  suffices kept : ∀ known : List Prefix, destination ∈ known →
      destination ∈ networks.foldl (fun known destination =>
        VirtualNetwork.addMember destination known) known from kept node.networks member
  induction networks with
  | nil => exact fun known member => member
  | cons network rest ih => exact fun known member => ih _ (mem_addMember_of_mem member)

theorem EigrpWorld.Sound.step (sound : world.Sound) (event : EigrpEvent Device) :
    (world.step event).Sound := by
  have effect := world.step_effect event
  unfold EigrpWorld.Sound
  generalize (world.step event).nodes = nodes at effect
  have only : ∀ (device : Device) (node : EigrpNode Device), node.Sound →
      ∀ other, (Function.update world.nodes device node other).Sound := by
    intro device node isSound other
    by_cases same : other = device
    · rw [same, Function.update_self]
      exact isSound
    · rw [Function.update_of_ne same]
      exact sound other
  cases effect with
  | same => exact sound
  | meets receiver source enabled _ new =>
    have before := sound receiver
    exact only receiver _ { before with
        adjacent := fun route member peer learned =>
          mem_append_left _ (before.adjacent route member peer learned)}
  | learns receiver source targets rest _ call enabled _ isNeighbor =>
    have before := sound receiver
    refine only receiver _
      { wellFormed := before.wellFormed.receiveEntries _
        configured := fun route member learned => ?_
        adjacent := fun route member peer learned => ?_
        enabled := fun _ => enabled
        notRedistributing := before.notRedistributing }
    · rcases mem_receiveEntries member with old | ⟨entry, _, rfl⟩
      · exact before.configured route old learned
      · cases learned
    · rcases mem_receiveEntries member with old | ⟨entry, _, rfl⟩
      · exact before.adjacent route old peer learned
      · cases learned
        exact isNeighbor
  | loses device peer rest _ call isNeighbor =>
    have before := sound device
    refine only device _
      { wellFormed := before.wellFormed.filter _
        configured := fun route member learned =>
          before.configured route (mem_filter.mp member).1 learned
        adjacent := fun route member other learned => ?_
        enabled := fun nonempty => before.enabled fun empty => nonempty (by
          simp [EigrpNode.neighborDown, empty])
        notRedistributing := before.notRedistributing }
    obtain ⟨isRoute, elsewhere⟩ := mem_filter.mp member
    refine mem_filter.mpr ⟨before.adjacent route isRoute other learned, ?_⟩
    rw [learned] at elsewhere
    simpa using elsewhere
  | shuts device rest _ call =>
    exact only device _
      { wellFormed := wellFormed_nil
        configured := fun _ member => by cases member
        adjacent := fun _ member => by cases member
        enabled := fun nonempty => absurd rfl nonempty
        notRedistributing := (sound device).notRedistributing }
  | starts device asn networks =>
    have before := sound device
    refine only device _
      { wellFormed := before.wellFormed.addDirect _
        configured := fun route member learned => ?_
        adjacent := fun route member peer learned => ?_
        enabled := fun _ => rfl
        notRedistributing := before.notRedistributing }
    · rcases mem_addDirect member with old | ⟨destination, isNetwork, rfl⟩
      · exact mem_start_networks (before.configured route old learned) asn networks
      · exact isNetwork
    · rcases mem_addDirect member with old | ⟨destination, isNetwork, rfl⟩
      · exact before.adjacent route old peer learned
      · cases learned
  | configures device kValues passiveIfaces =>
    have before := sound device
    exact only device _ { before with }

/-! ## What an update lists -/

/-- An update lists the table of the sender, without the routes learned from the
receiver, as far as both filters permit. -/
theorem mem_received (notRedistributing : ∀ device, (world.nodes device).redistributed = [])
    {receiver source : Device} {entry : EigrpEntry} :
    entry ∈ world.received receiver source ↔
      (∃ route ∈ (world.nodes source).topology, route.learnedFrom ≠ some receiver ∧
        route.entry = entry) ∧
      (world.surroundings.filters source).permits .eigrp .outbound entry.destination = true ∧
      (world.surroundings.filters receiver).permits .eigrp .inbound entry.destination = true := by
  simp only [EigrpWorld.received, EigrpWorld.updateTo, DeviceFilters.filterRoutes,
    EigrpNode.updateEntries, notRedistributing, map_nil, append_nil, mem_filter,
    mem_map, bne_iff_ne, ne_eq]
  constructor
  · rintro ⟨⟨⟨route, ⟨isRoute, elsewhere⟩, rfl⟩, outbound⟩, inbound⟩
    exact ⟨⟨route, isRoute, elsewhere, rfl⟩, outbound, inbound⟩
  · rintro ⟨⟨route, isRoute, elsewhere, rfl⟩, outbound, inbound⟩
    exact ⟨⟨⟨route, ⟨isRoute, elsewhere⟩, rfl⟩, outbound⟩, inbound⟩

theorem falling_received (sound : world.Sound) (receiver source : Device) :
    Falling (world.received receiver source) := by
  have listed : Falling ((world.nodes source).updateEntries receiver) := by
    rw [EigrpNode.updateEntries, (sound source).notRedistributing, map_nil, append_nil]
    exact (sound source).wellFormed.falling _
  exact (listed.filter _).filter _

end NetLab.Eigrp
