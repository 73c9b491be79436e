import NetLab.Bgp.Operations

/-!
# What propagation leaves alone

A propagation writes the tables of received routes and the best paths. Everything
else about the speakers is their configuration, the session states included, and
it is the same before and after. The operations on sessions are described by what
they leave in each session end.
-/

namespace NetLab.Bgp

open NetLab.Library NetLab.Network
open OrderedMap

variable {Device : Type} [DecidableEq Device]

omit [DecidableEq Device] in
/-- A speaker without its tables. -/
def BgpNode.blank (node : BgpNode Device) : BgpNode Device :=
  { node with
    ribIn := .empty
    locRib := [] }

namespace BgpEngine

variable {engine other : BgpEngine Device} {filters : FilterEngine Device}

/-- The configuration of all speakers. -/
def config (engine : BgpEngine Device) : OrderedMap Device (BgpNode Device) :=
  engine.nodes.mapValues fun _ node => node.blank

theorem blank_eq_config (engine : BgpEngine Device) (device : Device) :
    (engine.node device).blank = (engine.config.lookup device).getD {} := by
  unfold node config
  rw [lookup_mapValues]
  cases engine.nodes.lookup device <;> rfl

section

variable (same : other.config = engine.config)
include same

variable (device : Device)

/-- Equal configurations give a speaker the same settings. -/
theorem blank_of_config : (other.node device).blank = (engine.node device).blank := by
  rw [blank_eq_config, blank_eq_config, same]

theorem sessions_of_config : (other.node device).sessions = (engine.node device).sessions := by
  have field := congrArg BgpNode.sessions (blank_of_config same device)
  exact field

theorem session_of_config (neighbor : Device) :
    other.session device neighbor = engine.session device neighbor := by
  unfold session
  rw [sessions_of_config same]

theorem isEnabled_of_config : other.isEnabled device = engine.isEnabled device := by
  have field := congrArg BgpNode.enabled (blank_of_config same device)
  exact field

theorem localAs_of_config : (other.node device).localAs = (engine.node device).localAs := by
  have field := congrArg BgpNode.localAs (blank_of_config same device)
  exact field

end

/-! ## Propagation -/

theorem config_deliver (progress : BgpEngine Device × Bool) (hop : Device × Device) :
    (deliver filters progress hop).1.config = progress.1.config := by
  unfold deliver
  dsimp only
  split
  · split
    · exact mapValues_modify (fun _ node => BgpNode.blank node) fun _ => rfl
    · rfl
  · rfl

theorem config_deliverAll (filters : FilterEngine Device) (engine : BgpEngine Device) :
    (engine.deliverAll filters).1.config = engine.config := by
  have folded : ∀ (hops : List (Device × Device)) (progress : BgpEngine Device × Bool),
      (hops.foldl (deliver filters) progress).1.config = progress.1.config := by
    intro hops
    induction hops with
    | nil => exact fun _ => rfl
    | cons hop rest ih =>
      intro progress
      exact (ih _).trans (config_deliver progress hop)
  exact folded engine.sessionEnds (engine, false)

omit [DecidableEq Device] in
theorem config_recalcAll (engine : BgpEngine Device) : engine.recalcAll.config = engine.config := by
  apply OrderedMap.ext
  change (engine.nodes.entries.map _).map _ = engine.nodes.entries.map _
  rw [List.map_map]
  refine List.map_congr_left fun entry _ => ?_
  by_cases enabled : entry.2.enabled = true
  · simp [enabled, BgpNode.recalcBestPath, BgpNode.blank]
  · simp [enabled]

theorem config_round (filters : FilterEngine Device) (engine : BgpEngine Device) :
    (engine.round filters).1.config = engine.config :=
  (config_recalcAll _).trans (config_deliverAll filters engine)

theorem config_rounds (filters : FilterEngine Device) (guard : Nat) (engine : BgpEngine Device) :
    (rounds filters guard engine).config = engine.config := by
  induction guard generalizing engine with
  | zero => rfl
  | succ guard ih =>
    unfold rounds
    dsimp only
    split
    · exact (ih _).trans (config_round filters engine)
    · exact config_round filters engine

theorem config_propagateBgp (filters : FilterEngine Device) (engine : BgpEngine Device) :
    (engine.propagateBgp filters).config = engine.config :=
  (config_recalcAll _).trans (config_rounds filters _ engine)

theorem config_sendUpdate (filters : FilterEngine Device) (engine : BgpEngine Device) (device neighbor : Device) :
    (engine.sendUpdate filters device neighbor).config = engine.config := by
  unfold sendUpdate
  split
  · rfl
  · split
    · exact config_propagateBgp filters engine
    · rfl

theorem config_exchangeUpdates (filters : FilterEngine Device) (engine : BgpEngine Device) (device neighbor : Device) :
    (engine.exchangeUpdates filters device neighbor).config = engine.config :=
  (config_sendUpdate filters _ _ _).trans (config_sendUpdate filters _ _ _)

/-! ## Operations that only propagate -/

section Propagating

variable {property : BgpEngine Device → Prop}

section

variable (propagates : ∀ engine, property engine → property (engine.propagateBgp filters))
  (holds : property engine)
include propagates holds

theorem sendUpdate_keeps (device neighbor : Device) :
    property (engine.sendUpdate filters device neighbor) := by
  unfold sendUpdate
  split
  · exact holds
  · split
    · exact propagates engine holds
    · exact holds

theorem exchangeUpdates_keeps (device neighbor : Device) :
    property (engine.exchangeUpdates filters device neighbor) :=
  sendUpdate_keeps propagates (sendUpdate_keeps propagates holds device neighbor) neighbor device

theorem foldl_sendUpdate_keeps (device : Device) (neighbors : List Device) :
    property (neighbors.foldl (fun engine neighbor =>
      engine.sendUpdate filters device neighbor) engine) := by
  induction neighbors generalizing engine with
  | nil => exact holds
  | cons neighbor rest ih => exact ih (sendUpdate_keeps propagates holds device neighbor)

end

end Propagating

/-! ## Changes to one speaker or one session end -/

variable (engine : BgpEngine Device)

variable (device neighbor first second other : Device) (number : Nat) (password : String)
  (state : SessionState)

theorem node_modifyNode (update : BgpNode Device → BgpNode Device) :
    (engine.modifyNode device update).node other =
      if other = device then update (engine.node device) else engine.node other := by
  change ((engine.nodes.insert device _).lookup other).getD {} = _
  rw [lookup_insert]
  split
  · rfl
  · rfl

@[simp] theorem node_modifyNode_id :
    (engine.modifyNode device id).node other = engine.node other := by
  rw [node_modifyNode]
  split
  · simp_all
  · rfl

section

variable (update : BgpSession → BgpSession)
include update

theorem node_modifySession :
    (engine.modifySession device neighbor update).node other = if other = device then
        { engine.node other with
          sessions := (engine.node other).sessions.modify neighbor update }
      else engine.node other := by
  change ((engine.nodes.modify device _).lookup other).getD {} = _
  rw [lookup_modify]
  unfold node
  split
  · cases engine.nodes.lookup other with
    | none => rfl
    | some _ => rfl
  · rfl

/-- Only the named session end changes. -/
theorem session_modifySession :
    (engine.modifySession device neighbor update).session first second =
      if first = device ∧ second = neighbor then (engine.session first second).map update
      else engine.session first second := by
  unfold session
  rw [node_modifySession]
  by_cases here : first = device
  · rw [if_pos here]
    dsimp only
    rw [lookup_modify]
    simp [here]
  · simp [here]

@[simp] theorem isEnabled_modifySession :
    (engine.modifySession device neighbor update).isEnabled other = engine.isEnabled other := by
  unfold isEnabled
  rw [node_modifySession]
  split <;> rfl

@[simp] theorem localAs_modifySession :
    ((engine.modifySession device neighbor update).node other).localAs =
      (engine.node other).localAs := by
  rw [node_modifySession]
  split <;> rfl

end

theorem session_modifyNode_of_keeps {update : BgpNode Device → BgpNode Device}
    (keeps : ∀ node, (update node).sessions = node.sessions) :
    (engine.modifyNode device update).session first second = engine.session first second := by
  unfold session
  rw [node_modifyNode]
  split
  case isTrue here => rw [keeps, here]
  case isFalse => rfl

@[simp] theorem session_modifyNode_id :
    (engine.modifyNode device id).session first second = engine.session first second :=
  session_modifyNode_of_keeps _ _ _ _ fun _ => rfl

@[simp] theorem session_start (localAs : Nat) : (engine.start device localAs).session first second =
      engine.session first second :=
  session_modifyNode_of_keeps _ _ _ _ fun _ => rfl

theorem node_addNeighbor (remoteAs : Nat) :
    (engine.addNeighbor device neighbor remoteAs).node other =
      if other = device ∧ engine.isEnabled device = true then
        { engine.node device with
          sessions := (engine.node device).sessions.insert neighbor
            (configuredSession (engine.node device) neighbor remoteAs) }
      else engine.node other := by
  unfold addNeighbor isEnabled
  dsimp only
  rw [node_modifyNode_id]
  split
  case isTrue enabled =>
      rw [node_modifyNode, node_modifyNode_id, node_modifyNode_id]
      simp [enabled]
  case isFalse disabled =>
      rw [node_modifyNode_id]
      simp [disabled]

theorem session_addNeighbor (remoteAs : Nat) :
    (engine.addNeighbor device neighbor remoteAs).session first second =
      if (first = device ∧ second = neighbor) ∧ engine.isEnabled device = true then
        some (configuredSession (engine.node device) neighbor remoteAs)
      else engine.session first second := by
  unfold session
  rw [node_addNeighbor]
  by_cases here : first = device ∧ engine.isEnabled device = true
  · rw [if_pos here]
    dsimp only
    rw [lookup_insert]
    obtain ⟨rfl, enabled⟩ := here
    simp [enabled]
  · rw [if_neg here, if_neg fun both => here ⟨both.1.1, both.2⟩]

/-! ## Session states -/

def established (engine : BgpEngine Device) (device neighbor : Device) : Bool :=
  (engine.session device neighbor).any fun session => session.state == .established

/-- The AS number that one end expects of its peer. -/
def remoteAs (engine : BgpEngine Device) (device neighbor : Device) : Option Nat :=
  (engine.session device neighbor).map BgpSession.remoteAs

/-- The AS number of a speaker. -/
def localAs (engine : BgpEngine Device) (device : Device) : Option Nat :=
  (engine.node device).localAs

theorem established_iff {engine : BgpEngine Device} {device neighbor : Device} :
    engine.established device neighbor = true ↔
      ∃ session, engine.session device neighbor = some session ∧ session.state = .established := by
  unfold established
  cases engine.session device neighbor <;> simp

theorem established_of_config {other : BgpEngine Device} {engine : BgpEngine Device}
    (same : other.config = engine.config) (device neighbor : Device) :
    other.established device neighbor = engine.established device neighbor := by
  unfold established
  rw [session_of_config same]

theorem remoteAs_of_config {other : BgpEngine Device} {engine : BgpEngine Device}
    (same : other.config = engine.config) (device neighbor : Device) :
    other.remoteAs device neighbor = engine.remoteAs device neighbor := by
  unfold remoteAs
  rw [session_of_config same]

theorem established_setState : (engine.setState device neighbor state).established first second =
      if first = device ∧ second = neighbor then
        (engine.session device neighbor).isSome && state == .established
      else engine.established first second := by
  unfold established setState
  rw [session_modifySession]
  split
  case isTrue named =>
      obtain ⟨rfl, rfl⟩ := named
      cases engine.session first second <;> simp
  case isFalse => rfl

@[simp] theorem remoteAs_setState : (engine.setState device neighbor state).remoteAs first second =
      engine.remoteAs first second := by
  unfold remoteAs setState
  rw [session_modifySession]
  split
  · cases engine.session first second <;> rfl
  · rfl

@[simp] theorem isSome_session_setState :
    ((engine.setState device neighbor state).session first second).isSome =
      (engine.session first second).isSome := by
  unfold setState
  rw [session_modifySession]
  split
  · cases engine.session first second <;> rfl
  · rfl

@[simp] theorem isEnabled_setState :
    (engine.setState device neighbor state).isEnabled other = engine.isEnabled other :=
  isEnabled_modifySession _ _ _ _ _

@[simp] theorem localAs_setState :
    (engine.setState device neighbor state).localAs other = engine.localAs other :=
  localAs_modifySession _ _ _ _ _

@[simp] theorem established_start (localAs : Nat) :
    (engine.start device localAs).established first second = engine.established first second := by
  unfold established
  rw [session_start]

@[simp] theorem remoteAs_start (localAs : Nat) :
    (engine.start device localAs).remoteAs first second = engine.remoteAs first second := by
  unfold remoteAs
  rw [session_start]

theorem isEnabled_start (localAs : Nat) : (engine.start device localAs).isEnabled other =
      if other = device then true else engine.isEnabled other := by
  unfold isEnabled start
  rw [node_modifyNode]
  split <;> rfl

theorem localAs_start : (engine.start device number).localAs other =
      if other = device then some number else engine.localAs other := by
  unfold localAs start
  rw [node_modifyNode]
  split <;> rfl

/-- A configured session end keeps its state; a new one is idle. -/
@[simp] theorem established_addNeighbor (remoteAs : Nat) :
    (engine.addNeighbor device neighbor remoteAs).established first second =
      engine.established first second := by
  unfold established
  rw [session_addNeighbor]
  split
  case isTrue named =>
      obtain ⟨⟨rfl, rfl⟩, -⟩ := named
      unfold configuredSession session
      cases (engine.node first).sessions.lookup second <;> rfl
  case isFalse => rfl

theorem remoteAs_addNeighbor : (engine.addNeighbor device neighbor number).remoteAs first second =
      if (first = device ∧ second = neighbor) ∧ engine.isEnabled device = true then some number
      else engine.remoteAs first second := by
  unfold remoteAs
  rw [session_addNeighbor]
  split
  case isTrue =>
      unfold configuredSession
      cases (engine.node device).sessions.lookup neighbor <;> rfl
  case isFalse => rfl

@[simp] theorem isEnabled_addNeighbor (remoteAs : Nat) :
    (engine.addNeighbor device neighbor remoteAs).isEnabled other = engine.isEnabled other := by
  unfold isEnabled
  rw [node_addNeighbor]
  split
  case isTrue here => rw [here.1]
  case isFalse => rfl

@[simp] theorem localAs_addNeighbor (remoteAs : Nat) :
    (engine.addNeighbor device neighbor remoteAs).localAs other = engine.localAs other := by
  unfold localAs
  rw [node_addNeighbor]
  split
  case isTrue here => rw [here.1]
  case isFalse => rfl

theorem session_setNeighborPassword :
    (engine.setNeighborPassword device neighbor password).session first second =
      if first = device ∧ second = neighbor then
        (engine.session first second).map fun session => { session with password := password }
      else engine.session first second := by
  unfold setNeighborPassword
  rw [session_modifySession, session_modifyNode_id]

/-- Establishing writes both ends that exist. -/
theorem established_establish : (engine.establish device neighbor).established first second =
      if (first = device ∧ second = neighbor) ∨ (first = neighbor ∧ second = device) then
        (engine.session first second).isSome
      else engine.established first second := by
  unfold establish
  rw [established_setState, isSome_session_setState, established_setState]
  by_cases forth : first = device ∧ second = neighbor
  · obtain ⟨rfl, rfl⟩ := forth
    by_cases back : first = second
    · subst back
      simp
    · simp [back]
  · by_cases back : first = neighbor ∧ second = device
    · obtain ⟨rfl, rfl⟩ := back
      simp
    · simp [forth, back]

/-! ## Session loss -/

theorem session_downEnd : (engine.downEnd device neighbor).1.session first second =
      if (first = device ∧ second = neighbor) ∧ engine.established device neighbor = true then
        (engine.session first second).map fun session => { session with state := .idle }
      else engine.session first second := by
  unfold downEnd established
  cases held : engine.session device neighbor with
  | none => simp
  | some session =>
    dsimp only
    by_cases up : session.state = .established
    · rw [if_pos up]
      dsimp only
      have keeps : ∀ node : BgpNode Device,
          (loseNeighbor node neighbor (session.gracefulRestart || session.llgr)).sessions =
            node.sessions := fun _ => rfl
      rw [session_modifyNode_of_keeps _ _ _ _ keeps]
      unfold setState
      rw [session_modifySession]
      simp [up]
    · rw [if_neg up]
      simp [up]

theorem established_downEnd : (engine.downEnd device neighbor).1.established first second =
      if first = device ∧ second = neighbor then false
      else engine.established first second := by
  by_cases named : first = device ∧ second = neighbor
  · obtain ⟨rfl, rfl⟩ := named
    rw [if_pos ⟨rfl, rfl⟩, established, session_downEnd]
    cases up : engine.established first second with
    | true => cases engine.session first second <;> simp
    | false => simpa [established] using up
  · rw [if_neg named, established, session_downEnd, if_neg fun both => named both.1]
    rfl

@[simp] theorem remoteAs_downEnd :
    (engine.downEnd device neighbor).1.remoteAs first second = engine.remoteAs first second := by
  unfold remoteAs
  rw [session_downEnd]
  split
  · cases engine.session first second <;> rfl
  · rfl

theorem isSome_session_downEnd : ((engine.downEnd device neighbor).1.session first second).isSome =
      (engine.session first second).isSome := by
  rw [session_downEnd]
  split
  · cases engine.session first second <;> rfl
  · rfl

/-- A lost session changes neither what is enabled nor an AS number. -/
theorem speaker_downEnd :
    (engine.downEnd device neighbor).1.isEnabled other = engine.isEnabled other ∧
      (engine.downEnd device neighbor).1.localAs other = engine.localAs other := by
  unfold downEnd
  split
  case h_1 => exact ⟨rfl, rfl⟩
  case h_2 session _ =>
      split
      case isTrue =>
          rw [← isEnabled_setState engine device neighbor other .idle,
            ← localAs_setState engine device neighbor other .idle]
          unfold isEnabled localAs
          rw [node_modifyNode]
          split
          case isTrue here =>
              subst here
              exact ⟨rfl, rfl⟩
          case isFalse => exact ⟨rfl, rfl⟩
      case isFalse => exact ⟨rfl, rfl⟩

/-- `session_down` up to its propagation. -/
theorem config_sessionDown (filters : FilterEngine Device) (engine : BgpEngine Device) (device neighbor : Device) :
    (engine.sessionDown filters device neighbor).config =
      ((engine.downEnd device neighbor).1.downEnd neighbor device).1.config := by
  unfold sessionDown
  dsimp only
  split
  · exact config_propagateBgp filters _
  · rfl

theorem established_sessionDown :
    (engine.sessionDown filters device neighbor).established first second =
      if (first = device ∧ second = neighbor) ∨ (first = neighbor ∧ second = device) then false
      else engine.established first second := by
  rw [established_of_config (config_sessionDown filters engine device neighbor), established_downEnd,
    established_downEnd]
  by_cases forth : first = device ∧ second = neighbor
  · simp [forth]
  · by_cases back : first = neighbor ∧ second = device
    · simp [back]
    · simp [forth, back]

/-! ## Views of the other operations -/

@[simp] theorem established_setNeighborPassword :
    (engine.setNeighborPassword device neighbor password).established first second =
      engine.established first second := by
  unfold established
  rw [session_setNeighborPassword]
  split
  · cases engine.session first second <;> rfl
  · rfl

@[simp] theorem remoteAs_setNeighborPassword :
    (engine.setNeighborPassword device neighbor password).remoteAs first second =
      engine.remoteAs first second := by
  unfold remoteAs
  rw [session_setNeighborPassword]
  split
  · cases engine.session first second <;> rfl
  · rfl

@[simp] theorem isEnabled_setNeighborPassword :
    (engine.setNeighborPassword device neighbor password).isEnabled other =
      engine.isEnabled other := by
  unfold setNeighborPassword
  rw [isEnabled_modifySession, isEnabled, node_modifyNode_id]
  rfl

@[simp] theorem localAs_setNeighborPassword :
    (engine.setNeighborPassword device neighbor password).localAs other = engine.localAs other := by
  unfold setNeighborPassword localAs
  rw [localAs_modifySession, node_modifyNode_id]

end BgpEngine

end NetLab.Bgp
