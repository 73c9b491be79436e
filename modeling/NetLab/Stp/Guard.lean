import NetLab.Stp.Frame

/-!
# Guards

BPDU guard and root guard block a port by writing its state. Roles, transitions and
the recomputation of the topology write the same field without looking at it, so a
blocked port stays blocked as long as none of them reaches it. `undisturbed` says
which steps do not.
-/

namespace NetLab.Stp

open NetLab.Library NetLab.Network NetLab.Execution StpState Bool
open OrderedMap

variable {Device : Type} [LinearOrder Device] {name : String}

/-! ## Which steps leave a port alone -/

/-- The port at which a BPDU arrives, when its bridge is enabled. -/
def StpState.receivingPort (state : StpState Device) (device : Device) (msg : Bpdu Device) :
    Option (String × Port Device) :=
  match state.nodes.lookup device with
  | none => none
  | some receiver => if receiver.enabled then receiver.portTo msg.srcId else none

/-- No guard stops a BPDU at the port it arrives at. -/
def StpState.passesGuards (state : StpState Device) (device : Device) (msg : Bpdu Device)
    (name : String) (port : Port Device) : Bool :=
  match state.nodes.lookup device with
  | none => false
  | some receiver =>
    !(state.isPortfast device name port && state.isBpduguard device receiver name port) &&
      !(state.isRootGuard device name port &&
        decide (compareBridgeId msg.rootBridgeId receiver.bridgeId < 0))

/-- The walk over the alternate ports of a bridge does not come to the port, and at
its end the port is on another bridge and not live. -/
def promotionUndisturbed (device : Device) (name : String) (state : StpState Device)
    (bridge : Device) (passed : List String) (size : Nat) : Bool :=
  match state.nodes.lookup bridge with
  | none => true
  | some node =>
    if node.ports.keys.length ≠ size then true
    else
      let ahead := node.ports.entries.filter fun entry => decide (entry.1 ∉ passed)
      match ahead.find? fun entry => decide (entry.2.role = .alternate) with
      | some (other, _) => !(decide (bridge = device) && decide (other = name))
      | none =>
        decide (bridge ≠ device) && !(state.recomputePortRoles bridge).isLive device name

/-- The loss of a link removes the port itself, or leaves it alone. -/
def lossUndisturbed (device : Device) (name : String) (state : StpState Device)
    (bridge peer : Device) : Bool :=
  match state.nodes.lookup bridge with
  | none => true
  | some node =>
    if !node.enabled then true
    else
      match node.portTo peer with
      | none => true
      | some (lost, port) =>
        let removed := state.modifyNode bridge fun node => node.removePort lost
        if bridge = device ∧ lost = name then true
        else if port.role = .root then
          promotionUndisturbed device name (removed.modifyNode bridge StpNode.resetRoot) bridge
            [] (node.removePort lost).ports.keys.length
        else decide (bridge ≠ device) && !(removed.recomputePortRoles bridge).isLive device name

/-- The return of a link does not replace the port or recompute its role. -/
def returnUndisturbed (device : Device) (name : String) (state : StpState Device)
    (bridge peer : Device) : Bool :=
  match state.nodes.lookup bridge with
  | none => true
  | some node =>
    if !node.enabled then true
    else if (node.portTo peer).isSome then !state.isLive device name
    else
      let added := state.portNameForPeer bridge peer (freeEtherName node.ports.keys)
      !(decide (bridge = device) && decide (added = name)) &&
        match node.mode with
        | .rstp => true
        | .stp => !(state.putPort bridge added peer .blocking).isLive device name

def taskUndisturbed (device : Device) (name : String) (state : StpState Device) :
    StpTask Device → Bool
  | .electRoot bridge =>
    decide (bridge ≠ device) ||
      !(state.nodes.lookup bridge).any fun node =>
        decide (node.rootBridgeId = node.bridgeId)
  | .beginTransition bridge other _ => !(decide (bridge = device) && decide (other = name))
  | .endTransition bridge other token next =>
    !(decide (bridge = device) && decide (other = name)) &&
      let finished := state.setPortState bridge other token .forwarding
      match next with
      | .nothing => true
      | .recomputeTopology => !finished.isLive device name
      | .afterRootLoss passed size =>
        promotionUndisturbed device name finished bridge passed size

/-- The step recomputes no role of the port, neither at its bridge nor, while the
port is live, with the topology; it ends no transition of the port and puts no new
port in its place. -/
def undisturbed (device : Device) (name : String) (state : StpState Device) :
    StpEvent Device → Bool
  | .receiveBpdu bridge msg =>
    match state.receivingPort bridge msg with
    | none => true
    | some (other, port) =>
      decide (bridge ≠ device) || decide (other = name) ||
        !state.passesGuards bridge msg other port
  | .addPort bridge other _ => !(decide (bridge = device) && decide (other = name))
  | .portDown bridge peer => lossUndisturbed device name state bridge peer
  | .portUp bridge peer => returnUndisturbed device name state bridge peer
  | .recomputeTopology => !state.isLive device name
  | .advance index =>
    match state.tasks[index]? with
    | none => true
    | some task =>
      taskUndisturbed device name { state with tasks := state.tasks.eraseIdx index } task
  | _ => true

def operatorAction (device : Device) : StpEvent Device → Bool
  | .start bridge _ _ _ => decide (bridge = device)
  | .stop bridge => decide (bridge = device)
  | .setVlanPriority bridge _ _ => decide (bridge = device)
  | .setPortfast bridge _ _ => decide (bridge = device)
  | .setPortfastDefault bridge _ => decide (bridge = device)
  | .setBpduguard bridge _ _ => decide (bridge = device)
  | .setBpduguardDefault bridge _ => decide (bridge = device)
  | .setRootGuard bridge _ _ => decide (bridge = device)
  | _ => false

/-- The step clears the guard: an operator action, or, on a port that root guard
blocks, a BPDU with a root that is not superior. -/
def clearsGuard (device : Device) (name : String) (state : StpState Device)
    (event : StpEvent Device) : Bool :=
  operatorAction device event ||
    match event with
    | .receiveBpdu bridge msg =>
      match state.receivingPort bridge msg with
      | none => false
      | some (other, port) =>
        decide (bridge = device) && decide (other = name) &&
          decide (port.state = .rootInconsistent) &&
          !(state.nodes.lookup bridge).any fun node =>
            decide (compareBridgeId msg.rootBridgeId node.bridgeId < 0)
    | _ => false

/-! ## What keeps a port blocked -/

/-- What the guards of a port depend on. -/
structure GuardView (Device : Type) where
  config : PortConfig
  port : Option (Bool × Port Device)

def StpState.guardView (state : StpState Device) (device : Device) (name : String) :
    GuardView Device where
  config := state.portConfig device name
  port := portView state.nodes device name

/-- A port is blocked by a guard that still holds on it. -/
def GuardView.HeldBack (view : GuardView Device) : Prop :=
  ∀ default port, view.port = some (default, port) →
    (port.state = .errDisabled ∧ (port.portfast || view.config.portfast) = true ∧
        (port.bpduguard || view.config.bpduguard || default) = true) ∨
      (port.state = .rootInconsistent ∧ (port.rootGuard || view.config.rootGuard) = true)

/-- An update of a bridge leaves a port and the guard default alone. -/
def KeepsPort (name : String) (before after : StpNode Device) : Prop :=
  after.ports.lookup name = before.ports.lookup name ∧
    after.bpduguardDefault = before.bpduguardDefault

theorem guardView_modifyNode (state : StpState Device) {device bridge : Device}
    {update : StpNode Device → StpNode Device}
    (keeps : bridge = device → ∀ node, state.nodes.lookup device = some node →
      KeepsPort name node (update node)) :
    (state.modifyNode bridge update).guardView device name = state.guardView device name := by
  have same : portView (state.nodes.modify bridge update) device name =
      portView state.nodes device name := by
    unfold portView
    rw [lookup_modify]
    by_cases here : device = bridge
    · cases found : state.nodes.lookup device with
      | none => simp [here]
      | some node =>
        obtain ⟨port, default⟩ := keeps here.symm node found
        simp [here, port, default]
    · simp [here]
  simp [guardView, modifyNode, same]

omit [LinearOrder Device] in
theorem keepsPort_modifyPort (node : StpNode Device) {name other : String}
    (different : other ≠ name) (update : Port Device → Port Device) :
    KeepsPort name node (node.modifyPort other update) :=
  ⟨lookup_modify_of_ne _ _ different.symm, rfl⟩

variable {device : Device}

theorem guardView_recomputeTopology {state : StpState Device}
    (idle : state.isLive device name = false) :
    state.recomputeTopology.guardView device name = state.guardView device name := by
  have same := portView_recomputeTopology idle
  simp only [guardView, same]
  rfl

section

variable {device bridge : Device} {name other : String} (state : StpState Device)
  (elsewhere : ¬ (bridge = device ∧ other = name))
include state elsewhere

theorem guardView_putPort {peer : Device} (initial : PortState) :
    (state.putPort bridge other peer initial).guardView device name =
      state.guardView device name := by
  refine guardView_modifyNode state fun here node _ => ⟨?_, rfl⟩
  exact lookup_insert_of_ne _ _ fun same => elsewhere ⟨here, same.symm⟩

theorem guardView_setPortState (token : Nat) (portState : PortState) :
    (state.setPortState bridge other token portState).guardView device name =
      state.guardView device name :=
  guardView_modifyNode state fun here node _ =>
    keepsPort_modifyPort node (fun same => elsewhere ⟨here, same⟩) _

theorem guardView_rapidTransition (token : Nat) (next : AfterTransition) :
    (state.rapidTransition bridge other token next).guardView device name =
      state.guardView device name :=
  guardView_setPortState state elsewhere token .learning

end

variable {node : StpNode Device} {device : Device}

theorem guardView_of_ne (state : StpState Device) {bridge : Device} (different : bridge ≠ device)
    (name : String) (update : StpNode Device → StpNode Device) :
    (state.modifyNode bridge update).guardView device name = state.guardView device name :=
  guardView_modifyNode state fun here => absurd here different

theorem guardView_promoteAlternates {state : StpState Device} {bridge : Device}
    {passed : List String} {size : Nat}
    (quiet : promotionUndisturbed device name state bridge passed size = true) :
    (state.promoteAlternates bridge passed size).guardView device name =
      state.guardView device name := by
  unfold promotionUndisturbed at quiet
  unfold promoteAlternates
  cases found : state.nodes.lookup bridge with
  | none => rfl
  | some node =>
    rw [found] at quiet
    dsimp only at quiet ⊢
    split_ifs at quiet ⊢ with changed
    · rfl
    · cases held : (node.ports.entries.filter fun entry => decide (entry.1 ∉ passed)).find?
          fun entry => decide (entry.2.role = .alternate) with
      | some entry =>
        rw [held] at quiet
        have elsewhere : ¬ (bridge = device ∧ entry.1 = name) :=
          not_and_or.mpr (by simpa using quiet)
        exact guardView_rapidTransition state elsewhere _ _
      | none =>
        rw [held] at quiet
        obtain ⟨different, idle⟩ : bridge ≠ device ∧
            (state.recomputePortRoles bridge).isLive device name = false := by
          simpa using quiet
        exact (guardView_recomputeTopology idle).trans
          (guardView_of_ne state different name _)

/-! ## Reception -/

variable {port : Port Device} {msg : Bpdu Device}

theorem receivingPort_some {state : StpState Device}
    (received : state.receivingPort device msg = some (name, port)) :
    ∃ receiver, state.nodes.lookup device = some receiver ∧ receiver.enabled = true ∧
      receiver.portTo msg.srcId = some (name, port) ∧
      receiver.ports.lookup name = some port := by
  unfold receivingPort at received
  cases found : state.nodes.lookup device with
  | none => simp [found] at received
  | some receiver =>
    rw [found] at received
    dsimp only at received
    split_ifs at received with enabled
    refine ⟨receiver, rfl, enabled, received, ?_⟩
    exact mem_entries_iff.mp (List.mem_of_find?_eq_some received)

theorem receiveBpdu_of_none {state : StpState Device}
    (ignored : state.receivingPort device msg = none) : state.receiveBpdu device msg = state := by
  unfold receivingPort at ignored
  unfold receiveBpdu
  cases found : state.nodes.lookup device with
  | none => rfl
  | some receiver =>
    cases enabled : receiver.enabled with
    | false => simp [enabled]
    | true =>
      have missing : receiver.portTo msg.srcId = none := by simpa [found, enabled] using ignored
      simp [enabled, missing]

theorem guardView_receiveBpdu_of_ne (state : StpState Device) {bridge : Device}
    (different : bridge ≠ device) (name : String) (msg : Bpdu Device) :
    (state.receiveBpdu bridge msg).guardView device name = state.guardView device name := by
  have demoted : ∀ other token, (state.demoteEdge bridge other token).guardView device name =
      state.guardView device name := by
    intro other token
    have view := guardView_of_ne state different name fun node =>
      node.modifyPort other fun port =>
        { port with
          portfast := false
          state := .discarding }
    simp only [guardView, GuardView.mk.injEq] at view ⊢
    exact ⟨by simp [demoteEdge, different.symm], view.2⟩
  unfold receiveBpdu
  cases state.nodes.lookup bridge with
  | none => rfl
  | some receiver =>
    dsimp only
    split
    · rfl
    · cases receiver.portTo msg.srcId with
      | none => rfl
      | some entry =>
        dsimp only
        split_ifs <;>
          simp only [guardView_of_ne _ different, demoted]

section

variable {state : StpState Device} (received : state.receivingPort device msg = some (name, port))
include received

/-- A BPDU that a guard stops: BPDU guard disables the port, or root guard blocks it
after an edge port was demoted. -/
theorem receiveBpdu_stopped {receiver : StpNode Device}
    (found : state.nodes.lookup device = some receiver)
    (stopped : state.passesGuards device msg name port = false) :
    ((state.isPortfast device name port && state.isBpduguard device receiver name port) = true ∧
      state.receiveBpdu device msg = state.modifyNode device fun node =>
        node.modifyPort name fun port => port.assign .disabled .errDisabled) ∨
    (state.isRootGuard device name port = true ∧
      state.receiveBpdu device msg =
        (if state.isPortfast device name port then state.demoteEdge device name port.token
          else state).modifyNode device fun node => node.blockInconsistent name) := by
  obtain ⟨receiver', found', enabled, arrives, _⟩ := receivingPort_some received
  cases found.symm.trans found'
  simp only [receiveBpdu, found, enabled, arrives, Bool.not_true, false_eq_true,
    if_false]
  by_cases bpduguard :
      (state.isPortfast device name port && state.isBpduguard device receiver name port) = true
  · exact .inl ⟨bpduguard, by rw [if_pos bpduguard]⟩
  · have rootguard : state.isRootGuard device name port = true ∧
        compareBridgeId msg.rootBridgeId receiver.bridgeId < 0 := by
      simpa [passesGuards, found, bpduguard] using stopped
    exact .inr ⟨rootguard.1, by rw [if_neg bpduguard, if_pos rootguard.1, if_pos rootguard.2]⟩

/-- A BPDU that passes the guards is learned and the port roles are recomputed, after
an edge port was demoted and root guard has opened its port. -/
theorem receiveBpdu_passed (passed : state.passesGuards device msg name port = true) :
    ∃ prepare : StpNode Device → StpNode Device,
      (prepare = id ∨ prepare = fun node => node.unblockInconsistent name) ∧
      state.receiveBpdu device msg =
        (if state.isPortfast device name port then state.demoteEdge device name port.token
          else state).modifyNode device fun node =>
            ((prepare node).learn name port.cost msg).recomputePortRoles := by
  obtain ⟨receiver, found, enabled, arrives, _⟩ := receivingPort_some received
  obtain ⟨bpduguard, rootguard⟩ :
      (state.isPortfast device name port && state.isBpduguard device receiver name port) = false ∧
        (state.isRootGuard device name port = true →
          ¬ compareBridgeId msg.rootBridgeId receiver.bridgeId < 0) := by
    simp only [passesGuards, found, and_eq_true, not_eq_true'] at passed
    refine ⟨passed.1, fun guarded superior => ?_⟩
    simp [guarded, superior] at passed
  simp only [receiveBpdu, found, enabled, arrives, Bool.not_true, false_eq_true,
    if_false, bpduguard]
  by_cases guarded : state.isRootGuard device name port = true
  · rw [if_pos guarded, if_neg (rootguard guarded)]
    exact ⟨fun node => node.unblockInconsistent name, .inr rfl, rfl⟩
  · rw [if_neg guarded]
    exact ⟨id, .inl rfl, rfl⟩

end

omit [LinearOrder Device] in
theorem lookup_blockInconsistent (held : node.ports.lookup name = some port) :
    ∃ blocked, (node.blockInconsistent name).ports.lookup name = some blocked ∧
      blocked.state = .rootInconsistent ∧ blocked.rootGuard = port.rootGuard := by
  unfold StpNode.blockInconsistent
  rw [held]
  dsimp only
  split_ifs with already
  · exact ⟨port, held, already, rfl⟩
  · exact ⟨port.assign .alternate .rootInconsistent, by simp [StpNode.modifyPort, held], rfl, rfl⟩

theorem rootGuard_demoteEdge {state : StpState Device}
    (found : state.nodes.lookup device = some node) (held : node.ports.lookup name = some port)
    (edge : Bool) :
    ∃ node' port',
      (if edge then state.demoteEdge device name port.token else state).nodes.lookup device =
        some node' ∧ node'.ports.lookup name = some port' ∧ port'.rootGuard = port.rootGuard ∧
      ((if edge then state.demoteEdge device name port.token else state).portConfig device
        name).rootGuard = (state.portConfig device name).rootGuard := by
  cases edge with
  | false => exact ⟨node, port, found, held, rfl, rfl⟩
  | true =>
    let update : Port Device → Port Device := fun port =>
      { port with
        portfast := false
        state := .discarding }
    refine ⟨node.modifyPort name update, update port, ?_, ?_, rfl, ?_⟩
    · simp [demoteEdge, modifyNode, found, update]
    · simp [StpNode.modifyPort, held]
    · simp [demoteEdge]

theorem heldBack_of_stopped {state : StpState Device}
    (received : state.receivingPort device msg = some (name, port))
    (stopped : state.passesGuards device msg name port = false) :
    ((state.receiveBpdu device msg).guardView device name).HeldBack := by
  obtain ⟨receiver, found, _, _, held⟩ := receivingPort_some received
  intro default after viewed
  rcases receiveBpdu_stopped received found stopped with ⟨guarded, result⟩ | ⟨guarded, result⟩
  · have same : (receiver.bpduguardDefault, port.assign .disabled .errDisabled) =
        (default, after) := by
      simpa [result, guardView, modifyNode, portView, StpNode.modifyPort, found,
        held] using viewed
    cases same
    refine .inl ⟨rfl, ?_⟩
    rw [and_eq_true] at guarded
    rw [result]
    exact guarded
  · obtain ⟨node', port', found', held', keepsGuard, keepsConfig⟩ :=
      rootGuard_demoteEdge found held (state.isPortfast device name port)
    obtain ⟨blocked, lookupBlocked, isBlocked, blockedGuard⟩ := lookup_blockInconsistent held'
    have same : blocked = after := by
      rw [result] at viewed
      simp only [guardView, portView, modifyNode, lookup_modify_self,
        found', Option.map_some, Option.bind_some, lookupBlocked] at viewed
      cases viewed
      rfl
    subst same
    refine .inr ⟨isBlocked, ?_⟩
    rw [result]
    change (blocked.rootGuard || ((if state.isPortfast device name port then
      state.demoteEdge device name port.token else state).portConfig device name).rootGuard) = true
    rw [blockedGuard, keepsGuard, keepsConfig]
    exact guarded

theorem guardView_of_stopped {state : StpState Device} {name other : String}
    (received : state.receivingPort device msg = some (other, port))
    (stopped : state.passesGuards device msg other port = false) (different : other ≠ name) :
    (state.receiveBpdu device msg).guardView device name = state.guardView device name := by
  obtain ⟨receiver, found, _, _, held⟩ := receivingPort_some received
  have blocked : ∀ current : StpState Device,
      (current.modifyNode device fun node => node.blockInconsistent other).guardView device name =
        current.guardView device name := by
    intro current
    refine guardView_modifyNode current fun _ node _ => ?_
    unfold StpNode.blockInconsistent
    cases node.ports.lookup other with
    | none => exact ⟨rfl, rfl⟩
    | some blocked =>
      dsimp only
      split_ifs
      · exact ⟨rfl, rfl⟩
      · exact keepsPort_modifyPort node different _
  rcases receiveBpdu_stopped received found stopped with ⟨_, result⟩ | ⟨_, result⟩
  · rw [result]
    exact guardView_modifyNode state fun _ node _ => keepsPort_modifyPort node different _
  · rw [result, blocked]
    split_ifs
    · let update : Port Device → Port Device := fun port =>
        { port with
          portfast := false
          state := .discarding }
      have view : (state.modifyNode device fun node => node.modifyPort other update).guardView
          device name = state.guardView device name :=
        guardView_modifyNode state fun _ node _ => keepsPort_modifyPort node different _
      simp only [guardView, GuardView.mk.injEq] at view ⊢
      exact ⟨by simp [demoteEdge, different.symm], view.2⟩
    · rfl

omit [LinearOrder Device] in
theorem lookup_recomputePortRoles (held : node.recomputePortRoles.ports.lookup name = some port) :
    port.state = .forwarding ∨ port.state = .blocking := by
  unfold StpNode.recomputePortRoles at held
  split_ifs at held with isRoot
  · obtain ⟨before, _, assigned⟩ : ∃ before, node.ports.lookup name = some before ∧
        before.assign .designated .forwarding = port := by simpa using held
    exact .inl (assigned ▸ rfl)
  · obtain ⟨before, _, assigned⟩ : ∃ before, node.ports.lookup name = some before ∧
        (if node.bestPort.map RootCandidate.name = some name then before.assign .root .forwarding
          else node.segmentRole before) = port := by simpa using held
    subst assigned
    split_ifs
    · exact .inl rfl
    · unfold StpNode.segmentRole
      cases before.received with
      | none => exact .inl rfl
      | some received =>
        dsimp only
        split_ifs <;> simp [Port.assign]

theorem stopped_of_heldBack {state : StpState Device}
    (received : state.receivingPort device msg = some (name, port))
    (heldBack : (state.guardView device name).HeldBack)
    (keeps : clearsGuard device name state (.receiveBpdu device msg) = false) :
    state.passesGuards device msg name port = false := by
  obtain ⟨receiver, found, _, _, held⟩ := receivingPort_some received
  rcases heldBack receiver.bpduguardDefault port
    (by simp [guardView, portView, found, held]) with ⟨_, edge, guard⟩ | ⟨blocked, guard⟩
  · have isEdge : state.isPortfast device name port = true := edge
    have isGuarded : state.isBpduguard device receiver name port = true := guard
    simp [passesGuards, found, isEdge, isGuarded]
  · have isGuarded : state.isRootGuard device name port = true := guard
    have superior : compareBridgeId msg.rootBridgeId receiver.bridgeId < 0 := by
      by_contra inferior
      simp [clearsGuard, received, found, blocked, operatorAction] at keeps
      exact inferior keeps
    simp [passesGuards, found, isGuarded, superior]

/-! ## Configuration of other bridges -/

theorem guardView_ensureNode (state : StpState Device) (device bridge : Device) (name : String) :
    (state.ensureNode bridge).guardView device name = state.guardView device name := by
  unfold ensureNode
  cases found : state.nodes.lookup bridge with
  | some node => rfl
  | none =>
    have same : portView (state.nodes.insert bridge
        { bridgeId := ⟨8000, state.mac bridge⟩, rootBridgeId := ⟨8000, state.mac bridge⟩ })
        device name = portView state.nodes device name := by
      unfold portView
      rw [lookup_insert]
      by_cases here : device = bridge
      · simp [here, found]
      · simp [here]
    simp [guardView, same]

section

variable {device bridge : Device} (state : StpState Device) (different : bridge ≠ device)
include state different

theorem guardView_setPortConfig (name other : String) (update : PortConfig → PortConfig) :
    (state.setPortConfig bridge other update).guardView device name =
      state.guardView device name := by
  simp [guardView, setPortConfig, different.symm]

theorem guardView_configure_of_ne (name : String) (update : StpNode Device → StpNode Device) :
    ((state.ensureNode bridge).modifyNode bridge update).guardView device name =
      state.guardView device name :=
  (guardView_of_ne _ different name update).trans (guardView_ensureNode state device bridge name)

theorem guardView_portSetting_of_ne (name other : String) (setting : PortConfig → PortConfig)
    (update : StpNode Device → StpNode Device) :
    ((state.setPortConfig bridge other setting).modifyNode bridge update).guardView device name =
      state.guardView device name :=
  (guardView_of_ne _ different name update).trans
    (guardView_setPortConfig state different name other setting)

end

theorem guardView_initPorts {bridge : Device} (different : bridge ≠ device) (name : String)
    (peers : List Device) :
    ∀ (state : StpState Device) (number : Nat),
      (state.initPorts bridge number peers).guardView device name =
        state.guardView device name := by
  induction peers with
  | nil => intro state number; rfl
  | cons peer peers ih =>
    intro state number
    unfold initPorts
    dsimp only
    rw [ih]
    split_ifs
    · rfl
    · exact guardView_putPort state (fun here => different here.1) _

/-! ## Ports that are gone -/

def StpState.Gone (state : StpState Device) (device : Device) (name : String) : Prop :=
  portView state.nodes device name = none

theorem gone_modifyNode {state : StpState Device} (gone : state.Gone device name) (bridge : Device)
    {update : StpNode Device → StpNode Device}
    (adds : ∀ node : StpNode Device, node.ports.lookup name = none →
      (update node).ports.lookup name = none) :
    (state.modifyNode bridge update).Gone device name := by
  unfold StpState.Gone portView modifyNode at *
  dsimp only at *
  rw [lookup_modify]
  cases found : state.nodes.lookup device with
  | none => simp
  | some node =>
    have missing : node.ports.lookup name = none := by simpa [found] using gone
    by_cases here : device = bridge
    · simp [here, adds node missing]
    · simp [here, missing]

theorem gone_recomputeTopology {state : StpState Device} (gone : state.Gone device name) :
    state.recomputeTopology.Gone device name := by
  unfold StpState.Gone at *
  rw [portView_recomputeTopology, gone]
  unfold isLive
  cases found : state.enabledNodes.lookup device with
  | none => rfl
  | some node =>
    rw [enabledNodes, lookup_filter] at found
    have stored := (Option.filter_eq_some_iff.mp found).1
    have missing : node.ports.lookup name = none := by simpa [portView, stored] using gone
    simp [missing]

theorem gone_recomputePortRoles {state : StpState Device} (gone : state.Gone device name)
    (bridge : Device) : (state.recomputePortRoles bridge).Gone device name := by
  refine gone_modifyNode gone bridge fun node missing => ?_
  unfold StpNode.recomputePortRoles
  split_ifs <;> simp [missing]

theorem gone_promoteAlternates {state : StpState Device} (gone : state.Gone device name)
    (bridge : Device) (passed : List String) (size : Nat) :
    (state.promoteAlternates bridge passed size).Gone device name := by
  unfold promoteAlternates
  cases state.nodes.lookup bridge with
  | none => exact gone
  | some node =>
    dsimp only
    split_ifs
    · exact gone
    · cases (node.ports.entries.filter fun entry => decide (entry.1 ∉ passed)).find?
          fun entry => decide (entry.2.role = .alternate) with
      | some entry =>
        refine gone_modifyNode gone bridge fun node missing => ?_
        simp [StpNode.modifyPort, lookup_modify, missing]
      | none => exact gone_recomputeTopology (gone_recomputePortRoles gone bridge)

theorem heldBack_of_gone {state : StpState Device} (gone : state.Gone device name) :
    (state.guardView device name).HeldBack := by
  intro default port viewed
  have absent : portView state.nodes device name = some (default, port) := viewed
  rw [gone] at absent
  cases absent

/-! ## Runs -/

section

variable {state : StpState Device} (heldBack : (state.guardView device name).HeldBack)
include heldBack

theorem heldBack_portDown (bridge peer : Device)
    (quiet : lossUndisturbed device name state bridge peer = true) :
    ((state.portDown bridge peer).guardView device name).HeldBack := by
  unfold lossUndisturbed at quiet
  unfold portDown
  cases found : state.nodes.lookup bridge with
  | none => exact heldBack
  | some node =>
    rw [found] at quiet
    dsimp only at quiet ⊢
    split_ifs at quiet ⊢ with disabled
    · exact heldBack
    · cases arrives : node.portTo peer with
      | none => exact heldBack
      | some entry =>
        obtain ⟨lost, port⟩ := entry
        rw [arrives] at quiet
        dsimp only at quiet ⊢
        by_cases itself : bridge = device ∧ lost = name
        · obtain ⟨rfl, rfl⟩ := itself
          have gone : (state.modifyNode bridge fun node => node.removePort lost).Gone bridge
              lost := by
            simp [StpState.Gone, portView, modifyNode, found, StpNode.removePort,
              lookup_erase]
          split_ifs
          · have reset : ((state.modifyNode bridge fun node => node.removePort lost).modifyNode
                bridge StpNode.resetRoot).Gone bridge lost :=
              gone_modifyNode gone bridge fun _ missing => missing
            exact heldBack_of_gone (gone_promoteAlternates reset bridge _ _)
          · exact heldBack_of_gone (gone_recomputeTopology (gone_recomputePortRoles gone bridge))
        · rw [if_neg itself] at quiet
          have removed : (state.modifyNode bridge fun node => node.removePort lost).guardView
              device name = state.guardView device name := by
            refine guardView_modifyNode state fun here node _ => ⟨?_, rfl⟩
            have different : name ≠ lost := fun same => itself ⟨here, same.symm⟩
            simp [StpNode.removePort, lookup_erase, different]
          split_ifs at quiet ⊢
          · have reset : ((state.modifyNode bridge fun node => node.removePort lost).modifyNode
                bridge StpNode.resetRoot).guardView device name = state.guardView device name :=
              (guardView_modifyNode _ fun _ node _ => (⟨rfl, rfl⟩ :
                KeepsPort name node node.resetRoot)).trans removed
            rw [guardView_promoteAlternates quiet, reset]
            exact heldBack
          · obtain ⟨different, idle⟩ : bridge ≠ device ∧
                ((state.modifyNode bridge fun node => node.removePort lost).recomputePortRoles
                  bridge).isLive device name = false := by
              simpa using quiet
            rw [guardView_recomputeTopology idle, recomputePortRoles,
              guardView_of_ne _ different, removed]
            exact heldBack

theorem heldBack_portUp (bridge peer : Device)
    (quiet : returnUndisturbed device name state bridge peer = true) :
    ((state.portUp bridge peer).guardView device name).HeldBack := by
  unfold returnUndisturbed at quiet
  unfold portUp
  cases found : state.nodes.lookup bridge with
  | none => exact heldBack
  | some node =>
    rw [found] at quiet
    dsimp only at quiet ⊢
    split_ifs at quiet ⊢ with disabled present
    · exact heldBack
    · rw [guardView_recomputeTopology (by simpa using quiet)]
      exact heldBack
    · rw [and_eq_true] at quiet
      have elsewhere : ¬ (bridge = device ∧ state.portNameForPeer bridge peer
          (freeEtherName node.ports.keys) = name) := not_and_or.mpr (by simpa using quiet.1)
      cases mode : node.mode with
      | rstp =>
        dsimp only
        rw [guardView_rapidTransition _ elsewhere, guardView_putPort state elsewhere]
        exact heldBack
      | stp =>
        rw [mode] at quiet
        dsimp only at quiet ⊢
        rw [guardView_recomputeTopology (by simpa using quiet.2),
          guardView_putPort state elsewhere]
        exact heldBack

theorem heldBack_resume (task : StpTask Device)
    (quiet : taskUndisturbed device name state task = true) :
    ((state.resume task).guardView device name).HeldBack := by
  cases task with
  | electRoot bridge =>
    have view : (state.resume (.electRoot bridge)).guardView device name =
        state.guardView device name := by
      refine guardView_modifyNode state fun here node found => ?_
      subst here
      have notRoot : node.rootBridgeId ≠ node.bridgeId := by
        simpa [taskUndisturbed, found] using quiet
      simp [StpNode.electRoot, notRoot, KeepsPort]
    exact view ▸ heldBack
  | beginTransition bridge other token =>
    have elsewhere : ¬ (bridge = device ∧ other = name) :=
      not_and_or.mpr (by simpa [taskUndisturbed] using quiet)
    have view := guardView_rapidTransition state elsewhere token .nothing
    exact view ▸ heldBack
  | endTransition bridge other token next =>
    simp only [taskUndisturbed, and_eq_true] at quiet
    have elsewhere : ¬ (bridge = device ∧ other = name) :=
      not_and_or.mpr (by simpa using quiet.1)
    have finished := guardView_setPortState state elsewhere token .forwarding
    cases next with
    | nothing => exact finished ▸ heldBack
    | recomputeTopology =>
      have view := guardView_recomputeTopology
        (by simpa using quiet.2 : (state.setPortState bridge other token
          .forwarding).isLive device name = false)
      exact (view.trans finished) ▸ heldBack
    | afterRootLoss passed size =>
      exact ((guardView_promoteAlternates quiet.2).trans finished) ▸ heldBack

theorem heldBack_step (event : StpEvent Device)
    (keeps : clearsGuard device name state event = false)
    (quiet : undisturbed device name state event = true) :
    ((step state event).guardView device name).HeldBack := by
  have elsewhere : operatorAction device event = false := (or_eq_false_iff.mp keeps).1
  cases event with
  | start bridge mode priority vlan =>
    have different : bridge ≠ device := by simpa [operatorAction] using elsewhere
    have view : (state.start bridge mode priority vlan).guardView device name =
        state.guardView device name :=
      (guardView_initPorts different name _ _ 1).trans
        (guardView_configure_of_ne state different name _)
    exact view.symm ▸ heldBack
  | stop bridge =>
    have different : bridge ≠ device := by simpa [operatorAction] using elsewhere
    exact (guardView_of_ne state different name _).symm ▸ heldBack
  | setVlanPriority bridge vlan priority =>
    have different : bridge ≠ device := by simpa [operatorAction] using elsewhere
    exact (guardView_configure_of_ne state different name _).symm ▸ heldBack
  | setPortfast bridge other enabled =>
    have different : bridge ≠ device := by simpa [operatorAction] using elsewhere
    exact (guardView_portSetting_of_ne state different name other _ _).symm ▸ heldBack
  | setPortfastDefault bridge enabled =>
    have different : bridge ≠ device := by simpa [operatorAction] using elsewhere
    exact (guardView_configure_of_ne state different name _).symm ▸ heldBack
  | setBpduguard bridge other enabled =>
    have different : bridge ≠ device := by simpa [operatorAction] using elsewhere
    exact (guardView_portSetting_of_ne state different name other _ _).symm ▸ heldBack
  | setBpduguardDefault bridge enabled =>
    have different : bridge ≠ device := by simpa [operatorAction] using elsewhere
    exact (guardView_configure_of_ne state different name _).symm ▸ heldBack
  | setRootGuard bridge other enabled =>
    have different : bridge ≠ device := by simpa [operatorAction] using elsewhere
    exact (guardView_portSetting_of_ne state different name other _ _).symm ▸ heldBack
  | receiveBpdu bridge msg =>
    by_cases different : bridge = device
    · subst different
      cases received : state.receivingPort bridge msg with
      | none =>
        change ((state.receiveBpdu bridge msg).guardView bridge name).HeldBack
        rw [receiveBpdu_of_none received]
        exact heldBack
      | some entry =>
        obtain ⟨other, port⟩ := entry
        by_cases same : other = name
        · subst same
          exact heldBack_of_stopped received (stopped_of_heldBack received heldBack keeps)
        · have stopped : state.passesGuards bridge msg other port = false := by
            simpa [undisturbed, received, same] using quiet
          exact (guardView_of_stopped received stopped same).symm ▸ heldBack
    · exact (guardView_receiveBpdu_of_ne state different name msg).symm ▸ heldBack
  | addPort bridge other peer =>
    have apart : ¬ (bridge = device ∧ other = name) :=
      not_and_or.mpr (by simpa [undisturbed] using quiet)
    have view : (state.addPort bridge other peer).guardView device name =
        state.guardView device name := by
      unfold addPort
      dsimp only
      split_ifs
      · exact (guardView_putPort _ apart .blocking).trans
          (guardView_ensureNode state device bridge name)
      · exact (guardView_putPort _ apart .blocking).trans
          (guardView_ensureNode state device bridge name)
    exact view.symm ▸ heldBack
  | portDown bridge peer => exact heldBack_portDown heldBack bridge peer quiet
  | portUp bridge peer => exact heldBack_portUp heldBack bridge peer quiet
  | recomputeTopology =>
    exact (guardView_recomputeTopology (by simpa [undisturbed] using quiet)).symm ▸ heldBack
  | advance index =>
    change ((state.advance index).guardView device name).HeldBack
    unfold advance
    cases taken : state.tasks[index]? with
    | none => exact heldBack
    | some task =>
      have taskQuiet : taskUndisturbed device name
          { state with tasks := state.tasks.eraseIdx index } task = true := by
        simpa [undisturbed, taken] using quiet
      have same : ({ state with tasks := state.tasks.eraseIdx index } :
          StpState Device).guardView device name = state.guardView device name := rfl
      exact heldBack_resume (same ▸ heldBack) task taskQuiet

end

def StpState.portStateOf (state : StpState Device) (device : Device) (name : String) :
    Option PortState :=
  (portView state.nodes device name).map fun view => view.2.state

theorem heldBack_of_blocked {state : StpState Device}
    (received : state.receivingPort device msg = some (name, port))
    (blocked : (state.receiveBpdu device msg).portStateOf device name = some .errDisabled ∨
      (state.receiveBpdu device msg).portStateOf device name = some .rootInconsistent) :
    ((state.receiveBpdu device msg).guardView device name).HeldBack := by
  cases passes : state.passesGuards device msg name port with
  | false => exact heldBack_of_stopped received passes
  | true =>
    exfalso
    obtain ⟨prepare, _, result⟩ := receiveBpdu_passed received passes
    rw [result] at blocked
    generalize (if state.isPortfast device name port then
      state.demoteEdge device name port.token else state) = before at blocked
    unfold portStateOf portView modifyNode at blocked
    dsimp only at blocked
    rw [lookup_modify_self] at blocked
    cases found : before.nodes.lookup device with
    | none => simp [found] at blocked
    | some node =>
      cases held : ((prepare node).learn name port.cost msg).recomputePortRoles.ports.lookup
          name with
      | none => simp [found, held] at blocked
      | some after =>
        have opened := lookup_recomputePortRoles held
        simp only [found, Option.map_some, Option.bind_some, held, Option.some.injEq] at blocked
        rcases blocked with disabled | inconsistent
        · simp [disabled] at opened
        · simp [inconsistent] at opened

/-- A port that a guard has blocked is not forwarding in any state of a run whose
steps neither clear the guard nor write the port. -/
theorem guarded_port_not_forwarding {state : StpState Device} {device : Device}
    {msg : Bpdu Device} {name : String} {port : Port Device}
    (received : state.receivingPort device msg = some (name, port))
    (blocked : (step state (.receiveBpdu device msg)).portStateOf device name = some .errDisabled ∨
      (step state (.receiveBpdu device msg)).portStateOf device name = some .rootInconsistent)
    (events : List (StpEvent Device))
    (along : Along step
      (fun current event => clearsGuard device name current event = false ∧
        undisturbed device name current event = true)
      (step state (.receiveBpdu device msg)) events) :
    (runFrom step (step state (.receiveBpdu device msg)) events).portStateOf device name ≠
      some .forwarding := by
  have preserved : ∀ (current : StpState Device) (event : StpEvent Device),
      (current.guardView device name).HeldBack →
      (clearsGuard device name current event = false ∧
        undisturbed device name current event = true) →
      ((step current event).guardView device name).HeldBack :=
    fun _ event holds condition => heldBack_step holds event condition.1 condition.2
  have heldBack := invariant_along preserved (heldBack_of_blocked received blocked) along
  intro forwarding
  obtain ⟨⟨default, port⟩, viewed, forwards⟩ := Option.map_eq_some_iff.mp forwarding
  rcases heldBack default port viewed with ⟨disabled, _⟩ | ⟨inconsistent, _⟩
  · exact absurd (disabled.symm.trans forwards) (by decide)
  · exact absurd (inconsistent.symm.trans forwards) (by decide)

/-! ## A guarded edge port -/

/-- Bridge 0 is linked to bridges 1 and 2, and its port to bridge 1 is an edge port
with BPDU guard. -/
def edgePort : StpState Nat :=
  let links : OrderedMap Nat (List Nat) :=
    ((OrderedMap.empty.insert 0 [1, 2]).insert 1 [0]).insert 2 [0]
  runFrom step
    { network :=
        { links := links
          interfaceLinks := fun _ _ => none
          linkIfaces := fun _ _ => []
          downInterfaces := fun _ => []
          subifVlans := fun _ => []
          vlanPorts := fun _ => []
          deviceIps := .empty }
      mac := id }
    [.start 0 .rstp 32768 1, .start 1 .rstp 32768 1, .start 2 .rstp 32768 1,
      .setPortfast 0 "ether 1" true, .setBpduguard 0 "ether 1" true]

def ownBpdu (device : Nat) : Bpdu Nat where
  srcId := device
  rootBridgeId := ⟨32769, device⟩
  rootPathCost := 0
  bridgeId := ⟨32769, device⟩

set_option maxRecDepth 100000 in
/-- BPDUs at the disabled port and at the other bridges leave it disabled. -/
theorem err_disabled_port_waits :
    (runFrom step (step edgePort (.receiveBpdu 0 (ownBpdu 1)))
      [.receiveBpdu 0 (ownBpdu 1), .receiveBpdu 2 (ownBpdu 0), .addPort 2 "ether 2" 1,
        .advance 0]).portStateOf 0 "ether 1" ≠ some .forwarding := by
  obtain ⟨port, received⟩ : ∃ port, edgePort.receivingPort 0 (ownBpdu 1) = some ("ether 1", port) :=
    ⟨_, rfl⟩
  exact guarded_port_not_forwarding received (by decide +kernel) _ (by decide +kernel)

set_option maxRecDepth 100000 in
/-- The next BPDU at the other port of the bridge opens the disabled port. -/
theorem err_disabled_port_forwards :
    (step edgePort (.receiveBpdu 0 (ownBpdu 1))).portStateOf 0 "ether 1" = some .errDisabled ∧
      clearsGuard 0 "ether 1" (step edgePort (.receiveBpdu 0 (ownBpdu 1)))
        (.receiveBpdu 0 (ownBpdu 2)) = false ∧
      (step (step edgePort (.receiveBpdu 0 (ownBpdu 1)))
        (.receiveBpdu 0 (ownBpdu 2))).portStateOf 0 "ether 1" = some .forwarding := by
  decide +kernel

end NetLab.Stp
