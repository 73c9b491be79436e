import NetLab.Library.Execution
import NetLab.Library.OrderedMap
import Mathlib.Algebra.GroupWithZero.Nat

/-!
# HSRP pair

Two routers of an HSRP group as the engine runs them. As for VRRP, a hello is handled
when it is sent, and only its sender and priority count. Who has heard the other since
its last change of state is history by which the engine's choices are judged.
-/

namespace NetLab.Redundancy

open NetLab.Library NetLab.Execution Nat
open OrderedMap

variable {receiver : Side}

/-- State of an HSRP router. -/
inductive HsrpState where
  | init
  | active
  | standby
deriving DecidableEq

/-- The group as one of its routers sees it. Preemption is off unless configured. -/
structure HsrpGroup where
  priority : Nat := 100
  preempt : Bool := false
  state : HsrpState := .init
deriving DecidableEq

variable {Device : Type} [DecidableEq Device]

/-- Routers of the group that were started. -/
abbrev HsrpTable (Device : Type) := OrderedMap Device HsrpGroup

/-- Set the state of a router, if it takes part in the group. -/
def HsrpTable.setState (table : HsrpTable Device) (device : Device) (state : HsrpState) :
    HsrpTable Device :=
  table.modify device fun group => { group with state }

/-- Election on the first hello, won by a priority that is not smaller. -/
def HsrpTable.elect (table : HsrpTable Device) (device peer : Device)
    (priority peerPriority : Nat) : HsrpTable Device :=
  if peerPriority ≤ priority then (table.setState device .active).setState peer .standby
  else (table.setState device .standby).setState peer .active

/-- Handle a hello. -/
def HsrpTable.receiveHello (table : HsrpTable Device) (receiver source : Device)
    (peerPriority : Nat) : HsrpTable Device :=
  match table.lookup receiver with
  | none => table
  | some group =>
    match group.state with
    | .init => table.elect receiver source group.priority peerPriority
    | .active =>
      if group.priority < peerPriority ∨ (peerPriority = group.priority ∧ group.preempt) then
        -- A tie gets this far and then changes nothing.
        if group.priority < peerPriority then table.setState receiver .standby else table
      else table
    | .standby =>
      if group.preempt ∧ peerPriority < group.priority then table.setState receiver .active
      else table

def HsrpTable.holdTimer (table : HsrpTable Device) (device : Device) : HsrpTable Device :=
  table.modify device fun group =>
    if group.state = .standby then { group with state := .active } else group

/-! ## Runs of a pair -/

/-- Two routers of a group with their priorities and addresses. -/
structure HsrpPair (Device : Type) where
  first : Device
  second : Device
  distinct : first ≠ second
  priority : Device → Nat
  address : Device → Nat

/-- One of the two routers. -/
inductive Side where
  | first
  | second
deriving DecidableEq

/-- The opposite side. -/
def Side.other : Side → Side
  | .first => .second
  | .second => .first

/-- The routers, and whether each side has handled a hello that the other one sent in
its present state, with the hold time not passed since. -/
structure HsrpWorld (Device : Type) where
  table : HsrpTable Device := .empty
  heard : Side → Bool := fun _ => false

/-- Starts, hellos from one side to the other, hold timers, and the passing of the hold
time without a hello. -/
inductive HsrpEvent where
  | hsrpStart (side : Side) (preempt : Bool)
  | hello (source : Side)
  | holdTimer (side : Side)
  | silence (side : Side)
deriving DecidableEq

def HsrpWorld.TimersWait (world : HsrpWorld Device) : HsrpEvent → Prop
  | .holdTimer side => world.heard side = false
  | _ => True

namespace HsrpPair

variable (pair : HsrpPair Device) (world : HsrpWorld Device)

/-- The router on a side. -/
def device : Side → Device
  | .first => pair.first
  | .second => pair.second

def group (side : Side) : Option HsrpGroup := world.table.lookup (pair.device side)

/-- State of a side; `none` before its start. -/
def stateOf (side : Side) : Option HsrpState := (pair.group world side).map HsrpGroup.state

/-- Replace the table; what was heard from a side that changed its state is past. -/
def advance (table : HsrpTable Device) (heard : Side → Bool) : HsrpWorld Device where
  table
  heard side := heard side &&
    decide (pair.stateOf { table } side.other = pair.stateOf world side.other)

def step (world : HsrpWorld Device) : HsrpEvent → HsrpWorld Device
  | .hsrpStart side preempt =>
    { table := world.table.insert (pair.device side)
        { priority := pair.priority (pair.device side), preempt }
      heard := fun _ => false }
  | .hello source =>
    match pair.group world source, pair.group world source.other with
    | some group, some _ =>
      pair.advance world
        (world.table.receiveHello (pair.device source.other) (pair.device source) group.priority)
        fun side => world.heard side || side == source.other
    | _, _ => world
  | .holdTimer side =>
    pair.advance world (world.table.holdTimer (pair.device side)) world.heard
  | .silence side =>
    { world with heard := fun other => world.heard other && other != side }

/-- A side ranks above the other one by (priority, address). -/
def Outranks (side : Side) : Prop :=
  pair.priority (pair.device side.other) < pair.priority (pair.device side) ∨
    pair.priority (pair.device side.other) = pair.priority (pair.device side) ∧
      pair.address (pair.device side.other) < pair.address (pair.device side)

/-- A side that ranks higher and does not preempt does not become Active in the step
while it hears the other one, which is Active. -/
def NoTakeover (event : HsrpEvent) : Prop :=
  ∀ side, pair.Outranks side → (pair.group world side).any (fun group => !group.preempt) = true →
    pair.stateOf world side ≠ some .active →
    pair.stateOf (pair.step world event) side = some .active →
    ¬ (pair.stateOf world side.other = some .active ∧
      (world.heard side = true ∨ event = .hello side.other))

/-- Of a side that ranks higher and does not preempt: it handles no hello of an Active
router while it is new, and no hold timer fires at it while it hears an Active one. -/
def Unprovoked : HsrpEvent → Prop
  | .hsrpStart _ _ => True
  | .hello source =>
    pair.Outranks source.other →
    (pair.group world source.other).any (fun group => !group.preempt) = true →
    pair.stateOf world source.other = some .init → pair.stateOf world source ≠ some .active
  | .holdTimer side =>
    pair.Outranks side → (pair.group world side).any (fun group => !group.preempt) = true →
    pair.stateOf world side = some .standby →
    pair.stateOf world side.other = some .active → world.heard side = false
  | .silence _ => True

/-- No hold timer fires at a Standby router while the other one is Active with the same
priority. -/
def TiesKept : HsrpEvent → Prop
  | .holdTimer side =>
    pair.priority (pair.device side) = pair.priority (pair.device side.other) →
    pair.stateOf world side = some .standby → pair.stateOf world side.other ≠ some .active
  | _ => True

/-- Both sides have left `init` and handled the present hello of each other. -/
structure Settled : Prop where
  started : ∀ side, pair.stateOf world side ≠ none
  running : ∀ side, pair.stateOf world side ≠ some .init
  heard : ∀ side, world.heard side = true

end HsrpPair

/-! ## One step -/

variable {table : HsrpTable Device} (side origin : Side)

@[simp] theorem Side.other_other : side.other.other = side := by
  cases side <;> rfl

theorem Side.other_ne : side.other ≠ side := by
  cases side <;> decide

theorem Side.eq_or_eq_other : side = origin ∨ side = origin.other := by
  cases side <;> cases origin <;> decide

/-- What a hello does to the states of the two sides: the receiver is new and wins or
loses, it is Active and yields or stays, it is Standby and preempts or stays. -/
inductive HelloEffect (receiver : Side) (group : HsrpGroup) (peerPriority : Nat)
    (states : Side → Option HsrpState) : (Side → Option HsrpState) → Prop where
  | won (starts : group.state = .init) (notBelow : peerPriority ≤ group.priority) :
      HelloEffect receiver group peerPriority states
        fun side => if side = receiver then some .active else some .standby
  | lost (starts : group.state = .init) (below : group.priority < peerPriority) :
      HelloEffect receiver group peerPriority states
        fun side => if side = receiver then some .standby else some .active
  | yields (isActive : group.state = .active) (below : group.priority < peerPriority) :
      HelloEffect receiver group peerPriority states
        fun side => if side = receiver then some .standby else states side
  | holds (isActive : group.state = .active) (notBelow : peerPriority ≤ group.priority) :
      HelloEffect receiver group peerPriority states states
  | preempts (isStandby : group.state = .standby) (preempt : group.preempt = true)
      (above : peerPriority < group.priority) :
      HelloEffect receiver group peerPriority states
        fun side => if side = receiver then some .active else states side
  | waits (isStandby : group.state = .standby)
      (held : ¬ (group.preempt = true ∧ peerPriority < group.priority)) :
      HelloEffect receiver group peerPriority states states

section

variable {group : HsrpGroup} {peerPriority : Nat} {states after : Side → Option HsrpState}
  (effect : HelloEffect receiver group peerPriority states after)
include effect

theorem HelloEffect.from_higher (isReceiver : states receiver = some group.state)
    (below : group.priority < peerPriority) (higher : states receiver.other ≠ some .standby) :
    after receiver = some .standby ∧ after receiver.other ≠ some .standby := by
  cases effect with
  | won _ notBelow => exact absurd notBelow (Nat.not_le_of_gt below)
  | lost => simp [receiver.other_ne]
  | yields => simpa [receiver.other_ne] using higher
  | holds _ notBelow => exact absurd notBelow (Nat.not_le_of_gt below)
  | preempts _ _ above => exact absurd above (Nat.not_lt_of_gt below)
  | waits isStandby => exact ⟨isReceiver.trans (congrArg some isStandby), higher⟩

theorem HelloEffect.from_lower (isReceiver : states receiver = some group.state)
    (above : peerPriority < group.priority) (higher : states receiver ≠ some .standby) :
    after receiver = some .active ∧
      (after receiver.other = some .active → states receiver.other = some .active) := by
  have notStandby : group.state ≠ .standby := fun isStandby =>
    higher (isReceiver.trans (congrArg some isStandby))
  cases effect with
  | won => simp [receiver.other_ne]
  | lost _ below => exact absurd below (Nat.not_lt_of_gt above)
  | yields _ below => exact absurd below (Nat.not_lt_of_gt above)
  | holds isActive => exact ⟨isReceiver.trans (congrArg some isActive), id⟩
  | preempts isStandby => exact absurd isStandby notStandby
  | waits isStandby => exact absurd isStandby notStandby

/-- A hello of an equal makes a new receiver Active and the sender Standby, and changes
nothing otherwise. -/
theorem HelloEffect.from_equal (equal : group.priority = peerPriority) :
    after = states ∨ after receiver = some .active ∧ after receiver.other = some .standby := by
  cases effect with
  | won => exact .inr (by simp [receiver.other_ne])
  | lost _ below => exact absurd equal (Nat.ne_of_lt below)
  | yields _ below => exact absurd equal (Nat.ne_of_lt below)
  | holds => exact .inl rfl
  | preempts _ _ above => exact absurd equal.symm (Nat.ne_of_lt above)
  | waits => exact .inl rfl

end

namespace HsrpPair

variable {pair : HsrpPair Device} {world : HsrpWorld Device}

def Configures (pair : HsrpPair Device) (world : HsrpWorld Device) : Prop :=
  ∀ side group, pair.group world side = some group →
    group.priority = pair.priority (pair.device side)

omit [DecidableEq Device] in
theorem device_injective (pair : HsrpPair Device) {side other : Side}
    (same : pair.device side = pair.device other) : side = other := by
  cases side <;> cases other
  · rfl
  · exact absurd same pair.distinct
  · exact absurd same.symm pair.distinct
  · rfl

theorem lookup_setState (table : HsrpTable Device) (side other : Side) (state : HsrpState) :
    (table.setState (pair.device side) state).lookup (pair.device other) =
      if other = side then (table.lookup (pair.device other)).map fun group => { group with state }
      else table.lookup (pair.device other) := by
  rw [HsrpTable.setState, lookup_modify]
  by_cases same : other = side
  · simp [same]
  · rw [if_neg same, if_neg fun equal => same (pair.device_injective equal)]

/-- A group present before is present after, with its configuration. -/
theorem setState_setState_states {group peerGroup : HsrpGroup}
    (isReceiver : table.lookup (pair.device receiver) = some group)
    (isPeer : table.lookup (pair.device receiver.other) = some peerGroup)
    (state peerState : HsrpState) (side : Side) :
    (((table.setState (pair.device receiver) state).setState (pair.device receiver.other)
      peerState).lookup (pair.device side)).map HsrpGroup.state =
      if side = receiver then some state else some peerState := by
  rw [lookup_setState, lookup_setState]
  rcases side.eq_or_eq_other receiver with rfl | rfl
  · simp [isReceiver, Ne.symm side.other_ne]
  · simp [isPeer, receiver.other_ne]

theorem setState_states {group : HsrpGroup}
    (isReceiver : table.lookup (pair.device receiver) = some group) (state : HsrpState)
    (side : Side) :
    ((table.setState (pair.device receiver) state).lookup (pair.device side)).map HsrpGroup.state =
      if side = receiver then some state
      else (table.lookup (pair.device side)).map HsrpGroup.state := by
  rw [lookup_setState]
  by_cases same : side = receiver
  · subst same
    simp [isReceiver]
  · simp [same]

theorem receiveHello_effect {group peerGroup : HsrpGroup}
    (isReceiver : pair.group world receiver = some group)
    (isPeer : pair.group world receiver.other = some peerGroup) (peerPriority : Nat) :
    HelloEffect receiver group peerPriority (pair.stateOf world) (pair.stateOf { world with
        table := world.table.receiveHello (pair.device receiver) (pair.device receiver.other)
          peerPriority }) := by
  have both := setState_setState_states isReceiver isPeer
  have one := setState_states isReceiver
  have found : world.table.lookup (pair.device receiver) = some group := isReceiver
  have handled : ∀ after : HsrpTable Device,
      world.table.receiveHello (pair.device receiver) (pair.device receiver.other) peerPriority =
        after → pair.stateOf { world with
          table := world.table.receiveHello (pair.device receiver) (pair.device receiver.other)
            peerPriority } =
          fun side => (after.lookup (pair.device side)).map HsrpGroup.state := by
    rintro _ rfl
    rfl
  cases state : group.state with
  | init =>
    by_cases notBelow : peerPriority ≤ group.priority
    · rw [handled ((world.table.setState (pair.device receiver) .active).setState
        (pair.device receiver.other) .standby)
        (by simp only [HsrpTable.receiveHello, found, state, HsrpTable.elect, notBelow, if_true])]
      simp only [both]
      exact .won state notBelow
    · rw [handled ((world.table.setState (pair.device receiver) .standby).setState
        (pair.device receiver.other) .active)
        (by simp only [HsrpTable.receiveHello, found, state, HsrpTable.elect, notBelow, if_false])]
      simp only [both]
      exact .lost state (Nat.lt_of_not_le notBelow)
  | active =>
    by_cases below : group.priority < peerPriority
    · rw [handled (world.table.setState (pair.device receiver) .standby)
        (by simp only [HsrpTable.receiveHello, found, state, below, true_or, if_true])]
      simp only [one]
      exact .yields state below
    · rw [handled world.table (by simp [HsrpTable.receiveHello, found, state, below])]
      exact .holds state (Nat.le_of_not_lt below)
  | standby =>
    by_cases takes : group.preempt = true ∧ peerPriority < group.priority
    · rw [handled (world.table.setState (pair.device receiver) .active)
        (by simp only [HsrpTable.receiveHello, found, state, takes, and_self, if_true])]
      simp only [one]
      exact .preempts state takes.1 takes.2
    · rw [handled world.table (by simp only [HsrpTable.receiveHello, found, state, takes,
        if_false])]
      exact .waits state takes

theorem priority_setState {device other : Device} {state : HsrpState} {group : HsrpGroup}
    (found : (table.setState device state).lookup other = some group) :
    ∃ before, table.lookup other = some before ∧ group.priority = before.priority := by
  rw [HsrpTable.setState, lookup_modify] at found
  split at found
  · obtain ⟨before, isBefore, rfl⟩ := Option.map_eq_some_iff.mp found
    exact ⟨before, isBefore, rfl⟩
  · exact ⟨group, found, rfl⟩

theorem priority_receiveHello {receiver source other : Device} {peerPriority : Nat}
    {group : HsrpGroup}
    (found : (table.receiveHello receiver source peerPriority).lookup other = some group) :
    ∃ before, table.lookup other = some before ∧ group.priority = before.priority := by
  have both : ∀ {first second : Device} {firstState secondState : HsrpState},
      ((table.setState first firstState).setState second secondState).lookup other = some group →
      ∃ before, table.lookup other = some before ∧ group.priority = before.priority := by
    intro first second firstState secondState found
    obtain ⟨middle, isMiddle, priority⟩ := priority_setState found
    obtain ⟨before, isBefore, priority'⟩ := priority_setState isMiddle
    exact ⟨before, isBefore, priority.trans priority'⟩
  unfold HsrpTable.receiveHello HsrpTable.elect at found
  split at found
  · exact ⟨group, found, rfl⟩
  · repeat' split at found
    all_goals first
      | exact both found
      | exact priority_setState found
      | exact ⟨group, found, rfl⟩

theorem configures_step (configures : pair.Configures world) (event : HsrpEvent) :
    pair.Configures (pair.step world event) := by
  cases event with
  | hsrpStart side preempt =>
    intro other group found
    simp only [step, HsrpPair.group, lookup_insert] at found
    split at found
    · rename_i same
      cases found
      exact congrArg pair.priority same.symm
    · exact configures other group found
  | hello source =>
    intro other group found
    cases isSource : pair.group world source with
    | none => exact configures other group (by simpa [step, isSource] using found)
    | some sourceGroup =>
      cases isReceiver : pair.group world source.other with
      | none => exact configures other group (by simpa [step, isSource, isReceiver] using found)
      | some receiverGroup =>
        simp only [step, isSource, isReceiver, advance] at found
        obtain ⟨before, isBefore, priority⟩ := priority_receiveHello found
        exact priority.trans (configures other before isBefore)
  | holdTimer side =>
    intro other group found
    simp only [step, advance, HsrpPair.group, HsrpTable.holdTimer, lookup_modify] at found
    split at found
    · obtain ⟨before, isBefore, rfl⟩ := Option.map_eq_some_iff.mp found
      have kept := configures other before isBefore
      split <;> exact kept
    · exact configures other group found
  | silence side => exact configures

theorem step_hello (configures : pair.Configures world) (source : Side) :
    (pair.step world (.hello source) = world ∧
      (pair.stateOf world source = none ∨ pair.stateOf world source.other = none)) ∨
    ∃ group, pair.group world source.other = some group ∧
      HelloEffect source.other group (pair.priority (pair.device source)) (pair.stateOf world)
        (pair.stateOf (pair.step world (.hello source))) ∧
      ∀ side, (pair.step world (.hello source)).heard side =
        ((world.heard side || side == source.other) &&
          decide (pair.stateOf (pair.step world (.hello source)) side.other =
            pair.stateOf world side.other)) := by
  cases isSource : pair.group world source with
  | none => exact .inl ⟨by simp [step, isSource], .inl (by simp [stateOf, isSource])⟩
  | some sourceGroup =>
    cases isReceiver : pair.group world source.other with
    | none => exact .inl ⟨by simp [step, isReceiver, isSource],
        .inr (by simp [stateOf, isReceiver])⟩
    | some group =>
      have isPeer : pair.group world source.other.other = some sourceGroup := by
        rw [Side.other_other, isSource]
      have effect := receiveHello_effect isReceiver isPeer (pair.priority (pair.device source))
      have stepped : pair.step world (.hello source) =
          pair.advance world (world.table.receiveHello (pair.device source.other)
            (pair.device source) (pair.priority (pair.device source)))
            fun side => world.heard side || side == source.other := by
        simp only [step, isSource, isReceiver, configures source sourceGroup isSource]
      rw [Side.other_other] at effect
      rw [stepped]
      exact .inr ⟨group, rfl, effect, fun _ => rfl⟩

theorem stateOf_holdTimer (other : Side) : pair.stateOf (pair.step world (.holdTimer side)) other =
      if other = side ∧ pair.stateOf world side = some .standby then some .active
      else pair.stateOf world other := by
  change ((world.table.holdTimer (pair.device side)).lookup (pair.device other)).map
    HsrpGroup.state = _
  rw [HsrpTable.holdTimer, lookup_modify]
  by_cases same : other = side
  · subst same
    cases found : world.table.lookup (pair.device other) with
    | none => simp [stateOf, group, found]
    | some group =>
      by_cases isStandby : group.state = .standby <;>
        simp [stateOf, HsrpPair.group, found, isStandby]
  · have apart : pair.device other ≠ pair.device side := fun equal =>
      same (pair.device_injective equal)
    simp [stateOf, group, same, apart]

/-- A started router is in `init`. -/
theorem stateOf_hsrpStart (other : Side) (preempt : Bool) :
    pair.stateOf (pair.step world (.hsrpStart side preempt)) other =
      if other = side then some .init else pair.stateOf world other := by
  simp only [step, stateOf, group, lookup_insert]
  by_cases same : other = side
  · simp [same]
  · simp [same, show pair.device other ≠ pair.device side from fun equal =>
      same (pair.device_injective equal)]

/-! ## Takeover -/

/-- After a hello no side that may not preempt has taken over from an Active router it hears
exactly if the hello was unprovoked. -/
theorem noTakeover_of_effect (configures : pair.Configures world) {source : Side}
    {group : HsrpGroup} {states : Side → Option HsrpState}
    (effect : HelloEffect source.other group (pair.priority (pair.device source))
      (pair.stateOf world) states)
    (isReceiver : pair.group world source.other = some group) :
    (∀ side, pair.Outranks side → (pair.group world side).any (fun group => !group.preempt) = true →
      pair.stateOf world side ≠ some .active → states side = some .active →
      ¬ (pair.stateOf world side.other = some .active ∧
        (world.heard side = true ∨ HsrpEvent.hello source = .hello side.other))) ↔
      pair.Unprovoked world (.hello source) := by
  have receiverState : pair.stateOf world source.other = some group.state := by
    simp [stateOf, isReceiver]
  have priority := configures source.other group isReceiver
  have notInit : group.state ≠ .init → pair.Unprovoked world (.hello source) := by
    intro running _ _ isInit
    rw [receiverState] at isInit
    exact absurd (Option.some.inj isInit) running
  cases effect with
  | won starts notBelow =>
    constructor
    · intro none outranks holdsBack isInit isActive
      refine none source.other outranks holdsBack ?_ (if_pos rfl) ?_
      · rw [isInit]
        decide
      · rw [Side.other_other]
        exact ⟨isActive, .inr rfl⟩
    · rintro unprovoked side outranks holdsBack notActive isActive ⟨otherActive, -⟩
      dsimp only at isActive
      split at isActive
      · rename_i isHere
        subst isHere
        rw [Side.other_other] at otherActive
        exact unprovoked outranks holdsBack (by rw [receiverState, starts]) otherActive
      · cases isActive
  | lost starts below =>
    refine iff_of_true ?_ fun outranks => ?_
    · rintro side - - - isActive ⟨otherActive, -⟩
      dsimp only at isActive
      split at isActive
      · cases isActive
      · rename_i isThere
        rcases side.eq_or_eq_other source with rfl | isHere
        · rw [receiverState, starts] at otherActive
          cases otherActive
        · exact isThere isHere
    · rw [priority] at below
      unfold Outranks at outranks
      rw [Side.other_other] at outranks
      omega
  | yields isActive below =>
    refine iff_of_true (fun side _ _ notActive becomes => ?_) (notInit (by simp [isActive]))
    dsimp only at becomes
    split at becomes
    · cases becomes
    · exact absurd becomes notActive
  | holds isActive notBelow =>
    exact iff_of_true (fun side _ _ notActive becomes => absurd becomes notActive)
      (notInit (by simp [isActive]))
  | preempts isStandby preempt above =>
    refine iff_of_true (fun side _ holdsBack notActive becomes => ?_)
      (notInit (by simp [isStandby]))
    dsimp only at becomes
    split at becomes
    · rename_i isHere
      rw [isHere, isReceiver] at holdsBack
      simp [preempt] at holdsBack
    · exact absurd becomes notActive
  | waits isStandby held =>
    exact iff_of_true (fun side _ _ notActive becomes => absurd becomes notActive)
      (notInit (by simp [isStandby]))

theorem noTakeover_iff (configures : pair.Configures world) (event : HsrpEvent) :
    pair.NoTakeover world event ↔ pair.Unprovoked world event := by
  cases event with
  | hsrpStart side preempt =>
    refine iff_of_true (fun other _ _ notActive isActive => ?_) trivial
    rw [stateOf_hsrpStart] at isActive
    split at isActive
    · cases isActive
    · exact absurd isActive notActive
  | silence side =>
    exact iff_of_true (fun other _ _ notActive isActive => absurd isActive notActive) trivial
  | holdTimer side =>
    constructor
    · intro none outranks holdsBack isStandby isActive
      have fired : pair.stateOf (pair.step world (.holdTimer side)) side = some .active := by
        rw [stateOf_holdTimer, if_pos ⟨rfl, isStandby⟩]
      refine Bool.eq_false_iff.mpr fun hears =>
        none side outranks holdsBack ?_ fired ⟨isActive, .inl hears⟩
      rw [isStandby]
      decide
    · rintro unprovoked other outranks holdsBack notActive isActive ⟨otherActive, hears⟩
      rw [stateOf_holdTimer] at isActive
      split at isActive
      · rename_i fires
        obtain ⟨rfl, isStandby⟩ := fires
        rcases hears with hears | impossible
        · rw [unprovoked outranks holdsBack isStandby otherActive] at hears
          cases hears
        · cases impossible
      · exact notActive isActive
  | hello source =>
    rcases step_hello configures source with ⟨same, absent⟩ | ⟨group, isReceiver, effect, -⟩
    · refine iff_of_true (fun other _ _ notActive isActive => ?_) fun _ _ isInit isActive => ?_
      · rw [same] at isActive
        exact absurd isActive notActive
      · rcases absent with absent | absent
        · rw [absent] at isActive
          cases isActive
        · rw [absent] at isInit
          cases isInit
    · exact noTakeover_of_effect configures effect isReceiver

/-! ## One Active router -/

/-- With distinct priorities the higher side is never Standby and the lower one hears
nothing while it is Active; with equal ones the sides never play the same part. -/
structure Orderly (pair : HsrpPair Device) (world : HsrpWorld Device) : Prop where
  configures : pair.Configures world
  higher : ∀ side, pair.priority (pair.device side.other) < pair.priority (pair.device side) →
    pair.stateOf world side ≠ some .standby
  lower : ∀ side, pair.priority (pair.device side) < pair.priority (pair.device side.other) →
    pair.stateOf world side = some .active → world.heard side = false
  tie : ∀ side, pair.priority (pair.device side) = pair.priority (pair.device side.other) →
    (pair.stateOf world side = some .active → pair.stateOf world side.other ≠ some .active) ∧
      (pair.stateOf world side = some .standby → pair.stateOf world side.other ≠ some .standby)

theorem orderly_empty (pair : HsrpPair Device) : pair.Orderly {} where
  configures side group found := by simp [HsrpPair.group] at found
  higher side _ isStandby := by simp [stateOf, HsrpPair.group] at isStandby
  lower side _ _ := rfl
  tie side _ := ⟨fun isActive => by simp [stateOf, HsrpPair.group] at isActive,
    fun isStandby => by simp [stateOf, HsrpPair.group] at isStandby⟩

theorem orderly_of_below (configures : pair.Configures world) (low : Side)
    (below : pair.priority (pair.device low) < pair.priority (pair.device low.other))
    (high : pair.stateOf world low.other ≠ some .standby)
    (deaf : pair.stateOf world low = some .active → world.heard low = false) :
    pair.Orderly world := by
  refine ⟨configures, fun side higher => ?_, fun side lower => ?_, fun side equal => ?_⟩
  all_goals rcases side.eq_or_eq_other low with rfl | rfl
  · exact absurd higher (Nat.not_lt_of_gt below)
  · exact high
  · exact deaf
  · rw [Side.other_other] at lower
    exact absurd lower (Nat.not_lt_of_gt below)
  · exact absurd equal (Nat.ne_of_lt below)
  · rw [Side.other_other] at equal
    exact absurd equal.symm (Nat.ne_of_lt below)

theorem orderly_of_tie (configures : pair.Configures world) (origin : Side)
    (equal : pair.priority (pair.device origin) = pair.priority (pair.device origin.other))
    (oneActive : pair.stateOf world origin = some .active →
      pair.stateOf world origin.other ≠ some .active)
    (oneStandby : pair.stateOf world origin = some .standby →
      pair.stateOf world origin.other ≠ some .standby) : pair.Orderly world := by
  refine ⟨configures, fun side higher => ?_, fun side lower => ?_, fun side _ => ?_⟩
  all_goals rcases side.eq_or_eq_other origin with rfl | rfl
  all_goals try rw [Side.other_other] at *
  · exact absurd equal.symm (Nat.ne_of_lt higher)
  · exact absurd equal (Nat.ne_of_lt higher)
  · exact absurd equal (Nat.ne_of_lt lower)
  · exact absurd equal.symm (Nat.ne_of_lt lower)
  · exact ⟨oneActive, oneStandby⟩
  · exact ⟨fun isActive both => oneActive both isActive,
      fun isStandby both => oneStandby both isStandby⟩

theorem orderly_step (orderly : pair.Orderly world) {event : HsrpEvent}
    (waits : world.TimersWait event) (kept : pair.TiesKept world event) :
    pair.Orderly (pair.step world event) := by
  have configures := configures_step orderly.configures event
  cases event with
  | hsrpStart side preempt =>
    refine ⟨configures, fun other higher isStandby => ?_, fun _ _ _ => rfl,
      fun other equal => ⟨fun isActive both => ?_, fun isStandby both => ?_⟩⟩
    · rw [stateOf_hsrpStart] at isStandby
      split at isStandby
      · cases isStandby
      · exact orderly.higher other higher isStandby
    · rw [stateOf_hsrpStart] at isActive both
      split at isActive
      · cases isActive
      · split at both
        · cases both
        · exact (orderly.tie other equal).1 isActive both
    · rw [stateOf_hsrpStart] at isStandby both
      split at isStandby
      · cases isStandby
      · split at both
        · cases both
        · exact (orderly.tie other equal).2 isStandby both
  | silence side =>
    refine ⟨configures, orderly.higher, fun other lower isActive => ?_, orderly.tie⟩
    have deaf := orderly.lower other lower isActive
    simp [step, deaf]
  | holdTimer side =>
    have deaf : world.heard side = false := waits
    refine ⟨configures, fun other higher isStandby => ?_, fun other lower isActive => ?_,
      fun other equal => ⟨fun isActive both => ?_, fun isStandby both => ?_⟩⟩
    · rw [stateOf_holdTimer] at isStandby
      split at isStandby
      · cases isStandby
      · exact orderly.higher other higher isStandby
    · have before : world.heard other = false := by
        rw [stateOf_holdTimer] at isActive
        split at isActive
        · rename_i fires
          rw [fires.1, deaf]
        · exact orderly.lower other lower isActive
      simp [step, advance, before]
    · rw [stateOf_holdTimer] at isActive both
      split at isActive
      · rename_i fires
        obtain ⟨rfl, isStandby⟩ := fires
        rw [if_neg fun impossible => other.other_ne impossible.1] at both
        exact kept equal isStandby both
      · split at both
        · rename_i fires
          obtain ⟨rfl, isStandby⟩ := fires
          exact kept (by rw [Side.other_other, equal]) isStandby (by rwa [Side.other_other])
        · exact (orderly.tie other equal).1 isActive both
    · rw [stateOf_holdTimer] at isStandby both
      split at isStandby
      · cases isStandby
      · split at both
        · cases both
        · exact (orderly.tie other equal).2 isStandby both
  | hello source =>
    rcases step_hello orderly.configures source with ⟨same, -⟩ |
      ⟨group, isReceiver, effect, heard⟩
    · rwa [same]
    · have receiverState : pair.stateOf world source.other = some group.state := by
        simp [stateOf, isReceiver]
      have priority := orderly.configures source.other group isReceiver
      have senderSide : pair.priority (pair.device source.other.other) =
          pair.priority (pair.device source) := by rw [Side.other_other]
      rcases Nat.lt_trichotomy group.priority (pair.priority (pair.device source)) with
        below | equal | above
      · have higher : pair.stateOf world source.other.other ≠ some .standby := by
          rw [Side.other_other]
          exact orderly.higher source (by rw [← priority]; exact below)
        obtain ⟨isStandby, stays⟩ := effect.from_higher receiverState below higher
        refine orderly_of_below configures source.other
          (by rw [senderSide, ← priority]; exact below) stays fun isActive => ?_
        rw [isStandby] at isActive
        cases isActive
      · have tie := orderly.tie source.other (by rw [senderSide, ← priority, equal])
        refine orderly_of_tie configures source.other (by rw [senderSide, ← priority, equal]) ?_ ?_
        all_goals rcases effect.from_equal equal with unchanged | ⟨isActive, isStandby⟩
        · rw [unchanged]
          exact tie.1
        · exact fun _ => by rw [isStandby]; decide
        · rw [unchanged]
          exact tie.2
        · intro both
          rw [isActive] at both
          cases both
      · have higher := orderly.higher source.other (by rw [senderSide, ← priority]; exact above)
        obtain ⟨isActive, noneNew⟩ := effect.from_lower receiverState above higher
        rw [Side.other_other] at noneNew
        refine orderly_of_below configures source (by rw [← priority]; exact above) ?_ fun leads => ?_
        · simp [isActive]
        · have deaf := orderly.lower source (by rw [← priority]; exact above) (noneNew leads)
          simp [heard source, deaf, source.other_ne.symm]

theorem Orderly.one_active (orderly : pair.Orderly world) (settled : pair.Settled world) :
    ∃! side, pair.stateOf world side = some .active := by
  have playing : ∀ side, pair.stateOf world side = some .active ∨
      pair.stateOf world side = some .standby := by
    intro side
    cases state : pair.stateOf world side with
    | none => exact absurd state (settled.started side)
    | some state' =>
      cases state' with
      | init => exact absurd state (settled.running side)
      | active => exact .inl rfl
      | standby => exact .inr rfl
  have ofBelow : ∀ low, pair.priority (pair.device low) < pair.priority (pair.device low.other) →
      ∃! side, pair.stateOf world side = some .active := by
    intro low below
    have high : pair.stateOf world low.other = some .active :=
      (playing low.other).resolve_right (orderly.higher low.other (by rwa [Side.other_other]))
    refine ⟨low.other, high, fun side isActive => ?_⟩
    rcases side.eq_or_eq_other low with rfl | rfl
    · have deaf := orderly.lower side below isActive
      rw [settled.heard side] at deaf
      cases deaf
    · rfl
  rcases Nat.lt_trichotomy (pair.priority (pair.device .first))
    (pair.priority (pair.device .second)) with below | equal | above
  · exact ofBelow .first below
  · obtain ⟨oneActive, oneStandby⟩ := orderly.tie .first equal
    rcases playing .first with isActive | isStandby
    · refine ⟨.first, isActive, fun side leads => ?_⟩
      cases side with
      | first => rfl
      | second => exact absurd leads (oneActive isActive)
    · refine ⟨.second, (playing .second).resolve_right (oneStandby isStandby), fun side leads => ?_⟩
      cases side with
      | first => cases isStandby.symm.trans leads
      | second => rfl
  · exact ofBelow .second above

/-- In every run of the pair, no step is a takeover if and only if every step is
unprovoked; and if hold timers wait and ties are kept along it, then a settled pair has
exactly one Active router. -/
theorem active_stands_iff (pair : HsrpPair Device) (events : List HsrpEvent) :
    (Along pair.step pair.NoTakeover {} events ↔ Along pair.step pair.Unprovoked {} events) ∧
    (Along pair.step HsrpWorld.TimersWait {} events → Along pair.step pair.TiesKept {} events →
      pair.Settled (runFrom pair.step {} events) →
      ∃! side, pair.stateOf (runFrom pair.step {} events) side = some .active) := by
  refine ⟨?_, fun waits kept settled => ?_⟩
  · have unguarded : Along pair.step (fun _ _ => True) {} events :=
      along_of_forall (fun _ _ => trivial) _ events
    have kept : ∀ world event, pair.Configures world → pair.Configures (pair.step world event) :=
      fun _ event configures => configures_step configures event
    exact along_congr kept (fun _ event configures _ => noTakeover_iff configures event)
      pair.orderly_empty.configures unguarded
  · have preserved : ∀ world event, pair.Orderly world →
        (world.TimersWait event ∧ pair.TiesKept world event) → pair.Orderly (pair.step world event) :=
      fun _ _ orderly met => orderly_step orderly met.1 met.2
    exact (invariant_along preserved pair.orderly_empty (waits.and kept)).one_active settled

/-! ## A pair with distinct priorities -/

local instance twoSize : NeZero 2 := ⟨by decide⟩

/-- Routers 0 and 1 with priorities 200 and 100. -/
def twoRouters : HsrpPair (Fin 2) where
  first := 0
  second := 1
  distinct := by decide
  priority device := if device = 0 then 200 else 100
  address device := device

/-- Router 0 is Active and restarts, without preemption; router 1 becomes Active in its
place, and router 0 hears it. -/
def returning : List HsrpEvent :=
  [.hsrpStart .first false, .hsrpStart .second false, .hello .second, .hsrpStart .first false,
    .silence .second, .holdTimer .second, .hello .second]

/-- Router 0, which does not preempt, takes over from router 1 on a hello of it. -/
theorem returning_router_takes_over : Along twoRouters.step HsrpWorld.TimersWait {} returning ∧
      ¬ Along twoRouters.step twoRouters.NoTakeover {} returning ∧
      twoRouters.stateOf (runFrom twoRouters.step {} (returning.take 6)) .second = some .active ∧
      twoRouters.stateOf (runFrom twoRouters.step {} returning) .first = some .active := by
  refine ⟨⟨trivial, trivial, trivial, trivial, trivial, rfl, trivial, trivial⟩, fun along => ?_,
    by decide +kernel, by decide +kernel⟩
  obtain ⟨-, -, -, -, -, -, last, -⟩ := along
  exact last .first (.inl (by decide)) (by decide +kernel) (by decide +kernel) (by decide +kernel)
    ⟨by decide +kernel, .inr rfl⟩

/-- A hold timer that fires before the first hello of the Active router does no harm. -/
theorem two_routers_one_active : ∃! side, twoRouters.stateOf (runFrom twoRouters.step {}
      [.hsrpStart .first false, .hsrpStart .second false, .hello .second, .holdTimer .second,
        .hello .first, .hello .second]) side = some .active := by
  refine (active_stands_iff twoRouters _).2
    ⟨trivial, trivial, trivial, rfl, trivial, trivial, trivial⟩
    ⟨trivial, trivial, trivial, fun equal => absurd equal (by decide), trivial, trivial, trivial⟩
    ⟨?_, ?_, ?_⟩
  all_goals
    intro side
    cases side <;> decide +kernel

end HsrpPair

end NetLab.Redundancy
