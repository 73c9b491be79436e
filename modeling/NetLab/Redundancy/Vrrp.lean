import NetLab.Library.Execution
import NetLab.Network.Filter
import NetLab.Network.VirtualNetwork
import Mathlib.Data.Fintype.Basic

/-!
# VRRP group

Routers of one VRRP group as the engine runs them. The source awaits the handler of
every receiver of an advertisement, so an advertisement is handled when it is sent;
the engine looks at its sender and priority only. The state of a Master, who has
heard whom since then, and the dead interval are not part of the engine: they are
the history by which its choices are judged.
-/

namespace NetLab.Redundancy

open NetLab.Library NetLab.Network Execution
open OrderedMap List Option Function

/-- State of a VRRP router. -/
inductive VrrpState where
  | init
  | master
  | backup
deriving DecidableEq

/-- The group as one of its routers sees it. -/
structure VrrpGroup where
  vip : String
  priority : Nat := 100
  preempt : Bool := true
  state : VrrpState := .init
deriving DecidableEq

/-- Dotted notation, in which the engine compares addresses. -/
def dottedQuad (address : Nat) : String :=
  ".".intercalate ([24, 16, 8, 0].map fun shift => toString (address >>> shift &&& 255))

/-- The first element that no other one precedes. -/
def firstBy {α : Type} (precedes : α → α → Bool) : List α → Option α
  | [] => none
  | candidate :: rest =>
    match firstBy precedes rest with
    | none => some candidate
    | some best => if precedes best candidate then some best else some candidate

/-- The greatest address of a device, in dotted notation. -/
def getDeviceIp (ips : List DeviceIp) : Option String :=
  firstBy (fun left right => decide (right < left)) (ips.map fun ip => dottedQuad ip.address)

/-- The least address of a device in the subnet of the virtual address; its greatest
address when there is none. -/
def getDeviceIpForVip (ips : List DeviceIp) (vip : String) : Option String :=
  let onSubnet : List DeviceIp := match ipToInt vip with
    | none => []
    | some address => ips.filter fun ip =>
      ip.address &&& prefixMask ip.prefixLength == address &&& prefixMask ip.prefixLength
  match firstBy (fun left right => decide (left < right))
      (onSubnet.map fun ip => dottedQuad ip.address) with
  | some ip => some ip
  | none => getDeviceIp ips

/-- Both addresses are known and the first one is the greater. -/
def ipAbove (first second : Option String) : Bool :=
  match first, second with
  | some left, some right => left != "" && right != "" && decide (right < left)
  | _, _ => false

/-- Both addresses are known. -/
def bothKnown (first second : Option String) : Bool :=
  first.any (fun ip => ip != "") && second.any fun ip => ip != ""

variable {Device : Type} [DecidableEq Device]

/-- Routers of the group that were started. -/
abbrev VrrpTable (Device : Type) := OrderedMap Device VrrpGroup

abbrev Addresses (Device : Type) := Device → List DeviceIp

/-- Set the state of a router, if it takes part in the group. -/
def VrrpTable.setState (table : VrrpTable Device) (device : Device) (state : VrrpState) :
    VrrpTable Device :=
  table.modify device fun group => { group with state }

/-- Election on the first advertisement. The loser and the winner both get their
state, whatever the peer's was. -/
def VrrpTable.elect (table : VrrpTable Device) (ips : Addresses Device) (device peer : Device)
    (priority peerPriority : Nat) : VrrpTable Device :=
  let won := (table.setState device .master).setState peer .backup
  let lost := (table.setState device .backup).setState peer .master
  let myIp := getDeviceIp (ips device)
  let peerIp := getDeviceIp (ips peer)
  if peerPriority < priority then won
  else if priority < peerPriority then lost
  else if bothKnown myIp peerIp then
    if ipAbove myIp peerIp then won else lost
  else table.setState device .master

/-- Handle an advertisement. -/
def VrrpTable.receiveAdvert (table : VrrpTable Device) (ips : Addresses Device)
    (receiver source : Device) (peerPriority : Nat) : VrrpTable Device :=
  match table.lookup receiver with
  | none => table
  | some group =>
    match group.state with
    | .init => table.elect ips receiver source group.priority peerPriority
    | .master =>
      if group.priority < peerPriority then table.setState receiver .backup
      else if peerPriority = group.priority ∧ ipAbove (getDeviceIpForVip (ips source) group.vip)
            (getDeviceIpForVip (ips receiver) group.vip) then
        table.setState receiver .backup
      else table
    | .backup =>
      if group.preempt ∧ peerPriority < group.priority then table.setState receiver .master
      else table

def VrrpTable.deadTimer (table : VrrpTable Device) (device : Device) : VrrpTable Device :=
  table.modify device fun group =>
    if group.state = .backup then { group with state := .master } else group

/-! ## Runs -/

/-- What stays fixed during a run: priorities, the virtual address, addresses. -/
structure VrrpSetup (Device : Type) where
  vip : String
  priority : Device → Nat
  ips : Addresses Device

/-- The routers, and who has heard whom: `heard receiver source` holds when the receiver
has handled an advertisement that the source sent in its present state, and the dead
interval has not passed since. -/
structure VrrpWorld (Device : Type) where
  table : VrrpTable Device := .empty
  heard : Device → Device → Bool := fun _ _ => false

/-- Starts, advertisements (of one device at another), dead timers, and the passing of the dead interval without an
advertisement of `source` at `receiver`. -/
inductive VrrpEvent (Device : Type) where
  | vrrpStart (device : Device) (preempt : Bool)
  | advert (source receiver : Device)
  | deadTimer (device : Device)
  | silence (receiver source : Device)

namespace VrrpWorld

variable (world : VrrpWorld Device)

/-- State of a router; `none` for one that was not started. -/
def stateOf (device : Device) : Option VrrpState := (world.table.lookup device).map VrrpGroup.state

/-- Replace the table; what was heard from a router that changed its state is past. -/
def advance (table : VrrpTable Device) (heard : Device → Device → Bool) : VrrpWorld Device where
  table
  heard receiver source :=
    heard receiver source &&
      decide ((table.lookup source).map VrrpGroup.state = world.stateOf source)

def step (setup : VrrpSetup Device) (world : VrrpWorld Device) : VrrpEvent Device → VrrpWorld Device
  | .vrrpStart device preempt =>
    { table := world.table.insert device
        { vip := setup.vip, priority := setup.priority device, preempt }
      heard := fun receiver source =>
        world.heard receiver source && receiver != device && source != device }
  | .advert source receiver =>
    match world.table.lookup source, world.table.lookup receiver with
    | some group, some _ =>
      if source = receiver then world
      else
        world.advance (world.table.receiveAdvert setup.ips receiver source group.priority)
          fun other otherSource => world.heard other otherSource ||
            (other == receiver && otherSource == source)
    | _, _ => world
  | .deadTimer device => world.advance (world.table.deadTimer device) world.heard
  | .silence receiver source =>
    { world with
      heard := fun other otherSource =>
        world.heard other otherSource && !(other == receiver && otherSource == source) }

def TimersWait : VrrpEvent Device → Prop
  | .deadTimer device =>
    ∀ master, world.stateOf master = some .master → world.heard device master = false
  | _ => True

/-- All routers of the group have left `init` and every one has handled the present
advertisement of every other. -/
structure Settled : Prop where
  started : ∃ device, world.stateOf device ≠ none
  running : ∀ device, world.stateOf device ≠ some .init
  heard : ∀ receiver source, receiver ≠ source → world.stateOf receiver ≠ none →
    world.stateOf source ≠ none → world.heard receiver source = true

end VrrpWorld

namespace VrrpSetup

variable (setup : VrrpSetup Device)

/-- The address of a router in the group, as a number. -/
def address (device : Device) : Option Nat :=
  (getDeviceIpForVip (setup.ips device) setup.vip).bind ipToInt

/-- `better` ranks above `worse` by (priority, address). -/
def Better (better worse : Device) : Prop :=
  setup.priority worse < setup.priority better ∨ setup.priority worse = setup.priority better ∧
      (setup.address worse).getD 0 < (setup.address better).getD 0

/-- Routers of equal priority have distinct addresses, and both comparisons of the
engine order them as the addresses do. -/
def TieBreaksAgree : Prop :=
  ∀ first second, first ≠ second → setup.priority first = setup.priority second →
    (setup.Better first second ∨ setup.Better second first) ∧
    (ipAbove (getDeviceIpForVip (setup.ips first) setup.vip)
      (getDeviceIpForVip (setup.ips second) setup.vip) = true ↔ setup.Better first second) ∧
    bothKnown (getDeviceIp (setup.ips first)) (getDeviceIp (setup.ips second)) = true ∧
    (ipAbove (getDeviceIp (setup.ips first)) (getDeviceIp (setup.ips second)) = true ↔
      setup.Better first second)

/-- The router hears a Master that ranks above it. -/
def HearsBetter (world : VrrpWorld Device) (device : Device) : Prop :=
  ∃ master, world.stateOf master = some .master ∧ world.heard device master = true ∧
    setup.Better master device

def NoTakeover (world : VrrpWorld Device) (event : VrrpEvent Device) : Prop :=
  ∀ device, world.stateOf device = some .backup →
    (world.step setup event).stateOf device = some .master → ¬ setup.HearsBetter world device

def PeerPrevails (device peer : Device) : Prop :=
  setup.priority device < setup.priority peer ∨ setup.priority device = setup.priority peer ∧
      bothKnown (getDeviceIp (setup.ips device)) (getDeviceIp (setup.ips peer)) = true ∧
      ipAbove (getDeviceIp (setup.ips device)) (getDeviceIp (setup.ips peer)) = false

/-- While a Backup hears a better Master, it handles no advertisement of a lower
priority if it preempts, and no router in `init` handles an advertisement of it and
yields. -/
def Unchallenged (world : VrrpWorld Device) : VrrpEvent Device → Prop
  | .advert source receiver =>
    (∀ group, world.table.lookup receiver = some group → group.state = .backup →
      group.preempt = true → setup.priority source < setup.priority receiver →
      world.stateOf source ≠ none → ¬ setup.HearsBetter world receiver) ∧
    (world.stateOf receiver = some .init → world.stateOf source = some .backup →
      setup.PeerPrevails receiver source → ¬ setup.HearsBetter world source)
  | _ => True

instance : DecidableRel setup.Better := fun _ _ =>
  inferInstanceAs (Decidable (_ ∨ _ ∧ _))

section Finite

variable [Fintype Device]

instance (world : VrrpWorld Device) (device : Device) : Decidable (setup.HearsBetter world device) :=
  inferInstanceAs (Decidable (∃ _, _))

instance (world : VrrpWorld Device) : DecidablePred world.TimersWait
  | .deadTimer _ => inferInstanceAs (Decidable (∀ _, _))
  | .vrrpStart _ _ | .advert _ _ | .silence _ _ => isTrue trivial

instance (world : VrrpWorld Device) : DecidablePred (setup.NoTakeover world) := fun _ =>
  inferInstanceAs (Decidable (∀ _, _))

instance (first second : Device) : Decidable (setup.PeerPrevails first second) :=
  inferInstanceAs (Decidable (_ ∨ _ ∧ _ ∧ _))

instance (world : VrrpWorld Device) : DecidablePred (setup.Unchallenged world)
  | .advert source receiver =>
    have : Decidable (∀ group ∈ world.table.lookup receiver, group.state = .backup →
        group.preempt = true → setup.priority source < setup.priority receiver →
        world.stateOf source ≠ none → ¬ setup.HearsBetter world receiver) := inferInstance
    inferInstanceAs (Decidable (_ ∧ _))
  | .vrrpStart _ _ | .deadTimer _ | .silence _ _ => isTrue trivial

end Finite

end VrrpSetup

/-! ## One step -/

/-- Every router has the virtual address and the priority of the setup. -/
def VrrpSetup.Configures (setup : VrrpSetup Device) (world : VrrpWorld Device) : Prop :=
  ∀ device group, world.table.lookup device = some group →
    group.vip = setup.vip ∧ group.priority = setup.priority device

theorem VrrpTable.lookup_setState (table : VrrpTable Device) (device other : Device)
    (state : VrrpState) :
    (table.setState device state).lookup other =
      if other = device then (table.lookup other).map fun group => { group with state }
      else table.lookup other :=
  lookup_modify _ _ _ _

/-- What an advertisement does to the states of the routers: the receiver is new and
wins, loses or knows no addresses, it is Master and yields or stays, it is Backup and
preempts or stays. -/
inductive AdvertEffect (setup : VrrpSetup Device) (states : Device → Option VrrpState)
    (source receiver : Device) (group : VrrpGroup) : (Device → Option VrrpState) → Prop where
  | won (starts : group.state = .init) (fails : ¬ setup.PeerPrevails receiver source)
      (known : setup.priority source = setup.priority receiver →
        bothKnown (getDeviceIp (setup.ips receiver)) (getDeviceIp (setup.ips source)) = true) :
      AdvertEffect setup states source receiver group
        (Function.update (Function.update states receiver (some .master)) source (some .backup))
  | lost (starts : group.state = .init) (prevails : setup.PeerPrevails receiver source) :
      AdvertEffect setup states source receiver group
        (Function.update (Function.update states receiver (some .backup)) source (some .master))
  | unknown (starts : group.state = .init)
      (tie : setup.priority source = setup.priority receiver)
      (unknown : bothKnown (getDeviceIp (setup.ips receiver)) (getDeviceIp (setup.ips source)) =
        false) :
      AdvertEffect setup states source receiver group
        (Function.update states receiver (some .master))
  | yields (isMaster : group.state = .master)
      (below : setup.priority receiver < setup.priority source ∨
        setup.priority source = setup.priority receiver ∧
          ipAbove (getDeviceIpForVip (setup.ips source) setup.vip)
            (getDeviceIpForVip (setup.ips receiver) setup.vip) = true) :
      AdvertEffect setup states source receiver group
        (Function.update states receiver (some .backup))
  | holds (isMaster : group.state = .master)
      (notBelow : ¬ (setup.priority receiver < setup.priority source ∨
        setup.priority source = setup.priority receiver ∧
          ipAbove (getDeviceIpForVip (setup.ips source) setup.vip)
            (getDeviceIpForVip (setup.ips receiver) setup.vip) = true)) :
      AdvertEffect setup states source receiver group states
  | preempts (isBackup : group.state = .backup) (preempt : group.preempt = true)
      (above : setup.priority source < setup.priority receiver) :
      AdvertEffect setup states source receiver group
        (Function.update states receiver (some .master))
  | waits (isBackup : group.state = .backup)
      (held : ¬ (group.preempt = true ∧ setup.priority source < setup.priority receiver)) :
      AdvertEffect setup states source receiver group states

namespace VrrpWorld

variable {setup : VrrpSetup Device} {world : VrrpWorld Device}

variable {table : VrrpTable Device} {group : VrrpGroup} {receiver source : Device}

theorem states_setState {device : Device} (found : table.lookup device = some group)
    (state : VrrpState) :
    (fun other => ((table.setState device state).lookup other).map VrrpGroup.state) =
      Function.update (fun other => (table.lookup other).map VrrpGroup.state) device
        (some state) := by
  funext other
  rw [VrrpTable.lookup_setState]
  by_cases same : other = device
  · subst same
    simp [found]
  · simp [same]

theorem states_setState_setState {first second : Device} {firstGroup secondGroup : VrrpGroup}
    (isFirst : table.lookup first = some firstGroup)
    (isSecond : table.lookup second = some secondGroup) (different : second ≠ first)
    (firstState secondState : VrrpState) :
    (fun other => (((table.setState first firstState).setState second secondState).lookup
      other).map VrrpGroup.state) =
      Function.update (Function.update (fun other => (table.lookup other).map VrrpGroup.state)
        first (some firstState)) second (some secondState) := by
  have kept : (table.setState first firstState).lookup second = some secondGroup := by
    rw [VrrpTable.lookup_setState, if_neg different, isSecond]
  rw [states_setState kept, states_setState isFirst]

theorem receiveAdvert_effect (configures : setup.Configures world) {sourceGroup : VrrpGroup}
    (isSource : world.table.lookup source = some sourceGroup)
    (isReceiver : world.table.lookup receiver = some group) (different : source ≠ receiver) :
    AdvertEffect setup world.stateOf source receiver group fun device =>
      ((world.table.receiveAdvert setup.ips receiver source (setup.priority source)).lookup
        device).map VrrpGroup.state := by
  obtain ⟨vip, priority⟩ := configures receiver group isReceiver
  have won := states_setState_setState isReceiver isSource different .master .backup
  have lost := states_setState_setState isReceiver isSource different .backup .master
  cases state : group.state with
  | init =>
    simp only [VrrpTable.receiveAdvert, isReceiver, state, VrrpTable.elect, priority]
    by_cases above : setup.priority source < setup.priority receiver
    · simp only [above, if_true, won]
      refine .won state ?_ fun tie => absurd tie (Nat.ne_of_lt above)
      rintro (below | ⟨tie, -⟩)
      · omega
      · omega
    · by_cases below : setup.priority receiver < setup.priority source
      · simp only [above, below, if_true, if_false, lost]
        exact .lost state (.inl below)
      · have tie : setup.priority receiver = setup.priority source := by omega
        cases known : bothKnown (getDeviceIp (setup.ips receiver))
            (getDeviceIp (setup.ips source)) with
        | false =>
          simp only [above, below, if_false, Bool.false_eq_true, states_setState isReceiver]
          exact .unknown state tie.symm known
        | true =>
          cases ahead : ipAbove (getDeviceIp (setup.ips receiver))
              (getDeviceIp (setup.ips source)) with
          | true =>
            simp only [above, below, if_true, if_false, won]
            refine .won state ?_ fun _ => known
            rintro (below' | ⟨-, -, behind⟩)
            · exact below below'
            · rw [ahead] at behind
              cases behind
          | false =>
            simp only [above, below, if_true, if_false, Bool.false_eq_true, lost]
            exact .lost state (.inr ⟨tie, known, ahead⟩)
  | master =>
    simp only [VrrpTable.receiveAdvert, isReceiver, state, priority, vip]
    by_cases below : setup.priority receiver < setup.priority source
    · simp only [below, if_true, states_setState isReceiver]
      exact .yields state (.inl below)
    · by_cases tie : setup.priority source = setup.priority receiver ∧
          ipAbove (getDeviceIpForVip (setup.ips source) setup.vip)
            (getDeviceIpForVip (setup.ips receiver) setup.vip) = true
      · rw [if_neg below, if_pos tie, states_setState isReceiver]
        exact .yields state (.inr tie)
      · rw [if_neg below, if_neg tie]
        exact .holds state (not_or.mpr ⟨below, tie⟩)
  | backup =>
    simp only [VrrpTable.receiveAdvert, isReceiver, state, priority]
    by_cases takes : group.preempt = true ∧ setup.priority source < setup.priority receiver
    · simp only [takes, and_self, if_true, states_setState isReceiver]
      exact .preempts state takes.1 takes.2
    · simp only [takes, if_false]
      exact .waits state takes

theorem config_setState {device other : Device} {state : VrrpState}
    (found : (table.setState device state).lookup other = some group) :
    ∃ before, table.lookup other = some before ∧ group.vip = before.vip ∧
      group.priority = before.priority := by
  rw [VrrpTable.lookup_setState] at found
  split at found
  · obtain ⟨before, isBefore, rfl⟩ := map_eq_some_iff.mp found
    exact ⟨before, isBefore, rfl, rfl⟩
  · exact ⟨group, found, rfl, rfl⟩

theorem config_receiveAdvert {ips : Addresses Device} {other : Device} {peerPriority : Nat}
    (found : (table.receiveAdvert ips receiver source peerPriority).lookup other = some group) :
    ∃ before, table.lookup other = some before ∧ group.vip = before.vip ∧
      group.priority = before.priority := by
  have both : ∀ {first second : Device} {firstState secondState : VrrpState},
      ((table.setState first firstState).setState second secondState).lookup other = some group →
      ∃ before, table.lookup other = some before ∧ group.vip = before.vip ∧
        group.priority = before.priority := by
    intro first second firstState secondState found
    obtain ⟨middle, isMiddle, vip, priority⟩ := config_setState found
    obtain ⟨before, isBefore, vip', priority'⟩ := config_setState isMiddle
    exact ⟨before, isBefore, vip.trans vip', priority.trans priority'⟩
  unfold VrrpTable.receiveAdvert VrrpTable.elect at found
  simp only at found
  split at found
  · exact ⟨group, found, rfl, rfl⟩
  · repeat' split at found
    all_goals first
      | exact both found
      | exact config_setState found
      | exact ⟨group, found, rfl, rfl⟩

theorem configures_step (configures : setup.Configures world) (event : VrrpEvent Device) :
    setup.Configures (world.step setup event) := by
  cases event with
  | vrrpStart device preempt =>
    intro other group found
    simp only [step, lookup_insert] at found
    split at found
    · rename_i same
      cases found
      exact ⟨rfl, congrArg setup.priority same.symm⟩
    · exact configures other group found
  | advert source receiver =>
    intro other group found
    cases isSource : world.table.lookup source with
    | none => exact configures other group (by simpa [step, isSource] using found)
    | some sourceGroup =>
      cases isReceiver : world.table.lookup receiver with
      | none => exact configures other group (by simpa [step, isSource, isReceiver] using found)
      | some receiverGroup =>
        by_cases same : source = receiver
        · exact configures other group (by simpa [step, isSource, isReceiver, same] using found)
        · simp only [step, isSource, isReceiver, same, if_false, advance] at found
          obtain ⟨before, isBefore, vip, priority⟩ := config_receiveAdvert found
          rw [vip, priority]
          exact configures other before isBefore
  | deadTimer device =>
    intro other group found
    simp only [step, advance, VrrpTable.deadTimer, lookup_modify] at found
    split at found
    · obtain ⟨before, isBefore, rfl⟩ := map_eq_some_iff.mp found
      have kept := configures other before isBefore
      split <;> exact kept
    · exact configures other group found
  | silence receiver source => exact configures

theorem step_advert (configures : setup.Configures world) (source receiver : Device) :
    (world.step setup (.advert source receiver) = world ∧
      (world.stateOf source = none ∨ world.stateOf receiver = none ∨ source = receiver)) ∨
    ∃ group, source ≠ receiver ∧ world.table.lookup receiver = some group ∧
      world.stateOf source ≠ none ∧
      AdvertEffect setup world.stateOf source receiver group
        (world.step setup (.advert source receiver)).stateOf ∧
      ∀ other sender, (world.step setup (.advert source receiver)).heard other sender =
        ((world.heard other sender || (other == receiver && sender == source)) &&
          decide ((world.step setup (.advert source receiver)).stateOf sender =
            world.stateOf sender)) := by
  cases isSource : world.table.lookup source with
  | none => exact .inl ⟨by simp [step, isSource], .inl (by simp [stateOf, isSource])⟩
  | some sourceGroup =>
    cases isReceiver : world.table.lookup receiver with
    | none =>
      exact .inl ⟨by simp [step, isReceiver], .inr (.inl (by simp [stateOf, isReceiver]))⟩
    | some group =>
      by_cases same : source = receiver
      · exact .inl ⟨by simp [step, isReceiver, same], .inr (.inr same)⟩
      · have stepped : world.step setup (.advert source receiver) =
            world.advance (world.table.receiveAdvert setup.ips receiver source
              (setup.priority source)) fun other sender => world.heard other sender ||
                (other == receiver && sender == source) := by
          simp [step, isSource, isReceiver, same, (configures source sourceGroup isSource).2]
        rw [stepped]
        exact .inr ⟨group, same, rfl, by simp [stateOf, isSource],
          receiveAdvert_effect configures isSource isReceiver same, fun _ _ => rfl⟩

theorem stateOf_deadTimer (device other : Device) :
    (world.step setup (.deadTimer device)).stateOf other =
      if other = device ∧ world.stateOf device = some .backup then some .master
      else world.stateOf other := by
  change ((world.table.deadTimer device).lookup other).map VrrpGroup.state = _
  rw [VrrpTable.deadTimer, lookup_modify]
  by_cases same : other = device
  · subst same
    cases found : world.table.lookup other with
    | none => simp [stateOf, found]
    | some group =>
      by_cases isBackup : group.state = .backup <;> simp [stateOf, found, isBackup]
  · simp [stateOf, same]

/-- A started router is in `init`. -/
theorem stateOf_vrrpStart (device other : Device) (preempt : Bool) :
    (world.step setup (.vrrpStart device preempt)).stateOf other =
      if other = device then some .init else world.stateOf other := by
  simp only [step, stateOf, lookup_insert]
  by_cases same : other = device <;> simp [same]

/-- After an advertisement no Backup has taken over from a better Master it hears exactly if
it was unchallenged. -/
theorem noTakeover_of_effect {states : Device → Option VrrpState}
    (effect : AdvertEffect setup world.stateOf source receiver group states)
    (isReceiver : world.table.lookup receiver = some group)
    (isSource : world.stateOf source ≠ none) :
    (∀ device, world.stateOf device = some .backup → states device = some .master →
      ¬ setup.HearsBetter world device) ↔ setup.Unchallenged world (.advert source receiver) := by
  have receiverState : world.stateOf receiver = some group.state := by
    simp [stateOf, isReceiver]
  have receiverGroup : ∀ other, world.table.lookup receiver = some other → other = group :=
    fun other found => Option.some.inj (found.symm.trans isReceiver)
  cases effect with
  | won starts fails known =>
    refine iff_of_true (fun device isBackup isMaster => ?_) ⟨?_, ?_⟩
    · by_cases isSender : device = source
      · subst isSender
        simp at isMaster
      · by_cases isHere : device = receiver
        · rw [isHere, receiverState, starts] at isBackup
          cases isBackup
        · rw [update_of_ne isSender, update_of_ne isHere, isBackup] at isMaster
          cases isMaster
    · intro other found isBackup
      rw [receiverGroup other found, starts] at isBackup
      cases isBackup
    · exact fun _ _ prevails => absurd prevails fails
  | lost starts prevails =>
    constructor
    · intro noTakeover
      refine ⟨fun other found isBackup => ?_, fun _ isBackup _ => ?_⟩
      · rw [receiverGroup other found, starts] at isBackup
        cases isBackup
      · exact noTakeover source isBackup (update_self _ _ _)
    · rintro ⟨-, yields⟩ device isBackup isMaster
      by_cases isSender : device = source
      · subst isSender
        exact yields (by rw [receiverState, starts]) isBackup prevails
      · by_cases isHere : device = receiver
        · rw [isHere, receiverState, starts] at isBackup
          cases isBackup
        · rw [update_of_ne isSender, update_of_ne isHere, isBackup] at isMaster
          cases isMaster
  | unknown starts tie unknown =>
    refine iff_of_true (fun device isBackup isMaster => ?_) ⟨?_, ?_⟩
    · by_cases isHere : device = receiver
      · rw [isHere, receiverState, starts] at isBackup
        cases isBackup
      · rw [update_of_ne isHere, isBackup] at isMaster
        cases isMaster
    · intro other found isBackup
      rw [receiverGroup other found, starts] at isBackup
      cases isBackup
    · rintro - - (below | ⟨-, known, -⟩)
      · omega
      · rw [unknown] at known
        cases known
  | yields isMaster below =>
    refine iff_of_true (fun device isBackup leads => ?_) ⟨?_, ?_⟩
    · by_cases isHere : device = receiver
      · subst isHere
        simp at leads
      · rw [update_of_ne isHere, isBackup] at leads
        cases leads
    · intro other found isBackup
      rw [receiverGroup other found, isMaster] at isBackup
      cases isBackup
    · intro isInit
      rw [receiverState, isMaster] at isInit
      cases isInit
  | holds isMaster notBelow =>
    refine iff_of_true (fun device isBackup leads => ?_) ⟨?_, ?_⟩
    · cases isBackup.symm.trans leads
    · intro other found isBackup
      rw [receiverGroup other found, isMaster] at isBackup
      cases isBackup
    · intro isInit
      rw [receiverState, isMaster] at isInit
      cases isInit
  | preempts isBackup preempt above =>
    constructor
    · intro noTakeover
      refine ⟨fun _ _ _ _ _ _ => ?_, fun isInit => ?_⟩
      · refine noTakeover receiver ?_ (update_self _ _ _)
        rw [receiverState, isBackup]
      · rw [receiverState, isBackup] at isInit
        cases isInit
    · rintro ⟨unheard, -⟩ device wasBackup leads
      by_cases isHere : device = receiver
      · subst isHere
        exact unheard group isReceiver isBackup preempt above isSource
      · rw [update_of_ne isHere, wasBackup] at leads
        cases leads
  | waits isBackup held =>
    refine iff_of_true (fun device wasBackup leads => ?_) ⟨?_, ?_⟩
    · cases wasBackup.symm.trans leads
    · intro other found _ preempt below
      rw [receiverGroup other found] at preempt
      exact absurd ⟨preempt, below⟩ held
    · intro isInit
      rw [receiverState, isBackup] at isInit
      cases isInit

/-- With dead timers that wait, a step lets no Backup take over from a better Master it
hears exactly if the step is unchallenged. -/
theorem noTakeover_iff (configures : setup.Configures world) {event : VrrpEvent Device}
    (waits : world.TimersWait event) :
    setup.NoTakeover world event ↔ setup.Unchallenged world event := by
  cases event with
  | vrrpStart device preempt =>
    refine iff_of_true (fun other isBackup isMaster => ?_) trivial
    rw [stateOf_vrrpStart] at isMaster
    split at isMaster
    · cases isMaster
    · rw [isBackup] at isMaster
      cases isMaster
  | deadTimer device =>
    refine iff_of_true (fun other isBackup isMaster => ?_) trivial
    rw [stateOf_deadTimer] at isMaster
    split at isMaster
    · rename_i fires
      rintro ⟨master, leads, hears, -⟩
      rw [fires.1, waits master leads] at hears
      cases hears
    · rw [isBackup] at isMaster
      cases isMaster
  | silence receiver source =>
    refine iff_of_true (fun other isBackup isMaster => ?_) trivial
    cases isBackup.symm.trans isMaster
  | advert source receiver =>
    rcases step_advert configures source receiver with ⟨same, absent⟩ |
      ⟨group, different, isReceiver, isSource, effect, -⟩
    · refine iff_of_true (fun other isBackup isMaster => ?_) ⟨?_, ?_⟩
      · rw [same] at isMaster
        cases isBackup.symm.trans isMaster
      · intro group found isBackup _ below isSource
        rcases absent with none | none | equal
        · exact absurd none isSource
        · simp [stateOf, found] at none
        · rw [equal] at below
          exact absurd below (Nat.lt_irrefl _)
      · intro isInit isBackup _
        rcases absent with none | none | equal
        · rw [none] at isBackup
          cases isBackup
        · rw [none] at isInit
          cases isInit
        · rw [equal, isInit] at isBackup
          cases isBackup
    · exact noTakeover_of_effect effect isReceiver isSource

end VrrpWorld

/-! ## One Master -/

namespace VrrpSetup

section Ranking

omit [DecidableEq Device]

variable {setup : VrrpSetup Device} {first second : Device}

section

variable (ties : setup.TieBreaksAgree) (different : first ≠ second)
include ties different

/-- Who prevails in an election ranks higher. -/
theorem better_of_peerPrevails (prevails : setup.PeerPrevails first second) :
    setup.Better second first := by
  rcases prevails with below | ⟨tie, -, behind⟩
  · exact .inl below
  · obtain ⟨ranked, -, -, ahead⟩ := ties first second different tie
    refine ranked.resolve_left fun better => ?_
    rw [ahead.mpr better] at behind
    cases behind

/-- Who does not lose an election ranks higher. -/
theorem better_of_not_peerPrevails (fails : ¬ setup.PeerPrevails first second) :
    setup.Better first second := by
  obtain ⟨notBelow, notBehind⟩ := not_or.mp fails
  rcases Nat.lt_or_eq_of_le (Nat.le_of_not_lt notBelow) with above | tie
  · exact .inl above
  · obtain ⟨-, -, known, ahead⟩ := ties first second different tie.symm
    refine ahead.mp ?_
    cases isAhead : ipAbove (getDeviceIp (setup.ips first)) (getDeviceIp (setup.ips second)) with
    | true => rfl
    | false => exact absurd ⟨tie.symm, known, isAhead⟩ notBehind

/-- A Master yields to a router exactly if that ranks higher. -/
theorem better_iff_above :
    setup.Better first second ↔ setup.priority second < setup.priority first ∨
      setup.priority first = setup.priority second ∧
        ipAbove (getDeviceIpForVip (setup.ips first) setup.vip)
          (getDeviceIpForVip (setup.ips second) setup.vip) = true := by
  constructor
  · rintro (above | ⟨tie, address⟩)
    · exact .inl above
    · obtain ⟨-, ahead, -⟩ := ties first second different tie.symm
      exact .inr ⟨tie.symm, ahead.mpr (.inr ⟨tie, address⟩)⟩
  · rintro (above | ⟨tie, isAhead⟩)
    · exact .inl above
    · obtain ⟨-, ahead, -⟩ := ties first second different tie
      exact ahead.mp isAhead

/-- Two routers are ranked one way or the other. -/
theorem better_total : setup.Better first second ∨ setup.Better second first := by
  by_cases prevails : setup.PeerPrevails first second
  · exact .inr (better_of_peerPrevails ties different prevails)
  · exact .inl (better_of_not_peerPrevails ties different prevails)

end

end Ranking

/-- What holds throughout a run whose steps are unchallenged: new routers have heard
nobody, a Master has heard no better one, and a Backup has a better router beside it. -/
structure Orderly (setup : VrrpSetup Device) (world : VrrpWorld Device) : Prop where
  configures : setup.Configures world
  initDeaf : ∀ router sender, world.stateOf router = some .init → world.heard router sender = false
  yields : ∀ router master, world.stateOf router = some .master →
    world.stateOf master = some .master → setup.Better master router →
    world.heard router master = false
  backed : ∀ router, world.stateOf router = some .backup →
    ∃ other, world.stateOf other ≠ none ∧ setup.Better other router

end VrrpSetup

namespace AdvertEffect

variable {setup : VrrpSetup Device} {states after : Device → Option VrrpState}
  {source receiver : Device} {group : VrrpGroup}

/-- No router goes back to `init`, and the receiver leaves it. -/
theorem init_before (effect : AdvertEffect setup states source receiver group after)
    (isReceiver : states receiver = some group.state) {router : Device}
    (isInit : after router = some .init) : states router = some .init ∧ router ≠ receiver := by
  have elsewhere : ∀ state : VrrpState, group.state = state → state ≠ .init →
      states router = some .init → router ≠ receiver := by
    rintro _ rfl notInit wasInit rfl
    exact notInit (Option.some.inj (isReceiver.symm.trans wasInit))
  cases effect with
  | won starts fails known =>
    simp only [update_apply] at isInit
    split at isInit
    · cases isInit
    · split at isInit
      · cases isInit
      · exact ⟨isInit, ‹_›⟩
  | lost starts prevails =>
    simp only [update_apply] at isInit
    split at isInit
    · cases isInit
    · split at isInit
      · cases isInit
      · exact ⟨isInit, ‹_›⟩
  | unknown starts tie unknown =>
    simp only [update_apply] at isInit
    split at isInit
    · cases isInit
    · exact ⟨isInit, ‹_›⟩
  | yields isMaster below =>
    simp only [update_apply] at isInit
    split at isInit
    · cases isInit
    · exact ⟨isInit, ‹_›⟩
  | holds isMaster notBelow => exact ⟨isInit, elsewhere _ isMaster (by decide) isInit⟩
  | preempts isBackup preempt above =>
    simp only [update_apply] at isInit
    split at isInit
    · cases isInit
    · exact ⟨isInit, ‹_›⟩
  | waits isBackup held => exact ⟨isInit, elsewhere _ isBackup (by decide) isInit⟩

theorem started (effect : AdvertEffect setup states source receiver group after)
    {router : Device} (wasStarted : states router ≠ none) : after router ≠ none := by
  cases effect with
  | holds isMaster notBelow => exact wasStarted
  | waits isBackup held => exact wasStarted
  | _ =>
    simp only [update_apply]
    repeat' split
    all_goals first | exact wasStarted | exact some_ne_none _

theorem not_better_of_holds (effect : AdvertEffect setup states source receiver group after)
    (ties : setup.TieBreaksAgree) (different : source ≠ receiver)
    (isMasterGroup : group.state = .master) (leads : after receiver = some .master) :
    ¬ setup.Better source receiver := by
  intro better
  have above := (VrrpSetup.better_iff_above ties different).mp better
  cases effect with
  | yields => simp at leads
  | holds isMaster notBelow => exact notBelow above
  | won starts => cases starts.symm.trans isMasterGroup
  | lost starts => cases starts.symm.trans isMasterGroup
  | unknown starts => cases starts.symm.trans isMasterGroup
  | preempts isBackup => cases isBackup.symm.trans isMasterGroup
  | waits isBackup => cases isBackup.symm.trans isMasterGroup

theorem backed (effect : AdvertEffect setup states source receiver group after)
    (ties : setup.TieBreaksAgree) (different : source ≠ receiver)
    (isSource : states source ≠ none) (isReceiver : states receiver ≠ none)
    (backedBefore : ∀ router, states router = some .backup →
      ∃ other, states other ≠ none ∧ setup.Better other router)
    {router : Device} (isBackup : after router = some .backup) :
    ∃ other, after other ≠ none ∧ setup.Better other router := by
  have kept : states router = some .backup →
      ∃ other, after other ≠ none ∧ setup.Better other router := by
    intro wasBackup
    obtain ⟨other, isStarted, better⟩ := backedBefore router wasBackup
    exact ⟨other, effect.started isStarted, better⟩
  have sourceStays := effect.started isSource
  have receiverStays := effect.started isReceiver
  cases effect with
  | won starts fails known =>
    by_cases isSender : router = source
    · subst isSender
      exact ⟨receiver, receiverStays,
        VrrpSetup.better_of_not_peerPrevails ties different.symm fails⟩
    · by_cases isHere : router = receiver
      · rw [update_of_ne isSender, isHere, update_self] at isBackup
        cases isBackup
      · rw [update_of_ne isSender, update_of_ne isHere] at isBackup
        exact kept isBackup
  | lost starts prevails =>
    by_cases isHere : router = receiver
    · subst isHere
      exact ⟨source, sourceStays, VrrpSetup.better_of_peerPrevails ties different.symm prevails⟩
    · by_cases isSender : router = source
      · rw [isSender, update_self] at isBackup
        cases isBackup
      · rw [update_of_ne isSender, update_of_ne isHere] at isBackup
        exact kept isBackup
  | unknown starts tie unknown =>
    by_cases isHere : router = receiver
    · rw [isHere, update_self] at isBackup
      cases isBackup
    · rw [update_of_ne isHere] at isBackup
      exact kept isBackup
  | yields isMaster below =>
    by_cases isHere : router = receiver
    · subst isHere
      exact ⟨source, sourceStays, (VrrpSetup.better_iff_above ties different).mpr below⟩
    · rw [update_of_ne isHere] at isBackup
      exact kept isBackup
  | holds isMaster notBelow => exact kept isBackup
  | preempts isBackup' preempt above =>
    by_cases isHere : router = receiver
    · rw [isHere, update_self] at isBackup
      cases isBackup
    · rw [update_of_ne isHere] at isBackup
      exact kept isBackup
  | waits isBackup' held => exact kept isBackup

end AdvertEffect

namespace VrrpSetup

variable {setup : VrrpSetup Device} {world : VrrpWorld Device}

section

variable {source receiver : Device} (ties : setup.TieBreaksAgree) (orderly : setup.Orderly world)
  (unchallenged : setup.Unchallenged world (.advert source receiver))
include ties orderly unchallenged

/-- A router that an unchallenged advertisement makes Master is the receiver or the source,
and has not heard of a better Master. -/
theorem Orderly.newMaster {group : VrrpGroup} {after : Device → Option VrrpState}
    {router master : Device} (effect : AdvertEffect setup world.stateOf source receiver group after)
    (isReceiver : world.table.lookup receiver = some group) (different : source ≠ receiver)
    (isSource : world.stateOf source ≠ none) (leads : after router = some .master)
    (led : world.stateOf router ≠ some .master) (isMaster : after master = some .master)
    (wasMaster : world.stateOf master = some .master) (better : setup.Better master router) :
    (router = receiver ∧ ¬ (master = source) ∧ world.heard receiver master = false) ∨
      (router = source ∧ world.heard source master = false) := by
  have receiverState : world.stateOf receiver = some group.state := by
    simp [VrrpWorld.stateOf, isReceiver]
  cases effect with
  | won starts fails known =>
    have notSource : router ≠ source := by
      rintro rfl
      simp at leads
    have isHere : router = receiver := by
      by_contra elsewhere
      rw [update_of_ne notSource, update_of_ne elsewhere] at leads
      exact led leads
    refine .inl ⟨isHere, ?_, orderly.initDeaf receiver master (by rw [receiverState, starts])⟩
    rintro rfl
    simp at isMaster
  | lost starts prevails =>
    have isSender : router = source := by
      by_contra notSource
      rw [update_of_ne notSource] at leads
      by_cases isHere : router = receiver
      · rw [isHere, update_self] at leads
        cases leads
      · rw [update_of_ne isHere] at leads
        exact led leads
    subst isSender
    refine .inr ⟨rfl, ?_⟩
    cases before : world.stateOf router with
    | none => exact absurd before isSource
    | some state =>
      cases state with
      | init => exact orderly.initDeaf router master before
      | master => exact absurd before led
      | backup =>
        have deaf := unchallenged.2 (by rw [receiverState, starts]) before prevails
        by_contra hears
        exact deaf ⟨master, wasMaster, by simpa using hears, better⟩
  | unknown starts tie unknown =>
    obtain ⟨-, -, known, -⟩ := ties receiver source different.symm tie.symm
    rw [unknown] at known
    cases known
  | yields isMaster' below =>
    by_cases isHere : router = receiver
    · rw [isHere, update_self] at leads
      cases leads
    · rw [update_of_ne isHere] at leads
      exact absurd leads led
  | holds isMaster' notBelow => exact absurd leads led
  | preempts isBackup preempt above =>
    have isHere : router = receiver := by
      by_contra elsewhere
      rw [update_of_ne elsewhere] at leads
      exact led leads
    subst isHere
    refine .inl ⟨rfl, ?_, ?_⟩
    · rintro rfl
      rcases better with higher | ⟨tie, -⟩ <;> omega
    · have deaf := unchallenged.1 group isReceiver isBackup preempt above isSource
      by_contra hears
      exact deaf ⟨master, wasMaster, by simpa using hears, better⟩
  | waits isBackup held => exact absurd leads led

theorem Orderly.advert : setup.Orderly (world.step setup (.advert source receiver)) := by
  rcases VrrpWorld.step_advert orderly.configures source receiver with ⟨same, -⟩ |
    ⟨group, different, isReceiver, isSource, effect, heard⟩
  · rw [same]
    exact orderly
  have configures := VrrpWorld.configures_step orderly.configures (.advert source receiver)
  have receiverState : world.stateOf receiver = some group.state := by
    simp [VrrpWorld.stateOf, isReceiver]
  have earlier : ∀ router sender, (router ≠ receiver ∨ sender ≠ source) →
      world.heard router sender = false →
      (world.step setup (.advert source receiver)).heard router sender = false := by
    intro router sender elsewhere unheard
    rw [heard, unheard]
    rcases elsewhere with other | other <;> simp [other]
  have moved : ∀ router sender,
      (world.step setup (.advert source receiver)).stateOf sender ≠ world.stateOf sender →
      (world.step setup (.advert source receiver)).heard router sender = false := by
    intro router sender changed
    rw [heard]
    simp [changed]
  refine ⟨configures, fun router sender isInit => ?_, fun router master leads isMaster better => ?_,
    fun router isBackup => ?_⟩
  · obtain ⟨wasInit, elsewhere⟩ := effect.init_before receiverState isInit
    exact earlier router sender (.inl elsewhere) (orderly.initDeaf router sender wasInit)
  · -- Only a Master of old matters, for what was heard of a new one is past.
    by_cases wasMaster : world.stateOf master = some .master
    · by_cases led : world.stateOf router = some .master
      · refine earlier router master ?_ (orderly.yields router master led wasMaster better)
        by_contra hears
        obtain ⟨rfl, rfl⟩ : router = receiver ∧ master = source := by tauto
        exact effect.not_better_of_holds ties different
          (Option.some.inj (receiverState.symm.trans led)) leads better
      · rcases orderly.newMaster ties unchallenged effect isReceiver different isSource leads led
          isMaster wasMaster better with ⟨rfl, notSource, unheard⟩ | ⟨rfl, unheard⟩
        · exact earlier _ master (.inr notSource) unheard
        · exact earlier _ master (.inl different) unheard
    · refine moved router master ?_
      rw [isMaster]
      exact Ne.symm wasMaster
  · exact effect.backed ties different isSource
      (by rw [receiverState]; exact some_ne_none _) orderly.backed isBackup

end

theorem Orderly.step (ties : setup.TieBreaksAgree) (orderly : setup.Orderly world)
    {event : VrrpEvent Device} (waits : world.TimersWait event)
    (unchallenged : setup.Unchallenged world event) : setup.Orderly (world.step setup event) := by
  have configures := VrrpWorld.configures_step orderly.configures event
  cases event with
  | advert source receiver => exact orderly.advert ties unchallenged
  | vrrpStart device preempt =>
    have heard : ∀ router sender, (world.step setup (.vrrpStart device preempt)).heard router
        sender = (world.heard router sender && router != device && sender != device) :=
      fun _ _ => rfl
    refine ⟨configures, fun router sender isInit => ?_,
      fun router master leads isMaster better => ?_, fun router isBackup => ?_⟩
    · rw [VrrpWorld.stateOf_vrrpStart] at isInit
      rw [heard]
      split at isInit
      · rename_i same
        simp [same]
      · simp [orderly.initDeaf router sender isInit]
    · rw [VrrpWorld.stateOf_vrrpStart] at leads isMaster
      split at leads
      · cases leads
      · split at isMaster
        · cases isMaster
        · rw [heard]
          simp [orderly.yields router master leads isMaster better]
    · rw [VrrpWorld.stateOf_vrrpStart] at isBackup
      split at isBackup
      · cases isBackup
      · obtain ⟨other, isStarted, better⟩ := orderly.backed router isBackup
        refine ⟨other, ?_, better⟩
        rw [VrrpWorld.stateOf_vrrpStart]
        split
        · exact some_ne_none _
        · exact isStarted
  | deadTimer device =>
    have heard : ∀ router sender, (world.step setup (.deadTimer device)).heard router sender =
        (world.heard router sender &&
          decide ((world.step setup (.deadTimer device)).stateOf sender =
            world.stateOf sender)) := fun _ _ => rfl
    refine ⟨configures, fun router sender isInit => ?_,
      fun router master leads isMaster better => ?_, fun router isBackup => ?_⟩
    · rw [VrrpWorld.stateOf_deadTimer] at isInit
      split at isInit
      · cases isInit
      · simp [heard, orderly.initDeaf router sender isInit]
    · by_cases wasMaster : world.stateOf master = some .master
      · rw [VrrpWorld.stateOf_deadTimer] at leads
        split at leads
        · rename_i fires
          simp [heard, fires.1, waits master wasMaster]
        · simp [heard, orderly.yields router master leads wasMaster better]
      · simp [heard, isMaster, Ne.symm wasMaster]
    · rw [VrrpWorld.stateOf_deadTimer] at isBackup
      split at isBackup
      · cases isBackup
      · obtain ⟨other, isStarted, better⟩ := orderly.backed router isBackup
        refine ⟨other, ?_, better⟩
        rw [VrrpWorld.stateOf_deadTimer]
        split
        · exact some_ne_none _
        · exact isStarted
  | silence receiver source =>
    have less : ∀ router sender, world.heard router sender = false →
        (world.step setup (.silence receiver source)).heard router sender = false := by
      intro router sender unheard
      simp [VrrpWorld.step, unheard]
    exact ⟨configures, fun router sender isInit => less _ _ (orderly.initDeaf router sender isInit),
      fun router master leads isMaster better =>
        less _ _ (orderly.yields router master leads isMaster better), orderly.backed⟩

theorem orderly_start (setup : VrrpSetup Device) : setup.Orderly {} :=
  ⟨fun _ _ impossible => (by cases impossible), fun _ _ _ => rfl, fun _ _ _ _ _ => rfl,
    fun _ impossible => (by cases impossible)⟩

theorem exists_best (setup : VrrpSetup Device) {world : VrrpWorld Device}
    (someStarted : ∃ device, world.stateOf device ≠ none) : ∃ best, world.stateOf best ≠ none ∧ ∀ other, world.stateOf other ≠ none →
      ¬ setup.Better other best := by
  have isKey : ∀ device, world.stateOf device ≠ none ↔ device ∈ world.table.keys := by
    intro device
    rw [mem_keys_iff, VrrpWorld.stateOf, ne_eq, map_eq_none_iff]
    exact ne_none_iff_exists'
  have search : ∀ keys : List Device, keys ≠ [] →
      ∃ best ∈ keys, ∀ other ∈ keys, ¬ setup.Better other best := by
    have irrefl : ∀ device, ¬ setup.Better device device := by
      rintro device (less | ⟨-, less⟩) <;> exact absurd less (Nat.lt_irrefl _)
    have trans : ∀ first second third, setup.Better first second → setup.Better second third →
        setup.Better first third := by
      rintro first second third (less | ⟨tie, address⟩) (less' | ⟨tie', address'⟩)
      · exact .inl (by omega)
      · exact .inl (by omega)
      · exact .inl (by omega)
      · exact .inr ⟨by omega, by omega⟩
    intro keys
    induction keys with
    | nil => exact fun empty => absurd rfl empty
    | cons first rest ih =>
      intro _
      by_cases last : rest = []
      · subst last
        refine ⟨first, mem_cons_self, fun other member => ?_⟩
        rw [mem_singleton.mp member]
        exact irrefl first
      · obtain ⟨best, isRest, least⟩ := ih last
        by_cases better : setup.Better first best
        · refine ⟨first, mem_cons_self, fun other member above => ?_⟩
          rcases mem_cons.mp member with rfl | isOther
          · exact irrefl _ above
          · exact least other isOther (trans _ _ _ above better)
        · refine ⟨best, mem_cons_of_mem _ isRest, fun other member => ?_⟩
          rcases mem_cons.mp member with rfl | isOther
          · exact better
          · exact least other isOther
  obtain ⟨device, isStarted⟩ := someStarted
  obtain ⟨best, isBest, least⟩ := search world.table.keys
    (ne_nil_of_mem ((isKey device).mp isStarted))
  exact ⟨best, (isKey best).mpr isBest, fun other isOther => least other ((isKey other).mp isOther)⟩

theorem Orderly.one_master (ties : setup.TieBreaksAgree) (orderly : setup.Orderly world)
    (settled : world.Settled) : ∃! device, world.stateOf device = some .master := by
  obtain ⟨best, isStarted, least⟩ := exists_best setup settled.started
  have leads : world.stateOf best = some .master := by
    cases state : world.stateOf best with
    | none => exact absurd state isStarted
    | some found =>
      cases found with
      | init => exact absurd state (settled.running best)
      | master => rfl
      | backup =>
        obtain ⟨other, isOther, better⟩ := orderly.backed best state
        exact absurd better (least other isOther)
  refine ⟨best, leads, fun other leads' => ?_⟩
  by_contra different
  have better : setup.Better best other :=
    (better_total ties different).resolve_left (least other (by rw [leads']; exact some_ne_none _))
  have hears := settled.heard other best different (by rw [leads']; exact some_ne_none _) isStarted
  rw [orderly.yields other best leads' leads better] at hears
  cases hears

end VrrpSetup

namespace VrrpWorld

/-- With dead timers that wait, a run lets no Backup take over from a better Master it
hears exactly if it is unchallenged; and an unchallenged run that ends settled, with
tie-breaks that agree, ends with exactly one Master. -/
theorem master_stands_iff (setup : VrrpSetup Device) (events : List (VrrpEvent Device))
    (waits : Execution.Along (step setup) TimersWait {} events) :
    (Execution.Along (step setup) setup.NoTakeover {} events ↔
      Execution.Along (step setup) setup.Unchallenged {} events) ∧
    (setup.TieBreaksAgree → Execution.Along (step setup) setup.Unchallenged {} events →
      (runFrom (step setup) {} events).Settled →
      ∃! device, (runFrom (step setup) {} events).stateOf device = some .master) := by
  constructor
  · have configured : setup.Configures {} := (setup.orderly_start).configures
    have kept : ∀ world event, setup.Configures world → setup.Configures (step setup world event) :=
      fun _ event configures => configures_step configures event
    exact along_congr kept (fun _ _ configures waits => noTakeover_iff configures waits)
      configured waits
  · intro ties unchallenged settled
    have orderly : setup.Orderly (runFrom (step setup) {} events) :=
      invariant_along (fun _ _ orderly met => orderly.step ties met.1 met.2)
        (setup.orderly_start) (waits.and unchallenged)
    exact orderly.one_master ties settled

/-! ## A group of three -/

local instance threeSize : NeZero 3 := ⟨by decide⟩

/-- Routers 0, 1 and 2 with priorities 200, 100 and 50. -/
def threeRouters : VrrpSetup (Fin 3) where
  vip := "10.0.0.254"
  priority device := if device = 0 then 200 else if device = 1 then 100 else 50
  ips device := [⟨0x0a000001 + device, 24⟩]

/-- All start, with preemption at router 1 if `preempt`, and all handle the
advertisements of each other. -/
def firstAdverts (preempt : Bool) : List (VrrpEvent (Fin 3)) :=
  [.vrrpStart 0 true, .vrrpStart 1 preempt, .vrrpStart 2 true, .advert 0 1, .advert 0 2,
    .advert 0 1, .advert 1 0, .advert 2 0, .advert 1 2, .advert 2 1, .advert 1 0, .advert 1 2]

/-- The group after these advertisements. -/
def afterFirstAdverts (preempt : Bool) : VrrpWorld (Fin 3) :=
  runFrom (step threeRouters) {} (firstAdverts preempt)

theorem afterFirstAdverts_settled (preempt : Bool) : (afterFirstAdverts preempt).Settled := by
  cases preempt
  all_goals exact ⟨⟨0, by decide +kernel⟩, by decide +kernel, by decide +kernel⟩

/-- An advertisement of router 2, a Backup, makes router 1 Master while it hears router
0, and in the end all are settled with two Masters. -/
theorem backup_advert_deposes :
    Execution.Along (step threeRouters) TimersWait {} (firstAdverts true) ∧
      ¬ Execution.Along (step threeRouters) threeRouters.NoTakeover {} (firstAdverts true) ∧
      (afterFirstAdverts true).Settled ∧
      (afterFirstAdverts true).stateOf 0 = some .master ∧
      (afterFirstAdverts true).stateOf 1 = some .master :=
  ⟨by decide +kernel, by decide +kernel, afterFirstAdverts_settled true, by decide +kernel,
    by decide +kernel⟩

/-- Without preemption at router 1 there is one Master. -/
theorem three_routers_one_master :
    ∃! device, (afterFirstAdverts false).stateOf device = some .master := by
  have ties : threeRouters.TieBreaksAgree := by
    intro first second different tie
    exact absurd tie (by revert first second; decide)
  exact (master_stands_iff threeRouters (firstAdverts false) (by decide +kernel)).2 ties
    (by decide +kernel) (afterFirstAdverts_settled false)

end VrrpWorld

end NetLab.Redundancy
