import NetLab.Library.Execution
import NetLab.Network.VirtualNetwork
import NetLab.Vlan.Ranges
import Mathlib.Data.List.Defs

/-!
# VLAN membership

Which VLAN an access port is in is kept twice, with the port and in the member list of the VLAN.
`membership_throughout_iff` says on which sequences of operations the two stay in step.
-/

namespace NetLab.Vlan

open NetLab.Library NetLab.Network NetLab.Execution
open OrderedMap

/-- The VLAN settings of a port. -/
structure VlanPort where
  mode : PortMode := .access
  accessVlan : Nat := 1
  nativeVlan : Nat := 1
  allowedVlans : List Nat := allVlans

/-- An entry of the VLAN database. -/
structure VlanInfo where
  vlanId : Nat
  name : String
  state : String := "active"
  ports : List String := []

/-- The ports and the VLAN database of a device. -/
structure VlanTable where
  ports : OrderedMap String VlanPort := .empty
  vlans : OrderedMap Nat VlanInfo := .empty

/-- `VLAN0010` for VLAN 10. -/
def defaultName (vlan : Nat) : String :=
  "VLAN" ++ String.ofList ((toString vlan).toList.leftpad 4 '0')

namespace VlanTable

def createVlan (table : VlanTable) (vlan : Nat) (name : String) : VlanTable :=
  match table.vlans.lookup vlan with
  | none =>
    { table with
      vlans := table.vlans.insert vlan
        { vlanId := vlan, name := if name = "" then defaultName vlan else name } }
  | some info =>
    if name = "" then table
    else { table with vlans := table.vlans.insert vlan { info with name := name } }

/-- Delete a VLAN and take its ports back to VLAN 1. -/
def deleteVlan (table : VlanTable) (vlan : Nat) : VlanTable where
  vlans := table.vlans.erase vlan
  ports := table.ports.mapValues fun _ port =>
    if port.accessVlan = vlan then { port with accessVlan := 1 } else port

/-- `_get_or_create_port`, and a change to the port. -/
def updatePort (table : VlanTable) (name : String) (update : VlanPort → VlanPort) : VlanTable :=
  { table with ports := table.ports.insert name (update ((table.ports.lookup name).getD {})) }

def addMemberPort (table : VlanTable) (vlan : Nat) (name : String) : VlanTable :=
  { table with
    vlans := table.vlans.modify vlan fun info =>
      { info with ports := VirtualNetwork.addMember name info.ports } }

/-- `switchport access vlan`. -/
def setAccess (table : VlanTable) (name : String) (vlan : Nat) : VlanTable :=
  let chosen := table.updatePort name fun port => { port with mode := .access, accessVlan := vlan }
  (chosen.createVlan vlan "").addMemberPort vlan name

/-- `switchport mode trunk`. A list that does not parse raises when the mode is already set. -/
def setTrunk (numerals : Numerals) (table : VlanTable) (name : String) (nativeVlan : Nat)
    (allowed : String) : VlanTable :=
  table.updatePort name fun port =>
    { port with
      mode := .trunk
      nativeVlan := nativeVlan
      allowedVlans := (parseVlanRange numerals allowed.toList).getD port.allowedVlans }

/-- `switchport trunk allowed vlan`. -/
def setTrunkAllowed (numerals : Numerals) (table : VlanTable) (name allowed : String) : VlanTable :=
  table.updatePort name fun port =>
    { port with allowedVlans := (parseVlanRange numerals allowed.toList).getD port.allowedVlans }

def setTrunkAllowedAdd (numerals : Numerals) (table : VlanTable) (name added : String) :
    VlanTable :=
  table.updatePort name fun port =>
    { port with allowedVlans := port.allowedVlans ∪ (parseVlanRange numerals added.toList).getD [] }

def setTrunkAllowedRemove (numerals : Numerals) (table : VlanTable) (name removed : String) :
    VlanTable :=
  table.updatePort name fun port =>
    { port with
      allowedVlans := port.allowedVlans.filter
        (· ∉ (parseVlanRange numerals removed.toList).getD []) }

def setNativeVlan (table : VlanTable) (name : String) (vlan : Nat) : VlanTable :=
  table.updatePort name fun port => { port with nativeVlan := vlan }

end VlanTable

/-- An operation on the VLANs of a device. -/
inductive VlanOp where
  | createVlan (vlan : Nat) (name : String)
  | deleteVlan (vlan : Nat)
  | setAccess (port : String) (vlan : Nat)
  | setTrunk (port : String) (nativeVlan : Nat) (allowed : String)
  | setTrunkAllowed (port allowed : String)
  | setTrunkAllowedAdd (port added : String)
  | setTrunkAllowedRemove (port removed : String)
  | setNativeVlan (port : String) (vlan : Nat)

namespace VlanTable

def apply (numerals : Numerals) (table : VlanTable) : VlanOp → VlanTable
  | .createVlan vlan name => table.createVlan vlan name
  | .deleteVlan vlan => table.deleteVlan vlan
  | .setAccess port vlan => table.setAccess port vlan
  | .setTrunk port nativeVlan allowed => table.setTrunk numerals port nativeVlan allowed
  | .setTrunkAllowed port allowed => table.setTrunkAllowed numerals port allowed
  | .setTrunkAllowedAdd port added => table.setTrunkAllowedAdd numerals port added
  | .setTrunkAllowedRemove port removed => table.setTrunkAllowedRemove numerals port removed
  | .setNativeVlan port vlan => table.setNativeVlan port vlan

def Lists (table : VlanTable) (vlan : Nat) (port : String) : Prop :=
  ∃ info, table.vlans.lookup vlan = some info ∧ port ∈ info.ports

def IsAccess (table : VlanTable) (port : String) (vlan : Nat) : Prop :=
  ∃ settings, table.ports.lookup port = some settings ∧ settings.mode = .access ∧
    settings.accessVlan = vlan

/-- The VLAN is in the database. VLAN 1 always counts as being in it. -/
def HasVlan (table : VlanTable) (vlan : Nat) : Prop :=
  vlan = 1 ∨ (table.vlans.lookup vlan).isSome

def Agrees (table : VlanTable) : Prop :=
  ∀ port vlan, table.Lists vlan port ↔ table.IsAccess port vlan

def Known (table : VlanTable) : Prop :=
  ∀ port settings, table.ports.lookup port = some settings → table.HasVlan settings.accessVlan

structure Consistent (table : VlanTable) : Prop where
  agrees : table.Agrees
  known : table.Known

section Operations

variable (table : VlanTable) (vlan other : Nat) (name port : String)

theorem lists_createVlan :
    (table.createVlan vlan name).Lists other port ↔ table.Lists other port := by
  unfold createVlan Lists
  cases found : table.vlans.lookup vlan with
  | none =>
    by_cases same : other = vlan
    · subst same
      simp [found]
    · simp [lookup_insert_of_ne _ _ same]
  | some info =>
    by_cases unnamed : name = ""
    · simp [unnamed]
    · by_cases same : other = vlan
      · subst same
        simp [unnamed, found]
      · simp [unnamed, lookup_insert_of_ne _ _ same]

@[simp] theorem ports_createVlan (vlan : Nat) (name : String) :
    (table.createVlan vlan name).ports = table.ports := by
  unfold createVlan
  split
  · rfl
  · split <;> rfl

theorem isSome_lookup_createVlan (name : String) :
    ((table.createVlan vlan name).vlans.lookup other).isSome ↔
      other = vlan ∨ (table.vlans.lookup other).isSome := by
  unfold createVlan
  cases found : table.vlans.lookup vlan with
  | none =>
    by_cases same : other = vlan
    · simp [same]
    · simp [lookup_insert_of_ne _ _ same, same]
  | some info =>
    by_cases same : other = vlan
    · subst same
      by_cases unnamed : name = "" <;> simp [unnamed, found]
    · by_cases unnamed : name = ""
      · simp [unnamed, same]
      · simp [unnamed, lookup_insert_of_ne _ _ same, same]

theorem lists_deleteVlan (port : String) :
    (table.deleteVlan vlan).Lists other port ↔ other ≠ vlan ∧ table.Lists other port := by
  unfold deleteVlan Lists
  by_cases same : other = vlan <;> simp [lookup_erase, same]

/-- A deleted VLAN's access ports are in VLAN 1. -/
theorem isAccess_deleteVlan (port : String) : (table.deleteVlan vlan).IsAccess port other ↔
      (other ≠ vlan ∧ table.IsAccess port other) ∨ (other = 1 ∧ table.IsAccess port vlan) := by
  unfold deleteVlan IsAccess
  cases found : table.ports.lookup port with
  | none => simp [found]
  | some settings =>
    by_cases within : settings.accessVlan = vlan
    · subst within
      simp [found]
      grind
    · simp [found, within]
      grind

theorem isAccess_updatePort (update : VlanPort → VlanPort) (vlan : Nat) :
    (table.updatePort name update).IsAccess port vlan ↔ if port = name then
        (update ((table.ports.lookup name).getD {})).mode = .access ∧
          (update ((table.ports.lookup name).getD {})).accessVlan = vlan
      else table.IsAccess port vlan := by
  by_cases same : port = name
  · simp [updatePort, IsAccess, same]
  · simp [updatePort, IsAccess, same, lookup_insert_of_ne _ _ same]

@[simp] theorem lists_updatePort (update : VlanPort → VlanPort) (vlan : Nat) :
    (table.updatePort name update).Lists vlan port ↔ table.Lists vlan port := Iff.rfl

theorem lists_addMemberPort {vlan : Nat} (present : (table.vlans.lookup vlan).isSome) (other : Nat)
    (name port : String) :
    (table.addMemberPort vlan name).Lists other port ↔
      table.Lists other port ∨ (other = vlan ∧ port = name) := by
  unfold addMemberPort Lists
  by_cases same : other = vlan
  · subst same
    obtain ⟨info, found⟩ := Option.isSome_iff_exists.mp present
    simp [found, VirtualNetwork.mem_addMember]
  · simp [lookup_modify_of_ne _ _ same, same]

theorem lists_setAccess : (table.setAccess name vlan).Lists other port ↔
      table.Lists other port ∨ (other = vlan ∧ port = name) := by
  unfold setAccess
  rw [lists_addMemberPort _ ((isSome_lookup_createVlan _ _ _ _).mpr (.inl rfl)), lists_createVlan,
    lists_updatePort]

theorem isAccess_setAccess : (table.setAccess name vlan).IsAccess port other ↔
      if port = name then vlan = other else table.IsAccess port other := by
  have ports : (table.setAccess name vlan).ports =
      (table.updatePort name fun port => { port with mode := .access, accessVlan := vlan }).ports :=
    ports_createVlan _ _ _
  unfold IsAccess
  rw [ports]
  exact (isAccess_updatePort _ _ _ _ _).trans (by simp [IsAccess])

end Operations

/-- The operation keeps the two records of membership in step: a VLAN with access ports is not
deleted, an access port is not moved to another VLAN or made a trunk, and other settings are made
on ports that have settings already. -/
def KeepsStep (table : VlanTable) : VlanOp → Prop
  | .createVlan _ _ => True
  | .deleteVlan vlan => ∀ port, ¬ table.IsAccess port vlan
  | .setAccess port vlan => ∀ other, table.IsAccess port other → other = vlan
  | .setTrunk port _ _ => ∀ vlan, ¬ table.IsAccess port vlan
  | .setTrunkAllowed port _ | .setTrunkAllowedAdd port _ | .setTrunkAllowedRemove port _
  | .setNativeVlan port _ => (table.ports.lookup port).isSome

section Exact

variable {table : VlanTable}

theorem agrees_deleteVlan_iff (agrees : table.Agrees) (vlan : Nat) :
    (table.deleteVlan vlan).Agrees ↔ ∀ port, ¬ table.IsAccess port vlan := by
  constructor
  · intro agrees' port access
    have moved : (table.deleteVlan vlan).IsAccess port 1 :=
      (isAccess_deleteVlan table vlan 1 port).mpr (.inr ⟨rfl, access⟩)
    obtain ⟨other, lists⟩ := (lists_deleteVlan table vlan 1 port).mp ((agrees' port 1).mpr moved)
    obtain ⟨settings, found, -, inOne⟩ := (agrees port 1).mp lists
    obtain ⟨settings', found', -, inVlan⟩ := access
    rw [found] at found'
    obtain rfl := Option.some.inj found'
    exact other (inOne.symm.trans inVlan)
  · intro unused port other
    rw [lists_deleteVlan, isAccess_deleteVlan, agrees port other]
    simp [unused port]

theorem agrees_setAccess_iff (agrees : table.Agrees) (port : String) (vlan : Nat) :
    (table.setAccess port vlan).Agrees ↔ ∀ other, table.IsAccess port other → other = vlan := by
  constructor
  · intro agrees' other access
    have lists := (lists_setAccess table vlan other port port).mpr
      (.inl ((agrees port other).mpr access))
    have access' := (isAccess_setAccess table vlan other port port).mp ((agrees' port other).mp lists)
    exact (by simpa using access' : vlan = other).symm
  · intro unmoved port' other
    rw [lists_setAccess, isAccess_setAccess, agrees port' other]
    by_cases same : port' = port
    · subst same
      constructor
      · rintro (access | ⟨rfl, -⟩)
        · simpa using (unmoved other access).symm
        · simp
      · intro stays
        exact .inr ⟨(by simpa using stays : vlan = other).symm, rfl⟩
    · simp [same]

/-- A change to a port alone keeps the records in step if it keeps the port's own membership. -/
theorem agrees_updatePort_iff (agrees : table.Agrees) (name : String)
    (update : VlanPort → VlanPort) :
    (table.updatePort name update).Agrees ↔ ∀ vlan,
      table.IsAccess name vlan ↔ (update ((table.ports.lookup name).getD {})).mode = .access ∧
        (update ((table.ports.lookup name).getD {})).accessVlan = vlan := by
  constructor
  · intro agrees' vlan
    have here := agrees' name vlan
    rwa [lists_updatePort, isAccess_updatePort, if_pos rfl, agrees name vlan] at here
  · intro same port vlan
    rw [lists_updatePort, isAccess_updatePort, agrees port vlan]
    split
    · rename_i isName
      rw [isName, same vlan]
    · rfl

theorem agrees_updatePort_of_same (agrees : table.Agrees) (name : String)
    {update : VlanPort → VlanPort} (mode : ∀ port, (update port).mode = port.mode)
    (accessVlan : ∀ port, (update port).accessVlan = port.accessVlan) :
    (table.updatePort name update).Agrees ↔ (table.ports.lookup name).isSome := by
  rw [agrees_updatePort_iff agrees]
  simp only [mode, accessVlan, IsAccess]
  cases found : table.ports.lookup name with
  | none => simp
  | some settings => simp

theorem agrees_apply_iff (numerals : Numerals) (agrees : table.Agrees) (op : VlanOp) :
    (table.apply numerals op).Agrees ↔ table.KeepsStep op := by
  cases op with
  | createVlan vlan name =>
    refine iff_of_true (fun port other => ?_) trivial
    have ports : (table.createVlan vlan name).IsAccess port other ↔ table.IsAccess port other := by
      unfold IsAccess
      rw [ports_createVlan]
    exact (lists_createVlan table vlan other name port).trans ((agrees port other).trans ports.symm)
  | deleteVlan vlan => exact agrees_deleteVlan_iff agrees vlan
  | setAccess port vlan => exact agrees_setAccess_iff agrees port vlan
  | setTrunk port nativeVlan allowed =>
    exact (agrees_updatePort_iff agrees port _).trans (by simp [KeepsStep])
  | setTrunkAllowed port allowed =>
    exact agrees_updatePort_of_same agrees port (fun _ => rfl) fun _ => rfl
  | setTrunkAllowedAdd port added =>
    exact agrees_updatePort_of_same agrees port (fun _ => rfl) fun _ => rfl
  | setTrunkAllowedRemove port removed =>
    exact agrees_updatePort_of_same agrees port (fun _ => rfl) fun _ => rfl
  | setNativeVlan port vlan =>
    exact agrees_updatePort_of_same agrees port (fun _ => rfl) fun _ => rfl

/-- A change to a port that is no change of its access VLAN, which is VLAN 1 for a new port. -/
theorem Known.updatePort (known : table.Known) (name : String) {update : VlanPort → VlanPort}
    (accessVlan : ∀ port, (update port).accessVlan = port.accessVlan) :
    (table.updatePort name update).Known := by
  intro port settings found
  by_cases same : port = name
  · subst same
    obtain rfl := Option.some.inj ((lookup_insert_self _ _ _).symm.trans found)
    rw [accessVlan]
    cases before : table.ports.lookup port with
    | none => exact .inl rfl
    | some settings => exact known port settings before
  · exact known port settings ((lookup_insert_of_ne _ _ same).symm.trans found)

theorem Known.deleteVlan (known : table.Known) (vlan : Nat) : (table.deleteVlan vlan).Known := by
  intro port settings found
  simp only [VlanTable.deleteVlan, lookup_mapValues, Option.map_eq_some_iff] at found
  obtain ⟨before, foundBefore, rfl⟩ := found
  by_cases within : before.accessVlan = vlan
  · exact .inl (by simp [within])
  · rcases known port before foundBefore with isOne | present
    · exact .inl (by rw [if_neg within, isOne])
    · exact .inr (by simpa [VlanTable.deleteVlan, within, lookup_erase] using present)

theorem hasVlan_setAccess (name : String) (vlan other : Nat) :
    (table.setAccess name vlan).HasVlan other ↔ other = vlan ∨ table.HasVlan other := by
  have lookup : ((table.setAccess name vlan).vlans.lookup other).isSome ↔
      other = vlan ∨ (table.vlans.lookup other).isSome := by
    rw [setAccess, addMemberPort, lookup_modify]
    have created := isSome_lookup_createVlan (table.updatePort name fun port =>
      { port with mode := .access, accessVlan := vlan }) vlan other ""
    split
    · rwa [Option.isSome_map]
    · exact created
  rw [HasVlan, lookup, HasVlan, or_left_comm]

theorem Known.setAccess (known : table.Known) (name : String) (vlan : Nat) :
    (table.setAccess name vlan).Known := by
  intro port settings found
  rw [hasVlan_setAccess]
  rw [VlanTable.setAccess, addMemberPort, ports_createVlan] at found
  by_cases same : port = name
  · subst same
    obtain rfl := Option.some.inj ((lookup_insert_self _ _ _).symm.trans found)
    exact .inl rfl
  · exact .inr (known port settings ((lookup_insert_of_ne _ _ same).symm.trans found))

/-- No operation leaves a port in a VLAN that is not there. -/
theorem Known.apply (numerals : Numerals) (known : table.Known) (op : VlanOp) :
    (table.apply numerals op).Known := by
  cases op with
  | createVlan vlan name =>
    intro port settings found
    rw [VlanTable.apply, ports_createVlan] at found
    exact (known port settings found).imp_right fun present =>
      (isSome_lookup_createVlan table vlan _ name).mpr (.inr present)
  | deleteVlan vlan => exact known.deleteVlan vlan
  | setAccess port vlan => exact known.setAccess port vlan
  | setTrunk port nativeVlan allowed => exact known.updatePort port fun _ => rfl
  | setTrunkAllowed port allowed => exact known.updatePort port fun _ => rfl
  | setTrunkAllowedAdd port added => exact known.updatePort port fun _ => rfl
  | setTrunkAllowedRemove port removed => exact known.updatePort port fun _ => rfl
  | setNativeVlan port vlan => exact known.updatePort port fun _ => rfl

end Exact

/-! ## Rejected operations -/

def Raises (numerals : Numerals) : VlanOp → Prop
  | .setTrunk _ _ text | .setTrunkAllowed _ text | .setTrunkAllowedAdd _ text
  | .setTrunkAllowedRemove _ text => parseVlanRange numerals text.toList = none
  | _ => False

/-- The settings of a port, which are the default ones of a port that has none. -/
def settings (table : VlanTable) (port : String) : VlanPort := (table.ports.lookup port).getD {}

/-- Both tables have the same mode, native VLAN and allowed VLANs for every port, and the same
VLANs with the same ports. -/
structure SameSettings (table after : VlanTable) : Prop where
  mode : ∀ port, (after.settings port).mode = (table.settings port).mode
  nativeVlan : ∀ port, (after.settings port).nativeVlan = (table.settings port).nativeVlan
  allowedVlans : ∀ port vlan,
    vlan ∈ (after.settings port).allowedVlans ↔ vlan ∈ (table.settings port).allowedVlans
  vlans : after.vlans = table.vlans

def TrunkAlready (table : VlanTable) : VlanOp → Prop
  | .setTrunk port nativeVlan _ =>
    (table.settings port).mode = .trunk ∧ (table.settings port).nativeVlan = nativeVlan
  | _ => True

theorem settings_updatePort (table : VlanTable) (name port : String)
    (update : VlanPort → VlanPort) :
    (table.updatePort name update).settings port =
      if port = name then update (table.settings port) else table.settings port := by
  unfold settings updatePort
  by_cases same : port = name
  · rw [if_pos same, same, lookup_insert_self]
    rfl
  · rw [if_neg same, lookup_insert_of_ne _ _ same]

theorem sameSettings_updatePort_iff (table : VlanTable) (name : String)
    (update : VlanPort → VlanPort) :
    SameSettings table (table.updatePort name update) ↔
      (update (table.settings name)).mode = (table.settings name).mode ∧
        (update (table.settings name)).nativeVlan = (table.settings name).nativeVlan ∧
          ∀ vlan, vlan ∈ (update (table.settings name)).allowedVlans ↔
            vlan ∈ (table.settings name).allowedVlans := by
  constructor
  · intro same
    have mode := same.mode name
    have nativeVlan := same.nativeVlan name
    have allowedVlans := same.allowedVlans name
    simp only [settings_updatePort, if_true] at mode nativeVlan allowedVlans
    exact ⟨mode, nativeVlan, allowedVlans⟩
  · rintro ⟨mode, nativeVlan, allowedVlans⟩
    refine ⟨fun port => ?_, fun port => ?_, fun port vlan => ?_, rfl⟩
    all_goals
      rw [settings_updatePort]
      split
      · subst port
        apply_assumption
      · rfl

/-- An operation that raises changes nothing, if and only if it makes no trunk of a port that is
not the same trunk already. -/
theorem raises_sameSettings_iff (numerals : Numerals) (table : VlanTable) (op : VlanOp) :
    (Raises numerals op → SameSettings table (table.apply numerals op)) ↔
      (Raises numerals op → table.TrunkAlready op) := by
  refine imp_congr_right fun raises => ?_
  cases op with
  | createVlan | deleteVlan | setAccess | setNativeVlan => cases raises
  | setTrunk port nativeVlan text =>
    have failed : parseVlanRange numerals text.toList = none := raises
    rw [apply, setTrunk, sameSettings_updatePort_iff, failed]
    simp only [Option.getD_none, iff_self, implies_true, and_true]
    exact and_congr eq_comm eq_comm
  | setTrunkAllowed port text | setTrunkAllowedAdd port text | setTrunkAllowedRemove port text =>
    have failed : parseVlanRange numerals text.toList = none := raises
    refine iff_of_true ?_ trivial
    simp [apply, setTrunkAllowed, setTrunkAllowedAdd, setTrunkAllowedRemove,
      sameSettings_updatePort_iff, failed]

/-- The mode is set before the list is read. -/
theorem trunk_of_rejected : Raises plainNumerals (.setTrunk "Gi1/0/1" 99 "10,a-b") ∧
      ¬ SameSettings {} (apply plainNumerals {} (.setTrunk "Gi1/0/1" 99 "10,a-b")) := by
  have failed : parseVlanRange plainNumerals "10,a-b".toList = none := by decide
  refine ⟨failed, fun same => ?_⟩
  have mode := same.mode "Gi1/0/1"
  revert mode
  decide

end VlanTable

/-! ## All devices -/

variable {Device : Type} [DecidableEq Device] (numerals : Numerals)

/-- `VlanEngine`: the tables of all devices. -/
def VlanEngine (Device : Type) : Type := Device → VlanTable

namespace VlanEngine

def initial : VlanEngine Device := fun _ => {}

def handle (engine : VlanEngine Device) (event : Device × VlanOp) : VlanEngine Device :=
  Function.update engine event.1 ((engine event.1).apply numerals event.2)

theorem handle_self (engine : VlanEngine Device) (event : Device × VlanOp) :
    engine.handle numerals event event.1 = (engine event.1).apply numerals event.2 :=
  Function.update_self ..

theorem handle_of_ne (engine : VlanEngine Device) {event : Device × VlanOp} {device : Device}
    (other : device ≠ event.1) : engine.handle numerals event device = engine device :=
  Function.update_of_ne other ..

def Consistent (engine : VlanEngine Device) : Prop := ∀ device, (engine device).Consistent

def KeepsStep (engine : VlanEngine Device) (event : Device × VlanOp) : Prop :=
  (engine event.1).KeepsStep event.2

/-- Membership is consistent in every state that a sequence of operations reaches, if and only if
every operation of it keeps step. -/
theorem membership_throughout_iff (events : List (Device × VlanOp)) :
    Throughout (handle numerals) Consistent (initial : VlanEngine Device) events ↔
      Along (handle numerals) KeepsStep initial events := by
  have initially : Consistent (initial : VlanEngine Device) := fun _ =>
    ⟨fun _ _ => by simp [VlanTable.Lists, VlanTable.IsAccess, initial],
      fun _ _ found => by cases found⟩
  have exactStep : ∀ (engine : VlanEngine Device) (event : Device × VlanOp), True →
      engine.Consistent → ((engine.handle numerals event).Consistent ↔ engine.KeepsStep event) := by
    intro engine event _ consistent
    have agrees := VlanTable.agrees_apply_iff numerals (consistent event.1).agrees event.2
    constructor
    · intro consistent'
      have here := consistent' event.1
      rw [handle_self] at here
      exact agrees.mp here.agrees
    · intro keeps device
      by_cases same : device = event.1
      · rw [same, handle_self]
        exact ⟨agrees.mpr keeps, (consistent event.1).known.apply numerals event.2⟩
      · rw [handle_of_ne numerals engine same]
        exact consistent device
  exact throughout_iff_along (fun _ _ _ => trivial) exactStep trivial initially events

/-- An access port that is moved stays listed in the VLAN it was in. -/
theorem moved_port_listed_twice :
    ¬ Consistent (runFrom (handle plainNumerals) (initial : VlanEngine Nat)
      [(0, .setAccess "Gi1/0/1" 10), (0, .setAccess "Gi1/0/1" 20)]) := by
  intro consistent
  have listed : ((runFrom (handle plainNumerals) (initial : VlanEngine Nat)
      [(0, .setAccess "Gi1/0/1" 10), (0, .setAccess "Gi1/0/1" 20)]) 0).Lists 10 "Gi1/0/1" :=
    ⟨{ vlanId := 10, name := "VLAN0010", ports := ["Gi1/0/1"] }, by rfl, by decide⟩
  obtain ⟨settings, found, -, inTen⟩ := ((consistent 0).agrees "Gi1/0/1" 10).mp listed
  have isTwenty : (((runFrom (handle plainNumerals) (initial : VlanEngine Nat)
      [(0, .setAccess "Gi1/0/1" 10), (0, .setAccess "Gi1/0/1" 20)]) 0).ports.lookup
        "Gi1/0/1").map VlanPort.accessVlan = some 20 := by rfl
  rw [found] at isTwenty
  have := Option.some.inj isTwenty
  omega

end VlanEngine

end NetLab.Vlan
