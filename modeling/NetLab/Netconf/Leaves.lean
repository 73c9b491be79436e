import NetLab.Library.Stepwise
import NetLab.Netconf.Nacm

/-!
# Leaves that the management protocols write

The data of a device as values at places, and edits as values written there.
-/

namespace NetLab.Netconf

open NetLab.Library IfaceInfo
open OrderedMap

/-- Places for values: keys of the interfaces, and the name of the device. -/
inductive Place where
  | hostname
  | ip (name : String)
  | prefixLength (name : String)
  | status (name : String)
  | desc (name : String)
deriving DecidableEq

inductive LeafValue where
  | text (value : Option String)
  | number (value : Option Nat)
deriving DecidableEq

def DeviceState.leafAt (state : DeviceState) : Place → LeafValue
  | .hostname => .text (some state.hostname)
  | .ip name => .text ((state.interfaces.lookup name).map ip)
  | .prefixLength name => .number ((state.interfaces.lookup name).bind prefixLength)
  | .status name => .text ((state.interfaces.lookup name).bind status)
  | .desc name => .text ((state.interfaces.lookup name).bind desc)

/-- Values that are given to keys of an interface. -/
structure InfoChange where
  ip : Option String := none
  prefixLength : Option Nat := none
  status : Option String := none
  desc : Option String := none
deriving DecidableEq

namespace InfoChange

/-- The data of an interface after a change. -/
def apply (change : InfoChange) (info : IfaceInfo) : IfaceInfo :=
  { info with
    ip := change.ip.getD info.ip
    prefixLength := change.prefixLength.or info.prefixLength
    status := change.status.or info.status
    desc := change.desc.or info.desc }

def writes (change : InfoChange) (key : String) : Place → Option LeafValue
  | .hostname => none
  | .ip name => if name = key then change.ip.map fun ip => .text (some ip) else none
  | .prefixLength name =>
    if name = key then change.prefixLength.map fun length => .number (some length) else none
  | .status name => if name = key then change.status.map fun status => .text (some status) else none
  | .desc name => if name = key then change.desc.map fun desc => .text (some desc) else none

end InfoChange

def DeviceState.change (state : DeviceState) (key : String) (change : InfoChange) : DeviceState :=
  { state with interfaces := state.interfaces.modify key change.apply }

theorem leafAt_change {state : DeviceState} {key : String} (change : InfoChange)
    (present : key ∈ state.interfaces.keys) (place : Place) :
    (state.change key change).leafAt place =
      (change.writes key place).getD (state.leafAt place) := by
  obtain ⟨info, found⟩ := mem_keys_iff.mp present
  cases place with
  | hostname => rfl
  | _ name =>
    simp only [DeviceState.leafAt, DeviceState.change, InfoChange.writes, lookup_modify]
    by_cases same : name = key
    · subst same
      simp only [if_true, found, Option.map_some, Option.bind_some, InfoChange.apply]
      cases change.ip <;> cases change.prefixLength <;> cases change.status <;>
        cases change.desc <;> rfl
    · simp [same]

/-- Everything that has no place is as it is in a state. -/
structure SameRest (base state : DeviceState) : Prop where
  users : state.users = base.users
  nacm : state.nacm = base.nacm
  interfaces : state.interfaces.mapValues (fun _ info => info.description) =
    base.interfaces.mapValues fun _ info => info.description

namespace SameRest

variable {base state other : DeviceState}

theorem refl (state : DeviceState) : SameRest state state := ⟨rfl, rfl, rfl⟩

theorem keys_eq (same : SameRest base state) : state.interfaces.keys = base.interfaces.keys := by
  simpa using congrArg OrderedMap.keys same.interfaces

theorem change (same : SameRest base state) (key : String) (change : InfoChange) :
    SameRest base (state.change key change) := by
  refine ⟨same.users, same.nacm, Eq.trans ?_ same.interfaces⟩
  apply mapValues_modify
  intro info
  rfl

theorem ext (same : SameRest base state) (same' : SameRest base other)
    (leaves : ∀ place, state.leafAt place = other.leafAt place) : state = other := by
  have hostname : state.hostname = other.hostname := by
    simpa [DeviceState.leafAt] using leaves .hostname
  have interfaces : state.interfaces = other.interfaces := by
    refine ext_lookup (same.keys_eq.trans same'.keys_eq.symm) fun name => ?_
    have description : (state.interfaces.lookup name).map description =
        (other.interfaces.lookup name).map description := by
      have both := congrArg (fun map => map.lookup name)
        (same.interfaces.trans same'.interfaces.symm)
      simpa using both
    have ip := leaves (.ip name)
    have prefixLength := leaves (.prefixLength name)
    have status := leaves (.status name)
    have desc := leaves (.desc name)
    simp only [DeviceState.leafAt, LeafValue.text.injEq] at ip status desc
    simp only [DeviceState.leafAt, LeafValue.number.injEq] at prefixLength
    cases here : state.interfaces.lookup name with
    | none =>
      rw [here] at ip
      exact (Option.map_eq_none_iff.mp ip.symm).symm
    | some info =>
      rw [here] at ip prefixLength status desc description
      obtain ⟨info', there, ip⟩ := Option.map_eq_some_iff.mp ip.symm
      rw [there] at prefixLength status desc description ⊢
      obtain ⟨_, _, _, _, _⟩ := info
      obtain ⟨_, _, _, _, _⟩ := info'
      simp_all
  obtain ⟨_, _, _, _⟩ := state
  obtain ⟨_, _, _, _⟩ := other
  obtain rfl := hostname
  obtain rfl := interfaces
  obtain rfl := same.users.trans same'.users.symm
  obtain rfl := same.nacm.trans same'.nacm.symm
  rfl

end SameRest

end NetLab.Netconf
