import NetLab.Netconf.Leaves
import NetLab.Netconf.Requests
import Mathlib.Data.Rat.Defs

/-!
# Set requests

`set` applies deletes, replaces and updates one after the other. An element that is refused, or one
whose value cannot be used, ends the request, and what was written before stays.
-/

namespace NetLab.Gnmi

open NetLab.Library NetLab.Netconf

/-- Values of a request, and of the JSON texts in it. -/
inductive Value where
  | null
  | bool (value : Bool)
  | number (value : ℚ)
  | special (name : String)
  | text (value : String)
  | bytes (value : ByteArray)
  | message (name : String)
  | list (items : List Value)
  | object (members : List (String × Value))

/-- What the language does with values: writing them as texts, and reading JSON. -/
structure Texts where
  str : Value → String
  loads : String → Option Value

namespace Value

def truthy : Value → Bool
  | null => false
  | bool value => value
  | number value => value ≠ 0
  | special _ => true
  | text value => value ≠ ""
  | bytes value => value.size ≠ 0
  | message _ => true
  | list items => !items.isEmpty
  | object members => !members.isEmpty

/-- `value in (True, 'true', 1)`. -/
def isTrue : Value → Bool
  | bool value => value
  | number value => value = 1
  | text value => value = "true"
  | _ => false

/-- `value[0]` of a value that counts as true, where it has one. -/
def first : Value → Option Value
  | text value => some (.text (value.take 1).toString)
  | bytes value => (value.toList.head?).map fun byte => .number byte.toNat
  | list items => items.head?
  | _ => none

/-- The value that a member of an object has, if it counts as true. -/
def truthyMember (members : List (String × Value)) (name : String) : Option Value :=
  (members.lookup name).filter truthy

end Value

/-- An element of a path, with its keys. -/
structure PathElem where
  name : String
  keys : List (String × String) := []
deriving DecidableEq

/-- A text without the quotes around it. -/
def stripQuotes (text : String) : String :=
  String.ofList ((text.toList.dropWhile fun char => char = '"').reverse.dropWhile
    fun char => char = '"').reverse

/-- What an element of a request does. -/
inductive Plan where
  | refuse (message : String)
  | rename (hostname : String)
  | change (key : String) (written : InfoChange) (raises : Bool)
deriving DecidableEq

section Values

variable (texts : Texts)

/-- The address in the members of an interface. A mask that is no text raises an exception after the
address is stored; an address that is no text is stored as it is shown. -/
def addressChange (members : List (String × Value)) : InfoChange × Bool :=
  match (Value.truthyMember members "ietf-ip:ipv4").or (members.lookup "ipv4") with
  | some (.object v4) =>
    match Value.truthyMember v4 "address" with
    | none => ({}, false)
    | some addresses =>
      match addresses.first with
      | none => ({}, true)
      | some (.object address) =>
        match Value.truthyMember address "ip" with
        | none => ({}, false)
        | some ip =>
          let shown := match ip with
            | .text ip => ip
            | other => texts.str other
          match address.lookup "netmask" with
          | none => ({ ip := some shown, prefixLength := some 24 }, false)
          | some (.text netmask) =>
            ({ ip := some shown, prefixLength := some (maskToPrefix netmask) }, false)
          | some _ => ({ ip := some shown }, true)
      | some _ => ({}, false)
  | _ => ({}, false)

def statusOf (enabled : Value) : String :=
  if enabled.isTrue then "up" else "administratively down"

/-- The members of an interface. -/
def membersChange (members : List (String × Value)) : InfoChange × Bool :=
  let address := addressChange texts members
  ({ address.1 with
    desc := (members.lookup "description").map texts.str
    status := (members.lookup "enabled").map statusOf }, address.2)

/-- A write to an interface or one of its leaves. -/
def writePlan (key leaf : String) (value : Value) : Plan :=
  let parsed := match value with
    | .text text => (texts.loads text).getD value
    | _ => value
  if leaf = "description" then .change key { desc := some (texts.str parsed) } false
  else if leaf = "enabled" then .change key { status := some (statusOf parsed) } false
  else
    match leaf, parsed with
    | "", .object members =>
      .change key (membersChange texts members).1 (membersChange texts members).2
    | _, _ => .refuse ("unsupported leaf: " ++ if leaf ≠ "" then leaf else "(container)")

/-- A delete of an interface or one of its leaves. -/
def deletePlan (key leaf : String) : Plan :=
  if leaf = "description" then .change key { desc := some "" } false
  else if leaf = "ietf-ip:ipv4" ∨ leaf = "ipv4" then
    .change key { ip := some "", prefixLength := some 0 } false
  else if leaf = "" then
    .change key { ip := some "", prefixLength := some 0, desc := some "" } false
  else .refuse ("cannot delete " ++ leaf)

/-- `set_value`, on a device with these interfaces. Bytes that are no text raise an exception. -/
def setValuePlan (names : List String) (path : List PathElem) (value : Value) (delete : Bool) :
    Plan :=
  match path with
  | [] => .refuse "empty path"
  | head :: rest =>
    if (head.name = "Cisco-IOS-XE-native:native" ∨ head.name = "native") ∧
        rest.map PathElem.name = ["hostname"] then
      if delete then .refuse "hostname cannot be deleted"
      else .rename (stripQuotes (texts.str value))
    else if head.name ∈ ["ietf-interfaces:interfaces", "interfaces",
        "openconfig-interfaces:interfaces"] then
      match rest with
      | [] => .refuse ("unsupported path: " ++ head.name)
      | interface :: leaves =>
        if interface.name ≠ "interface" then .refuse ("unsupported path: " ++ head.name)
        else
          let key := (interface.keys.lookup "name").getD ""
          let leaf := (leaves.head?.map PathElem.name).getD ""
          if key = "" then .refuse "interface name key is required"
          else if key ∉ names then .refuse ("interface " ++ key ++ " does not exist")
          else if delete then deletePlan key leaf
          else
            match value with
            | .bytes data =>
              match String.fromUTF8? data with
              | none => .change key {} true
              | some text => writePlan texts key leaf (.text text)
            | value => writePlan texts key leaf value
    else .refuse ("unsupported path: " ++ head.name)

end Values

/-- How a request fails. -/
inductive SetError where
  | abort (message : String)
  | exception
deriving DecidableEq

/-- Carry out a plan. -/
def Plan.run (plan : Plan) (state : DeviceState) : Option SetError × DeviceState :=
  match plan with
  | .refuse message => (some (.abort message), state)
  | .rename hostname => (none, { state with hostname := hostname })
  | .change key written raises =>
    (if raises then some .exception else none, state.change key written)

inductive SetOp where
  | delete
  | replace
  | update
deriving DecidableEq

/-- An element of a request. -/
structure SetItem where
  op : SetOp
  path : List PathElem
  value : Value

structure SetRequest where
  delete : List (List PathElem)
  replace : List (List PathElem × Value)
  update : List (List PathElem × Value)

/-- The elements, in the order in which they are applied. -/
def SetRequest.items (request : SetRequest) : List SetItem :=
  request.delete.map (fun path => ⟨.delete, path, .null⟩) ++
    request.replace.map (fun entry => ⟨.replace, entry.1, entry.2⟩) ++
    request.update.map (fun entry => ⟨.update, entry.1, entry.2⟩)

/-- The plan of an element. -/
def SetItem.plan (texts : Texts) (names : List String) (item : SetItem) : Plan :=
  setValuePlan texts names item.path item.value (item.op = .delete)

/-- `Set`: what is done to each path, or how the request fails. -/
def set (texts : Texts) (state : DeviceState) (request : SetRequest) :
    Except SetError (List (List PathElem × SetOp)) × DeviceState :=
  let outcome := runUntil (fun state item => (item.plan texts state.interfaces.keys).run state)
    state request.items
  match outcome.1 with
  | some error => (.error error, outcome.2)
  | none => (.ok (request.items.map fun item => (item.path, item.op)), outcome.2)

def Plan.writes : Plan → Place → Option LeafValue
  | .refuse _, _ => none
  | .rename hostname, place =>
    if place = .hostname then some (.text (some hostname)) else none
  | .change key written _, place => written.writes key place

/-- The plan is carried out without failing. -/
def Plan.succeeds : Plan → Bool
  | .refuse _ => false
  | .rename _ => true
  | .change _ _ raises => !raises

section Values

variable (texts : Texts)

variable {written : InfoChange} {raises : Bool} {key : String}

theorem key_of_writePlan {other leaf : String} {value : Value}
    (plan : writePlan texts key leaf value = .change other written raises) : other = key := by
  unfold writePlan at plan
  dsimp only at plan
  split at plan
  · exact (Plan.change.inj plan).1.symm
  · split at plan
    · exact (Plan.change.inj plan).1.symm
    · split at plan
      · exact (Plan.change.inj plan).1.symm
      · cases plan

theorem key_of_deletePlan {other leaf : String}
    (plan : deletePlan key leaf = .change other written raises) : other = key := by
  unfold deletePlan at plan
  split at plan
  · exact (Plan.change.inj plan).1.symm
  · split at plan
    · exact (Plan.change.inj plan).1.symm
    · split at plan
      · exact (Plan.change.inj plan).1.symm
      · cases plan

theorem mem_of_setValuePlan {names : List String} {path : List PathElem} {value : Value}
    {delete : Bool}
    (plan : setValuePlan texts names path value delete = .change key written raises) :
    key ∈ names := by
  cases path with
  | nil => cases plan
  | cons head rest =>
    simp only [setValuePlan] at plan
    split at plan
    · split at plan <;> cases plan
    · split at plan
      · cases rest with
        | nil => cases plan
        | cons interface leaves =>
          dsimp only at plan
          split at plan
          · cases plan
          · split at plan
            · cases plan
            · split at plan
              · cases plan
              · rename_i present
                have inNames := not_not.mp present
                split at plan
                · rwa [key_of_deletePlan plan]
                · split at plan
                  · split at plan
                    · rwa [← (Plan.change.inj plan).1]
                    · rwa [key_of_writePlan texts plan]
                  · rwa [key_of_writePlan texts plan]
      · cases plan

/-- What an element of a request writes is known before the request is applied. -/
theorem writes_plan (base : DeviceState) :
    Writes (fun (state : DeviceState) item => (SetItem.plan texts state.interfaces.keys item).run state)
      (SameRest base) (fun item => (item.plan texts base.interfaces.keys).succeeds)
      DeviceState.leafAt
      fun item place value => ((item.plan texts base.interfaces.keys).writes place).getD value where
  keeps := by
    intro state item same
    cases item.plan texts state.interfaces.keys with
    | refuse message => exact same
    | rename hostname => exact ⟨same.users, same.nacm, same.interfaces⟩
    | change key written raises => exact same.change key written
  accepted := by
    intro state item same
    rw [same.keys_eq]
    cases item.plan texts base.interfaces.keys with
    | refuse message => simp [Plan.run, Plan.succeeds]
    | rename hostname => simp [Plan.run, Plan.succeeds]
    | change key written raises => cases raises <;> simp [Plan.run, Plan.succeeds]
  effect := by
    intro state item place same
    rw [same.keys_eq]
    cases plan : item.plan texts base.interfaces.keys with
    | refuse message => rfl
    | rename hostname => cases place <;> rfl
    | change key written raises =>
      have present := mem_of_setValuePlan texts plan
      rw [← same.keys_eq] at present
      exact leafAt_change written present place
  ext := fun state other same same' => same.ext same'

/-- The elements of a request that are tried: up to the first that fails, and that one. -/
def tried (state : DeviceState) (request : SetRequest) : List SetItem :=
  reached (fun item => (item.plan texts state.interfaces.keys).succeeds) request.items

/-- A request succeeds if all its elements do. Otherwise it leaves the device as it was if and only
if the last value that it writes at each place was there before. -/
theorem set_failed_iff (state : DeviceState) (request : SetRequest) :
    (∀ error, (set texts state request).1 = .error error → (set texts state request).2 = state) ↔
      (∀ item ∈ request.items, (item.plan texts state.interfaces.keys).succeeds = true) ∨
        ∀ place value, lastWrite (fun item => (SetItem.plan texts state.interfaces.keys item).writes)
          (tried texts state request) place = some value → value = state.leafAt place := by
  have writes := writes_plan texts state
  have holds := SameRest.refl state
  have succeeds := writes.runUntil_eq_none_iff holds request.items
  have unchanged := writes.unchanged_iff holds request.items
  simp only [foldl_write_eq_iff] at unchanged
  rw [← succeeds, tried, ← unchanged]
  unfold set
  dsimp only
  split
  · rename_i error failed
    simp [failed]
  · rename_i done
    simp [done]

end Values

end NetLab.Gnmi
