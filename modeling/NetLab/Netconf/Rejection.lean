import NetLab.Gnmi.Set
import NetLab.Netconf.AccessControl

/-!
# What rejected writes leave behind

Edits and set requests are applied element by element and not taken back. A rejected one leaves the
device as it was only if, at every place, what its first elements did comes to nothing.
-/

namespace NetLab.Netconf

open NetLab.Library DeviceState
open OrderedMap

variable (state : DeviceState)

/-! ## Edits of interfaces -/

/-- Values that an element gives to its interface. -/
def ifaceChange (iface : Element) : InfoChange :=
  if iface.marked then { ip := some "", prefixLength := some 0 }
  else
    let address := (iface.child "ipv4").bind fun v4 => v4.child "address"
    { status := ((iface.child "enabled").filter fun element => element.text ≠ "").map fun element =>
        if (strip element.text).toLower = "true" then "up" else "down"
      desc := (iface.child "description").map fun element => strip element.text
      ip := ((address.bind fun addr => addr.child "ip").filter fun element =>
        element.text ≠ "").map fun element => strip element.text
      prefixLength := ((address.bind fun addr => addr.child "netmask").filter fun element =>
        element.text ≠ "").map fun element => maskToPrefix (strip element.text) }

theorem filter_map_or {Value : Type} (element : Option Element) (read : Element → Value)
    (before : Option Value) :
    ((element.filter fun element => element.text ≠ "").map read).or before = match element with
      | some element => if element.text ≠ "" then some (read element) else before
      | none => before := by
  cases element with
  | none => rfl
  | some element =>
    by_cases empty : element.text = ""
    · simp [Option.filter, empty]
    · simp [Option.filter, empty]

variable (iface : Element) (messageId : String) (module : Module) (element : Element)

theorem editedInfo_eq (info : IfaceInfo) :
    editedInfo iface info = (ifaceChange iface).apply info := by
  unfold editedInfo ifaceChange InfoChange.apply
  by_cases marked : iface.marked
  · rw [if_pos marked, if_pos marked]
    rfl
  · rw [if_neg marked, if_neg marked]
    dsimp only
    rw [filter_map_or, filter_map_or]
    congr 1
    · cases ((iface.child "ipv4").bind fun v4 => v4.child "address").bind
          fun addr => addr.child "ip" with
      | none => rfl
      | some element =>
        by_cases empty : element.text = ""
        · simp [Option.filter, empty]
        · simp [Option.filter, empty]
    · cases iface.child "description" <;> rfl

/-- The edit of an interface is accepted, if these are the interfaces. -/
def ifaceAccepted (names : List String) (iface : Element) : Bool :=
  iface.textOf "name" ≠ "" ∧ iface.textOf "name" ∈ names

/-- What the edit of an interface writes at a place. -/
def ifaceWrites (names : List String) (iface : Element) (place : Place) : Option LeafValue :=
  if ifaceAccepted names iface then (ifaceChange iface).writes (iface.textOf "name") place else none

theorem editInterface_eq :
    (ifaceAccepted state.interfaces.keys iface = true ∧ editInterface state iface =
      .ok (state.change (iface.textOf "name") (ifaceChange iface))) ∨
      (ifaceAccepted state.interfaces.keys iface = false ∧
        ∃ message, editInterface state iface = .error message) := by
  by_cases empty : iface.textOf "name" = ""
  · exact .inr ⟨by simp [ifaceAccepted, empty], "interface name is required",
      by rw [editInterface, if_pos empty]⟩
  · rw [editInterface, if_neg empty]
    cases found : state.interfaces.lookup (iface.textOf "name") with
    | none =>
      have absent : iface.textOf "name" ∉ state.interfaces.keys := by
        simp [mem_keys_iff, found]
      exact .inr ⟨by simp [ifaceAccepted, absent], _, rfl⟩
    | some info =>
      have present : iface.textOf "name" ∈ state.interfaces.keys :=
        mem_keys_iff.mpr ⟨info, found⟩
      have stored : state.interfaces.insert (iface.textOf "name") (editedInfo iface info) =
          state.interfaces.modify (iface.textOf "name") (ifaceChange iface).apply := by
        refine ext_lookup ?_ fun name => ?_
        · rw [keys_insert, if_pos present, keys_modify]
        · rw [lookup_modify_of_found _ _ found, editedInfo_eq]
      refine .inl ⟨by simp [ifaceAccepted, empty, present], ?_⟩
      dsimp only
      rw [stored]
      rfl

theorem writes_editInterface (base : DeviceState) : Writes (attempt editInterface) (SameRest base)
      (ifaceAccepted base.interfaces.keys) leafAt
      fun iface place value => (ifaceWrites base.interfaces.keys iface place).getD value where
  keeps := by
    intro state iface same
    rcases editInterface_eq state iface with ⟨-, edited⟩ | ⟨-, message, refused⟩
    · rw [attempt_ok edited]
      exact same.change ..
    · rw [attempt_error refused]
      exact same
  accepted := by
    intro state iface same
    rw [← same.keys_eq]
    rcases editInterface_eq state iface with ⟨accepted, edited⟩ | ⟨refused, message, failed⟩
    · simp [accepted, attempt_ok edited]
    · simp [refused, attempt_error failed]
  effect := by
    intro state iface place same
    rw [← same.keys_eq]
    rcases editInterface_eq state iface with ⟨accepted, edited⟩ | ⟨refused, message, failed⟩
    · rw [attempt_ok edited, ifaceWrites, if_pos accepted]
      exact leafAt_change _ (of_decide_eq_true accepted).2 place
    · rw [attempt_error failed, ifaceWrites, if_neg (by simp [refused])]
      rfl
  ext := fun state other same same' => same.ext same'

/-! ## Edits of access control -/

/-- Places for values in `/nacm`. Groups are one place, and so are the rule lists. -/
inductive NacmPlace where
  | flag (leaf : NacmFlag)
  | default (leaf : NacmDefault)
  | groups
  | ruleLists

inductive NacmValue where
  | flag (value : Bool)
  | action (value : NacmAction)
  | groups (value : OrderedMap String (List String))
  | ruleLists (value : List NacmRuleList)

def Nacm.valueAt (nacm : Nacm) : NacmPlace → NacmValue
  | .flag .enableNacm => .flag nacm.enableNacm
  | .flag .enableExternalGroups => .flag nacm.enableExternalGroups
  | .default .read => .action nacm.readDefault
  | .default .write => .action nacm.writeDefault
  | .default .exec => .action nacm.execDefault
  | .groups => .groups nacm.groups
  | .ruleLists => .ruleLists nacm.ruleLists

def rulesOf (element : Element) : Except String (List NacmRule) :=
  (element.childrenNamed "rule").mapM parseRule

def NacmPart.accepted : NacmPart → Bool
  | .flag _ _ => true
  | .default _ element => element.text = "" ∨ (parseAction (strip element.text)).isSome
  | .group element => element.textOf "name" ≠ ""
  | .ruleList element =>
    element.textOf "name" ≠ "" ∧ (element.marked ∨ (rulesOf element).isOk)

def NacmPart.effect (part : NacmPart) (place : NacmPlace) (value : NacmValue) : NacmValue :=
  match part, place, value with
  | .flag leaf element, .flag other, value =>
    if leaf = other ∧ element.text ≠ "" then .flag ((strip element.text).toLower = "true")
    else value
  | .default leaf element, .default other, value =>
    if leaf = other then
      ((parseAction (strip element.text)).map NacmValue.action).getD value
    else value
  | .group element, .groups, .groups groups =>
    if element.textOf "name" = "" then value
    else if element.marked then .groups (groups.erase (element.textOf "name"))
    else .groups (groups.insert (element.textOf "name") (element.textsOf "user-name"))
  | .ruleList element, .ruleLists, .ruleLists lists =>
    if element.textOf "name" = "" then value
    else if element.marked then
      .ruleLists (lists.eraseP fun list => list.name = element.textOf "name")
    else
      match rulesOf element with
      | .error _ => value
      | .ok rules =>
        .ruleLists (setRuleList ⟨element.textOf "name", element.textsOf "group", rules⟩ lists)
  | _, _, value => value

/-- The counts are those of other access control data. -/
structure SameCounts (base nacm : Nacm) : Prop where
  operations : nacm.deniedOperations = base.deniedOperations
  dataWrites : nacm.deniedDataWrites = base.deniedDataWrites
  notifications : nacm.deniedNotifications = base.deniedNotifications

theorem SameCounts.trans {base nacm next : Nacm} (later : SameCounts nacm next)
    (same : SameCounts base nacm) : SameCounts base next :=
  ⟨later.operations.trans same.operations, later.dataWrites.trans same.dataWrites,
    later.notifications.trans same.notifications⟩

theorem editPart_cases (nacm : Nacm) (part : NacmPart) :
    (part.accepted = true ∧ ∃ next, editPart nacm part = .ok next ∧ SameCounts nacm next ∧
      ∀ place, next.valueAt place = part.effect place (nacm.valueAt place)) ∨
      (part.accepted = false ∧ (∃ message, editPart nacm part = .error message) ∧
        ∀ place, part.effect place (nacm.valueAt place) = nacm.valueAt place) := by
  cases part with
  | flag leaf element =>
    refine .inl ⟨rfl, _, rfl, ?_, ?_⟩
    · by_cases empty : element.text = ""
      · rw [if_pos empty]
        exact ⟨rfl, rfl, rfl⟩
      · rw [if_neg empty]
        cases leaf <;> exact ⟨rfl, rfl, rfl⟩
    · intro place
      by_cases empty : element.text = ""
      · rw [if_pos empty]
        cases place <;> simp [NacmPart.effect, empty]
      · rw [if_neg empty]
        cases leaf <;> rcases place with (_ | _) | (_ | _ | _) | _ | _ <;>
          simp [NacmPart.effect, Nacm.valueAt, Nacm.setFlag, empty]
  | default leaf element =>
    by_cases empty : element.text = ""
    · have silent : parseAction (strip element.text) = none := by
        rw [empty]
        decide +kernel
      refine .inl ⟨by simp [NacmPart.accepted, empty], nacm, by simp [editPart, empty],
        ⟨rfl, rfl, rfl⟩, fun place => ?_⟩
      cases place <;> simp [NacmPart.effect, silent]
    · cases parsed : parseAction (strip element.text) with
      | none =>
        refine .inr ⟨by simp [NacmPart.accepted, empty, parsed],
          ⟨_, by simp [editPart, empty, parsed]; rfl⟩, fun place => ?_⟩
        cases place <;> simp [NacmPart.effect, parsed]
      | some action =>
        refine .inl ⟨by simp [NacmPart.accepted, parsed], nacm.setDefault action leaf,
          by simp [editPart, empty, parsed], ?_, fun place => ?_⟩
        · cases leaf <;> exact ⟨rfl, rfl, rfl⟩
        · cases leaf <;> rcases place with (_ | _) | (_ | _ | _) | _ | _ <;>
            simp [NacmPart.effect, Nacm.valueAt, Nacm.setDefault, parsed]
  | group element =>
    by_cases empty : element.textOf "name" = ""
    · refine .inr ⟨by simp [NacmPart.accepted, empty], ⟨_, by simp [editPart, empty]; rfl⟩, ?_⟩
      intro place
      rcases place with (_ | _) | (_ | _ | _) | _ | _ <;>
          simp [NacmPart.effect, Nacm.valueAt, empty]
    · refine .inl ⟨by simp [NacmPart.accepted, empty], ?_⟩
      by_cases marked : element.marked
      · refine ⟨{ nacm with groups := nacm.groups.erase (element.textOf "name") },
          by simp [editPart, empty, marked], ⟨rfl, rfl, rfl⟩, fun place => ?_⟩
        rcases place with (_ | _) | (_ | _ | _) | _ | _ <;>
          simp [NacmPart.effect, Nacm.valueAt, empty, marked]
      · refine ⟨{ nacm with
            groups := nacm.groups.insert (element.textOf "name") (element.textsOf "user-name") },
          by simp [editPart, empty, marked], ⟨rfl, rfl, rfl⟩, fun place => ?_⟩
        rcases place with (_ | _) | (_ | _ | _) | _ | _ <;>
          simp [NacmPart.effect, Nacm.valueAt, empty, marked]
  | ruleList element =>
    by_cases empty : element.textOf "name" = ""
    · refine .inr ⟨by simp [NacmPart.accepted, empty], ⟨_, by simp [editPart, empty]; rfl⟩, ?_⟩
      intro place
      rcases place with (_ | _) | (_ | _ | _) | _ | _ <;>
          simp [NacmPart.effect, Nacm.valueAt, empty]
    · by_cases marked : element.marked
      · refine .inl ⟨by simp [NacmPart.accepted, empty, marked], { nacm with
            ruleLists := nacm.ruleLists.eraseP fun list => list.name = element.textOf "name" },
          by simp [editPart, empty, marked], ⟨rfl, rfl, rfl⟩, fun place => ?_⟩
        rcases place with (_ | _) | (_ | _ | _) | _ | _ <;>
          simp [NacmPart.effect, Nacm.valueAt, empty, marked]
      · cases parsed : rulesOf element with
        | error message =>
          have refused : (element.childrenNamed "rule").mapM parseRule = .error message :=
            parsed
          refine .inr ⟨?_, ⟨message, ?_⟩, fun place => ?_⟩
          · simp [NacmPart.accepted, marked, parsed, Except.isOk, Except.toBool]
          · rw [editPart, if_neg empty, if_neg marked, refused]
            rfl
          · rcases place with (_ | _) | (_ | _ | _) | _ | _ <;>
          simp [NacmPart.effect, Nacm.valueAt, empty, marked, parsed]
        | ok rules =>
          have accepted : (element.childrenNamed "rule").mapM parseRule = .ok rules := parsed
          refine .inl ⟨?_, { nacm with
            ruleLists := setRuleList ⟨element.textOf "name", element.textsOf "group", rules⟩
              nacm.ruleLists }, ?_, ⟨rfl, rfl, rfl⟩, fun place => ?_⟩
          · simp [NacmPart.accepted, empty, parsed, Except.isOk, Except.toBool]
          · rw [editPart, if_neg empty, if_neg marked, accepted]
            rfl
          · rcases place with (_ | _) | (_ | _ | _) | _ | _ <;>
          simp [NacmPart.effect, Nacm.valueAt, empty, marked, parsed]

theorem writes_editPart (base : Nacm) :
    Writes (attempt editPart) (SameCounts base) NacmPart.accepted Nacm.valueAt NacmPart.effect where
  keeps := by
    intro nacm part same
    rcases editPart_cases nacm part with ⟨-, next, edited, counts, -⟩ | ⟨-, ⟨message, refused⟩, -⟩
    · rw [attempt_ok edited]
      exact counts.trans same
    · rw [attempt_error refused]
      exact same
  accepted := by
    intro nacm part _
    rcases editPart_cases nacm part with ⟨accepted, next, edited, -⟩ |
      ⟨refused, ⟨message, failed⟩, -⟩
    · simp [accepted, attempt_ok edited]
    · simp [refused, attempt_error failed]
  effect := by
    intro nacm part place _
    rcases editPart_cases nacm part with ⟨-, next, edited, -, effect⟩ | ⟨-, ⟨message, failed⟩, none⟩
    · rw [attempt_ok edited]
      exact effect place
    · rw [attempt_error failed]
      exact (none place).symm
  ext := by
    intro nacm other same same' values
    have enableNacm := values (.flag .enableNacm)
    have enableExternalGroups := values (.flag .enableExternalGroups)
    have readDefault := values (.default .read)
    have writeDefault := values (.default .write)
    have execDefault := values (.default .exec)
    have groups := values .groups
    have ruleLists := values .ruleLists
    simp only [Nacm.valueAt, NacmValue.flag.injEq, NacmValue.action.injEq,
      NacmValue.groups.injEq, NacmValue.ruleLists.injEq] at *
    have operations := same.operations.trans same'.operations.symm
    have dataWrites := same.dataWrites.trans same'.dataWrites.symm
    have notifications := same.notifications.trans same'.notifications.symm
    obtain ⟨_, _, _, _, _, _, _, _, _, _⟩ := nacm
    obtain ⟨_, _, _, _, _, _, _, _, _, _⟩ := other
    simp_all

/-! ## Rejected requests -/

/-- Elements of an edit for single interfaces. -/
def ifaceItems (config : Element) : List Element :=
  ((config.child "interfaces").map fun ifaces => ifaces.childrenNamed "interface").getD []

/-- The elements of an edit are all accepted, or what those up to the first refused one do comes to
nothing at every place. -/
def LeavesNothing (state : DeviceState) (element : Element) : Module → Prop
  | .interfaces =>
    (∀ iface ∈ ifaceItems element, ifaceAccepted state.interfaces.keys iface = true) ∨
      ∀ place value, lastWrite (ifaceWrites state.interfaces.keys)
        (reached (ifaceAccepted state.interfaces.keys) (ifaceItems element)) place = some value →
          value = state.leafAt place
  | .nacm =>
    (∀ part ∈ nacmParts element, part.accepted = true) ∨
      ∀ place, (reached NacmPart.accepted (nacmParts element)).foldl
        (fun value part => part.effect place value) (state.nacm.valueAt place) =
          state.nacm.valueAt place

theorem applyEditConfig_rejected_iff (config : Element) :
    ((applyEditConfig state config).1 ≠ none → (applyEditConfig state config).2 = state) ↔
      LeavesNothing state config .interfaces := by
  unfold applyEditConfig LeavesNothing ifaceItems
  cases config.child "interfaces" with
  | none => simp
  | some ifaces =>
    have writes := writes_editInterface state
    have holds := SameRest.refl state
    have accepted := writes.runUntil_eq_none_iff holds (ifaces.childrenNamed "interface")
    have unchanged := writes.unchanged_iff holds (ifaces.childrenNamed "interface")
    simp only [foldl_write_eq_iff] at unchanged
    simp only [Option.map_some, Option.getD_some, ← accepted, ← unchanged, applyUntil]
    exact (or_iff_not_imp_left).symm

theorem applyNacmEdit_rejected_iff :
    ((applyNacmEdit state element).1 ≠ none → (applyNacmEdit state element).2.nacm = state.nacm) ↔
      LeavesNothing state element .nacm := by
  have writes := writes_editPart state.nacm
  have holds : SameCounts state.nacm state.nacm := ⟨rfl, rfl, rfl⟩
  have accepted := writes.runUntil_eq_none_iff holds (nacmParts element)
  have unchanged := writes.unchanged_iff holds (nacmParts element)
  unfold LeavesNothing
  simp only [← accepted, ← unchanged]
  exact (or_iff_not_imp_left).symm

/-- An edit changes nothing if it changes nothing that is configured. -/
theorem DeviceState.eq_of_config {state other : DeviceState} (same : state.config = other.config)
    (nacm : state.nacm = other.nacm) : state = other := by
  have hostname := congrArg hostname same
  have interfaces := congrArg interfaces same
  have users := congrArg users same
  obtain ⟨_, _, _, _⟩ := state
  obtain ⟨_, _, _, _⟩ := other
  simp_all [config]

theorem Nacm.eq_of_config {nacm other : Nacm} (same : nacm.config = other.config)
    (counts : SameCounts other nacm) : nacm = other := by
  obtain ⟨operations, dataWrites, notifications⟩ := counts
  obtain ⟨_, _, _, _, _, _, _, _, _, _⟩ := nacm
  obtain ⟨_, _, _, _, _, _, _, _, _, _⟩ := other
  simp_all [Nacm.config]

/-- An edit that is rejected leaves everything configured as it was if and only if it leaves
nothing. -/
theorem applyEdit_rejected_iff : ((applyEdit state module element).1 ≠ none →
      (applyEdit state module element).2.config = state.config) ↔
        LeavesNothing state element module := by
  cases module with
  | interfaces =>
    rw [← applyEditConfig_rejected_iff]
    refine imp_congr_right fun _ => ⟨fun same => ?_, fun same => congrArg config same⟩
    exact eq_of_config same (nacm_applyEditConfig state element)
  | nacm =>
    rw [← applyNacmEdit_rejected_iff]
    refine imp_congr_right fun _ => ⟨fun same => ?_, fun same => ?_⟩
    · have counts := (writes_editPart state.nacm).invariant_runUntil ⟨rfl, rfl, rfl⟩
        (nacmParts element)
      exact Nacm.eq_of_config (congrArg nacm same) counts
    · have unchanged : (applyNacmEdit state element).2 = state :=
        congrArg (fun nacm => { state with nacm := nacm }) same
      exact congrArg config unchanged

def Reply.IsError : Reply → Prop
  | .error _ _ _ _ => True
  | _ => False

theorem isError_editReply (failure : Option String) :
    (editReply messageId failure).IsError ↔ failure ≠ none := by
  cases failure with
  | none => exact iff_of_false not_false (not_not_intro rfl)
  | some message => exact iff_of_true trivial (Option.some_ne_none message)

theorem config_readModule (user : String) :
    (readModule state messageId module user).2.config = state.config := by
  rcases readModule_cases state messageId module user with ⟨-, data⟩ | denial
  · rw [data]
  · exact denial.1

def oneInterface : DeviceState :=
  { interfaces := OrderedMap.empty.insert "GigabitEthernet0/0"
      { ip := "10.0.0.1", prefixLength := some 24, status := some "up" }
    nacm := { writeDefault := .permit } }

def partialEdit : Element :=
  .node "rpc" [] "" [.node "edit-config" [] "" [.node "config" [] "" [.node "interfaces" [] ""
    [.node "interface" [] "" [.node "name" [] "GigabitEthernet0/0" [],
      .node "description" [] "uplink" []],
    .node "interface" [] "" [.node "name" [] "GigabitEthernet9/9" []]]]]]

/-- A request to clear the description of the interface and to delete the name of the device. -/
def partialSet : Gnmi.SetRequest :=
  { delete := [[⟨"interfaces", []⟩, ⟨"interface", [("name", "GigabitEthernet0/0")]⟩,
      ⟨"description", []⟩], [⟨"native", []⟩, ⟨"hostname", []⟩]]
    replace := []
    update := [] }

/-- Texts are shown as they are, and none is JSON. -/
def verbatim : Gnmi.Texts where
  str := fun value => match value with
    | .text text => text
    | _ => ""
  loads := fun _ => none

end NetLab.Netconf
