import NetLab.Gnmi.Set

/-!
# Values that are set and read back

`getValue` gives back what was set on an interface, where a text survives being read as JSON and no
default of `_iface_json` stands in for what was stored.
-/

namespace NetLab.Gnmi

open List Option

open NetLab.Library NetLab.Netconf

variable {written : InfoChange} (name : String)

/-! ## Reading -/

/-- Names of the elements that hold the name of the device. -/
def nativeRoots : List String := ["Cisco-IOS-XE-native:native", "native"]

/-- Names of the elements that hold the interfaces. -/
def interfaceRoots : List String :=
  ["ietf-interfaces:interfaces", "interfaces", "openconfig-interfaces:interfaces"]

/-- An address and its mask, as members of an interface. -/
def addressJson (ip netmask : String) : Value :=
  .object [("address", .list [.object [("ip", .text ip), ("netmask", .text netmask)]])]

/-- The prefix length that is read: a missing one, and zero, stand for 24. -/
def readLength (info : IfaceInfo) : Nat :=
  if info.prefixLength.getD 24 = 0 then 24 else info.prefixLength.getD 24

/-- The members of an interface that are read whatever its address is. -/
def plainMembers (name : String) (info : IfaceInfo) : List (String × Value) :=
  [("name", .text name), ("type", .text "iana-if-type:ethernetCsmacd"),
    ("enabled", .bool info.enabled)] ++
    if info.shownDesc ≠ "" then [("description", .text info.shownDesc)] else []

/-- `_iface_json`. A prefix length over 32 raises an exception. -/
def ifaceJson (name : String) (info : IfaceInfo) : Option (List (String × Value)) :=
  if info.ip ≠ "" then
    (prefixToMask (readLength info)).map fun netmask =>
      plainMembers name info ++ [("ietf-ip:ipv4", addressJson info.ip netmask)]
  else some (plainMembers name info)

def interfacesJson (state : DeviceState) : Option Value :=
  (state.interfaces.entries.mapM fun entry => (ifaceJson entry.1 entry.2).map Value.object).map
    fun items => .object [("interface", .list items)]

/-- `get_value`: nothing where an exception is raised, and `some none` where there is no value. -/
def getValue (state : DeviceState) (path : List PathElem) : Option (Option Value) :=
  match path with
  | [] => some none
  | head :: rest =>
    if head.name ∈ nativeRoots then
      if rest = [] then some (some (.object [("hostname", .text state.hostname)]))
      else if rest.map PathElem.name = ["hostname"] then some (some (.text state.hostname))
      else some none
    else if head.name ∈ interfaceRoots then
      match rest with
      | [] => (interfacesJson state).map some
      | interface :: leaves =>
        if interface.name ≠ "interface" then some none
        else
          let key := (interface.keys.lookup "name").getD ""
          if key = "" then (interfacesJson state).map some
          else
            match state.interfaces.lookup key with
            | none => some none
            | some info =>
              (ifaceJson key info).map fun entry =>
                match leaves with
                | [] => some (.object entry)
                | leaf :: _ => entry.lookup leaf.name
    else some none

/-- `set_value`. -/
def setValue (texts : Texts) (state : DeviceState) (path : List PathElem) (value : Value)
    (delete : Bool) : Option SetError × DeviceState :=
  (setValuePlan texts state.interfaces.keys path value delete).run state

/-! ## Edits of one interface -/

/-- A mask with ones at the start and zeros after them. -/
def contiguousMask (length : Nat) : String :=
  ".".intercalate ([0, 8, 16, 24].map fun start => (256 - 2 ^ (8 - min 8 (length - start))).repr)

/-- An address with the length of its mask. -/
structure Address where
  ip : String
  length : Nat
  fits : length ≤ 32

/-- The members that are given for an interface. -/
structure Container where
  description : Option String := none
  enabled : Option Bool := none
  address : Option Address := none

def Container.members (given : Container) : List (String × Value) :=
  (given.description.map fun text => ("description", Value.text text)).toList ++
    (given.enabled.map fun flag => ("enabled", Value.bool flag)).toList ++
    (given.address.map fun address =>
      ("ietf-ip:ipv4", addressJson address.ip (contiguousMask address.length))).toList

/-- An edit of one interface. A description arrives as a text or as its bytes. -/
inductive Edit where
  | description (text : String) (encoded : Bool)
  | enabled (flag : Bool)
  | container (given : Container)
  | delete (leaf : String) (named : leaf ≠ "")

namespace Edit

/-- The leaf that is edited; nothing for the interface itself. -/
def leaf : Edit → Option String
  | description _ _ => some "description"
  | enabled _ => some "enabled"
  | container _ => none
  | delete leaf _ => some leaf

/-- The value that is set. -/
def value : Edit → Value
  | description text encoded => if encoded then .bytes text.toUTF8 else .text text
  | enabled flag => .bool flag
  | container given => .object given.members
  | delete _ _ => .null

def deletes : Edit → Bool
  | delete _ _ => true
  | _ => false

def ReadBack (answer : Option (Option Value)) : Edit → Prop
  | description text _ => answer = some (some (.text text))
  | enabled flag => answer = some (some (.bool flag))
  | container given => ∃ members, answer = some (some (.object members)) ∧
      ∀ name value, (name, value) ∈ given.members → members.lookup name = some value
  | delete _ _ => answer = some none

def places (key : String) : Edit → List Place
  | description _ _ => [.desc key]
  | enabled _ => [.status key]
  | container given =>
    (given.description.map fun _ => Place.desc key).toList ++
      (given.enabled.map fun _ => Place.status key).toList ++
      if given.address.isSome then [.ip key, .prefixLength key] else []
  | delete leaf _ => if leaf = "description" then [.desc key] else [.ip key, .prefixLength key]

end Edit

/-- An interface that a path names. -/
structure Target where
  root : PathElem
  known : root.name ∈ interfaceRoots
  key : String
  named : key ≠ ""
  keys : List (String × String)
  keyed : keys.lookup "name" = some key
  leafKeys : List (String × String) := []
  further : List PathElem := []

def Target.path (target : Target) (leaf : Option String) : List PathElem :=
  target.root :: ⟨"interface", target.keys⟩ :: match leaf with
    | none => []
    | some leaf => ⟨leaf, target.leafKeys⟩ :: target.further

theorem Target.known_root (target : Target) : target.root.name = "ietf-interfaces:interfaces" ∨
    target.root.name = "interfaces" ∨ target.root.name = "openconfig-interfaces:interfaces" := by
  simpa [interfaceRoots] using target.known

theorem Target.not_native (target : Target) :
    ¬ (target.root.name = "Cisco-IOS-XE-native:native" ∨ target.root.name = "native") := by
  rcases target.known_root with name | name | name <;> simp [name]

/-- If an edit succeeds, its path gives the value back that was set, and everything else is as it
was. -/
def RoundTrip (texts : Texts) (state : DeviceState) (target : Target) (edit : Edit) : Prop :=
  let outcome := setValue texts state (target.path edit.leaf) edit.value edit.deletes
  outcome.1 = none →
    edit.ReadBack (getValue outcome.2 (target.path edit.leaf)) ∧ SameRest state outcome.2 ∧
      ∀ place ∉ edit.places target.key, outcome.2.leafAt place = state.leafAt place

/-! ## What is read of an interface -/

/-- A prefix length that can be written as a mask. -/
def Readable (info : IfaceInfo) : Prop := info.ip = "" ∨ info.prefixLength.getD 24 ≤ 32

instance : DecidablePred Readable := fun _ => inferInstanceAs (Decidable (_ ∨ _))

theorem prefixToMask_eq {length : Nat} (fits : length ≤ 32) :
    prefixToMask length = some (contiguousMask length) := by
  have all : ∀ length : Fin 33, prefixToMask length = some (contiguousMask length) := by
    decide +kernel
  exact all ⟨length, by omega⟩

theorem maskToPrefix_contiguousMask {length : Nat} (fits : length ≤ 32) :
    maskToPrefix (contiguousMask length) = length := by
  have all : ∀ length : Fin 33, maskToPrefix (contiguousMask length) = length := by
    decide +kernel
  exact all ⟨length, by omega⟩

theorem contiguousMask_inj {length other : Nat} (fits : length ≤ 32) (fits' : other ≤ 32)
    (same : contiguousMask length = contiguousMask other) : length = other := by
  rw [← maskToPrefix_contiguousMask fits, same, maskToPrefix_contiguousMask fits']

theorem readLength_le {info : IfaceInfo} (fits : info.prefixLength.getD 24 ≤ 32) :
    readLength info ≤ 32 := by
  unfold readLength
  split <;> omega

def readMembers (name : String) (info : IfaceInfo) : List (String × Value) :=
  plainMembers name info ++ if info.ip ≠ "" then
      [("ietf-ip:ipv4", addressJson info.ip (contiguousMask (readLength info)))]
    else []

theorem ifaceJson_of_readable {info : IfaceInfo} (readable : Readable info) :
    ifaceJson name info = some (readMembers name info) := by
  unfold ifaceJson readMembers
  by_cases bare : info.ip = ""
  · simp [bare]
  · have fits := readable.resolve_left bare
    simp [bare, prefixToMask_eq (readLength_le fits)]

theorem ifaceJson_of_not_readable {info : IfaceInfo} (failing : ¬ Readable info) :
    ifaceJson name info = none := by
  obtain ⟨bare, long⟩ := not_or.mp failing
  have tooLong : 32 < readLength info := by
    unfold readLength
    split <;> omega
  simp [ifaceJson, bare, prefixToMask, tooLong]

theorem lookup_enabled (info : IfaceInfo) :
    (readMembers name info).lookup "enabled" = some (.bool info.enabled) := by
  simp [readMembers, plainMembers, lookup_cons]

theorem lookup_description (info : IfaceInfo) : (readMembers name info).lookup "description" =
      if info.shownDesc = "" then none else some (.text info.shownDesc) := by
  by_cases bare : info.ip = "" <;> by_cases plain : info.shownDesc = "" <;>
    simp [readMembers, plainMembers, bare, plain, lookup_cons]

theorem lookup_address (info : IfaceInfo) : (readMembers name info).lookup "ietf-ip:ipv4" =
      if info.ip = "" then none
      else some (addressJson info.ip (contiguousMask (readLength info))) := by
  by_cases bare : info.ip = "" <;> by_cases plain : info.shownDesc = "" <;>
    simp [readMembers, plainMembers, bare, plain, lookup_cons]

theorem lookup_ipv4 (info : IfaceInfo) : (readMembers name info).lookup "ipv4" = none := by
  by_cases bare : info.ip = "" <;> by_cases plain : info.shownDesc = "" <;>
    simp [readMembers, plainMembers, bare, plain, lookup_cons]

/-! ## What an edit does -/

section Edits

variable (texts : Texts)

/-- A text after it was read as JSON and written again. -/
def sniffed (text : String) : String := texts.str ((texts.loads text).getD (.text text))

/-- The keys that a container sets. -/
def Container.change (given : Container) : InfoChange :=
  { ip := (given.address.map Address.ip).filter (· ≠ "")
    prefixLength := (given.address.filter (·.ip ≠ "")).map Address.length
    status := given.enabled.map fun flag => statusOf (.bool flag)
    desc := given.description.map fun text => texts.str (.text text) }

/-- The keys that an edit sets; nothing for a leaf that cannot be deleted. -/
def Edit.change : Edit → Option InfoChange
  | description text _ => some { desc := some (sniffed texts text) }
  | enabled flag => some { status := some (statusOf (.bool flag)) }
  | container given => some (given.change texts)
  | delete leaf _ =>
    if leaf = "description" then some { desc := some "" }
    else if leaf = "ietf-ip:ipv4" ∨ leaf = "ipv4" then
      some { ip := some "", prefixLength := some 0 }
    else none

variable {name : String} (given : Container)

theorem addressChange_members : addressChange texts given.members =
      ({ ip := (given.address.map Address.ip).filter (· ≠ "")
         prefixLength := (given.address.filter (·.ip ≠ "")).map Address.length }, false) := by
  obtain ⟨description, enabled, address⟩ := given
  cases address with
  | none =>
    cases description <;> cases enabled <;>
      simp [addressChange, Container.members, Value.truthyMember, lookup_cons]
  | some address =>
    have found : Value.truthyMember (Container.mk description enabled (some address)).members
        "ietf-ip:ipv4" = some (addressJson address.ip (contiguousMask address.length)) := by
      cases description <;> cases enabled <;>
        simp [Container.members, Value.truthyMember, lookup_cons, addressJson, Value.truthy]
    have listed : Value.truthyMember [("address", Value.list [.object [("ip", .text address.ip),
        ("netmask", .text (contiguousMask address.length))]])] "address" =
          some (.list [.object [("ip", .text address.ip),
            ("netmask", .text (contiguousMask address.length))]]) := rfl
    have ip : Value.truthyMember [("ip", .text address.ip),
        ("netmask", .text (contiguousMask address.length))] "ip" =
          if address.ip = "" then none else some (.text address.ip) := by
      by_cases bare : address.ip = "" <;>
        simp [Value.truthyMember, Value.truthy, Option.filter, bare]
    simp only [addressChange, found, some_or, addressJson, listed, Value.first, head?_cons, ip]
    by_cases bare : address.ip = "" <;>
      simp [lookup_cons, Option.filter, bare, maskToPrefix_contiguousMask address.fits]

theorem membersChange_members :
    membersChange texts given.members = (given.change texts, false) := by
  unfold membersChange
  rw [addressChange_members]
  obtain ⟨description, enabled, address⟩ := given
  cases description <;> cases enabled <;>
    simp [Container.members, Container.change, lookup_cons]

variable {texts} {state : DeviceState} {target : Target} {info : IfaceInfo}

section

variable (present : target.key ∈ state.interfaces.keys) (leaf : Option String)
include present leaf

theorem setValuePlan_delete (value : Value) :
    setValuePlan texts state.interfaces.keys (target.path leaf) value true =
      deletePlan target.key (leaf.getD "") := by
  cases leaf <;>
    simp [setValuePlan, Target.path, target.not_native, target.known_root, target.keyed,
      target.named, present]

theorem setValuePlan_write {value : Value} (plain : ∀ data, value ≠ .bytes data) :
    setValuePlan texts state.interfaces.keys (target.path leaf) value false =
      writePlan texts target.key (leaf.getD "") value := by
  cases leaf <;> cases value <;>
    simp_all [setValuePlan, Target.path, target.not_native, target.known_root, target.keyed,
      target.named]

theorem setValuePlan_bytes (text : String) :
    setValuePlan texts state.interfaces.keys (target.path leaf) (.bytes text.toUTF8) false =
      writePlan texts target.key (leaf.getD "") (.text text) := by
  have decoded : String.fromUTF8? text.toByteArray = some text := by
    simp [String.fromUTF8?, text.isValidUTF8, String.fromUTF8]
  cases leaf <;>
    simp [setValuePlan, Target.path, target.not_native, target.known_root, target.keyed,
      target.named, present, decoded]

end

theorem setValue_target (found : state.interfaces.lookup target.key = some info) (edit : Edit) :
    setValue texts state (target.path edit.leaf) edit.value edit.deletes =
      match edit.change texts with
      | some written => (none, state.change target.key written)
      | none => (some (.abort ("cannot delete " ++ edit.leaf.getD "")), state) := by
  have present : target.key ∈ state.interfaces.keys := OrderedMap.mem_keys_iff.mpr ⟨info, found⟩
  unfold setValue
  cases edit with
  | description text encoded =>
    have plan : setValuePlan texts state.interfaces.keys (target.path (some "description"))
        (Edit.description text encoded).value false =
          writePlan texts target.key "description" (.text text) := by
      cases encoded
      · exact setValuePlan_write present _ fun _ => Value.noConfusion
      · exact setValuePlan_bytes present _ text
    exact congrArg (fun plan => plan.run state) plan
  | enabled flag =>
    have plan : setValuePlan texts state.interfaces.keys _ (.bool flag) false = _ :=
      setValuePlan_write present (some "enabled") fun _ => Value.noConfusion
    exact congrArg (fun plan => plan.run state) plan
  | container given =>
    have plan : setValuePlan texts state.interfaces.keys _ (.object given.members) false = _ :=
      setValuePlan_write present none fun _ => Value.noConfusion
    refine (congrArg (fun plan => plan.run state) plan).trans ?_
    simp [writePlan, membersChange_members, Plan.run, Edit.change]
  | delete leaf leafNamed =>
    have plan : setValuePlan texts state.interfaces.keys _ .null true = _ :=
      setValuePlan_delete present (some leaf) .null
    refine (congrArg (fun plan => plan.run state) plan).trans ?_
    simp only [deletePlan, getD_some, Edit.change]
    by_cases description : leaf = "description"
    · simp [description, Plan.run]
    · by_cases address : leaf = "ietf-ip:ipv4" ∨ leaf = "ipv4"
      · simp [description, address, Plan.run]
      · simp [description, address, leafNamed, Plan.run, Edit.leaf]

theorem getValue_target (found : state.interfaces.lookup target.key = some info)
    (leaf : Option String) :
    getValue state (target.path leaf) = (ifaceJson target.key info).map fun entry =>
        match leaf with
        | none => some (.object entry)
        | some leaf => entry.lookup leaf := by
  have notNative : target.root.name ∉ nativeRoots := by
    simpa [nativeRoots] using target.not_native
  cases leaf <;>
    simp [getValue, Target.path, notNative, target.known, target.keyed, target.named, found]

theorem writes_of_not_mem_places {edit : Edit} (change : edit.change texts = some written)
    {key : String} {place : Place} (elsewhere : place ∉ edit.places key) :
    written.writes key place = none := by
  cases edit with
  | description text encoded =>
    obtain rfl := Option.some.inj change
    cases place <;> simp_all [InfoChange.writes, Edit.places]
  | enabled flag =>
    obtain rfl := Option.some.inj change
    cases place <;> simp_all [InfoChange.writes, Edit.places]
  | container given =>
    obtain rfl := Option.some.inj change
    obtain ⟨description, enabled, address⟩ := given
    cases place <;> cases description <;> cases enabled <;> cases address <;>
      simp_all [InfoChange.writes, Edit.places, Container.change]
  | delete leaf named =>
    simp only [Edit.change] at change
    split at change
    · obtain rfl := Option.some.inj change
      cases place <;> simp_all [InfoChange.writes, Edit.places]
    · split at change
      · obtain rfl := Option.some.inj change
        cases place <;> simp_all [InfoChange.writes, Edit.places]
      · cases change

/-! ## The round trip -/

/-- The value of an edit survives on an interface: what stands in for a missing or an unreadable
value does not stand in for it. -/
def Edit.Survives (texts : Texts) (info : IfaceInfo) : Edit → Prop
  | description text _ => text ≠ "" ∧ Readable info ∧
      (sniffed texts text = text ∨ sniffed texts text = "" ∧ info.description = some text)
  | enabled _ => Readable info
  | container given => given.description ≠ some "" ∧
      match given.address with
      | none => Readable info
      | some address => address.ip ≠ "" ∧ address.length ≠ 0
  | delete leaf _ => leaf = "description" → Readable info ∧ info.description.getD "" = ""

theorem readBack_description {written : IfaceInfo} {text : String} {encoded : Bool} :
    (Edit.description text encoded).ReadBack
        ((ifaceJson name written).map fun entry => entry.lookup "description") ↔
      text ≠ "" ∧ Readable written ∧ written.shownDesc = text := by
  by_cases readable : Readable written
  · rw [ifaceJson_of_readable name readable, map_some, lookup_description]
    by_cases plain : written.shownDesc = ""
    · simp [Edit.ReadBack, plain]
      grind
    · simp [Edit.ReadBack, plain, readable]
      grind
  · simp [ifaceJson_of_not_readable name readable, Edit.ReadBack, readable]

theorem readBack_enabled {written : IfaceInfo} {flag : Bool} : (Edit.enabled flag).ReadBack
        ((ifaceJson name written).map fun entry => entry.lookup "enabled") ↔
      Readable written ∧ written.enabled = flag := by
  by_cases readable : Readable written
  · rw [ifaceJson_of_readable name readable, map_some, lookup_enabled]
    simp [Edit.ReadBack, readable]
  · simp [ifaceJson_of_not_readable name readable, Edit.ReadBack, readable]

theorem readBack_container {written : IfaceInfo} {given : Container} :
    (Edit.container given).ReadBack
        ((ifaceJson name written).map fun entry => some (.object entry)) ↔
      Readable written ∧
        (∀ text, given.description = some text → text ≠ "" ∧ written.shownDesc = text) ∧
        (∀ flag, given.enabled = some flag → written.enabled = flag) ∧
        ∀ address, given.address = some address →
          written.ip ≠ "" ∧ written.ip = address.ip ∧ readLength written = address.length := by
  by_cases readable : Readable written
  · have members : (∃ members, (ifaceJson name written).map (fun entry => some (Value.object entry))
        = some (some (.object members)) ∧
          ∀ name value, (name, value) ∈ given.members → members.lookup name = some value) ↔
        ∀ member value, (member, value) ∈ given.members →
          (readMembers name written).lookup member = some value := by
      simp [ifaceJson_of_readable name readable]
    refine members.trans ?_
    simp only [readable, true_and, Container.members, mem_append, mem_toList,
      map_eq_some_iff, Prod.mk.injEq]
    constructor
    · intro found
      refine ⟨fun text set => ?_, fun flag set => ?_, fun address set => ?_⟩
      · have description := found "description" (.text text) (.inl (.inl ⟨text, set, rfl, rfl⟩))
        rw [lookup_description] at description
        grind
      · have enabled := found "enabled" (.bool flag) (.inl (.inr ⟨flag, set, rfl, rfl⟩))
        rw [lookup_enabled] at enabled
        simpa using enabled
      · have there := found "ietf-ip:ipv4" _ (.inr ⟨address, set, rfl, rfl⟩)
        rw [lookup_address] at there
        split at there
        · cases there
        · rename_i bare
          have fits := readLength_le (readable.resolve_left bare)
          simp only [addressJson, Option.some.injEq, Value.object.injEq, Value.list.injEq,
            List.cons.injEq, Prod.mk.injEq, Value.text.injEq, true_and, and_true] at there
          exact ⟨bare, there.1, contiguousMask_inj fits address.fits there.2⟩
    · rintro ⟨description, enabled, there⟩ member value ((⟨text, set, rfl, rfl⟩ |
        ⟨flag, set, rfl, rfl⟩) | ⟨address, set, rfl, rfl⟩)
      · obtain ⟨shown, rfl⟩ := description text set
        rw [lookup_description, if_neg shown]
      · rw [lookup_enabled, enabled flag set]
      · obtain ⟨bare, ip, length⟩ := there address set
        rw [lookup_address, if_neg bare, ip, length]
  · simp [ifaceJson_of_not_readable name readable, Edit.ReadBack, readable]

theorem enabled_apply {flag : Bool} (set : written.status = some (statusOf (.bool flag))) :
    (written.apply info).enabled = flag := by
  cases flag <;> simp [InfoChange.apply, set, IfaceInfo.enabled, statusOf, Value.isTrue]

theorem shownDesc_apply {text : String} (set : written.desc = some text) :
    (written.apply info).shownDesc = if text ≠ "" then text else info.description.getD "" := by
  simp [InfoChange.apply, set, IfaceInfo.shownDesc]

/-- An edit that sets no address leaves an interface as readable as it was. -/
theorem readable_apply (ip : written.ip = none) (length : written.prefixLength = none) :
    Readable (written.apply info) ↔ Readable info := by
  simp [Readable, InfoChange.apply, ip, length]

theorem readBack_iff (plain : ∀ text, texts.str (.text text) = text) {edit : Edit}
    (change : edit.change texts = some written) {name : String} :
    edit.ReadBack ((ifaceJson name (written.apply info)).map fun entry =>
        match edit.leaf with
        | none => some (.object entry)
        | some leaf => entry.lookup leaf) ↔
      edit.Survives texts info := by
  cases edit with
  | description text encoded =>
    obtain rfl := Option.some.inj change
    refine readBack_description.trans ?_
    rw [readable_apply rfl rfl, shownDesc_apply rfl]
    simp only [Edit.Survives]
    by_cases lost : sniffed texts text = ""
    · cases own : info.description <;> grind
    · grind
  | enabled flag =>
    obtain rfl := Option.some.inj change
    refine readBack_enabled.trans ?_
    rw [readable_apply rfl rfl, enabled_apply rfl]
    simp [Edit.Survives]
  | container given =>
    obtain rfl := Option.some.inj change
    refine readBack_container.trans ?_
    have described : (∀ text, given.description = some text →
        text ≠ "" ∧ ((given.change texts).apply info).shownDesc = text) ↔
          given.description ≠ some "" := by
      cases set : given.description with
      | none => simp
      | some text =>
        have desc : (given.change texts).desc = some text := by
          simp [Container.change, set, plain]
        simp only [shownDesc_apply desc]
        grind
    have enabled : ∀ flag, given.enabled = some flag →
        ((given.change texts).apply info).enabled = flag := by
      intro flag set
      apply enabled_apply
      simp [Container.change, set]
    have addressed : (Readable ((given.change texts).apply info) ∧ ∀ address,
        given.address = some address → ((given.change texts).apply info).ip ≠ "" ∧
            ((given.change texts).apply info).ip = address.ip ∧
            readLength ((given.change texts).apply info) = address.length) ↔
        match given.address with
        | none => Readable info
        | some address => address.ip ≠ "" ∧ address.length ≠ 0 := by
      cases set : given.address with
      | none =>
        have ip : (given.change texts).ip = none := by simp [Container.change, set]
        have length : (given.change texts).prefixLength = none := by
          simp [Container.change, set]
        simp [readable_apply ip length]
      | some address =>
        by_cases bare : address.ip = ""
        · constructor
          · rintro ⟨_, there⟩
            obtain ⟨shown, same, _⟩ := there address rfl
            exact absurd (same.trans bare) shown
          · rintro ⟨given, _⟩
            exact absurd bare given
        · have ip : (given.change texts).ip = some address.ip := by
            simp [Container.change, set, Option.filter, bare]
          have length : (given.change texts).prefixLength = some address.length := by
            simp [Container.change, set, Option.filter, bare]
          have fits := address.fits
          simp only [Readable, InfoChange.apply, readLength, ip, length, getD_some,
            some_or, bare, false_or]
          grind
    simp only [Edit.Survives, described, ← addressed]
    tauto
  | delete leaf named =>
    simp only [Edit.change] at change
    split at change
    · rename_i description
      obtain rfl := description
      obtain rfl := Option.some.inj change
      have same : Readable (({ desc := some "" } : InfoChange).apply info) ↔ Readable info :=
        readable_apply rfl rfl
      by_cases readable : Readable info
      · simp [ifaceJson_of_readable name (same.mpr readable), lookup_description,
          shownDesc_apply, Edit.leaf, Edit.ReadBack, Edit.Survives, readable]
      · simp [ifaceJson_of_not_readable name (mt same.mp readable), Edit.leaf, Edit.ReadBack,
          Edit.Survives, readable]
    · rename_i other
      split at change
      · rename_i address
        obtain rfl := Option.some.inj change
        have readable : Readable (({ ip := some "", prefixLength := some 0 } :
            InfoChange).apply info) := .inl rfl
        rw [ifaceJson_of_readable name readable]
        rcases address with rfl | rfl
        · simp [Edit.leaf, Edit.ReadBack, Edit.Survives, lookup_address, InfoChange.apply]
        · simp [Edit.leaf, Edit.ReadBack, Edit.Survives, lookup_ipv4]
      · cases change

/-- What is set on an interface is read back from it, and nothing else is changed, if and only if
its value survives. -/
theorem roundTrip_iff (plain : ∀ text, texts.str (.text text) = text)
    (found : state.interfaces.lookup target.key = some info) (edit : Edit) :
    RoundTrip texts state target edit ↔ edit.Survives texts info := by
  have present : target.key ∈ state.interfaces.keys := OrderedMap.mem_keys_iff.mpr ⟨info, found⟩
  unfold RoundTrip
  rw [setValue_target found]
  cases change : edit.change texts with
  | none =>
    cases edit with
    | delete leaf named => 
        have kept : leaf ≠ "description" := by
          rintro rfl
          simp [Edit.change] at change
        simp [Edit.Survives, kept]
    | _ => cases change
  | some written =>
    have there : (state.change target.key written).interfaces.lookup target.key =
        some (written.apply info) := by
      simp [DeviceState.change, found]
    have rest : SameRest state (state.change target.key written) :=
      (SameRest.refl state).change target.key written
    have leaves : ∀ place ∉ edit.places target.key,
        (state.change target.key written).leafAt place = state.leafAt place := by
      intro place elsewhere
      rw [leafAt_change written present, writes_of_not_mem_places change elsewhere]
      rfl
    simp only [true_imp_iff, getValue_target there]
    rw [readBack_iff plain change]
    exact ⟨fun trip => trip.1, fun survives => ⟨survives, rest, leaves⟩⟩

end Edits

/-! ## Runs -/

def oneInterface : DeviceState :=
  { interfaces := OrderedMap.empty.insert "Gi1" { ip := "10.0.0.1", prefixLength := some 24 } }

/-- The path of that interface. -/
def gi1 : Target where
  root := ⟨"interfaces", []⟩
  known := by decide
  key := "Gi1"
  named := by decide
  keys := [("name", "Gi1")]
  keyed := rfl

/-- Reading and writing of texts, as far as the language has them for these texts. -/
def someTexts : Texts where
  str
    | .text text => text
    | .bool true => "True"
    | .bool false => "False"
    | _ => "None"
  loads
    | "true" => some (.bool true)
    | "false" => some (.bool false)
    | _ => none

/-- A description that is no JSON is read back. -/
theorem uplink_read_back :
    RoundTrip someTexts oneInterface gi1 (.description "uplink to core" false) :=
  have found : oneInterface.interfaces.lookup gi1.key =
      some { ip := "10.0.0.1", prefixLength := some 24 } := by decide
  (roundTrip_iff (fun _ => rfl) found _).mpr (by simp [Edit.Survives, Readable, sniffed, someTexts])

/-- The description `true` is read back as `True`. -/
theorem true_rewritten : ¬ RoundTrip someTexts oneInterface gi1 (.description "true" false) := by
  intro trip
  have back := (trip rfl).1
  have read : getValue (setValue someTexts oneInterface (gi1.path (some "description"))
      (.text "true") false).2 (gi1.path (some "description")) = some (some (.text "True")) := rfl
  have same : some (some (Value.text "True")) = some (some (Value.text "true")) :=
    read.symm.trans back
  simp at same

end NetLab.Gnmi
