import NetLab.Netconf.ReadReply

/-!
# Reading back an edit

`reads_prescribed` says that a read after an edit shows what the edit prescribes, as long as the edit
is within what the device carries out.
-/

namespace NetLab.Netconf

open NetLab.Library NetLab.Execution IfaceInfo
open OrderedMap List Option Function

/-! ## Edits that are carried out -/

/-- A mask whose ones all come before its zeros. -/
def IsMask (text : String) : Prop := ∃ prefixLength ≤ 32, prefixToMask prefixLength = some text

def ForLeaf (named : Option Element) (unnamed : Prop) (holds : Element → Prop) : Prop :=
  match named with
  | none => unnamed
  | some element => holds element

variable {element : Element} {name : String}

theorem ForLeaf.of_named {named : Option Element} {unnamed : Prop} {holds : Element → Prop}
    (found : named = some element) (fits : holds element) : ForLeaf named unnamed holds := by
  subst found
  exact fits

/-- The address and the mask are given as they are stored, or else they are kept. -/
structure FitsAddress (operation : String) (start current : Option (String × String))
    (address : Element) : Prop where
  ip : ForLeaf (address.child "ip") (start = current ∧ current ≠ none) fun leaf =>
    leaf.operation operation ≠ "delete" ∧ leaf.text ≠ "" ∧ strip leaf.text = leaf.text
  netmask : ForLeaf (address.child "netmask") (start = current ∧ current ≠ none) fun leaf =>
    leaf.operation operation ≠ "delete" ∧ IsMask leaf.text

/-- No address is deleted, and one that is not given is not reset. -/
structure FitsIpv4 (operation : String) (start current : Option (String × String))
    (v4 : Element) : Prop where
  kept : v4.operation operation ≠ "delete"
  address : ForLeaf (v4.child "address") (startFrom (v4.operation operation) none start = current)
    fun address =>
      address.operation (v4.operation operation) ≠ "delete" ∧
        FitsAddress (address.operation (v4.operation operation))
          (startFrom (address.operation (v4.operation operation)) none
            (startFrom (v4.operation operation) none start)) current address

/-- The leaves of an edit are given as they are stored, where `start` is what the edit begins with
and `current` what the device has. A leaf that is not given is not reset, and the description that
is left empty is not shown by another key, `fallback`. -/
structure FitsLeaves (fallback operation : String) (start current : Leaves) (iface : Element) :
    Prop where
  enabled : ForLeaf (iface.child "enabled") (start.enabled = current.enabled) fun leaf =>
    if leaf.operation operation = "delete" then
      if leaf.text = "" then current.enabled = "true" else (strip leaf.text).toLower = "true"
    else leaf.text ∈ ["true", "false"]
  description : ForLeaf (iface.child "description") (start.description = current.description)
    fun leaf =>
      strip leaf.text = (if leaf.operation operation = "delete" then "" else leaf.text) ∧
        (strip leaf.text = "" → fallback = "")
  ipv4 : ForLeaf (iface.child "ipv4") (start.address = current.address)
    (FitsIpv4 operation start.address current.address)

/-- The edit of an interface does not delete it, and its leaves are carried out. -/
structure Fits (fallback operation : String) (base current : Leaves) (iface : Element) : Prop where
  kept : iface.operation operation ≠ "delete"
  leaves : FitsLeaves fallback (iface.operation operation)
    (startFrom (iface.operation operation) Leaves.reset base) current iface

section Interface

variable {iface : Element} {info : IfaceInfo} {operation fallback : String} {start current : Leaves}

theorem not_marked (kept : iface.operation operation ≠ "delete") : iface.marked = false := by
  rw [Element.marked, decide_eq_false_iff_not]
  intro marked
  rw [Element.operation, marked] at kept
  exact kept rfl

/-- The element `address` of an interface. -/
def addressOf (iface : Element) : Option Element :=
  (iface.child "ipv4").bind fun v4 => v4.child "address"

/-- The data of an interface after an edit that does not delete it. -/
theorem editedInfo_of_unmarked (info : IfaceInfo) (unmarked : iface.marked = false) :
    (editedInfo iface info).description = info.description ∧
    ((editedInfo iface info).status = match iface.child "enabled" with
      | some element =>
        if element.text ≠ "" then
          some (if (strip element.text).toLower = "true" then "up" else "down")
        else info.status
      | none => info.status) ∧
    ((editedInfo iface info).desc = match iface.child "description" with
      | some element => some (strip element.text)
      | none => info.desc) ∧
    ((editedInfo iface info).ip = match (addressOf iface).bind fun addr => addr.child "ip" with
      | some element => if element.text ≠ "" then strip element.text else info.ip
      | none => info.ip) ∧
    ((editedInfo iface info).prefixLength =
      match (addressOf iface).bind fun addr => addr.child "netmask" with
      | some element =>
        if element.text ≠ "" then some (maskToPrefix (strip element.text)) else info.prefixLength
      | none => info.prefixLength) := by
  rw [editedInfo, unmarked, if_neg Bool.false_ne_true]
  exact ⟨rfl, rfl, rfl, rfl, rfl⟩

theorem enabled_of_status {other : IfaceInfo} (same : info.status = other.status) :
    info.enabled = other.enabled := by
  rw [enabled, enabled, same]

theorem enabled_of_up (up : info.status = some "up") : boolName info.enabled = "true" := by
  rw [enabled, up]
  decide

theorem enabled_of_down (down : info.status = some "down") : boolName info.enabled = "false" := by
  rw [enabled, down]
  decide

theorem enabled_editedInfo (unmarked : iface.marked = false)
    (fits : FitsLeaves fallback operation start info.leaves iface) :
    boolName (editedInfo iface info).enabled =
      prescribeLeaf (iface.child "enabled") operation "true" start.enabled := by
  have fits := fits.enabled
  obtain ⟨-, status, -, -, -⟩ := editedInfo_of_unmarked info unmarked
  cases named : iface.child "enabled" with
  | none =>
    rw [named] at fits status
    rw [enabled_of_status status]
    exact fits.symm
  | some leaf =>
    rw [named, ForLeaf] at fits
    rw [named] at status
    dsimp only at status
    rw [prescribeLeaf]
    by_cases deletes : leaf.operation operation = "delete"
    · rw [if_pos deletes] at fits ⊢
      by_cases silent : leaf.text = ""
      · rw [if_pos silent] at fits
        rw [if_neg (not_not_intro silent)] at status
        rw [enabled_of_status status]
        exact fits
      · rw [if_neg silent] at fits
        rw [if_pos silent, if_pos fits] at status
        exact enabled_of_up status
    · rw [if_neg deletes] at fits ⊢
      rcases mem_pair.mp fits with isTrue | isFalse
      · have up : (strip "true").toLower = "true" := by decide +kernel
        rw [isTrue, if_pos (by decide), if_pos up] at status
        rw [isTrue, enabled_of_up status]
      · have down : (strip "false").toLower ≠ "true" := by decide +kernel
        rw [isFalse, if_pos (by decide), if_neg down] at status
        rw [isFalse, enabled_of_down status]

theorem description_editedInfo (unmarked : iface.marked = false)
    (key : info.description.getD "" = fallback)
    (fits : FitsLeaves fallback operation start info.leaves iface) :
    (editedInfo iface info).shownDesc =
      prescribeLeaf (iface.child "description") operation "" start.description := by
  have fits := fits.description
  obtain ⟨description, -, desc, -, -⟩ := editedInfo_of_unmarked info unmarked
  rw [shownDesc, description]
  cases named : iface.child "description" with
  | none =>
    rw [named] at fits desc
    rw [desc]
    exact fits.symm
  | some leaf =>
    rw [named, ForLeaf] at fits
    rw [named] at desc
    obtain ⟨stored, empty⟩ := fits
    rw [prescribeLeaf, desc, getD_some, ← stored, key]
    by_cases blank : strip leaf.text = ""
    · rw [if_neg (not_not_intro blank), empty blank, blank]
    · rw [if_pos blank]

theorem maskToPrefix_strip : ∀ prefixLength ≤ 32,
    (prefixToMask prefixLength).map (fun mask => maskToPrefix (strip mask)) = some prefixLength := by
  decide +kernel

theorem IsMask.ne_empty {mask : String} (isMask : IsMask mask) : mask ≠ "" := by
  obtain ⟨prefixLength, short, same⟩ := isMask
  have all : ∀ prefixLength ≤ 32, prefixToMask prefixLength ≠ some "" := by decide +kernel
  rintro rfl
  exact all prefixLength short same

theorem IsMask.prefixToMask_maskToPrefix {mask : String} (isMask : IsMask mask) :
    prefixToMask (maskToPrefix (strip mask)) = some mask := by
  obtain ⟨prefixLength, short, same⟩ := isMask
  have stored := maskToPrefix_strip prefixLength short
  rw [same, map_some] at stored
  rw [Option.some.inj stored]
  exact same

theorem address_of_kept {start : Option (String × String)}
    (kept : start = info.leaves.address ∧ info.leaves.address ≠ none) :
    info.ip ≠ "" ∧ start = some (info.ip, info.maskText) := by
  obtain ⟨rfl, present⟩ := kept
  have named : info.ip ≠ "" := fun empty => present (if_pos empty)
  exact ⟨named, if_neg named⟩

theorem maskText_of_prefixLength {other : IfaceInfo}
    (same : info.prefixLength = other.prefixLength) : info.maskText = other.maskText := by
  rw [maskText, maskText, same]

section Address

variable {start : Option (String × String)} {address : Element}

section

variable (unmarked : iface.marked = false) (found : addressOf iface = some address)
  (fits : FitsAddress operation start info.leaves.address address)
include unmarked found fits

theorem ip_editedInfo : (editedInfo iface info).ip ≠ "" ∧ (editedInfo iface info).ip =
      prescribeLeaf (address.child "ip") operation "" (start.getD ("", "")).1 := by
  have fits := fits.ip
  obtain ⟨-, -, -, ip, -⟩ := editedInfo_of_unmarked info unmarked
  rw [found, bind_some] at ip
  cases named : address.child "ip" with
  | none =>
    rw [named] at fits ip
    obtain ⟨present, rfl⟩ := address_of_kept fits
    exact ⟨fun empty => present (ip.symm.trans empty), ip⟩
  | some leaf =>
    rw [named, ForLeaf] at fits
    obtain ⟨kept, given, stored⟩ := fits
    rw [named] at ip
    dsimp only at ip
    rw [if_pos given, stored] at ip
    rw [ip, prescribeLeaf, if_neg kept]
    exact ⟨given, rfl⟩

theorem maskText_editedInfo : (editedInfo iface info).maskText =
      prescribeLeaf (address.child "netmask") operation "" (start.getD ("", "")).2 := by
  have fits := fits.netmask
  obtain ⟨-, -, -, -, stored⟩ := editedInfo_of_unmarked info unmarked
  rw [found, bind_some] at stored
  cases named : address.child "netmask" with
  | none =>
    rw [named] at fits stored
    obtain ⟨-, rfl⟩ := address_of_kept fits
    exact maskText_of_prefixLength stored
  | some leaf =>
    rw [named, ForLeaf] at fits
    obtain ⟨kept, isMask⟩ := fits
    rw [named] at stored
    dsimp only at stored
    rw [if_pos isMask.ne_empty] at stored
    rw [prescribeLeaf, if_neg kept]
    refine maskText_eq ?_
    rw [stored, getD_some]
    exact isMask.prefixToMask_maskToPrefix

end

/-- Without an element `address`, the address is kept. -/
theorem address_of_unnamed (unmarked : iface.marked = false) (none : addressOf iface = none) :
    (editedInfo iface info).leaves.address = info.leaves.address := by
  obtain ⟨-, -, -, ip, stored⟩ := editedInfo_of_unmarked info unmarked
  rw [none, bind_none] at ip stored
  rw [leaves, leaves]
  dsimp only at ip stored ⊢
  rw [ip, maskText_of_prefixLength stored]

theorem address_editedInfo (unmarked : iface.marked = false)
    (found : addressOf iface = some address)
    (fits : FitsAddress operation start info.leaves.address address) :
    (editedInfo iface info).leaves.address =
      some (prescribeLeaf (address.child "ip") operation "" (start.getD ("", "")).1,
        prescribeLeaf (address.child "netmask") operation "" (start.getD ("", "")).2) := by
  obtain ⟨present, ip⟩ := ip_editedInfo unmarked found fits
  rw [← ip, ← maskText_editedInfo unmarked found fits]
  exact if_neg present

end Address

theorem ipv4_editedInfo {start : Option (String × String)} (unmarked : iface.marked = false)
    (fits : ForLeaf (iface.child "ipv4") (start = info.leaves.address)
      (FitsIpv4 operation start info.leaves.address)) :
    (editedInfo iface info).leaves.address =
      prescribeIpv4 (iface.child "ipv4") operation start := by
  cases v4Named : iface.child "ipv4" with
  | none =>
    have unnamed : addressOf iface = none := by rw [addressOf, v4Named, bind_none]
    rw [v4Named] at fits
    rw [address_of_unnamed unmarked unnamed]
    exact fits.symm
  | some v4 =>
    have inside : addressOf iface = v4.child "address" := by
      rw [addressOf, v4Named, bind_some]
    rw [v4Named, ForLeaf] at fits
    obtain ⟨kept, fits⟩ := fits
    rw [prescribeIpv4]
    rw [if_neg kept]
    cases named : v4.child "address" with
    | none =>
      rw [named] at fits inside
      rw [address_of_unnamed unmarked inside]
      exact fits.symm
    | some address =>
      rw [named, ForLeaf] at fits
      rw [named] at inside
      rw [prescribeAddress]
      dsimp only
      rw [if_neg fits.1]
      exact address_editedInfo unmarked inside fits.2

theorem leaves_editedInfo {base : Leaves} (key : info.description.getD "" = fallback)
    (fits : Fits fallback operation base info.leaves iface) :
    prescribeInterface iface operation base = some (editedInfo iface info).leaves := by
  have unmarked := not_marked fits.kept
  rw [prescribeInterface]
  dsimp only
  rw [if_neg fits.kept, ← enabled_editedInfo unmarked fits.leaves,
    ← description_editedInfo unmarked key fits.leaves, ← ipv4_editedInfo unmarked fits.leaves.ipv4]
  rfl

end Interface

/-! ## Runs of edits -/

/-- The description that is shown for an interface whose own is empty. -/
def DeviceState.fallback (state : DeviceState) (name : String) : String :=
  ((state.interfaces.lookup name).bind description).getD ""

/-- The edit of an interface fits the data that are prescribed so far, or else those that the device
has before. -/
def StepFits (before : DeviceState) (operation : String) (data : Datastore) (iface : Element) :
    Prop :=
  ∀ current, (data (iface.textOf "name")).or (before.held (iface.textOf "name")) = some current →
    Fits (before.fallback (iface.textOf "name")) operation
      ((data (iface.textOf "name")).getD Leaves.reset) current iface

/-- The device carries out an edit: neither interfaces nor addresses are deleted, a replacement of
all interfaces gives every one that the device has, and all texts can be read back. -/
structure CarriesOut (before : DeviceState) (ifaces : Element) (operation : String) : Prop where
  kept : operation ≠ "delete"
  named : operation = "replace" → ∀ name, before.held name ≠ none →
    ∃ iface ∈ ifaces.childrenNamed "interface", iface.textOf "name" = name
  fits : Along (prescribeStep operation) (StepFits before operation)
    (startFrom operation (fun _ => none) before.held) (ifaces.childrenNamed "interface")
  readable : (prescribed ifaces operation before.held).Readable

/-- A device has the data that are prescribed so far, and else those that it had before. -/
structure Follows (before : DeviceState) (data : Datastore) (state : DeviceState) : Prop where
  held : ∀ name, state.held name = (data name).or (before.held name)
  fallback : ∀ name, state.fallback name = before.fallback name

section Runs

variable {before state next : DeviceState} {operation : String} {data : Datastore}
  {iface : Element} {ifaces : List Element}

theorem held_of_lookup {info : IfaceInfo} (found : state.interfaces.lookup name = some info) :
    state.held name = some info.leaves := by
  rw [DeviceState.held, found, map_some]

theorem Follows.step (follows : Follows before data state)
    (fits : StepFits before operation data iface)
    (applied : editInterface state iface = .ok next) :
    Follows before (prescribeStep operation data iface) next := by
  obtain ⟨info, found, rfl⟩ := editInterface_ok applied
  have current := (follows.held _).symm.trans (held_of_lookup found)
  have key := follows.fallback (iface.textOf "name")
  rw [DeviceState.fallback, found, bind_some] at key
  have prescribed := leaves_editedInfo key (fits info.leaves current)
  constructor
  · intro name
    rw [prescribeStep, prescribed]
    by_cases same : name = iface.textOf "name"
    · subst same
      rw [update_self, some_or]
      exact held_of_lookup (lookup_insert_self ..)
    · rw [update_of_ne same, ← follows.held, DeviceState.held, DeviceState.held,
        lookup_insert_of_ne _ _ same]
  · intro name
    rw [← follows.fallback, DeviceState.fallback, DeviceState.fallback]
    by_cases same : name = iface.textOf "name"
    · subst same
      have unmarked := not_marked (fits info.leaves current).kept
      rw [lookup_insert_self, found, bind_some, bind_some, (editedInfo_of_unmarked info unmarked).1]
    · rw [lookup_insert_of_ne _ _ same]

theorem Follows.run (follows : Follows before data state)
    (fits : Along (prescribeStep operation) (StepFits before operation) data ifaces)
    (applied : applyUntil editInterface state ifaces = (none, next)) :
    Follows before (ifaces.foldl (prescribeStep operation) data) next := by
  induction ifaces generalizing data state with
  | nil =>
    obtain ⟨-, rfl⟩ := Prod.mk.inj applied
    exact follows
  | cons iface rest ih =>
    rw [applyUntil, runUntil] at applied
    cases edited : editInterface state iface with
    | error message =>
      rw [attempt_error edited] at applied
      cases (Prod.mk.inj applied).1
    | ok after =>
      rw [attempt_ok edited] at applied
      exact ih (follows.step fits.1 edited) fits.2 applied

theorem settled (fits : Along (prescribeStep operation) (StepFits before operation) data ifaces)
    (present : before.held name ≠ none)
    (named : data name ≠ none ∨ ∃ iface ∈ ifaces, iface.textOf "name" = name) :
    ifaces.foldl (prescribeStep operation) data name ≠ none := by
  induction ifaces generalizing data with
  | nil =>
    rcases named with settled | ⟨iface, inside, -⟩
    · exact settled
    · cases inside
  | cons iface rest ih =>
    refine ih fits.2 ?_
    rw [prescribeStep]
    by_cases same : name = iface.textOf "name"
    · left
      subst same
      obtain ⟨current, found⟩ : ∃ current, (data (iface.textOf "name")).or
          (before.held (iface.textOf "name")) = some current := by
        rw [← isSome_iff_exists, isSome_or, Bool.or_eq_true]
        exact .inr (isSome_iff_ne_none.mpr present)
      rw [update_self, prescribeInterface]
      dsimp only
      rw [if_neg (fits.1 current found).kept]
      exact some_ne_none _
    · rw [update_of_ne same]
      refine named.imp_right ?_
      rintro ⟨other, inside, rfl⟩
      rcases mem_cons.mp inside with rfl | inside
      · exact absurd rfl same
      · exact ⟨other, inside, rfl⟩

theorem held_applyUntil (carries : CarriesOut before element operation)
    (applied : applyUntil editInterface before (element.childrenNamed "interface") = (none, next)) :
    next.held = prescribed element operation before.held := by
  have begins : Follows before (startFrom operation (fun _ => none) before.held) before := by
    refine ⟨fun name => ?_, fun name => rfl⟩
    rw [startFrom]
    split
    · rw [none_or]
    · rw [Option.or_self]
  have follows := begins.run carries.fits applied
  rw [prescribed, if_neg carries.kept]
  funext name
  by_cases absent : before.held name = none
  · rw [follows.held, absent, or_none]
  · have named : startFrom operation (fun _ => none) before.held name ≠ none ∨
        ∃ iface ∈ element.childrenNamed "interface", iface.textOf "name" = name := by
      rw [startFrom]
      split
      · rename_i replaces
        exact .inr (carries.named replaces name absent)
      · exact .inl absent
    obtain ⟨leaves, found⟩ := ne_none_iff_exists'.mp (settled carries.fits absent named)
    rw [follows.held, found, some_or]

end Runs

/-! ## Calls -/

/-- A call that reads all interfaces. -/
structure GetsInterfaces (request getConfig : Element) : Prop where
  single : request.Only ["get-config"]
  isRead : request.child "get-config" = some getConfig
  source : ∀ source, getConfig.child "source" = some source → (source.child "running").isSome
  whole : getConfig.child "filter" = none

section Calls

variable {state next : DeviceState} {rpc edit config ifaces : Element}
  {user operation messageId : String}

theorem Element.Only.child_eq_none {names : List String} (only : element.Only names)
    (other : name ∉ names) : element.child name = none := by
  rw [Element.child, find?_eq_none]
  intro child inside same
  exact other (of_decide_eq_true same ▸ only.2 child inside)

theorem applyUntil_of_ok (edits : EditsInterfaces rpc edit config ifaces operation)
    (covered : Covered config ifaces)
    (answered : handleRpc state (.ok rpc) user = (some (.ok messageId), next)) :
    applyUntil editInterface state (ifaces.childrenNamed "interface") = (none, next) := by
  have noClose : rpc.child "close-session" = none := edits.single.child_eq_none (by decide)
  have noKill : rpc.child "kill-session" = none := edits.single.child_eq_none (by decide)
  have noGetConfig : rpc.child "get-config" = none := edits.single.child_eq_none (by decide)
  have noGet : rpc.child "get" = none := edits.single.child_eq_none (by decide)
  have noNacm : config.child "nacm" = none := covered.parts.child_eq_none (by decide)
  rw [handleRpc] at answered
  simp only [noClose, noKill, noGetConfig, noGet, edits.isEdit, edits.hasConfig, noNacm,
    isSome_none, Bool.false_eq_true, if_false] at answered
  split at answered
  · cases (Prod.mk.inj answered).1
  · rcases handleEdit_cases state ((rpc.get "message-id").getD "1") .interfaces config user with
      ⟨-, outcome⟩ | ⟨-, -, denied, denial⟩
    · rw [outcome, applyEdit, applyEditConfig, edits.hasIfaces] at answered
      obtain ⟨reply, rfl⟩ := Prod.mk.inj answered
      refine Prod.ext ?_ rfl
      cases failure : (applyUntil editInterface state (ifaces.childrenNamed "interface")).1 with
      | none => rfl
      | some message =>
        rw [failure, editReply] at reply
        cases reply
    · rw [answered] at denial
      cases denial

theorem handleRpc_reads {request getConfig : Element} (gets : GetsInterfaces request getConfig)
    {reader : String} (permitted : permits state reader .read .interfaces = true) {xml : String}
    (written : buildInterfacesXml state = some xml) :
    handleRpc state (.ok request) reader =
      (some (.data ((request.get "message-id").getD "1") (.interfaces xml)), state) := by
  have noClose : request.child "close-session" = none := gets.single.child_eq_none (by decide)
  have noKill : request.child "kill-session" = none := gets.single.child_eq_none (by decide)
  have running : ¬ ((getConfig.child "source").any fun source =>
      (source.child "running").isNone) = true := by
    cases source : getConfig.child "source" with
    | none => exact Bool.false_ne_true
    | some element =>
      have there := gets.source element source
      rw [any_some, ← not_isSome, there]
      exact Bool.false_ne_true
  have whole : ∀ messageId, handleRead state messageId getConfig reader =
      readModule state messageId .interfaces reader := by
    intro messageId
    rw [handleRead, gets.whole]
    rfl
  rw [handleRpc]
  simp only [noClose, noKill, gets.isRead, isSome_none, Bool.false_eq_true, if_false]
  rw [if_neg running, whole, readModule, nacmCheck_of_permits permitted, moduleData, written]
  rfl

end Calls

/-- A read after an edit shows what the edit prescribes if nothing in the edit is outside of what the
device reads, and the device carries it out. -/
theorem reads_prescribed {state next : DeviceState} {rpc edit config ifaces : Element}
    {user operation messageId : String}
    (edits : EditsInterfaces rpc edit config ifaces operation)
    (answered : handleRpc state (.ok rpc) user = (some (.ok messageId), next))
    (covered : Covered config ifaces) (carries : CarriesOut state ifaces operation)
    {request getConfig : Element} (gets : GetsInterfaces request getConfig)
    (plainId : Xml.PlainValue ((request.get "message-id").getD "1").toList) {reader : String}
    (permitted : permits next reader .read .interfaces = true) :
    ∃ reply, handleRpc next (.ok request) reader = (some reply, next) ∧
      Agrees config ifaces operation state.held reply.text := by
  have held := held_applyUntil carries (applyUntil_of_ok edits covered answered)
  have readable : next.held.Readable := held ▸ carries.readable
  obtain ⟨xml, document, written, reads, shows⟩ := reads_held plainId readable
  refine ⟨_, handleRpc_reads gets permitted written, covered, document, reads, ?_⟩
  rw [shows, held]

/-- A read of all interfaces. -/
def getAll : Element :=
  .node ("\x7b" ++ nsBase ++ "\x7drpc") [("message-id", "2")] ""
    [.node "get-config" [] "" [.node "source" [] "" [.node "running" [] "" []]]]

theorem getsInterfaces_getAll : GetsInterfaces getAll
    (.node "get-config" [] "" [.node "source" [] "" [.node "running" [] "" []]]) where
  single := ⟨by decide +kernel, by decide +kernel⟩
  isRead := rfl
  source := by
    intro source found
    obtain rfl := Option.some.inj found
    decide +kernel
  whole := rfl

/-- The element `interfaces` of a call that edits one interface. -/
def oneEdit (attributes : List (String × String)) (leaves : List Element) : Element :=
  .node "interfaces" [] "" [.node "interface" attributes ""
    (.node "name" [] "GigabitEthernet0/0" [] :: leaves)]

/-- All leaves of an interface. -/
def allLeaves : List Element :=
  [.node "enabled" [] "false" [], .node "description" [] "uplink to the core" [],
    .node "ipv4" [] "" [.node "address" [] ""
      [.node "ip" [] "10.0.0.2" [], .node "netmask" [] "255.255.0.0" []]]]

theorem editsInterfaces_allLeaves : EditsInterfaces (interfaceCall [(opAttr, "replace")] allLeaves)
      (.node "edit-config" [] "" [.node "target" [] "" [.node "running" [] "" []],
        .node "config" [] "" [oneEdit [(opAttr, "replace")] allLeaves]])
      (.node "config" [] "" [oneEdit [(opAttr, "replace")] allLeaves])
      (oneEdit [(opAttr, "replace")] allLeaves) "merge" where
  single := ⟨by decide +kernel, by decide +kernel⟩
  isEdit := rfl
  hasConfig := rfl
  hasIfaces := rfl
  inherited := by decide +kernel
  default := by decide +kernel
  operates := by decide +kernel

theorem covered_allLeaves : Covered (.node "config" [] "" [oneEdit [(opAttr, "replace")] allLeaves])
      (oneEdit [(opAttr, "replace")] allLeaves) where
  parts := ⟨by decide +kernel, by decide +kernel⟩
  entries := by decide +kernel
  leaves := by
    intro iface inside
    obtain rfl := mem_singleton.mp inside
    exact ⟨by decide +kernel, by decide +kernel⟩
  type := by
    intro iface inside type found
    obtain rfl := mem_singleton.mp inside
    cases found
  ipv4 := by
    intro iface inside v4 found
    obtain rfl := mem_singleton.mp inside
    obtain rfl := Option.some.inj found
    exact ⟨by decide +kernel, by decide +kernel⟩
  address := by
    intro iface inside v4 address found named
    obtain rfl := mem_singleton.mp inside
    obtain rfl := Option.some.inj found
    obtain rfl := Option.some.inj named
    exact ⟨by decide +kernel, by decide +kernel⟩

theorem carriesOut_allLeaves :
    CarriesOut updatesOnly (oneEdit [(opAttr, "replace")] allLeaves) "merge" where
  kept := by decide
  named := fun replaces => absurd replaces (by decide)
  fits := by
    refine ⟨fun current found => ?_, trivial⟩
    obtain rfl := Option.some.inj found
    refine ⟨by decide +kernel, .of_named rfl ?_, .of_named rfl ?_, .of_named rfl ?_⟩
    · decide +kernel
    · exact ⟨by decide +kernel, by decide +kernel⟩
    · refine ⟨by decide +kernel, .of_named rfl ⟨by decide +kernel, .of_named rfl ?_,
        .of_named rfl ?_⟩⟩
      · exact ⟨by decide +kernel, by decide +kernel, by decide +kernel⟩
      · exact ⟨by decide +kernel, 16, by decide, by decide +kernel⟩
  readable := by
    intro name leaves found
    by_cases same : name = "GigabitEthernet0/0"
    · subst same
      obtain rfl := Option.some.inj found
      refine ⟨by decide +kernel, by decide +kernel, ?_⟩
      intro ip netmask given
      cases given
      exact ⟨by decide +kernel, by decide +kernel⟩
    · have kept : prescribed (oneEdit [(opAttr, "replace")] allLeaves) "merge"
          updatesOnly.held name = updatesOnly.held name := update_of_ne same _ _
      have missing : updatesOnly.interfaces.lookup name = none :=
        lookup_insert_of_ne _ _ same
      rw [kept, DeviceState.held, missing] at found
      cases found

theorem reads_allLeaves : ∃ reply, handleRpc (handleRpc updatesOnly
        (.ok (interfaceCall [(opAttr, "replace")] allLeaves)) "bob").2 (.ok getAll) "bob" =
      (some reply, (handleRpc updatesOnly
        (.ok (interfaceCall [(opAttr, "replace")] allLeaves)) "bob").2) ∧
      Agrees (.node "config" [] "" [oneEdit [(opAttr, "replace")] allLeaves])
        (oneEdit [(opAttr, "replace")] allLeaves) "merge" updatesOnly.held reply.text := by
  have answered : handleRpc updatesOnly (.ok (interfaceCall [(opAttr, "replace")] allLeaves)) "bob" =
      (some (.ok "1"), (handleRpc updatesOnly
        (.ok (interfaceCall [(opAttr, "replace")] allLeaves)) "bob").2) :=
    Prod.ext (by decide +kernel) rfl
  exact reads_prescribed editsInterfaces_allLeaves answered covered_allLeaves carriesOut_allLeaves
    getsInterfaces_getAll (by decide +kernel) (by decide +kernel)

/-- A call that gives an interface a description with a character that has to be escaped. -/
def describeRaw : Element := interfaceCall [] [.node "description" [] "R&D" []]

/-- A description that is stored and shown without being escaped makes the reply unreadable. -/
theorem unreadable_description :
    (handleRpc updatesOnly (.ok describeRaw) "bob").1 = some (.ok "1") ∧
      ∀ reply, (handleRpc (handleRpc updatesOnly (.ok describeRaw) "bob").2
          (.ok getAll) "bob").1 = some reply →
        ¬ Agrees (.node "config" [] "" [oneEdit [] [.node "description" [] "R&D" []]])
          (oneEdit [] [.node "description" [] "R&D" []]) "merge" updatesOnly.held reply.text := by
  refine ⟨by decide +kernel, ?_⟩
  intro reply answered agrees
  obtain ⟨document, reads, -⟩ := agrees.reads
  have masked : ∀ entry ∈ (handleRpc updatesOnly (.ok describeRaw) "bob").2.interfaces.entries,
      entry.2.ip ≠ "" → entry.2.prefixLength.getD 24 ≤ 32 := by
    decide +kernel
  have permitted : permits (handleRpc updatesOnly (.ok describeRaw) "bob").2 "bob" .read
      .interfaces = true := by
    decide +kernel
  have unread : (Xml.readXml (Xml.render (replyNode "2"
      (handleRpc updatesOnly (.ok describeRaw) "bob").2))).isNone := by
    decide +kernel
  obtain ⟨xml, written, rendered⟩ := render_reply "2" masked
  rw [handleRpc_reads getsInterfaces_getAll permitted written] at answered
  obtain rfl := Option.some.inj answered
  have same := rendered ▸ reads
  rw [same] at unread
  cases unread

end NetLab.Netconf
