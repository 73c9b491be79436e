import NetLab.Library.Stepwise
import NetLab.Netconf.Nacm
import NetLab.Snmp.Wire

/-!
# Remote procedure calls of the management protocol

`handleRpc` reads and edits the interfaces and the access control of a device. Elements are found by
their local names.
-/

namespace NetLab.Netconf

open NetLab.Library NetLab.Snmp

/-! ## Elements -/

/-- A parsed element. Names are `{namespace}name`; an element without text has the empty text. -/
inductive Element where
  | node (tag : String) (attributes : List (String × String)) (text : String)
      (children : List Element)

namespace Element

def tag : Element → String
  | node tag _ _ _ => tag

def attributes : Element → List (String × String)
  | node _ attributes _ _ => attributes

def text : Element → String
  | node _ _ text _ => text

def children : Element → List Element
  | node _ _ _ children => children

def localName (element : Element) : String :=
  String.ofList ((element.tag.toList.splitOn '}').getLast?.getD [])

/-- `_child`. -/
def child (element : Element) (name : String) : Option Element :=
  element.children.find? fun child => child.localName = name

/-- `_children`. -/
def childrenNamed (element : Element) (name : String) : List Element :=
  element.children.filter fun child => child.localName = name

/-- Value of an attribute. -/
def get (element : Element) (key : String) : Option String :=
  element.attributes.lookup key

end Element

def nsBase : String := "urn:ietf:params:xml:ns:netconf:base:1.0"

def nsInterfaces : String := "urn:ietf:params:xml:ns:yang:ietf-interfaces"

def nsIp : String := "urn:ietf:params:xml:ns:yang:ietf-ip"

def nsNacm : String := "urn:ietf:params:xml:ns:yang:ietf-netconf-acm"

def opAttr : String := "\x7b" ++ nsBase ++ "\x7doperation"

def Element.marked (element : Element) : Bool := element.get opAttr = some "delete"

/-! ## Interfaces -/

/-- `_prefix_to_mask`. There is no mask for a length over 32. -/
def prefixToMask (prefixLength : Nat) : Option String :=
  if 32 < prefixLength then none
  else
    let mask := if prefixLength = 0 then 0 else (0xffffffff <<< (32 - prefixLength)) &&& 0xffffffff
    some (".".intercalate ([24, 16, 8, 0].map fun shift => ((mask >>> shift) &&& 0xff).repr))

/-- Number of ones in the binary notation of a number. -/
def onesOf (number : Nat) : Nat := (Nat.toDigits 2 number).count '1'

/-- `_mask_to_prefix`. -/
def maskToPrefix (mask : String) : Nat :=
  match (dotFields mask).mapM pyInt with
  | some octets => (octets.map fun octet => onesOf octet.natAbs).sum
  | none => 24

local instance statusLawful : LawfulBEq (Option String) := inferInstance

/-- `_iface_enabled`. -/
def IfaceInfo.enabled (info : IfaceInfo) : Bool :=
  info.status ∉ [some "down", some "notconnect", some "disabled", some "administratively down"]

def IfaceInfo.shownDesc (info : IfaceInfo) : String :=
  if info.desc.getD "" ≠ "" then info.desc.getD "" else info.description.getD ""

/-- One interface of `build_interfaces_xml`. -/
def interfaceXml (name : String) (info : IfaceInfo) : Option String :=
  let opening := "<interface>" ++ "<name>" ++ name ++ "</name>" ++
    "<type xmlns:ianaift=\"urn:ietf:params:xml:ns:yang:iana-if-type\">" ++
    "ianaift:ethernetCsmacd</type>" ++
    "<enabled>" ++ (if info.enabled then "true" else "false") ++ "</enabled>"
  let description :=
    if info.shownDesc ≠ "" then "<description>" ++ info.shownDesc ++ "</description>" else ""
  if info.ip ≠ "" then
    (prefixToMask (info.prefixLength.getD 24)).map fun netmask =>
      opening ++ description ++ "<ipv4 xmlns=\"" ++ nsIp ++ "\"><address>" ++
        "<ip>" ++ info.ip ++ "</ip>" ++ "<netmask>" ++ netmask ++ "</netmask>" ++
        "</address></ipv4>" ++ "</interface>"
  else some (opening ++ description ++ "</interface>")

/-- `build_interfaces_xml`. -/
def buildInterfacesXml (state : DeviceState) : Option String :=
  (state.interfaces.entries.mapM fun entry => interfaceXml entry.1 entry.2).map fun parts =>
    "<interfaces xmlns=\"" ++ nsInterfaces ++ "\">" ++ String.join parts ++ "</interfaces>"

/-- The data of an interface after its edit. -/
def editedInfo (iface : Element) (info : IfaceInfo) : IfaceInfo :=
  if iface.marked then { info with ip := "", prefixLength := some 0 }
  else
    let address := (iface.child "ipv4").bind fun v4 => v4.child "address"
    let ipElement := address.bind fun addr => addr.child "ip"
    let maskElement := address.bind fun addr => addr.child "netmask"
    { info with
      status := match iface.child "enabled" with
        | some element =>
          if element.text ≠ "" then
            some (if (strip element.text).toLower = "true" then "up" else "down")
          else info.status
        | none => info.status
      desc := match iface.child "description" with
        | some element => some (strip element.text)
        | none => info.desc
      ip := match ipElement with
        | some element => if element.text ≠ "" then strip element.text else info.ip
        | none => info.ip
      prefixLength := match maskElement with
        | some element =>
          if element.text ≠ "" then some (maskToPrefix (strip element.text)) else info.prefixLength
        | none => info.prefixLength }

/-- Text of the child with a name, without blanks; the empty text if there is no such child. -/
def Element.textOf (element : Element) (name : String) : String :=
  ((element.child name).map fun child => strip child.text).getD ""

/-- One interface of `apply_edit_config`. -/
def editInterface (state : DeviceState) (iface : Element) : Except String DeviceState :=
  let name := iface.textOf "name"
  if name = "" then .error "interface name is required"
  else
    match state.interfaces.lookup name with
    | none => .error ("interface " ++ name ++ " does not exist")
    | some info =>
      .ok { state with interfaces := state.interfaces.insert name (editedInfo iface info) }

theorem editInterface_ok {state next : DeviceState} {iface : Element}
    (applied : editInterface state iface = .ok next) :
    ∃ info, state.interfaces.lookup (iface.textOf "name") = some info ∧ next = { state with
        interfaces := state.interfaces.insert (iface.textOf "name") (editedInfo iface info) } := by
  unfold editInterface at applied
  dsimp only at applied
  split at applied
  · cases applied
  · split at applied
    · cases applied
    · exact ⟨_, ‹_›, (Except.ok.inj applied).symm⟩

/-- `apply_edit_config`. -/
def applyEditConfig (state : DeviceState) (config : Element) : Option String × DeviceState :=
  match config.child "interfaces" with
  | none => (some "only ietf-interfaces is supported by this device", state)
  | some ifaces => applyUntil editInterface state (ifaces.childrenNamed "interface")

/-! ## Access control -/

/-- `_xml_escape`. -/
def xmlEscape (text : String) : String :=
  String.join (text.toList.map fun char =>
    if char = '&' then "&amp;" else if char = '<' then "&lt;" else if char = '>' then "&gt;"
    else char.toString)

def NacmAction.name : NacmAction → String
  | .permit => "permit"
  | .deny => "deny"

def boolName (value : Bool) : String := if value then "true" else "false"

/-- One rule of `build_nacm_xml`. -/
def ruleXml (rule : NacmRule) : String :=
  "<rule><name>" ++ xmlEscape rule.name ++ "</name>" ++
    "<module-name>" ++ xmlEscape rule.moduleName ++ "</module-name>" ++
    (if rule.rpcName ≠ "" then "<rpc-name>" ++ xmlEscape rule.rpcName ++ "</rpc-name>" else "") ++
    (if rule.path ≠ "" then "<path>" ++ xmlEscape rule.path ++ "</path>" else "") ++
    "<access-operations>" ++ xmlEscape rule.accessOperations ++ "</access-operations>" ++
    "<action>" ++ rule.action.name ++ "</action>" ++
    (if rule.comment ≠ "" then "<comment>" ++ xmlEscape rule.comment ++ "</comment>" else "") ++
    "</rule>"

/-- `build_nacm_xml`. -/
def buildNacmXml (nacm : Nacm) : String :=
  "<nacm xmlns=\"" ++ nsNacm ++ "\">" ++
    "<enable-nacm>" ++ boolName nacm.enableNacm ++ "</enable-nacm>" ++
    "<read-default>" ++ nacm.readDefault.name ++ "</read-default>" ++
    "<write-default>" ++ nacm.writeDefault.name ++ "</write-default>" ++
    "<exec-default>" ++ nacm.execDefault.name ++ "</exec-default>" ++
    "<enable-external-groups>" ++ boolName nacm.enableExternalGroups ++
    "</enable-external-groups>" ++
    "<denied-operations>" ++ nacm.deniedOperations.repr ++ "</denied-operations>" ++
    "<denied-data-writes>" ++ nacm.deniedDataWrites.repr ++ "</denied-data-writes>" ++
    "<denied-notifications>" ++ nacm.deniedNotifications.repr ++ "</denied-notifications>" ++
    (if nacm.groups.entries ≠ [] then
      "<groups>" ++ String.join (nacm.groups.entries.map fun group =>
        "<group><name>" ++ xmlEscape group.1 ++ "</name>" ++ String.join (group.2.map fun user =>
            "<user-name>" ++ xmlEscape user ++ "</user-name>") ++ "</group>") ++ "</groups>"
      else "") ++
    String.join (nacm.ruleLists.map fun list =>
      "<rule-list><name>" ++ xmlEscape list.name ++ "</name>" ++
        String.join (list.groups.map fun group => "<group>" ++ xmlEscape group ++ "</group>") ++
        String.join (list.rules.map ruleXml) ++ "</rule-list>") ++
    "</nacm>"

/-- Leaves of `/nacm` that are true or false. -/
inductive NacmFlag where
  | enableNacm
  | enableExternalGroups
deriving DecidableEq

def NacmFlag.name : NacmFlag → String
  | .enableNacm => "enable-nacm"
  | .enableExternalGroups => "enable-external-groups"

/-- Leaves of `/nacm` that are actions. -/
inductive NacmDefault where
  | read
  | write
  | exec
deriving DecidableEq

def NacmDefault.name : NacmDefault → String
  | .read => "read-default"
  | .write => "write-default"
  | .exec => "exec-default"

def Nacm.setFlag (nacm : Nacm) (value : Bool) : NacmFlag → Nacm
  | .enableNacm => { nacm with enableNacm := value }
  | .enableExternalGroups => { nacm with enableExternalGroups := value }

def Nacm.setDefault (nacm : Nacm) (value : NacmAction) : NacmDefault → Nacm
  | .read => { nacm with readDefault := value }
  | .write => { nacm with writeDefault := value }
  | .exec => { nacm with execDefault := value }

/-- Elements of an edit of `/nacm`, in the order in which they are applied. -/
inductive NacmPart where
  | flag (leaf : NacmFlag) (element : Element)
  | default (leaf : NacmDefault) (element : Element)
  | group (element : Element)
  | ruleList (element : Element)

/-- The parts of an edit. -/
def nacmParts (nacm : Element) : List NacmPart :=
  ([.enableNacm, .enableExternalGroups].filterMap fun leaf : NacmFlag =>
      (nacm.child leaf.name).map (.flag leaf)) ++
    ([.read, .write, .exec].filterMap fun leaf : NacmDefault =>
      (nacm.child leaf.name).map (.default leaf)) ++
    (((nacm.child "groups").map fun groups => groups.childrenNamed "group").getD []).map .group ++
    (nacm.childrenNamed "rule-list").map .ruleList

def parseAction (text : String) : Option NacmAction :=
  if text = "permit" then some .permit else if text = "deny" then some .deny else none

def Element.textOr (element : Element) (name default : String) : String :=
  match element.child name with
  | some child => if child.text ≠ "" then strip child.text else default
  | none => default

def parseRule (element : Element) : Except String NacmRule :=
  if element.textOf "name" = "" then .error "rule name is required"
  else
    match parseAction (element.textOf "action") with
    | none => .error "rule action must be \"permit\" or \"deny\""
    | some action =>
      .ok
        { name := element.textOf "name"
          moduleName := element.textOr "module-name" "*"
          rpcName := element.textOr "rpc-name" ""
          path := element.textOr "path" ""
          accessOperations := element.textOr "access-operations" "*"
          action := action
          comment := element.textOr "comment" "" }

def Element.textsOf (element : Element) (name : String) : List String :=
  ((element.childrenNamed name).map fun child => strip child.text).filter fun text => text ≠ ""

/-- Put a list in the place of the one with its name, or at the end. -/
def setRuleList (list : NacmRuleList) : List NacmRuleList → List NacmRuleList
  | [] => [list]
  | first :: rest =>
    if first.name = list.name then list :: rest else first :: setRuleList list rest

/-- One part of `apply_nacm_edit`. -/
def editPart (nacm : Nacm) : NacmPart → Except String Nacm
  | .flag leaf element =>
    .ok (if element.text = "" then nacm
      else nacm.setFlag ((strip element.text).toLower = "true") leaf)
  | .default leaf element =>
    if element.text = "" then .ok nacm
    else
      match parseAction (strip element.text) with
      | none => .error (leaf.name ++ " must be \"permit\" or \"deny\"")
      | some action => .ok (nacm.setDefault action leaf)
  | .group element =>
    let name := element.textOf "name"
    if name = "" then .error "group name is required"
    else if element.marked then .ok { nacm with groups := nacm.groups.erase name }
    else .ok { nacm with groups := nacm.groups.insert name (element.textsOf "user-name") }
  | .ruleList element =>
    let name := element.textOf "name"
    if name = "" then .error "rule-list name is required"
    else if element.marked then
      .ok { nacm with ruleLists := nacm.ruleLists.eraseP fun list => list.name = name }
    else do
      let rules ← (element.childrenNamed "rule").mapM parseRule
      return { nacm with
        ruleLists := setRuleList ⟨name, element.textsOf "group", rules⟩ nacm.ruleLists }

/-- `apply_nacm_edit`. -/
def applyNacmEdit (state : DeviceState) (element : Element) : Option String × DeviceState :=
  let outcome := applyUntil editPart state.nacm (nacmParts element)
  (outcome.1, { state with nacm := outcome.2 })

/-! ## Calls -/

inductive ReplyData where
  | empty
  | interfaces (xml : String)
  | nacm (xml : String)
deriving DecidableEq

inductive Reply where
  | ok (messageId : String)
  | data (messageId : String) (body : ReplyData)
  | error (messageId errorType errorTag message : String)
deriving DecidableEq

def ReplyData.text : ReplyData → String
  | .empty => "<data/>"
  | .interfaces xml => "<data>" ++ xml ++ "</data>"
  | .nacm xml => "<data>" ++ xml ++ "</data>"

def Reply.text : Reply → String
  | .ok messageId =>
    "<rpc-reply xmlns=\"" ++ nsBase ++ "\" message-id=\"" ++ messageId ++ "\"><ok/></rpc-reply>"
  | .data messageId body =>
    "<rpc-reply xmlns=\"" ++ nsBase ++ "\" message-id=\"" ++ messageId ++ "\">" ++ body.text ++
      "</rpc-reply>"
  | .error messageId errorType errorTag message =>
    "<rpc-reply xmlns=\"" ++ nsBase ++ "\" message-id=\"" ++ messageId ++ "\"><rpc-error>" ++
      "<error-type>" ++ errorType ++ "</error-type>" ++
      "<error-tag>" ++ errorTag ++ "</error-tag>" ++
      "<error-severity>error</error-severity>" ++
      "<error-message>" ++ xmlEscape message ++ "</error-message>" ++
      "</rpc-error></rpc-reply>"

/-- Modules that calls read and write. -/
inductive Module where
  | interfaces
  | nacm
deriving DecidableEq

def Module.name : Module → String
  | .interfaces => "ietf-interfaces"
  | .nacm => "ietf-netconf-acm"

def Module.path : Module → String
  | .interfaces => "/interfaces"
  | .nacm => "/nacm"

/-- Data of a module in a reply. An address without a mask has none. -/
def moduleData (state : DeviceState) : Module → Option ReplyData
  | .interfaces => (buildInterfacesXml state).map .interfaces
  | .nacm => some (.nacm (buildNacmXml state.nacm))

def readModule (state : DeviceState) (messageId : String) (module : Module) (user : String) :
    Option Reply × DeviceState :=
  let outcome := state.nacmCheck user .read module.name module.path
  if outcome.1 then ((moduleData outcome.2 module).map (.data messageId), outcome.2)
  else (some (.error messageId "application" "access-denied" "access denied by NACM"), outcome.2)

/-- The answer to `get` and `get-config`, whose element is `request`. -/
def handleRead (state : DeviceState) (messageId : String) (request : Element) (user : String) :
    Option Reply × DeviceState :=
  let filter := (request.child "filter").filter fun filter => filter.children ≠ []
  let wantNacm := (filter.bind fun filter => filter.child "nacm").isSome
  if filter.isSome ∧ wantNacm = false ∧
      (filter.bind fun filter => filter.child "interfaces").isNone then
    (some (.data messageId .empty), state)
  else readModule state messageId (if wantNacm then .nacm else .interfaces) user

def applyEdit (state : DeviceState) (module : Module) (element : Element) :
    Option String × DeviceState :=
  match module with
  | .interfaces => applyEditConfig state element
  | .nacm => applyNacmEdit state element

/-- The answer to an edit of a module, once its place in the request is known. -/
def handleEdit (state : DeviceState) (messageId : String) (module : Module) (element : Element)
    (user : String) : Option Reply × DeviceState :=
  let outcome := state.nacmCheck user .update module.name module.path
  if outcome.1 then
    let edited := applyEdit outcome.2 module element
    match edited.1 with
    | some message => (some (.error messageId "application" "invalid-value" message), edited.2)
    | none => (some (.ok messageId), edited.2)
  else (some (.error messageId "application" "access-denied" "access denied by NACM"), outcome.2)

/-- `handle_rpc`. There is no reply if the data cannot be written. -/
def handleRpc (state : DeviceState) (request : Except String Element) (user : String) :
    Option Reply × DeviceState :=
  match request with
  | .error message => (some (.error "unknown" "rpc" "malformed-message" message), state)
  | .ok rpc =>
    let messageId := (rpc.get "message-id").getD "1"
    if (rpc.child "close-session").isSome then (some (.ok messageId), state)
    else if (rpc.child "kill-session").isSome then (some (.ok messageId), state)
    else
      match rpc.child "get-config", rpc.child "get" with
      | some getConfig, _ =>
        if ((getConfig.child "source").any fun source => (source.child "running").isNone) then
          (some (.error messageId "protocol" "operation-not-supported"
            "only the running datastore is supported"), state)
        else handleRead state messageId getConfig user
      | none, some get => handleRead state messageId get user
      | none, none =>
        match rpc.child "edit-config" with
        | none =>
          (some (.error messageId "protocol" "operation-not-supported"
            "unsupported operation"), state)
        | some edit =>
          if ((edit.child "target").any fun target => (target.child "running").isNone) then
            (some (.error messageId "protocol" "operation-not-supported"
              "only the running datastore is writable"), state)
          else
            match edit.child "config" with
            | none =>
              (some (.error messageId "protocol" "missing-element" "<config> is required"), state)
            | some config =>
              match config.child "nacm" with
              | some nacm => handleEdit state messageId .nacm nacm user
              | none => handleEdit state messageId .interfaces config user

end NetLab.Netconf
