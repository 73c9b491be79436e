import NetLab.Library.Xml
import NetLab.Netconf.AccessControl

/-!
# What an edit prescribes

The values that clients see of an interface, and those that an edit prescribes for them by the
operations that it carries. The reply to a read is the plain rendering of an element.
-/

namespace NetLab.Netconf

open NetLab.Library

/-! ## Leaves -/

/-- What clients see of an interface. A description that is not shown is empty, and an address comes
with its mask. -/
structure Leaves where
  enabled : String
  description : String
  address : Option (String × String)
deriving DecidableEq

def Leaves.reset : Leaves := ⟨"true", "", none⟩

/-- Interfaces by name. -/
abbrev Datastore := String → Option Leaves

/-- The leaves in an element of a reply. -/
def leavesOf (iface : Xml.Node) : Leaves where
  enabled := ((iface.child "enabled").map Xml.Node.text).getD ""
  description := ((iface.child "description").map Xml.Node.text).getD ""
  address := ((iface.child "ipv4").bind fun v4 => v4.child "address").map fun address =>
    (((address.child "ip").map Xml.Node.text).getD "",
      ((address.child "netmask").map Xml.Node.text).getD "")

def shown (reply : Xml.Node) : Datastore := fun name =>
  (((reply.child "data").bind fun data => data.child "interfaces").bind fun ifaces =>
    (ifaces.childrenNamed "interface").find? fun iface =>
      (iface.child "name").map Xml.Node.text = some name).map leavesOf

/-- The mask that is shown with an address. -/
def IfaceInfo.maskText (info : IfaceInfo) : String :=
  (prefixToMask (info.prefixLength.getD 24)).getD ""

/-- The leaves of an interface of a device. -/
def IfaceInfo.leaves (info : IfaceInfo) : Leaves where
  enabled := boolName info.enabled
  description := info.shownDesc
  address := if info.ip = "" then none else some (info.ip, info.maskText)

/-- What a device holds. -/
def DeviceState.held (state : DeviceState) : Datastore := fun name =>
  (state.interfaces.lookup name).map IfaceInfo.leaves

/-! ## Prescriptions -/

def Element.operation (element : Element) (outer : String) : String :=
  (element.get opAttr).getD outer

/-- The value prescribed for a leaf, which an edit may name, delete or leave as it is. -/
def prescribeLeaf (named : Option Element) (operation default current : String) : String :=
  match named with
  | none => current
  | some leaf => if leaf.operation operation = "delete" then default else leaf.text

/-- Where an edit begins: with the current value, or with none for `replace`. -/
def startFrom {Value : Type} (operation : String) (reset current : Value) : Value :=
  if operation = "replace" then reset else current

/-- The address prescribed by an element `address`. -/
def prescribeAddress (named : Option Element) (operation : String)
    (current : Option (String × String)) : Option (String × String) :=
  match named with
  | none => current
  | some address =>
    let own := address.operation operation
    if own = "delete" then none
    else
      let start := (startFrom own none current).getD ("", "")
      some (prescribeLeaf (address.child "ip") own "" start.1,
        prescribeLeaf (address.child "netmask") own "" start.2)

/-- The address prescribed by an element `ipv4`. -/
def prescribeIpv4 (named : Option Element) (operation : String)
    (current : Option (String × String)) : Option (String × String) :=
  match named with
  | none => current
  | some v4 =>
    let own := v4.operation operation
    if own = "delete" then none
    else prescribeAddress (v4.child "address") own (startFrom own none current)

def prescribeInterface (iface : Element) (operation : String) (current : Leaves) : Option Leaves :=
  let own := iface.operation operation
  if own = "delete" then none
  else
    let start := startFrom own Leaves.reset current
    some
      { enabled := prescribeLeaf (iface.child "enabled") own "true" start.enabled
        description := prescribeLeaf (iface.child "description") own "" start.description
        address := prescribeIpv4 (iface.child "ipv4") own start.address }

/-- An interface is edited. -/
def prescribeStep (operation : String) (data : Datastore) (iface : Element) : Datastore :=
  Function.update data (iface.textOf "name")
    (prescribeInterface iface operation ((data (iface.textOf "name")).getD Leaves.reset))

/-- The operation for elements that carry none, by the call itself. -/
def defaultOperation (edit : Element) : String :=
  ((edit.child "default-operation").map fun element => strip element.text).getD "merge"

def editOperations : List String := ["merge", "replace", "delete"]

mutual

/-- This element and the elements inside it carry these operations or none. -/
def Element.operates : Element → Bool
  | .node _ attributes _ children =>
    ((attributes.lookup opAttr).all fun operation => decide (operation ∈ editOperations)) &&
      allOperate children

def allOperate : List Element → Bool
  | [] => true
  | element :: rest => element.operates && allOperate rest

end

/-- Children have different names, which are among these. -/
def Element.Only (element : Element) (names : List String) : Prop :=
  (element.children.map Element.localName).Nodup ∧
    ∀ child ∈ element.children, child.localName ∈ names

/-- An edit of the interfaces, which is the only operation of a call: its element `config`, the
element `interfaces` in there and their operation. -/
structure EditsInterfaces (rpc edit config ifaces : Element) (operation : String) : Prop where
  single : rpc.Only ["edit-config"]
  isEdit : rpc.child "edit-config" = some edit
  hasConfig : edit.child "config" = some config
  hasIfaces : config.child "interfaces" = some ifaces
  inherited : operation = ifaces.operation (config.operation (defaultOperation edit))
  default : defaultOperation edit ∈ ["merge", "replace"]
  operates : config.operates = true

/-- The data that an edit prescribes. An edit that replaces all interfaces begins with none. -/
def prescribed (ifaces : Element) (operation : String) (data : Datastore) : Datastore :=
  if operation = "delete" then fun _ => none
  else
    (ifaces.childrenNamed "interface").foldl (prescribeStep operation)
      (startFrom operation (fun _ => none) data)

/-- Nothing in an edit is outside of what the device reads: interfaces with their name, the type
that they all have, and the leaves. -/
structure Covered (config ifaces : Element) : Prop where
  parts : config.Only ["interfaces"]
  entries : ∀ iface ∈ ifaces.children, iface.localName = "interface"
  leaves : ∀ iface ∈ ifaces.children,
    iface.Only ["name", "type", "enabled", "description", "ipv4"]
  type : ∀ iface ∈ ifaces.children, ∀ type, iface.child "type" = some type →
    type.text = "ianaift:ethernetCsmacd"
  ipv4 : ∀ iface ∈ ifaces.children, ∀ v4, iface.child "ipv4" = some v4 → v4.Only ["address"]
  address : ∀ iface ∈ ifaces.children, ∀ v4 address, iface.child "ipv4" = some v4 →
    v4.child "address" = some address → address.Only ["ip", "netmask"]

/-- A reply is well formed and shows what an edit prescribes, and the edit has been applied in all
its parts. -/
structure Agrees (config ifaces : Element) (operation : String) (before : Datastore)
    (reply : String) : Prop where
  complete : Covered config ifaces
  reads : ∃ document, Xml.readXml reply.toList = some document ∧
    shown document = prescribed ifaces operation before

/-- The leaves can be read in a reply, where they are not escaped and every address has a mask. -/
structure Leaves.Readable (leaves : Leaves) : Prop where
  description : Xml.PlainText leaves.description.toList
  address : ∀ ip netmask, leaves.address = some (ip, netmask) →
    Xml.PlainText ip.toList ∧ netmask ≠ ""

/-- The names and leaves of all interfaces can be read in a reply. -/
def Datastore.Readable (data : Datastore) : Prop :=
  ∀ name leaves, data name = some leaves → Xml.PlainText name.toList ∧ leaves.Readable

end NetLab.Netconf
