import NetLab.Network.VirtualNetwork
import NetLab.Snmp.Wire

/-!
# The SNMP agent

The agent keeps a record for each registered device and builds its MIB anew for every
request. Devices are named by texts. What the build reads besides (the address table of the
device, the clock, the load and the counters) is handed to it.
-/

namespace NetLab.Snmp

open NetLab.Library

/-- What the agent keeps about a device. -/
structure Record where
  type : String
  hostname : String
  contact : String
  location : String
  community : String
  communities : List String
  rwCommunities : List String
  rwCommunity : String
  ifAdmin : Nat → Option String

structure SnmpAgent where
  devices : String → Option Record

/-- A variable of the MIB. -/
structure MibEntry where
  oid : String
  type : ValueType
  value : String
deriving DecidableEq

/-- The text behind the dots at its front. -/
def stripDots (oid : String) : String := String.ofList (oid.toList.dropWhile fun char => char == '.')

/-! ## Writing -/

/-- What a request can write. -/
inductive Writable where
  | contact
  | hostname
  | location
  | ifAdmin (index : Nat)
deriving DecidableEq

/-- Objects of the system group that can be written. -/
def writableOids : List (String × Writable) :=
  [("1.3.6.1.2.1.1.4.0", .contact), ("1.3.6.1.2.1.1.5.0", .hostname),
    ("1.3.6.1.2.1.1.6.0", .location)]

def ifAdminPrefix : String := "1.3.6.1.2.1.2.2.1.7."

/-- What an object identifier without dots at its front writes. -/
def writableOf (oid : String) : Option Writable :=
  match writableOids.lookup oid with
  | some target => some target
  | none =>
    let index := oid.toList.drop ifAdminPrefix.length
    if ifAdminPrefix.toList.isPrefixOf oid.toList && isNumeral index then
      some (.ifAdmin (numeralValue index))
    else none

namespace Record

variable (record : Record)

/-- The text that a request would overwrite. -/
def held : Writable → Option String
  | .contact => some record.contact
  | .hostname => some record.hostname
  | .location => some record.location
  | .ifAdmin index => record.ifAdmin index

def write (target : Writable) (value : String) : Record :=
  match target with
  | .contact => { record with contact := value }
  | .hostname => { record with hostname := value }
  | .location => { record with location := value }
  | .ifAdmin index => { record with ifAdmin := Function.update record.ifAdmin index (some value) }

end Record

def Writable.type : Writable → ValueType
  | .ifAdmin _ => .integer
  | _ => .string

/-- What the agent answers. -/
inductive Reading (α : Type) where
  | none
  | authFail
  | readOnly
  | found (value : α)
deriving DecidableEq

/-- `first or second` of two texts. -/
def orText (first second : String) : String := if first = "" then second else first

namespace SnmpAgent

variable (agent : SnmpAgent)

/-- Values written before are kept. -/
def register (device type hostname contact location community : String)
    (communities rwCommunities : List String) : SnmpAgent :=
  let previous := agent.devices device
  let record : Record :=
    { type, hostname, community, communities, rwCommunities
      contact := orText ((previous.map Record.contact).getD "") contact
      location := orText ((previous.map Record.location).getD "") location
      rwCommunity := (previous.map Record.rwCommunity).getD "private"
      ifAdmin := (previous.map Record.ifAdmin).getD fun _ => none }
  ⟨Function.update agent.devices device (some record)⟩

/-- A request to write. -/
def set (device oid value community : String) : SnmpAgent × Reading MibEntry :=
  match agent.devices device with
  | none => (agent, .none)
  | some record =>
    if community ≠ record.rwCommunity then (agent, .authFail)
    else
      let oid := stripDots oid
      match writableOf oid with
      | none => (agent, .readOnly)
      | some target =>
        (⟨Function.update agent.devices device (some (record.write target value))⟩,
          .found ⟨oid, target.type, value⟩)

/-- Whether a community may read. -/
def auth (device community : String) : Bool :=
  match agent.devices device with
  | none => community == "public"
  | some record =>
    if record.communities = [] then community == record.community
    else record.communities.contains community

end SnmpAgent

/-! ## The MIB -/

/-- Address and prefix length of an interface. -/
structure InterfaceIp where
  ip : String
  prefixLength : Nat

/-- What the packet engine knows about a device. -/
structure DeviceAddresses where
  interfaces : OrderedMap String InterfaceIp

def DeviceAddresses.ips (addresses : DeviceAddresses) : OrderedMap String Nat :=
  addresses.interfaces.values.foldl
    (fun ips info => if info.ip = "" then ips else ips.insert info.ip info.prefixLength)
    OrderedMap.empty

/-- What a build of the MIB reads. -/
structure Readings where
  uptimeTicks : Int
  cpuPercent : Nat
  downInterfaces : List String
  inBytes : String → Nat
  outBytes : String → Nat

def sysDescr : List (String × String) :=
  [("cisco", "Cisco IOS Software, ISR Software, Version 15.7(3)M"),
    ("catalyst", "Cisco IOS XE Software, Catalyst L3 Switch, Version 17.09.01"),
    ("nexus", "Cisco NX-OS Software, Nexus9000, Version 9.3(10)"),
    ("asa", "Cisco Adaptive Security Appliance Version 9.16(1)"),
    ("sir", "FUJITSU Si-R G120 Router, Firmware V40.00"),
    ("srs", "FUJITSU SR-S Switch, Firmware V40.00"),
    ("apresia", "APRESIA ApresiaLightGM200, Firmware 4.18.01"),
    ("pc", "Linux host 5.15.0 x86_64")]

def sysObjectId : List (String × String) :=
  [("cisco", "1.3.6.1.4.1.9.1.1"), ("catalyst", "1.3.6.1.4.1.9.1.2494"),
    ("nexus", "1.3.6.1.4.1.9.12.3.1.3.1084"), ("asa", "1.3.6.1.4.1.9.1.1408"),
    ("sir", "1.3.6.1.4.1.211.1.127"), ("srs", "1.3.6.1.4.1.211.1.127"),
    ("apresia", "1.3.6.1.4.1.2544"), ("pc", "1.3.6.1.4.1.8072.3.2.10")]

/-- Device types that report their load. -/
def ciscoMibTypes : List String := ["cisco", "catalyst", "nexus", "asa"]

/-- Arcs in front of an index of a column of the system group, of the load table, of the
interface table and of the address table. -/
def systemArcs : List Nat := [1, 3, 6, 1, 2, 1, 1]
def cpuArcs : List Nat := [1, 3, 6, 1, 4, 1, 9, 9, 109, 1, 1, 1, 1]
def ifNumberArcs : List Nat := [1, 3, 6, 1, 2, 1, 2, 1, 0]
def ifEntryArcs : List Nat := [1, 3, 6, 1, 2, 1, 2, 2, 1]
def ipAdEntAddrArcs : List Nat := [1, 3, 6, 1, 2, 1, 4, 20, 1, 1]

/-- The identifier of an address in the address table. -/
def addressOid (ip : String) : String := dotted ipAdEntAddrArcs ++ "." ++ ip

/-- The order in which the MIB is sorted: fields that are no numerals count as zero. -/
def sortKey (oid : String) : List Nat :=
  (dotFields oid).map fun field => if isNumeral field then numeralValue field else 0

/-- The numbers by which identifiers are compared: fields that are no numerals are left out. -/
def oidNumbers (oid : String) : List Nat := ((dotFields oid).filter isNumeral).map numeralValue

def oidGt (first second : String) : Bool := decide (oidNumbers second < oidNumbers first)

namespace SnmpAgent

variable (agent : SnmpAgent) (device : String) (addresses : DeviceAddresses) (readings : Readings)

def deviceType : String := ((agent.devices device).map Record.type).getD "cisco"

def systemGroup : List MibEntry :=
  let record := agent.devices device
  let type := agent.deviceType device
  let entry (arc : Nat) (type : ValueType) (value : String) : MibEntry :=
    ⟨dotted (systemArcs ++ [arc, 0]), type, value⟩
  [entry 1 .string ((sysDescr.lookup type).getD "Network Device"),
    entry 2 .oid ((sysObjectId.lookup type).getD "1.3.6.1.4.1.0"),
    entry 3 .timeticks (toString readings.uptimeTicks),
    entry 4 .string (orText ((record.map Record.contact).getD "") "admin@example.com"),
    entry 5 .string ((record.map Record.hostname).getD device),
    entry 6 .string (orText ((record.map Record.location).getD "") "Lab"),
    entry 7 .integer "78"]

def cpuTable : List MibEntry :=
  if ciscoMibTypes.contains (agent.deviceType device) then
    [3, 4, 7].map fun column =>
      ⟨dotted (cpuArcs ++ [column, 1]), .gauge32, toString readings.cpuPercent⟩
  else []

/-- Names and addresses of the interfaces; a device without any shows its loopback. -/
def interfaceRows : List (String × String) :=
  match addresses.interfaces.entries with
  | [] => [("lo0", "127.0.0.1")]
  | entries => entries.map fun entry => (entry.1, entry.2.ip)

def interfaceRow (index : Nat) (name ip : String) : List MibEntry :=
  let down := (readings.downInterfaces.map Network.normIface).contains (Network.normIface name)
  let admin := ((agent.devices device).bind fun record => record.ifAdmin index).getD
    (if down then "2" else "1")
  let status := if down || ip == "" then "2" else "1"
  let entry (column : Nat) (type : ValueType) (value : String) : MibEntry :=
    ⟨dotted (ifEntryArcs ++ [column, index]), type, value⟩
  [entry 1 .integer (toString index), entry 2 .string name, entry 3 .integer "6",
    entry 5 .gauge32 "1000000000", entry 7 .integer admin, entry 8 .integer status,
    entry 10 .counter32 (toString (readings.inBytes name)),
    entry 16 .counter32 (toString (readings.outBytes name))]

def interfaceTable : List MibEntry :=
  ⟨dotted ifNumberArcs, .integer, toString (interfaceRows addresses).length⟩ ::
    ((interfaceRows addresses).zipIdx 1).flatMap fun row =>
      agent.interfaceRow device readings row.2 row.1.1 row.1.2

def addressTable : List MibEntry :=
  addresses.ips.keys.map fun ip => ⟨addressOid ip, .ipAddress, ip⟩

/-- The MIB before it is sorted. -/
def unsortedMib : List MibEntry :=
  agent.systemGroup device readings ++ agent.cpuTable device readings ++
    agent.interfaceTable device addresses readings ++ addressTable addresses

def buildMib : List MibEntry :=
  (agent.unsortedMib device addresses readings).mergeSort fun first second =>
    decide (sortKey first.oid ≤ sortKey second.oid)

/-! ## Reading -/

def get (oid community : String) : Reading MibEntry :=
  match agent.devices device with
  | none => .none
  | some _ =>
    if agent.auth device community then
      match (agent.buildMib device addresses readings).find? fun entry =>
          decide (entry.oid = stripDots oid) with
      | some entry => .found entry
      | none => .none
    else .authFail

/-- The first variable behind an identifier. The agent's own callers give no community. -/
def getnext (oid : String) (community : Option String) : Reading MibEntry :=
  if community.all fun community => agent.auth device community then
    match (agent.buildMib device addresses readings).find? fun entry =>
        oidGt entry.oid (stripDots oid) with
    | some entry => .found entry
    | none => .none
  else .authFail

/-- An identifier is the base or has the base and a dot at its front. -/
def isUnder (base oid : String) : Bool :=
  oid == base || (base ++ ".").toList.isPrefixOf oid.toList

def walk (base community : String) : Reading (List MibEntry) :=
  match agent.devices device with
  | none => .none
  | some _ =>
    if agent.auth device community then
      .found ((agent.buildMib device addresses readings).filter fun entry =>
        isUnder (stripDots base) entry.oid)
    else .authFail

end SnmpAgent

end NetLab.Snmp
