import NetLab.Library.Execution
import NetLab.Rib.Emulator

/-!
# ARP engine

Address tables of the devices, and what resolving an address does to them. A request is cut where it
waits for its messages to be delivered: it looks its answer up and plans what will be learned, and
each table is written later. Interfaces of entries are only displayed, so they are left out.
-/

namespace NetLab.Arp

open NetLab.Library NetLab.Rib

inductive EntryType where
  | dynamic
  | static
deriving DecidableEq

structure ArpEntry where
  mac : String
  /-- Time at which the entry was made. -/
  age : Nat
  entryType : EntryType := .dynamic
deriving DecidableEq

abbrev ArpTables := String → OrderedMap String ArpEntry

/-- Four hours. -/
def arpTimeout : Nat := 14400

/-- What requests read of the other engines, and the hash that makes up a MAC address for a device
and an address. -/
structure Surroundings where
  emulator : Emulator
  proxyArp : String → String → Option Bool
  genMac : String → String → String

/-- A dynamic entry that will be written. -/
structure ArpWrite where
  device : String
  ip : String
  mac : String
deriving DecidableEq

/-- `resolve`: what is known about an address; an entry that is too old is deleted. -/
def resolve (tables : ArpTables) (now : Nat) (device targetIp : String) :
    ArpTables × Option String :=
  match (tables device).lookup targetIp with
  | none => (tables, none)
  | some entry =>
    if now - entry.age < arpTimeout then (tables, some entry.mac)
    else (Function.update tables device ((tables device).erase targetIp), none)

namespace Surroundings

variable (surroundings : Surroundings)

/-- `_iface_for_ip`. -/
def ifaceForIp (device ip : String) : String :=
  ((surroundings.emulator.info device).interfaces.entries.find? fun entry =>
    entry.2.ip == ip).elim "lan0" Prod.fst

/-- `proxy_arp_enabled`; by default only Cisco routers answer for others. -/
def proxyArpEnabled (device iface deviceType : String) : Bool :=
  (surroundings.proxyArp device iface).getD (deviceType == "cisco")

def proxyAddress (device myIp candidate : String) : Option String :=
  let candidateType := (surroundings.emulator.deviceTypes.lookup candidate).getD ""
  if candidate = device ∨ candidateType ∉ ["cisco", "sir", "srs", "catalyst"] then none
  else
    match (surroundings.emulator.ipsOf candidate).entries.find? fun entry =>
        ipInNetwork myIp entry.1 entry.2 with
    | none => none
    | some (routerIp, _) =>
      if surroundings.proxyArpEnabled candidate (surroundings.ifaceForIp candidate routerIp)
          candidateType then
        some routerIp
      else none

/-- `_try_proxy_arp`: the first router that answers, network by network. -/
def tryProxyArp (device targetIp : String) : List ArpWrite :=
  let answers := (surroundings.emulator.ipsOf device).keys.flatMap fun myIp =>
    surroundings.emulator.deviceIps.keys.filterMap fun candidate =>
      (surroundings.proxyAddress device myIp candidate).map fun routerIp =>
        surroundings.genMac candidate routerIp
  answers.head?.toList.map fun mac => ⟨device, targetIp, mac⟩

/-- What a request will write: on its own network the owner of the address learns who asked, and the
device learns the answer. -/
def plan (device targetIp : String) : List ArpWrite :=
  match (surroundings.emulator.ipsOf device).entries.find? fun entry =>
      ipInNetwork targetIp entry.1 entry.2 with
  | none => surroundings.tryProxyArp device targetIp
  | some (myIp, _) =>
    match (surroundings.emulator.findDeviceOwningIp targetIp).filter fun owner => owner != "" with
    | none => [⟨device, targetIp, surroundings.genMac "host" targetIp⟩]
    | some owner =>
      [⟨owner, myIp, surroundings.genMac device myIp⟩,
        ⟨device, targetIp, surroundings.genMac owner targetIp⟩]

end Surroundings

/-- Tables, the time, and the writes that requests have still to do. -/
structure ArpState where
  tables : ArpTables := fun _ => .empty
  now : Nat := 0
  requests : List (List ArpWrite) := []

/-- What happens to the tables: the operator's commands, time, lookups, and requests with their
writes one by one. -/
inductive ArpEvent where
  | addStatic (device ip mac : String)
  | clear (device : String)
  | tick (seconds : Nat)
  | resolve (device targetIp : String)
  | resolveWithPacket (device targetIp : String) (surroundings : Surroundings)
  | proceed (index : Nat)

/-- Write a dynamic entry. -/
def ArpWrite.apply (write : ArpWrite) (now : Nat) (tables : ArpTables) : ArpTables :=
  Function.update tables write.device
    ((tables write.device).insert write.ip { mac := write.mac, age := now })

def arpStep (state : ArpState) : ArpEvent → ArpState
  | .addStatic device ip mac =>
    { state with
      tables := Function.update state.tables device
        ((state.tables device).insert ip { mac, age := state.now, entryType := .static }) }
  | .clear device => { state with tables := Function.update state.tables device .empty }
  | .tick seconds => { state with now := state.now + seconds }
  | .resolve device targetIp =>
    { state with tables := (resolve state.tables state.now device targetIp).1 }
  | .resolveWithPacket device targetIp surroundings =>
    let cached := resolve state.tables state.now device targetIp
    { state with
      tables := cached.1
      requests :=
        if cached.2.any fun mac => mac != "" then state.requests
        else state.requests ++ [surroundings.plan device targetIp] }
  | .proceed index =>
    match state.requests[index]? with
    | none => state
    | some [] => { state with requests := state.requests.eraseIdx index }
    | some (write :: rest) =>
      { state with
        tables := write.apply state.now state.tables
        requests := state.requests.set index rest }

end NetLab.Arp
