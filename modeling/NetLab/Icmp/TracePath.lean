import NetLab.Rib.BestRoutes

/-!
# Tracing a path

`IcmpEngine.trace_path` follows the routing tables from device to device until one has
the destination on a connected network. A ping succeeds exactly if the trace does.
Hostnames are left out; whether an IPsec tunnel covers a hop is a parameter, since it
only decides which address of the hop is shown.
-/

namespace NetLab.Icmp

open NetLab.Network NetLab.Rib

/-- One device on a trace. -/
structure Hop where
  device : String
  ip : String
  timeout : Bool := false
  ipsec : Bool := false
deriving DecidableEq

/-- Result of a trace. -/
structure Trace where
  reachable : Bool
  hops : List Hop
  reason : String
  destDevice : Option String := none
deriving DecidableEq

/-- The empty name counts as no device. -/
def present (device : Option String) : Option String := device.filter fun name => name != ""

section Definitions

variable (emulator : Emulator)

/-- The owner of an address, or else the first device in its network. -/
def findDestination (ip : String) : Option String :=
  (present (emulator.findDeviceOwningIp ip)).or (emulator.findDeviceInNetwork ip)

/-- Two devices are linked, and all their links are down. -/
def edgeDead (device peer : String) : Bool :=
  decide (peer ∈ emulator.network.getNeighbors device) && !emulator.network.edgeUp device peer

def onNetwork (device ip : String) : Bool :=
  (emulator.ipsOf device).entries.any fun entry => ipInNetwork ip entry.1 entry.2

def keepLonger (destIp : String) (matched : Option Candidate) (route : Candidate) :
    Option Candidate :=
  if ipInNetwork destIp route.destination.network route.destination.length &&
      matched.all fun kept => decide (kept.destination.length < route.destination.length) then
    some route
  else matched

/-- The route by which a device sends to an address: the longest match, or the default. -/
def matchedRoute (device destIp : String) : Option Candidate :=
  let bestRoutes := emulator.getBestRoutes device
  (bestRoutes.foldl (keepLonger destIp) none).or (bestRoutes.find? fun route =>
      route.destination.network == "0.0.0.0" && route.destination.length == 0)

/-- Next hop on a connected network: a neighbour that owns the destination, or else any
device that owns it or has an interface in its network. -/
def connectedHop (device destIp : String) : Option (String × String) :=
  match (emulator.network.getNeighbors device).find? fun peer => emulator.owns peer destIp with
  | some peer => if edgeDead emulator device peer then none else some (peer, destIp)
  | none =>
    match findDestination emulator destIp with
    | none => none
    | some owner =>
      if owner ≠ "" ∧ edgeDead emulator device owner then none else some (owner, destIp)

/-- The device behind a next hop, and its address: a neighbour that owns it, any owner, a
neighbour that it names, a device on the segment, or else the first neighbour. -/
def gatewayHop (device nextHop : String) : Option (String × String) :=
  let neighbors := emulator.network.getNeighbors device
  match neighbors.find? fun peer => emulator.owns peer nextHop with
  | some peer => some (peer, nextHop)
  | none =>
    match present (emulator.findDeviceOwningIp nextHop) with
    | some owner => some (owner, nextHop)
    | none =>
      match neighbors.find? fun peer => emulator.named peer nextHop with
      | some peer => some (peer, emulator.sharedIp device peer nextHop)
      | none =>
        match (emulator.l2SegmentPeers device).find? fun peer =>
            emulator.named peer nextHop || emulator.owns peer nextHop with
        | some peer =>
          some (peer, if emulator.named peer nextHop then
            emulator.sharedIp device peer nextHop else nextHop)
        | none => neighbors.head?.map fun peer => (peer, nextHop)

/-- `_resolve_next_hop_detail`: the next device and the address to show for it. -/
def resolveNextHop (device destIp : String) : Option (String × String) :=
  match matchedRoute emulator device destIp with
  | none => none
  | some route =>
    -- a black hole drops the packet
    if route.nextHop = "Null0" then none
    else if unspecified route.nextHop then connectedHop emulator device destIp
    else gatewayHop emulator device route.nextHop

/-- The device that a packet is handed to. -/
def nextDevice (device destIp : String) : Option String :=
  present ((resolveNextHop emulator device destIp).map Prod.fst)

/-- The destination is on a network of the device, and its owner is not behind a dead
link. -/
def arrives (device destIp : String) : Bool :=
  onNetwork emulator device destIp &&
    !(present (emulator.findDeviceOwningIp destIp)).any fun owner =>
      owner != device && edgeDead emulator device owner

/-- The first address of a device. -/
def firstIp (device : String) : String := (emulator.ipsOf device).keys.head?.getD "?"

/-- The line for a device that was reached; `tunneled` tells whether through IPsec. -/
def hopTo (tunneled : String → String → Bool) (device next ip destIp : String) : Hop :=
  if tunneled device next then
    let local? := (emulator.ipsOf next).entries.find? fun entry =>
      ipInNetwork destIp entry.1 entry.2
    { device := next, ip := (local?.map Prod.fst).getD (firstIp emulator next), ipsec := true }
  else { device := next, ip := ip }

def walk (tunneled : String → String → Bool) (destIp : String) :
    (ttl : Nat) → (visited : List String) → (current : String) → (hops : List Hop) → Trace
  | 0, _, _, hops => { reachable := false, hops := hops, reason := "TTL exceeded" }
  | ttl + 1, visited, current, hops =>
    if current ∈ visited then
      { reachable := false, hops := hops, reason := "loop detected" }
    else if arrives emulator current destIp then
      { reachable := true, hops := hops, reason := "connected"
        destDevice := findDestination emulator destIp }
    else
      match nextDevice emulator current destIp with
      | none =>
        { reachable := false
          hops := hops ++ [{ device := current, ip := firstIp emulator current, timeout := true }]
          reason := "no route to host" }
      | some next =>
        let ip := ((resolveNextHop emulator current destIp).map Prod.snd).getD ""
        walk tunneled destIp ttl (current :: visited) next
          (hops ++ [hopTo emulator tunneled current next ip destIp])

/-- `trace_path`. -/
def tracePath (tunneled : String → String → Bool) (src destIp : String) (maxHops : Nat := 30) :
    Trace :=
  if emulator.owns src destIp then
    { reachable := true, hops := [], reason := "self", destDevice := some src }
  else walk emulator tunneled destIp maxHops [] src []

end Definitions

end NetLab.Icmp
