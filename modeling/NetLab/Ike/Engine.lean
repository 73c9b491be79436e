import NetLab.Library.OrderedMap
import Mathlib.Algebra.Group.Nat.Defs

/-!
# IKE/IPsec negotiation engine

Negotiation as the source computes it: from one side, over the configurations of both.
What a device has configured and what it reports about its security associations are
kept apart, so that it shows which functions change which. Tunnels are the ends of the
Si-R family; IOS and ASA devices keep a record for each peer address. Log lines, life
times and dead-peer detection are not represented; an SPI is the number that its text
shows, and the hash of a text is a parameter of the world.
-/

namespace NetLab.Ike

open NetLab.Library

inductive DeviceType where
  | sir
  | srs
  | yamaha
  | fortigate
  | cisco
  | catalyst
  | asa
  | other
deriving DecidableEq

/-- Devices that describe a peer by a tunnel. -/
def DeviceType.hasTunnels : DeviceType → Bool
  | .sir | .srs | .yamaha | .fortigate => true
  | _ => false

/-- Devices that describe a peer by crypto maps and keys. -/
def DeviceType.hasCrypto : DeviceType → Bool
  | .cisco | .catalyst | .asa => true
  | _ => false

/-- Devices that can start a tunnel with manual keys. -/
def DeviceType.startsManual : DeviceType → Bool
  | .sir | .srs | .yamaha => true
  | _ => false

/-- A Diffie-Hellman group as configured, by number or by text. -/
inductive Group where
  | number (value : Nat)
  | text (value : String)
deriving DecidableEq

def defaultEncryption : String := "aes256"
def defaultHash : String := "sha256"
def defaultDh : Nat := 14
def defaultMode : String := "main"
def defaultProtocol : String := "esp"

/-- Cisco spellings of encryption algorithms. -/
def encNames : List (String × String) :=
  [("aes", "aes128"), ("aes 128", "aes128"), ("aes128", "aes128"),
    ("aes 256", "aes256"), ("aes256", "aes256"), ("aes-256", "aes256"),
    ("aes 192", "aes192"), ("aes192", "aes192"),
    ("3des", "3des"), ("des", "des"),
    ("esp-aes", "aes128"), ("esp-aes-256", "aes256"), ("esp-3des", "3des")]

/-- Cisco spellings of hash algorithms. -/
def hashNames : List (String × String) :=
  [("sha", "sha1"), ("sha1", "sha1"), ("sha256", "sha256"), ("sha-256", "sha256"),
    ("sha512", "sha512"), ("md5", "md5"),
    ("esp-sha-hmac", "sha1"), ("esp-sha256-hmac", "sha256")]

/-- Lower case, and the common name if the spelling is listed. -/
def normName (names : List (String × String)) (value : String) : String :=
  let lower := value.toLower
  (names.lookup lower).getD lower

def normEnc (value : String) : String := normName encNames value

def normHash (value : String) : String := normName hashNames value

def normDh : Group → Nat
  | .number value => value
  | .text value => value.toNat?.getD defaultDh

/-- What a phase 1 or phase 2 check compares; unset values take the defaults. -/
structure Proposal where
  preshared : String := ""
  encryption : Option String := none
  hash : Option String := none
  dhGroup : Option Group := none
  ikeMode : Option String := none
  protocol : Option String := none
deriving DecidableEq

/-- An algorithm of a manually keyed direction, with its key. -/
structure ManualAlgorithm where
  algo : Option String := none
  key : Option String := none
deriving DecidableEq

/-- One direction of a manually keyed tunnel. -/
structure ManualDirection where
  spi : Option Nat := none
  protocol : Option String := none
  encrypt : ManualAlgorithm := {}
  auth : ManualAlgorithm := {}
deriving DecidableEq

/-- A configured tunnel. -/
structure Tunnel where
  localIp : Option String := none
  remoteIp : Option String := none
  proposal : Proposal := {}
  ipsecType : Option String := none
  manualSend : ManualDirection := {}
  manualReceive : ManualDirection := {}
deriving DecidableEq

/-- An ISAKMP policy. -/
structure IsakmpPolicy where
  encryption : Option String := none
  hash : Option String := none
  group : Option Group := none
deriving DecidableEq

/-- The configuration of one device. `cryptoPeers` are the peers that its crypto maps
name, `peerKeys` the tunnel groups with their keys. -/
structure Session where
  deviceType : DeviceType
  interfaces : OrderedMap String (Option String) := .empty
  tunnels : OrderedMap String Tunnel := .empty
  ikeEnabled : Bool := false
  ipsecEnabled : Bool := false
  isakmpEnabled : Bool := false
  isakmpPolicies : OrderedMap Nat IsakmpPolicy := .empty
  isakmpKeys : OrderedMap String String := .empty
  cryptoPeers : List String := []
  peerKeys : OrderedMap String (Option String) := .empty

inductive Status where
  | wait
  | established
deriving DecidableEq

inductive Phase where
  | larval
  | dying
  | mature
deriving DecidableEq

/-- What a device reports about one end of a tunnel. -/
structure Sa where
  status : Option Status := none
  phase1 : Option Phase := none
  phase2 : Option Phase := none
  spiIn : Option Nat := none
  spiOut : Option Nat := none
deriving DecidableEq

/-- All devices, what they are linked to, and what they report about each of their ends:
a tunnel number, or the address of a peer. -/
structure World (Device : Type) where
  sessions : OrderedMap Device Session
  neighbors : Device → List Device
  textHash : String → Nat
  sas : OrderedMap (Device × String) Sa := .empty

structure NegotiationResult where
  success : Bool
  phase : Nat
  reason : String
deriving DecidableEq

/-! ## Reading a configuration -/

/-- The first tunnel between two addresses. -/
def sirTunnelInfo (session : Session) (localIp remoteIp : String) : Option (String × Tunnel) :=
  if session.deviceType.hasTunnels then
    session.tunnels.entries.find? fun entry =>
      entry.2.localIp == some localIp && entry.2.remoteIp == some remoteIp
  else none

/-- The proposal that an IOS or ASA device has for a peer: the key of the tunnel group or
else the ISAKMP key, and the first policy. -/
def ciscoPeerInfo (session : Session) (remoteIp : String) : Proposal :=
  let groupKey := ((session.peerKeys.lookup remoteIp).join).getD ""
  let policy := ((session.isakmpPolicies.values.head?)).getD {}
  { preshared :=
      if groupKey != "" then groupKey else (session.isakmpKeys.lookup remoteIp).getD ""
    encryption := some (normEnc (policy.encryption.getD defaultEncryption))
    hash := some (normHash (policy.hash.getD defaultHash))
    dhGroup := some (.number (normDh (policy.group.getD (.number defaultDh))))
    ikeMode := some defaultMode
    protocol := some defaultProtocol }

/-- The first usable address of a device. -/
def getLocalIp (session : Session) : String :=
  ((session.interfaces.values.find? fun ip =>
    ip.getD "" != "" && ip.getD "" != "127.0.0.1").join).getD ""

/-- A device answers at an address if one of its tunnels, or one of its interfaces, has
it. -/
def answersAt (session : Session) (ip : String) : Bool :=
  if session.deviceType.hasTunnels then
    session.tunnels.values.any fun tunnel => tunnel.localIp == some ip
  else if session.deviceType.hasCrypto then
    session.interfaces.values.any fun iface => iface == some ip
  else false

/-- First difference between two phase 1 proposals. -/
def phase1Check (localD peerD : Proposal) : Option String :=
  let localDh := normDh (localD.dhGroup.getD (.number defaultDh))
  let peerDh := normDh (peerD.dhGroup.getD (.number defaultDh))
  let localEnc := normEnc (localD.encryption.getD defaultEncryption)
  let peerEnc := normEnc (peerD.encryption.getD defaultEncryption)
  let localHash := normHash (localD.hash.getD defaultHash)
  let peerHash := normHash (peerD.hash.getD defaultHash)
  let localMode := localD.ikeMode.getD defaultMode
  let peerMode := peerD.ikeMode.getD defaultMode
  if localD.preshared = "" then some "Phase1 failed: preshared-key not configured (local)"
  else if peerD.preshared = "" then some "Phase1 failed: preshared-key not configured (peer)"
  else if localD.preshared ≠ peerD.preshared then some "Phase1 failed: preshared-key mismatch"
  else if localDh ≠ peerDh then
    some s!"Phase1 failed: DH group mismatch (local={localDh}, peer={peerDh})"
  else if localEnc ≠ peerEnc then
    some s!"Phase1 failed: encryption mismatch (local={localEnc}, peer={peerEnc})"
  else if localHash ≠ peerHash then
    some s!"Phase1 failed: hash mismatch (local={localHash}, peer={peerHash})"
  else if localMode ≠ peerMode then
    some s!"Phase1 failed: IKE mode mismatch (local={localMode}, peer={peerMode})"
  else none

/-- First difference between two phase 2 proposals. -/
def phase2Check (localD peerD : Proposal) : Option String :=
  let localProto := (localD.protocol.getD defaultProtocol).toLower
  let peerProto := (peerD.protocol.getD defaultProtocol).toLower
  if localProto ≠ peerProto then
    some s!"Phase2 failed: protocol mismatch (local={localProto}, peer={peerProto})"
  else none

/-- An algorithm is defined unless it is unset or `none`. -/
def ManualAlgorithm.defined (algorithm : ManualAlgorithm) : Bool :=
  match algorithm.algo with
  | none => false
  | some algo => algo != "" && algo != "none"

/-- AH needs an authentication algorithm and ESP an encryption algorithm. -/
def manualSaCreatable (direction : ManualDirection) : Bool :=
  if direction.protocol = some "ah" then direction.auth.defined
  else if direction.protocol = some "esp" then direction.encrypt.defined
  else false

private def hex (value : Nat) : String := String.ofList (Nat.toDigits 16 value)

private def shown (text : Option String) : String := text.getD "None"

/-- First difference between a sending direction and the receiving one it meets. -/
def manualKeyMatches (localD peerD : ManualDirection) : Option String :=
  let localProtocol := shown localD.protocol
  let peerProtocol := shown peerD.protocol
  let localSpi := hex (localD.spi.getD 0)
  let peerSpi := hex (peerD.spi.getD 0)
  if localD.protocol ≠ peerD.protocol then
    some s!"protocol mismatch (local={localProtocol}, peer={peerProtocol})"
  else if localD.spi ≠ peerD.spi then
    some s!"SPI mismatch (local=0x{localSpi}, peer=0x{peerSpi})"
  else if localD.encrypt ≠ peerD.encrypt then some "encrypt algorithm/key mismatch"
  else if localD.auth ≠ peerD.auth then some "auth algorithm/key mismatch"
  else none

/-! ## Negotiation -/

/-- What one side sees of the end that it addresses: under which key that end is
recorded, its proposal, and whether IKE is on there. -/
structure PeerView where
  key : String
  proposal : Proposal
  ikeOn : Bool

/-- The end at a peer for traffic between two addresses, `localIp` being the one of the
side that asks. -/
def peerView (session : Session) (remoteIp localIp : String) : Option PeerView :=
  if session.deviceType.hasTunnels then
    (sirTunnelInfo session remoteIp localIp).map fun entry =>
      { key := entry.1, proposal := entry.2.proposal, ikeOn := session.ikeEnabled }
  else
    some { key := localIp, proposal := ciscoPeerInfo session localIp,
           ikeOn := session.isakmpEnabled }

namespace World

variable {Device : Type} [DecidableEq Device] (world : World Device)

/-- What a device reports about one of its ends. -/
def sa (device : Device) (key : String) : Sa := (world.sas.lookup (device, key)).getD {}

/-- Change what a device reports about one of its ends. -/
def updateSa (device : Device) (key : String) (update : Sa → Sa) : World Device :=
  { world with sas := world.sas.insert (device, key) (update (world.sa device key)) }

/-- The device that answers at an address; a linked one is preferred. -/
def findPeer (localId : Device) (remoteIp : String) : Option (Device × Session) :=
  let found := world.sessions.entries.filter fun entry =>
    decide (entry.1 ≠ localId) && answersAt entry.2 remoteIp
  match found.find? fun entry => decide (entry.1 ∈ world.neighbors localId) with
  | some entry => some entry
  | none => found.head?

/-- Change the record of a peer that has tunnels; other peers keep none of phase 1. -/
def updatePeer (peer : Device) (session : Session) (key : String) (update : Sa → Sa) :
    World Device :=
  if session.deviceType.hasTunnels then world.updateSa peer key update else world

def negotiateTunnel (initiator : Device) (session : Session) (tid : String) (tunnel : Tunnel) :
    World Device × NegotiationResult :=
  let remoteIp := tunnel.remoteIp.getD ""
  let localIp := tunnel.localIp.getD ""
  let refuse (reason : String) : World Device × NegotiationResult :=
    (world.updateSa initiator tid fun sa =>
      { sa with status := some .wait, phase1 := some .larval }, ⟨false, 1, reason⟩)
  if remoteIp = "" ∨ localIp = "" then
    (world.updateSa initiator tid fun sa =>
      { sa with status := some .wait, phase1 := some .larval, phase2 := some .larval },
      ⟨false, 1, "Tunnel IP not configured"⟩)
  else if !session.ikeEnabled then refuse "ike use on not set"
  else if !session.ipsecEnabled then refuse "ipsec use on not set"
  else
    match world.findPeer initiator remoteIp with
    | none => refuse s!"Peer {remoteIp} not found"
    | some (peer, peerSession) =>
      match peerView peerSession remoteIp localIp with
      | none => refuse "Peer tunnel config missing"
      | some view =>
        if !view.ikeOn then refuse "Peer IKE not enabled"
        else
          match phase1Check tunnel.proposal view.proposal with
          | some reason =>
            ((world.updateSa initiator tid fun sa =>
                { sa with status := some .wait, phase1 := some .dying }).updatePeer
              peer peerSession view.key fun sa => { sa with phase1 := some .dying },
              ⟨false, 1, reason⟩)
          | none =>
            let agreed := (world.updateSa initiator tid fun sa =>
                { sa with phase1 := some .mature }).updatePeer
              peer peerSession view.key fun sa => { sa with phase1 := some .mature }
            match phase2Check tunnel.proposal view.proposal with
            | some reason =>
              (agreed.updateSa initiator tid fun sa =>
                { sa with status := some .wait, phase2 := some .dying },
                ⟨false, 2, reason⟩)
            | none =>
              let spiSeed := world.textHash (localIp ++ remoteIp ++ tid)
              let spiIn := spiSeed % 2 ^ 32
              let spiOut := (spiSeed >>> 4) % 2 ^ 32
              ((agreed.updateSa initiator tid fun sa =>
                  { sa with
                    status := some .established, phase2 := some .mature
                    spiIn := some spiIn, spiOut := some spiOut }).updateSa
                peer view.key fun sa =>
                  { sa with
                    status := some .established, phase1 := some .mature
                    phase2 := some .mature
                    spiIn := some spiOut, spiOut := some spiIn },
                ⟨true, 2, "OK"⟩)

/-- Negotiate with one peer address from an IOS or ASA device. -/
def negotiateCrypto (initiator : Device) (session : Session) (remoteIp : String) :
    World Device × NegotiationResult :=
  let localIp := getLocalIp session
  let localD := ciscoPeerInfo session remoteIp
  if !session.isakmpEnabled then (world, ⟨false, 1, "crypto isakmp enable not set"⟩)
  else if localD.preshared = "" then (world, ⟨false, 1, "PSK not configured"⟩)
  else
    match world.findPeer initiator remoteIp with
    | none => (world, ⟨false, 1, s!"Peer {remoteIp} not found"⟩)
    | some (peer, peerSession) =>
      match (peerView peerSession remoteIp localIp).filter PeerView.ikeOn with
      | none => (world, ⟨false, 1, "Peer not ready"⟩)
      | some view =>
        match phase1Check localD view.proposal with
        | some reason => (world, ⟨false, 1, reason⟩)
        | none =>
          match phase2Check localD view.proposal with
          | some reason => (world, ⟨false, 2, reason⟩)
          | none =>
            let spiSeed := world.textHash (localIp ++ remoteIp)
            let spiIn := spiSeed % 2 ^ 32
            let spiOut := (spiSeed >>> 4) % 2 ^ 32
            ((world.updateSa initiator remoteIp fun sa =>
                { sa with
                  status := some .established, phase1 := some .mature
                  phase2 := some .mature
                  spiIn := some spiIn, spiOut := some spiOut }).updatePeer
              peer peerSession view.key fun sa =>
                { sa with
                  status := some .established, phase1 := some .mature
                  phase2 := some .mature
                  spiIn := some spiOut, spiOut := some spiIn },
              ⟨true, 2, "OK"⟩)

def showManual (device : Device) (tid : String) (send : ManualDirection) : World Device :=
  { world with
    sessions := world.sessions.modify device fun session =>
      { session with
        tunnels := session.tunnels.modify tid fun tunnel =>
          { tunnel with
            proposal :=
              { tunnel.proposal with
                protocol := some (send.protocol.getD "esp")
                encryption := some (send.encrypt.algo.getD "none")
                hash := some (send.auth.algo.getD "none") } } } }

/-- Bring up one manually keyed tunnel from the side that has it; others are skipped. -/
def negotiateManual (initiator : Device) (tid : String) (tunnel : Tunnel) :
    World Device × Option NegotiationResult :=
  let localIp := tunnel.localIp.getD ""
  let remoteIp := tunnel.remoteIp.getD ""
  let send := tunnel.manualSend
  let receive := tunnel.manualReceive
  let wait (reason : String) : World Device × Option NegotiationResult :=
    (world.updateSa initiator tid fun sa => { sa with status := some .wait },
      some ⟨false, 0, reason⟩)
  if tunnel.ipsecType ≠ some "manual" then (world, none)
  else if localIp = "" ∨ remoteIp = "" then wait "Tunnel IP not configured"
  else if !manualSaCreatable send || !manualSaCreatable receive then
    wait "send/receiveの設定が不完全です — protocol=ah なら auth を、protocol=esp なら encrypt を定義してください"
  else
    match world.findPeer initiator remoteIp with
    | none => wait s!"Peer {remoteIp} not found"
    | some (peer, peerSession) =>
      match (sirTunnelInfo peerSession remoteIp localIp).filter fun entry =>
          entry.2.ipsecType == some "manual" with
      | none => wait "Peer tunnel not manual"
      | some (peerTid, peerTunnel) =>
        let peerSend := peerTunnel.manualSend
        let peerReceive := peerTunnel.manualReceive
        match (manualKeyMatches send peerReceive).or (manualKeyMatches peerSend receive) with
        | some reason => wait reason
        | none =>
          ((((world.updateSa initiator tid fun sa =>
              { sa with
                status := some .established, phase1 := some .mature
                phase2 := some .mature
                spiIn := some (receive.spi.getD 0), spiOut := some (send.spi.getD 0) }
            ).showManual initiator tid send).updateSa peer peerTid fun sa =>
              { sa with
                status := some .established, phase1 := some .mature
                phase2 := some .mature
                spiIn := some (peerReceive.spi.getD 0)
                spiOut := some (peerSend.spi.getD 0) }
            ).showManual peer peerTid peerSend,
            some ⟨true, 0, "OK"⟩)

/-- The peer addresses of an IOS or ASA device, in some order: tunnel groups, records of
earlier negotiations, and crypto maps. -/
def allPeers (device : Device) (session : Session) : List String :=
  (session.peerKeys.keys ++
    (world.sas.keys.filter fun entry => decide (entry.1 = device)).map Prod.snd ++
    session.cryptoPeers.filter fun peer => peer != "").dedup

def negotiateEach {Item : Type} (name : Item → String)
    (handle : World Device → Item → World Device × Option NegotiationResult) :
    World Device → List Item → World Device × List (String × NegotiationResult)
  | world, [] => (world, [])
  | world, item :: rest =>
    let one := handle world item
    let others := negotiateEach name handle one.1 rest
    (others.1, (one.2.map fun result => (name item, result)).toList ++ others.2)

def negotiateIpsec (initiator : Device) : World Device × List (String × NegotiationResult) :=
  match world.sessions.lookup initiator with
  | none => (world, [])
  | some session =>
    if session.deviceType.hasTunnels then
      negotiateEach Prod.fst (fun current entry =>
        let one := current.negotiateTunnel initiator session entry.1 entry.2
        (one.1, some one.2)) world session.tunnels.entries
    else if session.deviceType.hasCrypto then
      negotiateEach id (fun current remoteIp =>
        let one := current.negotiateCrypto initiator session remoteIp
        (one.1, some one.2)) world (world.allPeers initiator session)
    else (world, [])

/-- Bring up every manually keyed tunnel of a device. -/
def negotiateManualIpsec (initiator : Device) :
    World Device × List (String × NegotiationResult) :=
  match world.sessions.lookup initiator with
  | none => (world, [])
  | some session =>
    if session.deviceType.startsManual then
      negotiateEach Prod.fst (fun current entry =>
        current.negotiateManual initiator entry.1 entry.2) world session.tunnels.entries
    else (world, [])

end World

/-! ## Runs -/

/-- Configuration commands and negotiations. Most commands change the configuration of a
device and nothing else; `presharedKey` (Si-R) and `tunnelDisable` (Yamaha) also change
what the device reports. -/
inductive IkeEvent (Device : Type) where
  | configure (device : Device) (session : Session)
  | presharedKey (device : Device) (tid : String) (preshared : String)
  | tunnelDisable (device : Device) (tid : String)
  | negotiateIpsec (device : Device)
  | negotiateManualIpsec (device : Device)

namespace World

variable {Device : Type} [DecidableEq Device] (world : World Device)

/-- Replace the configuration of a device. Ends that are no longer there report nothing. -/
def configure (device : Device) (session : Session) : World Device :=
  { world with
    sessions := world.sessions.insert device session
    sas := world.sas.filter fun entry _ =>
      decide (entry.1 ≠ device) || !session.deviceType.hasTunnels ||
        decide (entry.2 ∈ session.tunnels.keys) }

/-- Setting the pre-shared key of an Si-R tunnel marks it as established. -/
def setPresharedKey (device : Device) (tid preshared : String) : World Device :=
  match world.sessions.lookup device with
  | none => world
  | some session =>
    if session.deviceType = .sir ∨ session.deviceType = .srs then
      let tunnel := (session.tunnels.lookup tid).getD {}
      let keyed := { tunnel with proposal := { tunnel.proposal with preshared } }
      { world with
        sessions := world.sessions.insert device
          { session with tunnels := session.tunnels.insert tid keyed } }.updateSa
        device tid fun sa =>
          { sa with
            status := some .established, phase1 := some .mature, phase2 := some .mature }
    else world

def disableTunnel (device : Device) (tid : String) : World Device :=
  match world.sessions.lookup device with
  | none => world
  | some session =>
    if session.deviceType = .yamaha then
      let off : World Device :=
        { world with
          sessions := world.sessions.insert device
            { session with ikeEnabled := false, ipsecEnabled := false } }
      match session.tunnels.lookup tid with
      | none => off
      | some _ =>
        off.updateSa device tid fun sa =>
          { sa with status := some .wait, phase1 := some .larval, phase2 := some .larval }
    else world

def step : IkeEvent Device → World Device
  | .configure device session => world.configure device session
  | .presharedKey device tid preshared => world.setPresharedKey device tid preshared
  | .tunnelDisable device tid => world.disableTunnel device tid
  | .negotiateIpsec device => (world.negotiateIpsec device).1
  | .negotiateManualIpsec device => (world.negotiateManualIpsec device).1

end World

end NetLab.Ike
