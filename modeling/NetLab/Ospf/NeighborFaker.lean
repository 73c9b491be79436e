import Mathlib.Data.Nat.Basic
import Mathlib.Data.List.Basic
import Mathlib.Algebra.Group.Nat.Defs

/-!
# Neighbour faker

One end of a point-to-point adjacency, as `OSPFNeighborFaker` computes it: what a received packet
does to it, the states it sets on the way, and the packets it sends.
-/

namespace NetLab.Ospf

/-- `STATE_*`. -/
inductive FakerState where
  | down
  | init
  | twoWay
  | exStart
  | exchange
  | full
deriving DecidableEq

inductive DbdPhase where
  | waitingFinal
  | finalSent
deriving DecidableEq

/-- A database description. -/
structure DbDesc where
  i : Bool
  m : Bool
  ms : Bool
  ddseq : Nat
deriving DecidableEq

/-- A link state advertisement; `key` is the network and the prefix length of an external route. -/
inductive Lsa where
  | external (key : Nat × Nat) (metric age : Nat)
  | other
deriving DecidableEq

inductive OspfBody where
  | hello (neighbors : List Nat)
  | dbdesc (dbd : DbDesc)
  | lsreq
  | lsupd (lsas : List Lsa)
  | lsack
deriving DecidableEq

structure OspfPacket where
  srcIp : Nat
  srcId : Nat
  body : OspfBody
deriving DecidableEq

/-- The data of an end. Keys that are `None` are `none`. -/
structure Faker where
  state : FakerState := .down
  peerId : Option Nat := none
  peerIp : Option Nat := none
  isMaster : Option Bool := none
  myDdseq : Option Nat := none
  peerDdseq : Option Nat := none
  exstartSent : Bool := false
  dbdPhase : Option DbdPhase := none
deriving DecidableEq

/-- What a handler does besides changing its data: calls of `_set_state`, and packets. -/
inductive FakerOutput where
  | setState (state : FakerState)
  | send (body : OspfBody)
deriving DecidableEq

namespace Faker

/-- `_send_hello`. -/
def hello (faker : Faker) : OspfBody := .hello faker.peerId.toList

/-- `_start_exstart`, when the clock shows this time. -/
def startExstart (faker : Faker) (clock : Nat) : Faker × List FakerOutput :=
  if faker.state ≠ .twoWay ∨ faker.exstartSent = true then (faker, [])
  else
    ({ faker with state := .exStart, exstartSent := true, myDdseq := some (clock % 2 ^ 16) },
      [.setState .exStart, .send (.dbdesc ⟨true, true, true, clock % 2 ^ 16⟩)])

/-- `_handle_hello`. -/
def handleHello (faker : Faker) (routerId clock : Nat) (neighbors : List Nat) :
    Faker × List FakerOutput :=
  let heard : Faker × List FakerOutput :=
    if faker.state = .down then ({ faker with state := .init }, [.setState .init]) else (faker, [])
  if heard.1.state = .init ∧ routerId ∈ neighbors then
    let started := { heard.1 with state := .twoWay }.startExstart clock
    (started.1, heard.2 ++ .setState .twoWay :: started.2)
  else heard

/-- `_handle_dbdesc_master`. -/
def handleDbdescMaster (faker : Faker) (dbd : DbDesc) : Faker × List FakerOutput :=
  if faker.state = .exStart then
    match faker.myDdseq with
    | none => (faker, [])
    | some seq =>
      if dbd.i = false ∧ dbd.ms = false ∧ dbd.ddseq = seq then
        ({ faker with state := .exchange, myDdseq := some (seq + 1), dbdPhase := some .finalSent },
          [.setState .exchange, .send (.dbdesc ⟨false, false, true, seq + 1⟩)])
      else (faker, [])
  else if faker.state = .exchange ∧ faker.dbdPhase = some .finalSent then
    if dbd.i = false ∧ dbd.ms = false ∧ faker.myDdseq = some dbd.ddseq then
      ({ faker with state := .full }, [.setState .full])
    else (faker, [])
  else (faker, [])

/-- `_handle_dbdesc_slave`. A missing number of the peer raises an exception, which ends the
handling. -/
def handleDbdescSlave (faker : Faker) (dbd : DbDesc) : Faker × List FakerOutput :=
  if dbd.i = true ∧ dbd.m = true ∧ dbd.ms = true then
    ({ faker with
        state := .exchange
        peerDdseq := some dbd.ddseq
        dbdPhase := some .waitingFinal },
      [.send (.dbdesc ⟨false, false, false, dbd.ddseq⟩), .setState .exchange])
  else if faker.dbdPhase = some .waitingFinal ∧ dbd.i = false ∧ dbd.ms = true ∧ dbd.m = false then
    match faker.peerDdseq with
    | none => (faker, [])
    | some seq =>
      if dbd.ddseq = seq + 1 then
        ({ faker with state := .full },
          [.send (.dbdesc ⟨false, false, false, dbd.ddseq⟩), .setState .full])
      else (faker, [])
  else (faker, [])

/-- `_handle_dbdesc`. -/
def handleDbdesc (faker : Faker) (routerId clock : Nat) (dbd : DbDesc) : Faker × List FakerOutput :=
  let begun := if faker.state = .twoWay then faker.startExstart clock else (faker, [])
  if begun.1.state = .exStart ∨ begun.1.state = .exchange then
    let master := begun.1.isMaster.getD (begun.1.peerId.getD 0 < routerId)
    let decided := { begun.1 with isMaster := some master }
    let answered :=
      if master then decided.handleDbdescMaster dbd else decided.handleDbdescSlave dbd
    (answered.1, begun.2 ++ answered.2)
  else begun

/-- `_handle_lsupd`. -/
def handleLsupd (faker : Faker) (lsas : List Lsa) : Faker × List FakerOutput :=
  (faker, if lsas = [] then [] else [.send .lsack])

/-- `_on_packet`, of an end with this address and router number. -/
def onPacket (faker : Faker) (myIp routerId clock : Nat) (packet : OspfPacket) :
    Faker × List FakerOutput :=
  if packet.srcIp = myIp then (faker, [])
  else
    let known := { faker with peerIp := some packet.srcIp, peerId := some packet.srcId }
    match packet.body with
    | .hello neighbors => known.handleHello routerId clock neighbors
    | .dbdesc dbd => known.handleDbdesc routerId clock dbd
    | .lsreq => (known, [])
    | .lsupd lsas => known.handleLsupd lsas
    | .lsack => (known, [])

/-- What `_rxmt_loop` sends. -/
def retransmission (faker : Faker) : List OspfBody :=
  if faker.isMaster = some true then
    if faker.state = .exStart then
      (faker.myDdseq.map fun seq => .dbdesc ⟨true, true, true, seq⟩).toList
    else if faker.state = .exchange ∧ faker.dbdPhase = some .finalSent then
      (faker.myDdseq.map fun seq => .dbdesc ⟨false, false, true, seq⟩).toList
    else []
  else []

end Faker

/-- The packets among some outputs. -/
def sentBodies (outputs : List FakerOutput) : List OspfBody :=
  outputs.filterMap fun
    | .setState _ => none
    | .send body => some body

def setStates (outputs : List FakerOutput) : List FakerState :=
  outputs.filterMap fun
    | .setState state => some state
    | .send _ => none

end NetLab.Ospf
