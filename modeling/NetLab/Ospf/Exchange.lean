import NetLab.Library.Execution
import NetLab.Ospf.NeighborFaker
import Mathlib.Logic.Function.Basic

/-!
# Database exchange of two neighbour fakers

Two ends over a channel that delays, reorders, duplicates and loses their packets. Only the end
with the higher router number sends a description again, and only once it has received one, so the
exchange can go on exactly as long as no description is lost that nobody would send again.
-/

namespace NetLab.Ospf

open NetLab.Execution Faker

/-! ## The machine -/

/-- The two ends, in the order of their router numbers. -/
inductive Side where
  | high
  | low
deriving DecidableEq

def Side.other : Side → Side
  | .high => .low
  | .low => .high

/-- Router numbers and addresses of the ends. -/
structure EndPair where
  routerId : Side → Nat
  ip : Side → Nat
  ordered : routerId .low < routerId .high

/-- Both ends, and the packets under way with the end that they go to. -/
structure Adjacency where
  ends : Side → Faker := fun _ => {}
  stopped : Side → Bool := fun _ => false
  inFlight : List (Side × OspfPacket) := []

/-- A round of the loop that sends Hellos or retransmits, and what the channel does to the packet at
a position. -/
inductive ExchangeEvent where
  | hello (side : Side)
  | retransmit (side : Side)
  | deliver (index clock : Nat)
  | duplicate (index : Nat)
  | lose (index : Nat)
  | stop (side : Side)
deriving DecidableEq

variable (pair : EndPair)

/-- Packets of an end to the other one. -/
def packetsOf (side : Side) (bodies : List OspfBody) : List (Side × OspfPacket) :=
  bodies.map fun body => (side.other, ⟨pair.ip side, pair.routerId side, body⟩)

def exchangeStep (adjacency : Adjacency) : ExchangeEvent → Adjacency
  | .hello side =>
    if adjacency.stopped side = true then adjacency
    else
      { adjacency with
        inFlight := adjacency.inFlight ++ packetsOf pair side [(adjacency.ends side).hello] }
  | .retransmit side =>
    if adjacency.stopped side = true then adjacency
    else
      { adjacency with
        inFlight := adjacency.inFlight ++ packetsOf pair side (adjacency.ends side).retransmission }
  -- a stopped end can still hear a packet; one that it does not hear is lost
  | .deliver index clock =>
    match adjacency.inFlight[index]? with
    | none => adjacency
    | some (side, packet) =>
      let received :=
        (adjacency.ends side).onPacket (pair.ip side) (pair.routerId side) clock packet
      { adjacency with
        ends := Function.update adjacency.ends side received.1
        inFlight := adjacency.inFlight.eraseIdx index ++
          packetsOf pair side (sentBodies received.2) }
  | .duplicate index =>
    { adjacency with inFlight := adjacency.inFlight ++ adjacency.inFlight[index]?.toList }
  | .lose index => { adjacency with inFlight := adjacency.inFlight.eraseIdx index }
  | .stop side => { adjacency with stopped := Function.update adjacency.stopped side true }

/-! ## The claim -/

/-- Rounds of the loops, and deliveries. -/
def ExchangeEvent.Benign : ExchangeEvent → Prop
  | .hello _ => True
  | .retransmit _ => True
  | .deliver _ _ => True
  | _ => False

/-- Without further loss, both ends can become full. -/
def CanFinish (adjacency : Adjacency) : Prop :=
  ∃ events : List ExchangeEvent, (∀ event ∈ events, event.Benign) ∧
    ∀ side, ((runFrom (exchangeStep pair) adjacency events).ends side).state = .full

/-- An end has accepted a description of the exchange with this number: a master has moved its
number on, and a slave has noted it. -/
def Faker.HasAccepted (faker : Faker) (number : Nat) : Prop :=
  faker.isMaster = some true ∧ faker.myDdseq = some (number + 1) ∨
    faker.isMaster = some false ∧ faker.peerDdseq = some number

/-- One master at most, full ends only after descriptions were accepted on both sides, and a way on
for ends that run. -/
structure Sound (adjacency : Adjacency) : Prop where
  master : ¬ ((adjacency.ends .high).isMaster = some true ∧
    (adjacency.ends .low).isMaster = some true)
  full : ∀ side, (adjacency.ends side).state = .full → ∃ number,
    (adjacency.ends side).HasAccepted number ∧ (adjacency.ends side.other).HasAccepted number
  finishes : (∀ side, adjacency.stopped side = false) → CanFinish pair adjacency

/-- A description that opens an exchange. -/
def OspfBody.Opens : OspfBody → Prop
  | .dbdesc dbd => dbd.i = true ∧ dbd.m = true ∧ dbd.ms = true
  | _ => False

instance : DecidablePred OspfBody.Opens
  | .dbdesc dbd => inferInstanceAs (Decidable (dbd.i = true ∧ dbd.m = true ∧ dbd.ms = true))
  | .hello _ => isFalse nofun
  | .lsreq => isFalse nofun
  | .lsupd _ => isFalse nofun
  | .lsack => isFalse nofun

/-- A description of a slave with this number. -/
def OspfBody.Answers (number : Option Nat) : OspfBody → Prop
  | .dbdesc dbd => dbd.i = false ∧ dbd.ms = false ∧ number = some dbd.ddseq
  | _ => False

def OspfBody.IsDbdesc : OspfBody → Prop
  | .dbdesc _ => True
  | _ => False

/-- The higher end waits for a first description, the lower end has sent all of its own, and neither
one of these nor one that would be answered is under way. -/
def OfferLost (adjacency : Adjacency) : Prop :=
  ((adjacency.ends .high).state = .exStart ∧ (adjacency.ends .high).isMaster = none) ∧
    ((adjacency.ends .low).state = .exStart ∨ (adjacency.ends .low).state = .exchange) ∧
    ∀ entry ∈ adjacency.inFlight, (entry.1 = .high → ¬ entry.2.body.IsDbdesc) ∧
      (entry.1 = .low → ¬ entry.2.body.Opens)

/-- The higher end waits for the last answer, the lower end is full and sends none again, and none is
under way. -/
def AnswerLost (adjacency : Adjacency) : Prop :=
  (adjacency.ends .high).state = .exchange ∧ (adjacency.ends .low).state = .full ∧
    ∀ entry ∈ adjacency.inFlight, entry.1 = .high →
      ¬ entry.2.body.Answers (adjacency.ends .high).myDdseq

/-- Nothing is lost, while both ends run, that the exchange needs and nobody would send again. -/
def SparesExchange (adjacency : Adjacency) : ExchangeEvent → Prop
  | .lose index => (∀ side, adjacency.stopped side = false) →
      let left := { adjacency with inFlight := adjacency.inFlight.eraseIdx index }
      ¬ (OfferLost left ∨ AnswerLost left)
  | _ => True

/-! ## Stages -/

/-- How far the higher end has got. -/
inductive HighStage where
  | early
  | offering (number : Nat) (decided : Bool)
  | finishing (number : Nat)
  | full (number : Nat)

/-- How far the lower end has got. -/
inductive LowStage where
  | early
  | offering
  | answered (number : Nat)
  | full (number : Nat)

/-- The data of the higher end at a stage. -/
def HighStage.At (faker : Faker) : HighStage → Prop
  | early => (faker.state = .down ∨ faker.state = .init) ∧ faker.exstartSent = false ∧
      faker.isMaster = none
  | offering number decided => faker.state = .exStart ∧ faker.myDdseq = some number ∧
      faker.isMaster = if decided then some true else none
  | finishing number => faker.state = .exchange ∧ faker.myDdseq = some (number + 1) ∧
      faker.isMaster = some true ∧ faker.dbdPhase = some .finalSent
  | full number => faker.state = .full ∧ faker.myDdseq = some (number + 1) ∧
      faker.isMaster = some true

/-- The data of the lower end at a stage. -/
def LowStage.At (faker : Faker) : LowStage → Prop
  | early => (faker.state = .down ∨ faker.state = .init) ∧ faker.exstartSent = false ∧
      faker.isMaster = none ∧ faker.dbdPhase = none
  | offering => faker.state = .exStart ∧ faker.isMaster ≠ some true ∧ faker.dbdPhase = none
  | answered number => faker.state = .exchange ∧ faker.isMaster = some false ∧
      faker.dbdPhase = some .waitingFinal ∧ faker.peerDdseq = some number
  | full number => faker.state = .full ∧ faker.isMaster = some false ∧
      faker.peerDdseq = some number

/-- What a packet does to the higher end, and what this sends. -/
def HighStage.after (stage : HighStage) (routerId clock : Nat) : OspfBody → HighStage × List OspfBody
  | .hello neighbors =>
    match stage with
    | early =>
      if routerId ∈ neighbors then
        (offering (clock % 2 ^ 16) false, [.dbdesc ⟨true, true, true, clock % 2 ^ 16⟩])
      else (early, [])
    | _ => (stage, [])
  | .dbdesc dbd =>
    match stage with
    | early => (early, [])
    | offering number _ =>
      if dbd.i = false ∧ dbd.ms = false ∧ dbd.ddseq = number then
        (finishing number, [.dbdesc ⟨false, false, true, number + 1⟩])
      else (offering number true, [])
    | finishing number =>
      if dbd.i = false ∧ dbd.ms = false ∧ dbd.ddseq = number + 1 then (full number, [])
      else (finishing number, [])
    | full number => (full number, [])
  | _ => (stage, [])

/-- What a packet does to the lower end, and what this sends. -/
def LowStage.after (stage : LowStage) (routerId clock : Nat) : OspfBody → LowStage × List OspfBody
  | .hello neighbors =>
    match stage with
    | early =>
      if routerId ∈ neighbors then
        (offering, [.dbdesc ⟨true, true, true, clock % 2 ^ 16⟩])
      else (early, [])
    | _ => (stage, [])
  | .dbdesc dbd =>
    match stage with
    | early => (early, [])
    | offering =>
      if dbd.i = true ∧ dbd.m = true ∧ dbd.ms = true then
        (answered dbd.ddseq, [.dbdesc ⟨false, false, false, dbd.ddseq⟩])
      else (offering, [])
    | answered number =>
      if dbd.i = true ∧ dbd.m = true ∧ dbd.ms = true then
        (answered dbd.ddseq, [.dbdesc ⟨false, false, false, dbd.ddseq⟩])
      else if dbd.i = false ∧ dbd.ms = true ∧ dbd.m = false ∧ dbd.ddseq = number + 1 then
        (full number, [.dbdesc ⟨false, false, false, dbd.ddseq⟩])
      else (answered number, [])
    | full number => (full number, [])
  | _ => (stage, [])

/-- A Hello or a description. -/
def OspfBody.OfExchange : OspfBody → Prop
  | .hello _ => True
  | .dbdesc _ => True
  | _ => False

section Transitions

variable {faker : Faker} {myIp routerId clock : Nat} {packet : OspfPacket}

theorem hello_of_early (early : faker.state = .down ∨ faker.state = .init)
    (fresh : faker.exstartSent = false) (neighbors : List Nat) :
    (routerId ∉ neighbors ∧
      faker.handleHello routerId clock neighbors = ({ faker with state := .init },
        if faker.state = .down then [.setState .init] else [])) ∨
    (routerId ∈ neighbors ∧ (faker.handleHello routerId clock neighbors).1 = { faker with
        state := .exStart, exstartSent := true, myDdseq := some (clock % 2 ^ 16) } ∧
      sentBodies (faker.handleHello routerId clock neighbors).2 =
        [.dbdesc ⟨true, true, true, clock % 2 ^ 16⟩]) := by
  obtain ⟨state, peerId, peerIp, isMaster, myDdseq, peerDdseq, exstartSent, dbdPhase⟩ := faker
  by_cases listed : routerId ∈ neighbors
  · right
    rcases early with rfl | rfl <;> obtain rfl := fresh <;>
      simp [handleHello, startExstart, listed, sentBodies]
  · left
    rcases early with rfl | rfl <;> simp [handleHello, listed]

theorem hello_of_late (late : faker.state ≠ .down ∧ faker.state ≠ .init) (neighbors : List Nat) :
    faker.handleHello routerId clock neighbors = (faker, []) := by
  simp [handleHello, late.1, late.2]

theorem HighStage.at_handleHello {stage : HighStage} (here : stage.At faker)
    (neighbors : List Nat) :
    (stage.after routerId clock (.hello neighbors)).1.At
        (faker.handleHello routerId clock neighbors).1 ∧
      sentBodies (faker.handleHello routerId clock neighbors).2 =
        (stage.after routerId clock (.hello neighbors)).2 ∧
      (faker.handleHello routerId clock neighbors).1.peerId = faker.peerId := by
  cases stage with
  | early =>
    obtain ⟨state, fresh, undecided⟩ := here
    rcases @hello_of_early faker routerId clock state fresh neighbors with
      ⟨unlisted, same⟩ | ⟨listed, started, sent⟩
    · rw [same]
      refine ⟨?_, ?_, rfl⟩
      · simp [HighStage.after, unlisted, HighStage.At, fresh, undecided]
      · simp only [HighStage.after, unlisted, if_false]
        split <;> rfl
    · rw [started, sent]
      simp [HighStage.after, listed, HighStage.At, undecided]
  | _ =>
    have late : faker.state ≠ .down ∧ faker.state ≠ .init := by simp [here.1]
    rw [hello_of_late late]
    exact ⟨here, rfl, rfl⟩

theorem HighStage.at_handleDbdesc {stage : HighStage} (here : stage.At faker) {peer : Nat}
    (known : faker.peerId = some peer) (lower : peer < routerId) (dbd : DbDesc) :
    (stage.after routerId clock (.dbdesc dbd)).1.At (faker.handleDbdesc routerId clock dbd).1 ∧
      sentBodies (faker.handleDbdesc routerId clock dbd).2 =
        (stage.after routerId clock (.dbdesc dbd)).2 ∧
      (faker.handleDbdesc routerId clock dbd).1.peerId = faker.peerId := by
  obtain ⟨state, peerId, peerIp, isMaster, myDdseq, peerDdseq, exstartSent, dbdPhase⟩ := faker
  cases stage with
  | early =>
    obtain ⟨rfl | rfl, -, -⟩ := id here <;>
      exact ⟨by simpa [handleDbdesc, HighStage.after] using here, rfl, rfl⟩
  | offering number decided =>
    obtain ⟨rfl, rfl, decision⟩ := here
    have master : isMaster.getD (decide (peerId.getD 0 < routerId)) = true := by
      cases decided <;> simp_all
    simp only [handleDbdesc, reduceCtorEq, if_false, true_or, if_true, master, handleDbdescMaster]
    by_cases answer : dbd.i = false ∧ dbd.ms = false ∧ dbd.ddseq = number
    · simp [HighStage.after, HighStage.At, answer, sentBodies]
    · simp [HighStage.after, HighStage.At, answer, sentBodies]
  | finishing number =>
    obtain ⟨rfl, rfl, rfl, rfl⟩ := here
    by_cases answer : dbd.i = false ∧ dbd.ms = false ∧ dbd.ddseq = number + 1
    · simp [handleDbdesc, handleDbdescMaster, HighStage.after, HighStage.At, answer, sentBodies]
    · have unmatched : ¬ (dbd.i = false ∧ dbd.ms = false ∧ number + 1 = dbd.ddseq) := by
        rwa [@eq_comm _ (number + 1)]
      simp [handleDbdesc, handleDbdescMaster, HighStage.after, HighStage.At, answer,
        unmatched, sentBodies]
  | full number =>
    obtain ⟨rfl, rfl, rfl⟩ := here
    simp [handleDbdesc, HighStage.after, HighStage.At, sentBodies]

theorem LowStage.at_handleHello {stage : LowStage} (here : stage.At faker) (neighbors : List Nat) :
    (stage.after routerId clock (.hello neighbors)).1.At
        (faker.handleHello routerId clock neighbors).1 ∧
      sentBodies (faker.handleHello routerId clock neighbors).2 =
        (stage.after routerId clock (.hello neighbors)).2 ∧
      (faker.handleHello routerId clock neighbors).1.peerId = faker.peerId := by
  cases stage with
  | early =>
    obtain ⟨state, fresh, undecided, unphased⟩ := here
    rcases @hello_of_early faker routerId clock state fresh neighbors with
      ⟨unlisted, same⟩ | ⟨listed, started, sent⟩
    · rw [same]
      refine ⟨?_, ?_, rfl⟩
      · simp [LowStage.after, unlisted, LowStage.At, fresh, undecided, unphased]
      · simp only [LowStage.after, unlisted, if_false]
        split <;> rfl
    · rw [started, sent]
      simp [LowStage.after, listed, LowStage.At, undecided, unphased]
  | _ =>
    have late : faker.state ≠ .down ∧ faker.state ≠ .init := by simp [here.1]
    rw [hello_of_late late]
    exact ⟨here, rfl, rfl⟩

theorem LowStage.at_handleDbdesc {stage : LowStage} (here : stage.At faker) {peer : Nat}
    (known : faker.peerId = some peer) (higher : routerId < peer) (dbd : DbDesc) :
    (stage.after routerId clock (.dbdesc dbd)).1.At (faker.handleDbdesc routerId clock dbd).1 ∧
      sentBodies (faker.handleDbdesc routerId clock dbd).2 =
        (stage.after routerId clock (.dbdesc dbd)).2 ∧
      (faker.handleDbdesc routerId clock dbd).1.peerId = faker.peerId := by
  obtain ⟨state, peerId, peerIp, isMaster, myDdseq, peerDdseq, exstartSent, dbdPhase⟩ := faker
  obtain rfl := known
  have notLower : ¬ peer < routerId := Nat.lt_asymm higher
  cases stage with
  | early =>
    obtain ⟨rfl | rfl, -, -⟩ := id here <;>
      exact ⟨by simpa [handleDbdesc, LowStage.after] using here, rfl, rfl⟩
  | offering =>
    obtain ⟨rfl, undecided, rfl⟩ := here
    have slave : isMaster.getD (decide (peer < routerId)) = false := by
      rcases isMaster with _ | _ | _ <;> simp_all
    by_cases opens : dbd.i = true ∧ dbd.m = true ∧ dbd.ms = true <;>
      simp [handleDbdesc, handleDbdescSlave, LowStage.after, LowStage.At, slave, opens, sentBodies]
  | answered number =>
    obtain ⟨rfl, rfl, rfl, rfl⟩ := here
    by_cases opens : dbd.i = true ∧ dbd.m = true ∧ dbd.ms = true
    · simp [handleDbdesc, handleDbdescSlave, LowStage.after, LowStage.At, opens, sentBodies]
    · by_cases final : dbd.i = false ∧ dbd.ms = true ∧ dbd.m = false
      · by_cases next : dbd.ddseq = number + 1 <;>
          simp [handleDbdesc, handleDbdescSlave, LowStage.after, LowStage.At, final,
            next, sentBodies]
      · have other : ¬ (dbd.i = false ∧ dbd.ms = true ∧ dbd.m = false ∧
            dbd.ddseq = number + 1) := fun all => final ⟨all.1, all.2.1, all.2.2.1⟩
        simp [handleDbdesc, handleDbdescSlave, LowStage.after, LowStage.At, opens,
          final, other, sentBodies]
  | full number =>
    obtain ⟨rfl, rfl, rfl⟩ := here
    simp [handleDbdesc, LowStage.after, LowStage.At, sentBodies]

theorem HighStage.at_onPacket {stage : HighStage} (here : stage.At faker)
    (foreign : packet.srcIp ≠ myIp) (lower : packet.srcId < routerId)
    (part : packet.body.OfExchange) :
    (stage.after routerId clock packet.body).1.At (faker.onPacket myIp routerId clock packet).1 ∧
      sentBodies (faker.onPacket myIp routerId clock packet).2 =
        (stage.after routerId clock packet.body).2 ∧
      (faker.onPacket myIp routerId clock packet).1.peerId = some packet.srcId := by
  obtain ⟨srcIp, srcId, body⟩ := packet
  have known : stage.At { faker with peerIp := some srcIp, peerId := some srcId } := by
    cases stage <;> exact here
  simp only [onPacket, if_neg foreign]
  cases body with
  | hello neighbors => exact HighStage.at_handleHello known neighbors
  | dbdesc dbd => exact HighStage.at_handleDbdesc known rfl lower dbd
  | lsreq => exact part.elim
  | lsupd lsas => exact part.elim
  | lsack => exact part.elim

theorem LowStage.at_onPacket {stage : LowStage} (here : stage.At faker)
    (foreign : packet.srcIp ≠ myIp) (higher : routerId < packet.srcId)
    (part : packet.body.OfExchange) :
    (stage.after routerId clock packet.body).1.At (faker.onPacket myIp routerId clock packet).1 ∧
      sentBodies (faker.onPacket myIp routerId clock packet).2 =
        (stage.after routerId clock packet.body).2 ∧
      (faker.onPacket myIp routerId clock packet).1.peerId = some packet.srcId := by
  obtain ⟨srcIp, srcId, body⟩ := packet
  have known : stage.At { faker with peerIp := some srcIp, peerId := some srcId } := by
    cases stage <;> exact here
  simp only [onPacket, if_neg foreign]
  cases body with
  | hello neighbors => exact LowStage.at_handleHello known neighbors
  | dbdesc dbd => exact LowStage.at_handleDbdesc known rfl higher dbd
  | lsreq => exact part.elim
  | lsupd lsas => exact part.elim
  | lsack => exact part.elim

end Transitions

end NetLab.Ospf
