import NetLab.Ospf.Exchange
import Mathlib.Data.List.Perm.Basic

/-!
# Stages of a database exchange

Which stages the two ends of an adjacency can be at together, with which packets under way: every
event keeps this. At two of these pairs of stages the exchange can be stuck, and only a loss decides
whether it is.
-/

namespace NetLab.Ospf

open List HighStage

variable (pair : EndPair) {entry : Side × OspfPacket}

/-! ## Both ends -/

/-- What the higher end sends again. -/
def HighStage.resent : HighStage → List OspfBody
  | offering number true => [.dbdesc ⟨true, true, true, number⟩]
  | finishing number => [.dbdesc ⟨false, false, true, number + 1⟩]
  | _ => []

theorem HighStage.retransmission {stage : HighStage} {faker : Faker} (here : stage.At faker) :
    faker.retransmission = stage.resent := by
  cases stage with
  | early => simp [Faker.retransmission, resent, here.2.2]
  | offering number decided =>
    obtain ⟨state, seq, decision⟩ := here
    cases decided <;> simp_all [Faker.retransmission, resent]
  | finishing number =>
    obtain ⟨state, seq, master, phase⟩ := here
    simp [Faker.retransmission, resent, state, seq, master, phase]
  | full number =>
    obtain ⟨state, -⟩ := here
    simp [Faker.retransmission, resent, state]

theorem LowStage.retransmission {stage : LowStage} {faker : Faker} (here : stage.At faker) :
    faker.retransmission = [] := by
  have slave : faker.isMaster ≠ some true := by
    cases stage with
    | early => simp [here.2.2.1]
    | offering => exact here.2.1
    | answered number => simp [here.2.1]
    | full number => simp [here.2.1]
  simp [Faker.retransmission, slave]

/-- Stages that the ends can be at together. -/
def Fits : HighStage → LowStage → Prop
  | .early, .early => True
  | .early, .offering => True
  | .offering _ _, .early => True
  | .offering _ _, .offering => True
  | .offering number _, .answered noted => number = noted
  | .finishing number, .answered noted => number = noted
  | .finishing number, .full noted => number = noted
  | .full number, .full noted => number = noted
  | _, _ => False

/-- Packets of the higher end that can be under way. -/
def HighStage.MaySend (stage : HighStage) (peer : Nat) : OspfBody → Prop
  | .hello neighbors => neighbors = [] ∨ neighbors = [peer]
  | .dbdesc dbd =>
    match stage with
    | early => False
    | offering number _ => dbd = ⟨true, true, true, number⟩
    | finishing number =>
      dbd = ⟨true, true, true, number⟩ ∨ dbd = ⟨false, false, true, number + 1⟩
    | full number =>
      dbd = ⟨true, true, true, number⟩ ∨ dbd = ⟨false, false, true, number + 1⟩
  | _ => False

/-- Packets of the lower end that can be under way. -/
def LowStage.MaySend (stage : LowStage) (peer : Nat) : OspfBody → Prop
  | .hello neighbors => neighbors = [] ∨ neighbors = [peer]
  | .dbdesc dbd =>
    match stage with
    | early => False
    | offering => ∃ number, dbd = ⟨true, true, true, number⟩
    | answered noted =>
      (∃ number, dbd = ⟨true, true, true, number⟩) ∨ dbd = ⟨false, false, false, noted⟩
    | full noted =>
      (∃ number, dbd = ⟨true, true, true, number⟩) ∨ dbd = ⟨false, false, false, noted⟩ ∨
        dbd = ⟨false, false, false, noted + 1⟩
  | _ => False

section Stages

variable {high : HighStage} {low : LowStage} {routerId peer clock : Nat} {body : OspfBody}

/-- A packet of the lower end leaves the ends at stages that fit, and the higher end sends what it
may. -/
theorem HighStage.fits_after (fits : Fits high low) (sent : low.MaySend routerId body) :
    Fits (high.after routerId clock body).1 low ∧
      (∀ other, high.MaySend peer other → (high.after routerId clock body).1.MaySend peer other) ∧
      ∀ other ∈ (high.after routerId clock body).2,
        (high.after routerId clock body).1.MaySend peer other := by
  have same : Fits high low ∧ (∀ other, high.MaySend peer other → high.MaySend peer other) ∧
      ∀ other ∈ ([] : List OspfBody), high.MaySend peer other :=
    ⟨fits, fun _ => id, fun _ member => absurd member not_mem_nil⟩
  cases body with
  | hello neighbors =>
    cases high with
    | early =>
      simp only [after]
      split
      · refine ⟨?_, ?_, ?_⟩
        · cases low <;> trivial
        · intro other may
          cases other <;> first | exact may | exact may.elim
        · simp [MaySend]
      · exact same
    | _ => exact same
  | dbdesc dbd =>
    cases high with
    | early => exact same
    | offering number decided =>
      simp only [after]
      split
      · rename_i answer
        refine ⟨?_, ?_, ?_⟩
        · cases low with
          | answered noted => exact fits
          | offering =>
            obtain ⟨_, rfl⟩ := sent
            cases answer.1
          | _ => first | exact sent.elim | exact fits.elim
        · intro other may
          cases other <;> first | exact may | exact .inl may
        · simp [MaySend]
      · refine ⟨?_, ?_, fun _ member => absurd member not_mem_nil⟩
        · cases low <;> exact fits
        · intro other may
          cases other <;> exact may
    | finishing number =>
      simp only [after]
      split
      · rename_i answer
        refine ⟨?_, ?_, fun _ member => absurd member not_mem_nil⟩
        · cases low with
          | full noted => exact fits
          | answered noted =>
            obtain rfl : number = noted := fits
            rcases sent with ⟨_, rfl⟩ | rfl
            · cases answer.1
            · exact absurd answer.2.2 (Nat.ne_of_lt (Nat.lt_succ_self _))
          | _ => exact fits.elim
        · intro other may
          cases other <;> exact may
      · exact same
    | full number => exact same
  | _ => exact sent.elim

/-- A packet of the higher end leaves the ends at stages that fit, and the lower end sends what it
may. -/
theorem LowStage.fits_after (fits : Fits high low) (sent : high.MaySend routerId body) :
    Fits high (low.after routerId clock body).1 ∧
      (∀ other, low.MaySend peer other → (low.after routerId clock body).1.MaySend peer other) ∧
      ∀ other ∈ (low.after routerId clock body).2,
        (low.after routerId clock body).1.MaySend peer other := by
  have same : Fits high low ∧ (∀ other, low.MaySend peer other → low.MaySend peer other) ∧
      ∀ other ∈ ([] : List OspfBody), low.MaySend peer other :=
    ⟨fits, fun _ => id, fun _ member => absurd member not_mem_nil⟩
  cases body with
  | hello neighbors =>
    cases low with
    | early =>
      simp only [after]
      split
      · refine ⟨?_, ?_, ?_⟩
        · cases high <;> trivial
        · intro other may
          cases other <;> first | exact may | exact may.elim
        · simp [MaySend]
      · exact same
    | _ => exact same
  | dbdesc dbd =>
    cases low with
    | early => exact same
    | offering =>
      simp only [after]
      split
      · rename_i opens
        refine ⟨?_, ?_, ?_⟩
        · cases high with
          | offering number decided =>
            obtain rfl : dbd = _ := sent
            rfl
          | _ => first | exact sent.elim | exact fits.elim
        · intro other may
          cases other <;> first | exact may | exact .inl may
        · simp [MaySend]
      · exact same
    | answered noted =>
      have numbered : (dbd.i = true → dbd.ddseq = noted) ∧ (dbd.i = false →
          Fits high (.full noted)) := by
        cases high with
        | offering number decided =>
          obtain rfl : dbd = _ := sent
          exact ⟨fun _ => fits, by rintro ⟨⟩⟩
        | finishing number =>
          rcases sent with rfl | rfl
          · exact ⟨fun _ => fits, by rintro ⟨⟩⟩
          · exact ⟨by rintro ⟨⟩, fun _ => fits⟩
        | _ => exact fits.elim
      simp only [after]
      split
      · rename_i opens
        rw [numbered.1 opens.1]
        refine ⟨fits, fun _ => id, ?_⟩
        simp [MaySend]
      · split
        · rename_i final
          refine ⟨numbered.2 final.1, ?_, ?_⟩
          · intro other may
            cases other with
            | dbdesc dbd => exact may.imp_right .inl
            | _ => exact may
          · simp [MaySend, final.2.2.2]
        · exact same
    | full noted => exact same
  | _ => exact sent.elim

end Stages

/-- What holds of both ends and of the packets under way. -/
structure InStages (adjacency : Adjacency) (high : HighStage) (low : LowStage) : Prop where
  highAt : high.At (adjacency.ends .high)
  lowAt : low.At (adjacency.ends .low)
  fits : Fits high low
  peers : ∀ side, (adjacency.ends side).peerId = none ∨
    (adjacency.ends side).peerId = some (pair.routerId side.other)
  sources : ∀ entry ∈ adjacency.inFlight, entry.2.srcIp = pair.ip entry.1.other ∧
    entry.2.srcId = pair.routerId entry.1.other
  toHigh : ∀ packet, (Side.high, packet) ∈ adjacency.inFlight →
    low.MaySend (pair.routerId .high) packet.body
  toLow : ∀ packet, (Side.low, packet) ∈ adjacency.inFlight →
    high.MaySend (pair.routerId .low) packet.body

theorem HighStage.MaySend.ofExchange {stage : HighStage} {peer : Nat} {body : OspfBody}
    (sent : stage.MaySend peer body) : body.OfExchange := by
  cases body <;> trivial

theorem LowStage.MaySend.ofExchange {stage : LowStage} {peer : Nat} {body : OspfBody}
    (sent : stage.MaySend peer body) : body.OfExchange := by
  cases body <;> trivial

theorem mem_packetsOf {side : Side} {bodies : List OspfBody} : entry ∈ packetsOf pair side bodies ↔
      ∃ body ∈ bodies, entry = (side.other, ⟨pair.ip side, pair.routerId side, body⟩) := by
  simp only [packetsOf, mem_map, eq_comm]

namespace InStages

variable {pair} {adjacency : Adjacency} {high : HighStage} {low : LowStage}

theorem refill (inside : InStages pair adjacency high low) {stopped : Side → Bool}
    {inFlight : List (Side × OspfPacket)}
    (old : ∀ entry ∈ inFlight, entry ∈ adjacency.inFlight ∨
      (entry.2.srcIp = pair.ip entry.1.other ∧ entry.2.srcId = pair.routerId entry.1.other) ∧
        (entry.1 = .high → low.MaySend (pair.routerId .high) entry.2.body) ∧
        (entry.1 = .low → high.MaySend (pair.routerId .low) entry.2.body)) :
    InStages pair ⟨adjacency.ends, stopped, inFlight⟩ high low where
  highAt := inside.highAt
  lowAt := inside.lowAt
  fits := inside.fits
  peers := inside.peers
  sources := fun entry member =>
    (old entry member).elim (inside.sources entry) fun new => new.1
  toHigh := fun packet member =>
    (old _ member).elim (inside.toHigh packet) fun new => new.2.1 rfl
  toLow := fun packet member =>
    (old _ member).elim (inside.toLow packet) fun new => new.2.2 rfl

theorem hello_maySend (inside : InStages pair adjacency high low) (side : Side) :
    ∀ entry ∈ packetsOf pair side [(adjacency.ends side).hello],
      (entry.2.srcIp = pair.ip entry.1.other ∧ entry.2.srcId = pair.routerId entry.1.other) ∧
        (entry.1 = .high → low.MaySend (pair.routerId .high) entry.2.body) ∧
        (entry.1 = .low → high.MaySend (pair.routerId .low) entry.2.body) := by
  intro entry member
  obtain rfl : entry = _ := by simpa [packetsOf] using member
  have peers := inside.peers side
  cases side <;> rcases peers with peer | peer <;>
    simp [Side.other, Faker.hello, HighStage.MaySend, LowStage.MaySend, peer]

theorem resent_maySend (inside : InStages pair adjacency high low) (side : Side) :
    ∀ entry ∈ packetsOf pair side (adjacency.ends side).retransmission,
      (entry.2.srcIp = pair.ip entry.1.other ∧ entry.2.srcId = pair.routerId entry.1.other) ∧
        (entry.1 = .high → low.MaySend (pair.routerId .high) entry.2.body) ∧
        (entry.1 = .low → high.MaySend (pair.routerId .low) entry.2.body) := by
  intro entry member
  obtain ⟨body, sent, rfl⟩ := (mem_packetsOf pair).mp member
  cases side with
  | high =>
    rw [retransmission inside.highAt] at sent
    refine ⟨⟨rfl, rfl⟩, nofun, fun _ => ?_⟩
    cases high with
    | offering number decided => cases decided <;> simp_all [resent, HighStage.MaySend]
    | finishing number => simp_all [resent, HighStage.MaySend]
    | _ => simp [resent] at sent
  | low =>
    rw [LowStage.retransmission inside.lowAt] at sent
    exact absurd sent not_mem_nil

/-- An end moves on after a packet, and what it sends suits its new stage. -/
theorem moves (inside : InStages pair adjacency high low) {side : Side} {next : Faker}
    {bodies : List OspfBody} {index : Nat} {high' : HighStage} {low' : LowStage}
    (highAt : high'.At (Function.update adjacency.ends side next .high))
    (lowAt : low'.At (Function.update adjacency.ends side next .low)) (fits : Fits high' low')
    (peer : next.peerId = some (pair.routerId side.other))
    (kept : (∀ body, high.MaySend (pair.routerId .low) body →
        high'.MaySend (pair.routerId .low) body) ∧
      ∀ body, low.MaySend (pair.routerId .high) body → low'.MaySend (pair.routerId .high) body)
    (new : ∀ body ∈ bodies, (side = .high → high'.MaySend (pair.routerId .low) body) ∧
      (side = .low → low'.MaySend (pair.routerId .high) body)) :
    InStages pair ⟨Function.update adjacency.ends side next, adjacency.stopped,
      adjacency.inFlight.eraseIdx index ++ packetsOf pair side bodies⟩ high' low' := by
  refine ⟨highAt, lowAt, fits, fun other => ?_, fun entry member => ?_, fun packet member => ?_,
    fun packet member => ?_⟩
  · by_cases same : other = side
    · subst same
      exact .inr (by simpa only [Function.update_self] using peer)
    · simpa only [Function.update_of_ne same] using inside.peers other
  · rcases mem_append.mp member with old | fresh
    · exact inside.sources entry (mem_of_mem_eraseIdx old)
    · obtain ⟨body, -, rfl⟩ := (mem_packetsOf pair).mp fresh
      cases side <;> exact ⟨rfl, rfl⟩
  · rcases mem_append.mp member with old | fresh
    · exact kept.2 _ (inside.toHigh packet (mem_of_mem_eraseIdx old))
    · obtain ⟨body, among, same⟩ := (mem_packetsOf pair).mp fresh
      cases side <;> cases same
      exact (new body among).2 rfl
  · rcases mem_append.mp member with old | fresh
    · exact kept.1 _ (inside.toLow packet (mem_of_mem_eraseIdx old))
    · obtain ⟨body, among, same⟩ := (mem_packetsOf pair).mp fresh
      cases side <;> cases same
      exact (new body among).1 rfl

theorem deliver_high (distinct : pair.ip .low ≠ pair.ip .high)
    (inside : InStages pair adjacency high low) {index clock : Nat}
    {packet : OspfPacket} (found : adjacency.inFlight[index]? = some (.high, packet)) :
    let after := high.after (pair.routerId .high) clock packet.body
    let next := exchangeStep pair adjacency (.deliver index clock)
    InStages pair next after.1 low ∧
      next.inFlight = adjacency.inFlight.eraseIdx index ++ packetsOf pair .high after.2 ∧
      (next.ends .high).peerId = some (pair.routerId .low) ∧
      next.ends .low = adjacency.ends .low := by
  intro after next
  have member := mem_of_getElem? found
  obtain ⟨fromIp, fromId⟩ := inside.sources _ member
  have sent := inside.toHigh packet member
  have foreign : packet.srcIp ≠ pair.ip .high := by
    rw [fromIp]
    exact distinct
  have lower : packet.srcId < pair.routerId .high := by
    rw [fromId]
    exact pair.ordered
  obtain ⟨here, bodies, peer⟩ := @at_onPacket _ _ _ clock _ _ inside.highAt foreign lower
    sent.ofExchange
  obtain ⟨fits, kept, new⟩ := @fits_after _ _ _ (pair.routerId .low) clock _ inside.fits sent
  have stepped : next = ⟨Function.update adjacency.ends .high
      ((adjacency.ends .high).onPacket (pair.ip .high) (pair.routerId .high) clock packet).1,
      adjacency.stopped, adjacency.inFlight.eraseIdx index ++ packetsOf pair .high after.2⟩ := by
    simp only [next, exchangeStep, found, bodies, after]
  rw [fromId] at peer
  rw [stepped]
  refine ⟨inside.moves here inside.lowAt fits peer ⟨kept, fun _ => id⟩ fun body among =>
    ⟨fun _ => new body among, nofun⟩, rfl, peer, rfl⟩

/-- A packet that reaches the lower end. -/
theorem deliver_low (distinct : pair.ip .low ≠ pair.ip .high)
    (inside : InStages pair adjacency high low) {index clock : Nat}
    {packet : OspfPacket} (found : adjacency.inFlight[index]? = some (.low, packet)) :
    let after := low.after (pair.routerId .low) clock packet.body
    let next := exchangeStep pair adjacency (.deliver index clock)
    InStages pair next high after.1 ∧
      next.inFlight = adjacency.inFlight.eraseIdx index ++ packetsOf pair .low after.2 ∧
      (next.ends .low).peerId = some (pair.routerId .high) ∧
      next.ends .high = adjacency.ends .high := by
  intro after next
  have member := mem_of_getElem? found
  obtain ⟨fromIp, fromId⟩ := inside.sources _ member
  have sent := inside.toLow packet member
  have foreign : packet.srcIp ≠ pair.ip .low := by
    rw [fromIp]
    exact distinct.symm
  have higher : pair.routerId .low < packet.srcId := by
    rw [fromId]
    exact pair.ordered
  obtain ⟨here, bodies, peer⟩ := @LowStage.at_onPacket _ _ _ clock _ _ inside.lowAt foreign higher
    sent.ofExchange
  obtain ⟨fits, kept, new⟩ := @LowStage.fits_after _ _ _ (pair.routerId .high) clock _ inside.fits
    sent
  have stepped : next = ⟨Function.update adjacency.ends .low
      ((adjacency.ends .low).onPacket (pair.ip .low) (pair.routerId .low) clock packet).1,
      adjacency.stopped, adjacency.inFlight.eraseIdx index ++ packetsOf pair .low after.2⟩ := by
    simp only [next, exchangeStep, found, bodies, after]
  rw [fromId] at peer
  rw [stepped]
  refine ⟨inside.moves inside.highAt here fits peer ⟨fun _ => id, kept⟩ fun body among =>
    ⟨nofun, fun _ => new body among⟩, rfl, peer, rfl⟩

end InStages

theorem inStages_step (distinct : pair.ip .low ≠ pair.ip .high) (adjacency : Adjacency)
    (event : ExchangeEvent) (inside : ∃ high low, InStages pair adjacency high low) :
    ∃ high low, InStages pair (exchangeStep pair adjacency event) high low := by
  obtain ⟨high, low, inside⟩ := inside
  cases event with
  | hello side =>
    refine ⟨high, low, ?_⟩
    simp only [exchangeStep]
    split
    · exact inside
    · refine inside.refill fun entry member => ?_
      exact (mem_append.mp member).imp_right (inside.hello_maySend side entry)
  | retransmit side =>
    refine ⟨high, low, ?_⟩
    simp only [exchangeStep]
    split
    · exact inside
    · refine inside.refill fun entry member => ?_
      exact (mem_append.mp member).imp_right (inside.resent_maySend side entry)
  | deliver index clock =>
    cases found : adjacency.inFlight[index]? with
    | none => exact ⟨high, low, by simpa only [exchangeStep, found] using inside⟩
    | some entry =>
      obtain ⟨side, packet⟩ := entry
      cases side with
      | high => exact ⟨_, low, (inside.deliver_high distinct found).1⟩
      | low => exact ⟨high, _, (inside.deliver_low distinct found).1⟩
  | duplicate index =>
    refine ⟨high, low, inside.refill fun entry member => .inl ?_⟩
    rcases mem_append.mp member with old | copy
    · exact old
    · exact mem_of_getElem? (Option.mem_toList.mp copy)
  | lose index =>
    exact ⟨high, low, inside.refill fun entry member => .inl (mem_of_mem_eraseIdx member)⟩
  | stop side => exact ⟨high, low, inside.refill fun entry member => .inl member⟩

theorem inStages_start : InStages pair {} .early .early where
  highAt := ⟨.inl rfl, rfl, rfl⟩
  lowAt := ⟨.inl rfl, rfl, rfl, rfl⟩
  fits := trivial
  peers := fun _ => .inl rfl
  sources := fun _ member => absurd member not_mem_nil
  toHigh := fun _ member => absurd member not_mem_nil
  toLow := fun _ member => absurd member not_mem_nil

namespace InStages

variable {pair} {adjacency : Adjacency} {high : HighStage} {low : LowStage}

/-- The lower end never takes itself for the master. -/
theorem master (inside : InStages pair adjacency high low) :
    (adjacency.ends .low).isMaster ≠ some true := by
  have here := inside.lowAt
  cases low with
  | early => simp [here.2.2.1]
  | offering => exact here.2.1
  | answered noted => simp [here.2.1]
  | full noted => simp [here.2.1]

theorem full (inside : InStages pair adjacency high low) (side : Side)
    (isFull : (adjacency.ends side).state = .full) :
    ∃ number, (adjacency.ends side).HasAccepted number ∧
      (adjacency.ends side.other).HasAccepted number := by
  have highAt := inside.highAt
  have lowAt := inside.lowAt
  have fits := inside.fits
  -- only the stages at which the end is full remain, and these fit few stages of the other
  cases side <;> cases high <;> cases low <;>
    simp_all [HighStage.At, LowStage.At, Fits, Side.other, Faker.HasAccepted]

end InStages

/-! ## Lost descriptions -/

/-- The same in terms of the stages. -/
def StuckAt (inFlight : List (Side × OspfPacket)) : HighStage → LowStage → Prop
  | .offering _ false, .offering => ∀ entry ∈ inFlight,
      (entry.1 = .high → ¬ entry.2.body.IsDbdesc) ∧ (entry.1 = .low → ¬ entry.2.body.Opens)
  | .offering _ false, .answered _ => ∀ entry ∈ inFlight,
      (entry.1 = .high → ¬ entry.2.body.IsDbdesc) ∧ (entry.1 = .low → ¬ entry.2.body.Opens)
  | .finishing number, .full _ => ∀ entry ∈ inFlight,
      entry.1 = .high → ¬ entry.2.body.Answers (some (number + 1))
  | _, _ => False

section StuckAt

variable {inFlight other : List (Side × OspfPacket)} {high : HighStage} {low : LowStage}

theorem InStages.stuck_iff {adjacency : Adjacency} (inside : InStages pair adjacency high low) :
    OfferLost adjacency ∨ AnswerLost adjacency ↔ StuckAt adjacency.inFlight high low := by
  have highAt := inside.highAt
  have lowAt := inside.lowAt
  have fits := inside.fits
  cases high with
  | offering number decided =>
    cases decided <;> cases low <;>
      simp_all [OfferLost, AnswerLost, StuckAt, HighStage.At, LowStage.At, Fits]
    rcases lowAt.1 with down | init
    · simp [down]
    · simp [init]
  | early =>
    rcases highAt.1 with down | init
    · simp [OfferLost, AnswerLost, StuckAt, down]
    · simp [OfferLost, AnswerLost, StuckAt, init]
  | _ =>
    cases low <;> simp_all [OfferLost, AnswerLost, StuckAt, HighStage.At, LowStage.At, Fits]

/-- Fewer packets under way help nobody. -/
theorem StuckAt.subset (stuck : StuckAt inFlight high low) (fewer : other ⊆ inFlight) :
    StuckAt other high low := by
  cases high with
  | offering number decided =>
    cases decided <;> cases low <;>
      first | exact stuck.elim | exact fun entry member => stuck entry (fewer member)
  | finishing number =>
    cases low <;> first | exact stuck.elim | exact fun entry member => stuck entry (fewer member)
  | _ => exact stuck.elim

theorem mem_sent (side : Side) (body : OspfBody) :
    (side.other, ⟨pair.ip side, pair.routerId side, body⟩) ∈ other ++ packetsOf pair side [body] :=
  mem_append_right _ mem_cons_self

theorem not_stuckAt_of_offer {number : Nat} {decided : Bool} (member : entry ∈ inFlight)
    (useful : entry.1 = .high ∧ entry.2.body.IsDbdesc ∨ entry.1 = .low ∧ entry.2.body.Opens) :
    ¬ StuckAt inFlight (.offering number decided) low := by
  intro stuck
  have spent : (entry.1 = .high → ¬ entry.2.body.IsDbdesc) ∧
      (entry.1 = .low → ¬ entry.2.body.Opens) := by
    cases decided <;> cases low <;> first | exact stuck.elim | exact stuck entry member
  rcases useful with ⟨toHigh, description⟩ | ⟨toLow, opens⟩
  · exact spent.1 toHigh description
  · exact spent.2 toLow opens

theorem not_stuckAt_of_answer {number : Nat} (member : entry ∈ inFlight) (toHigh : entry.1 = .high)
    (answers : entry.2.body.Answers (some (number + 1))) :
    ¬ StuckAt inFlight (.finishing number) low := by
  intro stuck
  cases low with
  | full noted => exact stuck entry member toHigh answers
  | _ => exact stuck.elim

section

variable {routerId clock srcIp srcId peer : Nat} {body : OspfBody} (fits : Fits high low)
include fits

theorem stuckAt_after_high (sent : low.MaySend peer body) :
    StuckAt (other ++ packetsOf pair .high (high.after routerId clock body).2)
        (high.after routerId clock body).1 low ↔
      StuckAt ((.high, ⟨srcIp, srcId, body⟩) :: other) high low := by
  cases body with
  | hello neighbors =>
    cases high with
    | early =>
      simp only [HighStage.after]
      split
      · -- the description that it sends is one that the lower end answers
        exact iff_of_false
          (not_stuckAt_of_offer (mem_sent pair .high _) (.inr ⟨rfl, rfl, rfl, rfl⟩)) id
      · exact Iff.rfl
    | offering number decided =>
      cases decided <;> cases low <;>
        simp [HighStage.after, StuckAt, packetsOf, OspfBody.IsDbdesc]
    | _ =>
      cases low <;> simp [HighStage.after, StuckAt, packetsOf, OspfBody.Answers]
  | dbdesc dbd =>
    cases high with
    | offering number decided =>
      have taken : ¬ StuckAt ((.high, ⟨srcIp, srcId, .dbdesc dbd⟩) :: other)
          (.offering number decided) low :=
        not_stuckAt_of_offer mem_cons_self (.inl ⟨rfl, trivial⟩)
      refine iff_of_false ?_ taken
      simp only [HighStage.after]
      split <;> cases low <;> simp_all [StuckAt, Fits]
    | finishing number =>
      simp only [HighStage.after]
      split
      · rename_i answer
        refine iff_of_false id (not_stuckAt_of_answer mem_cons_self rfl ?_)
        exact ⟨answer.1, answer.2.1, by rw [answer.2.2]⟩
      · rename_i unmatched
        cases low <;> simp [StuckAt, packetsOf, OspfBody.Answers]
        rintro - first slave same
        exact unmatched ⟨first, slave, same.symm⟩
    | _ => cases low <;> simp [HighStage.after, StuckAt]
  | _ => exact sent.elim

/-- What the lower end hears does not decide whether the exchange is stuck. -/
theorem stuckAt_after_low (sent : high.MaySend peer body) :
    StuckAt (other ++ packetsOf pair .low (low.after routerId clock body).2) high
        (low.after routerId clock body).1 ↔
      StuckAt ((.low, ⟨srcIp, srcId, body⟩) :: other) high low := by
  have offered {number : Nat} {decided : Bool} {low' : LowStage} {dbd : DbDesc} :
      ¬ StuckAt (other ++ packetsOf pair .low [.dbdesc dbd]) (.offering number decided) low' :=
    not_stuckAt_of_offer (mem_sent pair .low _) (.inl ⟨rfl, trivial⟩)
  cases body with
  | hello neighbors =>
    cases low with
    | early =>
      simp only [LowStage.after]
      split
      · cases high with
        | offering number decided =>
          exact iff_of_false offered (by cases decided <;> exact id)
        | _ => exact Iff.rfl
      · cases high with
        | offering number decided => cases decided <;> exact Iff.rfl
        | _ => exact Iff.rfl
    | _ =>
      cases high with
      | offering number decided =>
        cases decided <;> simp [LowStage.after, StuckAt, packetsOf, OspfBody.Opens]
      | _ => simp [LowStage.after, StuckAt, packetsOf]
  | dbdesc dbd =>
    cases high with
    | early => exact sent.elim
    | offering number decided =>
      obtain rfl : dbd = _ := sent
      have heard : ¬ StuckAt ((.low, ⟨srcIp, srcId, .dbdesc ⟨true, true, true, number⟩⟩) :: other)
          (.offering number decided) low :=
        not_stuckAt_of_offer mem_cons_self (.inr ⟨rfl, rfl, rfl, rfl⟩)
      refine iff_of_false ?_ heard
      cases low with
      | early => cases decided <;> exact id
      | offering => exact offered
      | answered noted => exact offered
      | full noted => exact fits.elim
    | finishing number =>
      cases low with
      | answered noted =>
        obtain rfl : number = noted := fits
        refine iff_of_false ?_ id
        simp only [LowStage.after]
        split
        · exact id
        · split
          · rename_i final
            exact not_stuckAt_of_answer (mem_sent pair .low _) rfl ⟨rfl, rfl, by rw [final.2.2.2]⟩
          · exact id
      | full noted => simp [LowStage.after, StuckAt, packetsOf]
      | _ => exact fits.elim
    | full number =>
      cases low <;> exact Iff.rfl
  | _ => exact sent.elim

end

theorem StuckAt.hello (stuck : StuckAt inFlight high low) (side : Side) (faker : Faker) :
    StuckAt (inFlight ++ packetsOf pair side [faker.hello]) high low := by
  have silent : ∀ entry ∈ packetsOf pair side [faker.hello], ∀ number,
      ¬ entry.2.body.IsDbdesc ∧ ¬ entry.2.body.Opens ∧ ¬ entry.2.body.Answers number := by
    intro entry member number
    obtain rfl := mem_singleton.mp member
    exact ⟨id, id, id⟩
  cases high with
  | offering number decided =>
    cases decided <;> cases low <;> first
      | exact stuck.elim
      | intro entry member
        rcases mem_append.mp member with old | new
        · exact stuck entry old
        · exact ⟨fun _ => (silent entry new none).1, fun _ => (silent entry new none).2.1⟩
  | finishing number =>
    cases low with
    | full noted =>
      intro entry member toHigh
      rcases mem_append.mp member with old | new
      · exact stuck entry old toHigh
      · exact (silent entry new _).2.2
    | _ => exact stuck.elim
  | _ => exact stuck.elim

/-- Nor does what the higher end sends again. -/
theorem StuckAt.resent (stuck : StuckAt inFlight high low) :
    StuckAt (inFlight ++ packetsOf pair .high high.resent) high low := by
  cases high with
  | offering number decided =>
    cases decided with
    | false => simpa [resent, packetsOf] using stuck
    | true => cases low <;> exact stuck.elim
  | finishing number =>
    cases low with
    | full noted =>
      intro entry member toHigh
      rcases mem_append.mp member with old | new
      · exact stuck entry old toHigh
      · obtain ⟨body, -, rfl⟩ := (mem_packetsOf pair).mp new
        cases toHigh
    | _ => exact stuck.elim
  | _ => exact stuck.elim

end StuckAt

variable {pair}

section

variable {adjacency : Adjacency} (distinct : pair.ip .low ≠ pair.ip .high)
  (inside : ∃ high low, InStages pair adjacency high low)
include distinct inside

theorem stuck_step {event : ExchangeEvent} (spared : ∀ index, event ≠ .lose index) :
    OfferLost (exchangeStep pair adjacency event) ∨ AnswerLost (exchangeStep pair adjacency event) ↔
      OfferLost adjacency ∨ AnswerLost adjacency := by
  obtain ⟨high, low, inside⟩ := inside
  cases event with
  | hello side =>
    simp only [exchangeStep]
    split
    · exact Iff.rfl
    · have next : InStages pair ⟨adjacency.ends, adjacency.stopped, adjacency.inFlight ++
          packetsOf pair side [(adjacency.ends side).hello]⟩ high low :=
        inside.refill fun entry member =>
          (mem_append.mp member).imp_right (inside.hello_maySend side entry)
      rw [next.stuck_iff, inside.stuck_iff]
      exact ⟨fun stuck => stuck.subset (subset_append_left _ _),
        fun stuck => stuck.hello pair side _⟩
  | retransmit side =>
    simp only [exchangeStep]
    split
    · exact Iff.rfl
    · have next : InStages pair ⟨adjacency.ends, adjacency.stopped, adjacency.inFlight ++
          packetsOf pair side (adjacency.ends side).retransmission⟩ high low :=
        inside.refill fun entry member =>
          (mem_append.mp member).imp_right (inside.resent_maySend side entry)
      rw [next.stuck_iff, inside.stuck_iff]
      refine ⟨fun stuck => stuck.subset (subset_append_left _ _), fun stuck => ?_⟩
      cases side with
      | high =>
        rw [retransmission inside.highAt]
        exact stuck.resent pair
      | low =>
        rw [LowStage.retransmission inside.lowAt]
        simpa [packetsOf] using stuck
  | deliver index clock =>
    cases found : adjacency.inFlight[index]? with
    | none => simp only [exchangeStep, found]
    | some entry =>
      have same : ∀ entry', entry' ∈ adjacency.inFlight ↔
          entry' ∈ entry :: adjacency.inFlight.eraseIdx index := by
        obtain ⟨within, rfl⟩ := List.getElem?_eq_some_iff.mp found
        exact fun _ => (getElem_cons_eraseIdx_perm within).mem_iff.symm
      have regroup : StuckAt adjacency.inFlight high low ↔
          StuckAt (entry :: adjacency.inFlight.eraseIdx index) high low :=
        ⟨fun stuck => stuck.subset fun _ member => (same _).mpr member,
          fun stuck => stuck.subset fun _ member => (same _).mp member⟩
      rw [inside.stuck_iff, regroup]
      have member := mem_of_getElem? found
      obtain ⟨side, packet⟩ := entry
      cases side with
      | high =>
        obtain ⟨next, flight, -⟩ := @InStages.deliver_high _ _ _ _ distinct inside index clock _ found
        rw [next.stuck_iff, flight]
        exact stuckAt_after_high pair inside.fits (inside.toHigh packet member)
      | low =>
        obtain ⟨next, flight, -⟩ := @InStages.deliver_low _ _ _ _ distinct inside index clock _ found
        rw [next.stuck_iff, flight]
        exact stuckAt_after_low pair inside.fits (inside.toLow packet member)
  | duplicate index =>
    have fewer : adjacency.inFlight ++ adjacency.inFlight[index]?.toList ⊆ adjacency.inFlight := by
      intro entry member
      rcases mem_append.mp member with old | copy
      · exact old
      · exact mem_of_getElem? (Option.mem_toList.mp copy)
    have next : InStages pair ⟨adjacency.ends, adjacency.stopped, adjacency.inFlight ++
        adjacency.inFlight[index]?.toList⟩ high low :=
      inside.refill fun entry member => .inl (fewer member)
    simp only [exchangeStep]
    rw [next.stuck_iff, inside.stuck_iff]
    exact ⟨fun stuck => stuck.subset (subset_append_left _ _), fun stuck => stuck.subset fewer⟩
  | lose index => exact absurd rfl (spared index)
  | stop side => exact Iff.rfl

/-- A stuck exchange stays so, whatever is sent and delivered. -/
theorem stuck_of_canFinish (canFinish : CanFinish pair adjacency) :
    ¬ (OfferLost adjacency ∨ AnswerLost adjacency) := by
  obtain ⟨events, benign, full⟩ := canFinish
  induction events generalizing adjacency with
  | nil =>
    rintro (offer | answer)
    · exact absurd (full .high) (by simp [offer.1.1])
    · exact absurd (full .high) (by simp [answer.1])
  | cons event rest ih =>
    have spared : ∀ index, event ≠ .lose index := by
      rintro index rfl
      exact benign _ mem_cons_self
    rw [← stuck_step distinct inside spared]
    exact ih (inStages_step pair distinct adjacency event inside)
      (fun event member => benign event (mem_cons_of_mem _ member)) full

end

end NetLab.Ospf
