import NetLab.Library.Execution
import NetLab.Library.OrderedMap
import NetLab.Ospf.NeighborFaker

/-!
# External neighbours

`DeviceOspfResponder` lets a faker listen for a device, writes its state into the device's
neighbour table, learns external routes, and drops the neighbour when its Hellos stay away.
The responder knows one peer, and every packet overwrites it; `residueFree_of_tame` says
what the table and the routes hold as long as only one router is heard. Time is counted in
ticks of any length. Packets sent, interface names and log messages are left out.
-/

namespace NetLab.Ospf

open NetLab.Library NetLab.Execution
open OrderedMap

/-- What a responder is started with. -/
structure ResponderConfig where
  myIp : Nat
  maskLength : Nat
  routerId : Nat
  deadInterval : Nat := 40

/-- `_same_subnet`. -/
def ResponderConfig.sameSubnet (config : ResponderConfig) (srcIp : Nat) : Bool :=
  srcIp >>> (32 - config.maskLength) == config.myIp >>> (32 - config.maskLength)

/-- An entry of the neighbour table. -/
structure ExternalNeighbor where
  state : FakerState
  ip : Option Nat
deriving DecidableEq

/-- An entry of `_learned_external`. -/
structure LearnedRoute where
  metric : Nat
  nextHop : Option Nat
deriving DecidableEq

/-- A responder, with the table and the routes it keeps for its device. -/
structure Responder where
  faker : Faker := {}
  lastHelloRx : Option Nat := none
  stopped : Bool := false
  neighbors : OrderedMap Nat ExternalNeighbor := .empty
  learned : OrderedMap (Nat × Nat) LearnedRoute := .empty

namespace Responder

variable (config : ResponderConfig) (responder : Responder)

/-- `_sync_neighbor_to_engine`. -/
def sync : Responder :=
  match responder.faker.peerId with
  | none => responder
  | some peer =>
    if responder.faker.state = .down then
      { responder with neighbors := responder.neighbors.erase peer }
    else
      let known := (responder.neighbors.lookup peer).bind ExternalNeighbor.ip
      { responder with
        neighbors := responder.neighbors.insert peer
          { state := responder.faker.state, ip := responder.faker.peerIp.or known } }

/-- `_set_state`. -/
def setState (state : FakerState) : Responder :=
  { responder with faker := { responder.faker with state := state } }.sync

/-- `expire_neighbor`. -/
def expireNeighbor : Responder :=
  let dropped := responder.setState .down
  { dropped with
    faker :=
      { dropped.faker with
        peerId := none
        peerIp := none
        exstartSent := false
        isMaster := none
        myDdseq := none
        peerDdseq := none }
    lastHelloRx := none
    learned := .empty }

def deadTimerExpired (now : Nat) : Bool :=
  !responder.stopped && responder.faker.state != .down &&
    responder.lastHelloRx.any fun last => decide (config.deadInterval < now - last)

/-- One round of `_dead_loop`. -/
def checkDead (now : Nat) : Responder :=
  if responder.deadTimerExpired config now then responder.expireNeighbor else responder

/-- `stop_ospf_agent`: a responder that is stopped is no longer found. -/
def stop : Responder :=
  if responder.stopped then responder else { responder with stopped := true }.expireNeighbor

/-- `_apply_external_lsa`, for the external ones of some advertisements. -/
def applyLsa : Lsa → Responder
  | .external key metric _ =>
    { responder with
      learned := responder.learned.insert key
        { metric := metric, nextHop := responder.faker.peerIp.or responder.faker.peerId } }
  | .other => responder

/-- `_handle_lsupd`. -/
def handleLsupd (lsas : List Lsa) : Responder :=
  let promoted :=
    if responder.faker.state = .down ∨ responder.faker.state = .full then responder
    else responder.setState .full
  lsas.foldl applyLsa promoted

/-- The faker has handled a packet; the states that it set went into the table one after the
other. -/
def adopt (handled : Faker × List FakerOutput) : Responder :=
  let moved := (setStates handled.2).foldl setState { responder with
      faker := { responder.faker with peerId := handled.1.peerId, peerIp := handled.1.peerIp } }
  { moved with faker := handled.1 }

/-- The packet is not thrown away. -/
def accepts (packet : OspfPacket) : Bool :=
  !responder.stopped && config.sameSubnet packet.srcIp && packet.srcIp != config.myIp

/-- `_on_packet`; `seconds` is what the clock shows. -/
def onPacket (now seconds : Nat) (packet : OspfPacket) : Responder :=
  if responder.accepts config packet then
    let heard : Responder :=
      match packet.body with
      | .hello _ => { responder with lastHelloRx := some now }
      | _ => responder
    match packet.body with
    | .lsupd lsas =>
      handleLsupd { heard with
          faker := { heard.faker with peerIp := some packet.srcIp, peerId := some packet.srcId } }
        lsas
    | _ => heard.adopt (heard.faker.onPacket config.myIp config.routerId seconds packet)
  else responder

end Responder

/-! ## Runs -/

/-- What happens on the segment of a device. -/
inductive SegmentEvent where
  | packet (seconds : Nat) (packet : OspfPacket)
  | elapse (ticks : Nat)
  | checkDead
  | stop

/-- An external advertisement that was heard from a router. -/
structure Advertised where
  router : Nat
  key : Nat × Nat
  metric : Nat
  age : Nat
deriving DecidableEq

/-- The responder in time. Beside it stands what was heard: when the dead timer was last
looked at, when each router's own Hello was last heard, the external advertisements of the
routers that have been Full ever since, the latest first, and whether the neighbour has just
been dropped. -/
structure Segment where
  responder : Responder := {}
  now : Nat := 0
  checkedAt : Nat := 0
  helloAt : OrderedMap Nat Nat := .empty
  advertised : List Advertised := []
  dropped : Bool := false

def Advertised.ofLsa (router : Nat) : Lsa → Option Advertised
  | .external key metric age => some ⟨router, key, metric, age⟩
  | .other => none

/-- The external advertisements of a packet, the latest first. -/
def advertisements (packet : OspfPacket) : List Advertised :=
  match packet.body with
  | .lsupd lsas => (lsas.filterMap (Advertised.ofLsa packet.srcId)).reverse
  | _ => []

namespace Segment

variable (config : ResponderConfig) (segment : Segment)

/-- The table lists a router as Full. -/
def isFull (router : Nat) : Bool :=
  (segment.responder.neighbors.lookup router).any fun neighbor => neighbor.state == .full

def forget : Segment :=
  { segment with advertised := segment.advertised.filter fun entry => segment.isFull entry.router }

def step : SegmentEvent → Segment
  | .packet seconds packet =>
    if segment.responder.accepts config packet then
      forget { segment with
          responder := segment.responder.onPacket config segment.now seconds packet
          helloAt :=
            match packet.body with
            | .hello _ => segment.helloAt.insert packet.srcId segment.now
            | _ => segment.helloAt
          advertised := advertisements packet ++ segment.advertised
          dropped := false }
    else { segment with dropped := false }
  | .elapse ticks => { segment with now := segment.now + ticks, dropped := false }
  | .checkDead =>
    forget { segment with
        responder := segment.responder.checkDead config segment.now
        checkedAt := segment.now
        dropped := segment.responder.deadTimerExpired config segment.now }
  | .stop =>
    forget { segment with responder := segment.responder.stop, dropped := true }

/-- The latest advertisement of a route by a router that is still Full. -/
def latest (key : Nat × Nat) : Option Advertised :=
  segment.advertised.find? fun entry => decide (entry.key = key)

/-- A router is Full only while its own Hellos arrive: at the last look at the dead timer its
latest was within the interval. A neighbour that was dropped has left the table. The routes
are those whose latest advertisement by a router that is still Full is not flushed. -/
structure ResidueFree : Prop where
  alive : ∀ router, segment.isFull router = true →
    ∃ last, segment.helloAt.lookup router = some last ∧
      segment.checkedAt - last ≤ config.deadInterval
  withdrawn : segment.dropped = true → segment.responder.neighbors = .empty
  learned : ∀ key, (segment.responder.learned.lookup key).map LearnedRoute.metric =
    ((segment.latest key).filter fun entry => decide (entry.age < 3600)).map Advertised.metric

/-- The event keeps to one router: while the table lists a neighbour, packets come from it.
None of its external advertisements is the last for its route and flushed, and there are none
before its Hello. -/
def Tame : SegmentEvent → Prop
  | .packet _ packet =>
    segment.responder.accepts config packet = true →
      (∀ router ∈ segment.responder.neighbors.keys, packet.srcId = router) ∧
      (segment.responder.faker.state = .down → advertisements packet = []) ∧
      ∀ key entry, (advertisements packet).find? (fun other => decide (other.key = key)) =
        some entry → entry.age < 3600
  | _ => True

end Segment

/-! ## How a faker moves -/

/-- A handler sets states one after the other, never Down and none once Full, and leaves the
peer as it is. -/
structure Moves (before : Faker) (handled : Faker × List FakerOutput) : Prop where
  last : handled.1.state = (setStates handled.2).getLastD before.state
  up : ∀ state ∈ setStates handled.2, state ≠ .down
  full : before.state = .full → setStates handled.2 = []
  peerId : handled.1.peerId = before.peerId
  peerIp : handled.1.peerIp = before.peerIp

namespace Moves

variable {before middle : Faker} {handled : Faker × List FakerOutput} {outputs : List FakerOutput}

theorem setStates_append (front back : List FakerOutput) :
    setStates (front ++ back) = setStates front ++ setStates back := List.filterMap_append

/-- Nothing that matters is touched. -/
theorem still (state : middle.state = before.state) (peerId : middle.peerId = before.peerId)
    (peerIp : middle.peerIp = before.peerIp) : Moves before (middle, []) where
  last := state
  up := nofun
  full _ := rfl
  peerId := peerId
  peerIp := peerIp

/-- One after the other. -/
theorem trans (first : Moves before (middle, outputs)) (second : Moves middle handled) :
    Moves before (handled.1, outputs ++ handled.2) where
  last := by
    have between := first.last
    rw [List.getLastD_eq_getLast?] at between
    rw [second.last, between, setStates_append, List.getLastD_eq_getLast?,
      List.getLastD_eq_getLast?, List.getLast?_append]
    cases (setStates handled.2).getLast? <;> rfl
  up state member := by
    rw [setStates_append] at member
    rcases List.mem_append.mp member with early | late
    · exact first.up state early
    · exact second.up state late
  full full := by
    have none := first.full full
    have stays : middle.state = .full := by
      have last := first.last
      rw [none] at last
      exact last.trans full
    rw [setStates_append, none, second.full stays]
    rfl
  peerId := second.peerId.trans first.peerId
  peerIp := second.peerIp.trans first.peerIp

variable {faker : Faker} {routerId clock : Nat}

theorem startExstart : Moves faker (faker.startExstart clock) := by
  unfold Faker.startExstart
  split
  · exact still rfl rfl rfl
  · rename_i enters
    have here : faker.state = .twoWay := by
      by_contra other
      exact enters (.inl other)
    exact ⟨rfl, by simp [setStates], by simp [here], rfl, rfl⟩

theorem handleHello (neighbors : List Nat) :
    Moves faker (faker.handleHello routerId clock neighbors) := by
  have heard : Moves faker (if faker.state = .down then
      ({ faker with state := .init }, [.setState .init]) else (faker, [])) := by
    split
    case isTrue down => exact ⟨rfl, by simp [setStates], by simp [down], rfl, rfl⟩
    case isFalse => exact still rfl rfl rfl
  unfold Faker.handleHello
  dsimp only
  generalize (if faker.state = .down then ({ faker with state := FakerState.init },
    [FakerOutput.setState .init]) else (faker, [])) = between at heard
  obtain ⟨middle, outputs⟩ := between
  split
  · rename_i seen
    have init : middle.state = .init := seen.1
    have twoWay : Moves middle ({ middle with state := .twoWay }, [.setState .twoWay]) :=
      ⟨rfl, by simp [setStates], by simp [init], rfl, rfl⟩
    exact heard.trans (twoWay.trans startExstart)
  · exact heard

theorem handleDbdescMaster (dbd : DbDesc) : Moves faker (faker.handleDbdescMaster dbd) := by
  unfold Faker.handleDbdescMaster
  split
  · rename_i exStart
    split
    · exact still rfl rfl rfl
    · split
      · exact ⟨rfl, by simp [setStates], by simp [exStart], rfl, rfl⟩
      · exact still rfl rfl rfl
  · split
    · rename_i exchange
      split
      · exact ⟨rfl, by simp [setStates], by simp [exchange.1], rfl, rfl⟩
      · exact still rfl rfl rfl
    · exact still rfl rfl rfl

theorem handleDbdescSlave (dbd : DbDesc) (notFull : faker.state ≠ .full) :
    Moves faker (faker.handleDbdescSlave dbd) := by
  unfold Faker.handleDbdescSlave
  split
  · exact ⟨rfl, by simp [setStates], fun full => absurd full notFull, rfl, rfl⟩
  · split
    · split
      · exact still rfl rfl rfl
      · split
        · exact ⟨rfl, by simp [setStates], fun full => absurd full notFull, rfl, rfl⟩
        · exact still rfl rfl rfl
    · exact still rfl rfl rfl

theorem handleDbdesc (dbd : DbDesc) : Moves faker (faker.handleDbdesc routerId clock dbd) := by
  have begun : Moves faker
      (if faker.state = .twoWay then faker.startExstart clock else (faker, [])) := by
    split
    · exact startExstart
    · exact still rfl rfl rfl
  unfold Faker.handleDbdesc
  dsimp only
  generalize (if faker.state = .twoWay then faker.startExstart clock else (faker, [])) = between
    at begun
  obtain ⟨middle, outputs⟩ := between
  dsimp only
  split
  · rename_i talks
    generalize middle.isMaster.getD (decide (middle.peerId.getD 0 < routerId)) = master
    have decided : Moves middle ({ middle with isMaster := some master }, []) := still rfl rfl rfl
    refine begun.trans (decided.trans ?_)
    have notFull : middle.state ≠ .full := by
      intro full
      rcases talks with exStart | exchange
      · cases full.symm.trans exStart
      · cases full.symm.trans exchange
    cases master with
    | false => exact handleDbdescSlave dbd notFull
    | true => exact handleDbdescMaster dbd
  · exact begun

theorem onPacket (faker : Faker) {myIp : Nat} (routerId clock : Nat) {packet : OspfPacket}
    (other : packet.srcIp ≠ myIp) (notUpdate : ∀ lsas, packet.body ≠ .lsupd lsas) :
    Moves { faker with peerIp := some packet.srcIp, peerId := some packet.srcId }
      (faker.onPacket myIp routerId clock packet) := by
  unfold Faker.onPacket
  rw [if_neg other]
  cases body : packet.body with
  | hello neighbors => exact handleHello neighbors
  | dbdesc dbd => exact handleDbdesc dbd
  | lsreq => exact still rfl rfl rfl
  | lsupd lsas => exact absurd body (notUpdate lsas)
  | lsack => exact still rfl rfl rfl

theorem still_of_down {myIp : Nat} {packet : OspfPacket} (down : faker.state = .down)
    (notHello : ∀ neighbors, packet.body ≠ .hello neighbors) :
    setStates (faker.onPacket myIp routerId clock packet).2 = [] := by
  unfold Faker.onPacket
  split
  · rfl
  · cases body : packet.body with
    | hello neighbors => exact absurd body (notHello neighbors)
    | dbdesc dbd => simp [Faker.handleDbdesc, down, setStates]
    | lsreq => rfl
    | lsupd lsas =>
      dsimp only [Faker.handleLsupd]
      split <;> rfl
    | lsack => rfl

end Moves

/-! ## The table -/

namespace Responder

variable {config : ResponderConfig} {responder : Responder} {peer : Nat}

def listed (responder : Responder) (router : Nat) : Option FakerState :=
  (responder.neighbors.lookup router).map ExternalNeighbor.state

section Frames

variable (state : FakerState)

/-- Only the table is written. -/
theorem sync_eq : responder.sync = { responder with neighbors := responder.sync.neighbors } := by
  unfold sync
  split
  · rfl
  · split <;> rfl

theorem setState_eq : responder.setState state = { responder with
      faker := { responder.faker with state := state }
      neighbors := (responder.setState state).neighbors } := sync_eq

@[simp] theorem faker_setState :
    (responder.setState state).faker = { responder.faker with state := state } := by
  rw [setState_eq]

@[simp] theorem lastHelloRx_setState :
    (responder.setState state).lastHelloRx = responder.lastHelloRx := by
  rw [setState_eq]

@[simp] theorem stopped_setState : (responder.setState state).stopped = responder.stopped := by
  rw [setState_eq]

@[simp] theorem learned_setState : (responder.setState state).learned = responder.learned := by
  rw [setState_eq]

end Frames

variable (responder)

theorem listed_setState (known : responder.faker.peerId = some peer) {state : FakerState}
    (up : state ≠ .down) (router : Nat) : (responder.setState state).listed router =
      if router = peer then some state else responder.listed router := by
  unfold listed setState sync
  dsimp only
  rw [known]
  dsimp only
  rw [if_neg up]
  dsimp only
  rw [lookup_insert]
  split <;> rfl

theorem listed_setState_down (router : Nat) : (responder.setState .down).listed router =
    if responder.faker.peerId = some router then none else responder.listed router := by
  unfold listed setState sync
  dsimp only
  cases responder.faker.peerId with
  | none => rfl
  | some peer =>
    dsimp only
    rw [if_pos rfl]
    dsimp only
    rw [lookup_erase]
    by_cases same : router = peer
    · subst same
      simp
    · simp [same, Ne.symm same]

theorem listed_foldl_setState {states : List FakerState} (up : ∀ state ∈ states, state ≠ .down)
    (known : responder.faker.peerId = some peer) (router : Nat) :
    (states.foldl setState responder).listed router =
      if router = peer then states.getLast?.or (responder.listed peer)
      else responder.listed router := by
  induction states generalizing responder with
  | nil =>
    by_cases same : router = peer
    · simp [same]
    · simp [same]
  | cons state rest ih =>
    have later : ∀ other ∈ rest, other ≠ .down := fun other member =>
      up other (List.mem_cons_of_mem _ member)
    have still : (responder.setState state).faker.peerId = some peer := by simpa using known
    have first := listed_setState responder known (up state (List.mem_cons_self ..))
    rw [List.foldl_cons, ih _ later still, first, first, if_pos rfl]
    by_cases same : router = peer
    · rw [if_pos same, if_pos same, List.getLast?_cons]
      cases rest.getLast? <;> rfl
    · rw [if_neg same, if_neg same, if_neg same]

theorem foldl_setState_frame (states : List FakerState) :
    (states.foldl setState responder).lastHelloRx = responder.lastHelloRx ∧
      (states.foldl setState responder).stopped = responder.stopped ∧
      (states.foldl setState responder).learned = responder.learned := by
  induction states generalizing responder with
  | nil => exact ⟨rfl, rfl, rfl⟩
  | cons state rest ih => simpa using ih (responder.setState state)

theorem listed_adopt {handled : Faker × List FakerOutput}
    (up : ∀ state ∈ setStates handled.2, state ≠ .down) (known : handled.1.peerId = some peer)
    (router : Nat) : (responder.adopt handled).listed router =
      if router = peer then (setStates handled.2).getLast?.or (responder.listed peer)
      else responder.listed router :=
  listed_foldl_setState { responder with
      faker := { responder.faker with peerId := handled.1.peerId, peerIp := handled.1.peerIp } }
    up known router

@[simp] theorem faker_adopt (handled : Faker × List FakerOutput) :
    (responder.adopt handled).faker = handled.1 := rfl

theorem adopt_frame (handled : Faker × List FakerOutput) :
    (responder.adopt handled).lastHelloRx = responder.lastHelloRx ∧
      (responder.adopt handled).stopped = responder.stopped ∧
      (responder.adopt handled).learned = responder.learned :=
  foldl_setState_frame _ _

/-- An update adds what it advertises to the routes, and nothing else. -/
theorem foldl_applyLsa_frame (lsas : List Lsa) :
    (lsas.foldl applyLsa responder).faker = responder.faker ∧
      (lsas.foldl applyLsa responder).lastHelloRx = responder.lastHelloRx ∧
      (lsas.foldl applyLsa responder).stopped = responder.stopped ∧
      (lsas.foldl applyLsa responder).neighbors = responder.neighbors := by
  induction lsas generalizing responder with
  | nil => exact ⟨rfl, rfl, rfl, rfl⟩
  | cons lsa rest ih =>
    cases lsa with
    | external key metric age => exact ih (responder.applyLsa (.external key metric age))
    | other => exact ih responder

theorem foldl_applyLsa_of_other {lsas : List Lsa} (other : ∀ lsa ∈ lsas, lsa = .other) :
    lsas.foldl applyLsa responder = responder := by
  induction lsas with
  | nil => rfl
  | cons lsa rest ih =>
    rw [other lsa (List.mem_cons_self ..)]
    exact ih fun later member => other later (List.mem_cons_of_mem _ member)

theorem exists_promoted (up : responder.faker.state ≠ .down)
    (known : responder.faker.peerId = some peer)
    (alone : ∀ router, responder.listed router =
      if peer = router then some responder.faker.state else none) (lsas : List Lsa) :
    ∃ between : Responder, responder.handleLsupd lsas = lsas.foldl applyLsa between ∧
      between.faker = { responder.faker with state := .full } ∧
      between.lastHelloRx = responder.lastHelloRx ∧ between.stopped = responder.stopped ∧
      between.learned = responder.learned ∧
      ∀ router, between.listed router = if peer = router then some .full else none := by
  unfold handleLsupd
  by_cases full : responder.faker.state = .full
  · refine ⟨responder, by rw [if_pos (.inr full)], ?_, rfl, rfl, rfl, fun router => ?_⟩
    · rw [← full]
    · rw [alone, full]
  · refine ⟨responder.setState .full, ?_, by simp, by simp, by simp, by simp, fun router => ?_⟩
    · dsimp only
      rw [if_neg (not_or.mpr ⟨up, full⟩)]
    · rw [listed_setState responder known (by decide), alone]
      by_cases same : router = peer
      · simp [same]
      · simp [same, Ne.symm same]

/-- Dropping the neighbour empties the table, if nobody else was listed. -/
theorem listed_expireNeighbor
    (alone : ∀ router, responder.listed router ≠ none → responder.faker.peerId = some router)
    (router : Nat) : responder.expireNeighbor.listed router = none := by
  have down := listed_setState_down responder router
  unfold expireNeighbor
  refine Eq.trans down ?_
  split
  · rfl
  · rename_i apart
    by_contra present
    exact apart (alone router present)

end Responder

/-! ## One router -/

/-- The external advertisements of an update, the latest first. -/
theorem learned_foldl_applyLsa (responder : Responder) (router : Nat) (lsas : List Lsa)
    (key : Nat × Nat) :
    ((lsas.foldl Responder.applyLsa responder).learned.lookup key).map LearnedRoute.metric =
      (((lsas.filterMap (Advertised.ofLsa router)).reverse.find? fun entry =>
        decide (entry.key = key)).map Advertised.metric).or
          ((responder.learned.lookup key).map LearnedRoute.metric) := by
  induction lsas generalizing responder with
  | nil => simp
  | cons lsa rest ih =>
    rw [List.foldl_cons, ih, List.filterMap_cons]
    cases lsa with
    | other => rfl
    | external named metric age =>
      dsimp only [Responder.applyLsa, Advertised.ofLsa]
      rw [List.reverse_cons, List.find?_append, lookup_insert]
      cases (rest.filterMap _).reverse.find? fun entry : Advertised =>
          decide (entry.key = key) with
      | some entry => rfl
      | none =>
        by_cases same : key = named
        · subst same
          simp
        · simp [same, Ne.symm same]

namespace Segment

variable {config : ResponderConfig} {segment : Segment}

/-- What holds as long as one router is heard. -/
structure Tracked (config : ResponderConfig) (segment : Segment) : Prop where
  clock : segment.checkedAt ≤ segment.now
  dropped : segment.dropped = true → segment.responder.faker.state = .down
  stopped : segment.responder.stopped = true → segment.responder.faker.state = .down
  listed : ∀ router, segment.responder.listed router =
    if segment.responder.faker.peerId = some router ∧ segment.responder.faker.state ≠ .down then
      some segment.responder.faker.state
    else none
  alive : segment.responder.faker.state ≠ .down → ∃ router last,
    segment.responder.faker.peerId = some router ∧
      segment.responder.lastHelloRx = some last ∧ segment.helloAt.lookup router = some last ∧
      segment.checkedAt - last ≤ config.deadInterval
  quiet : segment.responder.faker.state ≠ .full →
    segment.responder.learned = .empty ∧ segment.advertised = []
  heard : ∀ entry ∈ segment.advertised, segment.responder.faker.peerId = some entry.router
  learned : ∀ key, (segment.responder.learned.lookup key).map LearnedRoute.metric =
    ((segment.latest key).filter fun entry => decide (entry.age < 3600)).map Advertised.metric

theorem tracked_start : Tracked config {} where
  clock := le_rfl
  dropped := nofun
  stopped := nofun
  listed router := by simp [Responder.listed]
  alive up := absurd rfl up
  quiet _ := ⟨rfl, rfl⟩
  heard := nofun
  learned _ := rfl

theorem isFull_eq (router : Nat) :
    segment.isFull router = decide (segment.responder.listed router = some .full) := by
  unfold isFull Responder.listed
  cases segment.responder.neighbors.lookup router with
  | none => rfl
  | some neighbor => simp [beq_eq_decide]

/-- The table lists the peer alone. -/
theorem Tracked.isFull_iff (tracked : Tracked config segment) {router : Nat} :
    segment.isFull router = true ↔ segment.responder.faker.peerId = some router ∧
      segment.responder.faker.state = .full := by
  rw [isFull_eq, tracked.listed, decide_eq_true_eq]
  split
  · rename_i here
    simp [here.1]
  · rename_i apart
    constructor
    · nofun
    · rintro ⟨known, full⟩
      exact absurd ⟨known, by simp [full]⟩ apart

theorem Tracked.residueFree (tracked : Tracked config segment) : ResidueFree config segment where
  alive router full := by
    obtain ⟨known, state⟩ := tracked.isFull_iff.mp full
    obtain ⟨peer, last, found, -, heard, recent⟩ := tracked.alive (by simp [state])
    obtain rfl := Option.some.inj (known.symm.trans found)
    exact ⟨last, heard, recent⟩
  withdrawn dropped := by
    have down := tracked.dropped dropped
    have none : ∀ router, segment.responder.neighbors.lookup router = none := by
      intro router
      have listed := tracked.listed router
      rw [if_neg (by simp [down])] at listed
      exact Option.map_eq_none_iff.mp listed
    refine ext_lookup ?_ fun router => none router
    exact List.eq_nil_iff_forall_not_mem.mpr fun router member =>
      lookup_eq_none_iff.mp (none router) member
  learned := tracked.learned

theorem forget_of_full (full : ∀ entry ∈ segment.advertised, segment.isFull entry.router = true) :
    segment.forget = segment := by
  unfold forget
  rw [List.filter_eq_self.mpr full]

section

variable (tracked : Tracked config segment)
include tracked

/-- Every advertisement that is kept is the peer's. -/
theorem Tracked.forget_eq : segment.forget = segment := by
  refine forget_of_full fun entry member => tracked.isFull_iff.mpr ⟨tracked.heard entry member, ?_⟩
  by_contra notFull
  rw [(tracked.quiet notFull).2] at member
  cases member

theorem Tracked.drop (responder : Responder) (same : responder.faker = segment.responder.faker)
    (table : responder.neighbors = segment.responder.neighbors) (checkedAt : Nat)
    (clock : checkedAt ≤ segment.now) :
    Tracked config { segment with
        responder := responder.expireNeighbor
        checkedAt := checkedAt
        dropped := true }.forget := by
  have alone : ∀ router, responder.listed router ≠ none → responder.faker.peerId = some router := by
    intro router present
    have listed : responder.listed router = segment.responder.listed router := by
      unfold Responder.listed
      rw [table]
    rw [listed, tracked.listed] at present
    rw [same]
    by_contra other
    rw [if_neg fun known => other known.1] at present
    exact present rfl
  have nobody := responder.listed_expireNeighbor alone
  have state : responder.expireNeighbor.faker.state = .down := by simp [Responder.expireNeighbor]
  have forgotten : ∀ entry : Advertised, ¬ isFull { segment with
        responder := responder.expireNeighbor
        checkedAt := checkedAt
        dropped := true } entry.router = true := by
    intro entry
    rw [isFull_eq, nobody]
    simp
  refine
    { clock := clock
      dropped := fun _ => state
      stopped := fun _ => state
      listed := fun router => ?_
      alive := fun up => absurd state up
      quiet := fun _ => ⟨rfl, List.filter_eq_nil_iff.mpr fun entry _ => forgotten entry⟩
      heard := fun entry member => ?_
      learned := fun key => ?_ }
  · exact (nobody router).trans (if_neg fun up => up.2 state).symm
  · exact absurd (List.mem_filter.mp member).2 (forgotten entry)
  · have none : latest ({ segment with
        responder := responder.expireNeighbor
        checkedAt := checkedAt
        dropped := true }.forget) key = none := by
      refine List.find?_eq_none.mpr fun entry member => ?_
      exact absurd (List.mem_filter.mp member).2 (forgotten entry)
    rw [none]
    rfl

theorem Tracked.stop : Tracked config (segment.step config .stop) := by
  unfold step Responder.stop
  by_cases stopped : segment.responder.stopped = true
  · rw [if_pos stopped]
    have again : Tracked config { segment with dropped := true } :=
      { tracked with dropped := fun _ => tracked.stopped stopped }
    exact again.forget_eq.symm ▸ again
  · rw [if_neg stopped]
    exact tracked.drop { segment.responder with stopped := true } rfl rfl segment.checkedAt
      tracked.clock

theorem Tracked.checkDead : Tracked config (segment.step config .checkDead) := by
  unfold step Responder.checkDead
  dsimp only
  cases expired : segment.responder.deadTimerExpired config segment.now with
  | true => exact tracked.drop segment.responder rfl rfl segment.now le_rfl
  | false =>
    have again : Tracked config { segment with checkedAt := segment.now, dropped := false } :=
      { tracked with
        clock := le_rfl
        dropped := nofun
        alive := by
          intro up
          obtain ⟨router, last, known, clock, heard, -⟩ := tracked.alive up
          refine ⟨router, last, known, clock, heard, ?_⟩
          have running : segment.responder.stopped = false :=
            Bool.eq_false_iff.mpr fun stopped => up (tracked.stopped stopped)
          unfold Responder.deadTimerExpired at expired
          rw [running, clock] at expired
          simpa [up] using expired }
    exact again.forget_eq.symm ▸ again

theorem Tracked.elapse (ticks : Nat) : Tracked config (segment.step config (.elapse ticks)) :=
  { tracked with
    clock := le_trans tracked.clock (Nat.le_add_right ..)
    dropped := nofun }

end

/-! ### Packets -/

variable {packet : OspfPacket}

def FromNeighbor (segment : Segment) (packet : OspfPacket) : Prop :=
  ∀ router ∈ segment.responder.neighbors.keys, packet.srcId = router

theorem Tracked.peer_eq (tracked : Tracked config segment)
    (same : FromNeighbor segment packet) (up : segment.responder.faker.state ≠ .down) :
    segment.responder.faker.peerId = some packet.srcId := by
  obtain ⟨router, -, known, -⟩ := tracked.alive up
  have listed := tracked.listed router
  rw [if_pos ⟨known, up⟩] at listed
  obtain ⟨neighbor, found, -⟩ := Option.map_eq_some_iff.mp listed
  rw [known, same router (mem_keys_iff.mpr ⟨neighbor, found⟩)]

theorem Tracked.listed_sender (tracked : Tracked config segment)
    (same : FromNeighbor segment packet) (router : Nat) :
    segment.responder.listed router =
      if packet.srcId = router ∧ segment.responder.faker.state ≠ .down then
        some segment.responder.faker.state
      else none := by
  rw [tracked.listed]
  by_cases down : segment.responder.faker.state = .down
  · simp [down]
  · simp [tracked.peer_eq same down]

theorem Tracked.handled (tracked : Tracked config segment) (same : FromNeighbor segment packet)
    {handled : Faker × List FakerOutput} (lastHelloRx : Option Nat) (helloAt : OrderedMap Nat Nat)
    (moves : Moves { segment.responder.faker with
        peerIp := some packet.srcIp
        peerId := some packet.srcId } handled)
    (alive : handled.1.state ≠ .down → ∃ last, lastHelloRx = some last ∧
      helloAt.lookup packet.srcId = some last ∧ segment.checkedAt - last ≤ config.deadInterval)
    (stopped : segment.responder.stopped = false) :
    Tracked config { segment with
        responder := Responder.adopt { segment.responder with lastHelloRx := lastHelloRx } handled
        helloAt := helloAt
        dropped := false } := by
  obtain ⟨lastFrame, stoppedFrame, learnedFrame⟩ := Responder.adopt_frame
    { segment.responder with lastHelloRx := lastHelloRx } handled
  have fullBefore : handled.1.state ≠ .full → segment.responder.faker.state ≠ .full := by
    intro notFull full
    have last := moves.last
    rw [moves.full full] at last
    exact notFull (last.trans full)
  refine
    { clock := tracked.clock
      dropped := nofun
      stopped := fun halted => ?_
      listed := fun router => ?_
      alive := fun up => ?_
      quiet := fun notFull => ?_
      heard := fun entry member => ?_
      learned := fun key => ?_ }
  · rw [stoppedFrame, stopped] at halted
    cases halted
  · have before := tracked.listed_sender same
    have after := Responder.listed_adopt { segment.responder with lastHelloRx := lastHelloRx }
      moves.up moves.peerId router
    refine after.trans ?_
    have final : handled.1.state = (setStates handled.2).getLast?.getD
        segment.responder.faker.state := by
      rw [← List.getLastD_eq_getLast?]
      exact moves.last
    have here := before packet.srcId
    have there := before router
    rw [Responder.faker_adopt, moves.peerId]
    by_cases sender : router = packet.srcId
    · subst sender
      rw [if_pos rfl]
      cases set : (setStates handled.2).getLast? with
      | none =>
        rw [set] at final
        rw [final]
        exact here.trans (by simp)
      | some state =>
        rw [set] at final
        have up := moves.up state (List.mem_of_getLast? set)
        have now : handled.1.state = state := final
        simp [now, up]
    · rw [if_neg sender]
      exact there.trans (by simp [Ne.symm sender])
  · obtain ⟨last, clock, heard, recent⟩ := alive up
    exact ⟨packet.srcId, last, moves.peerId, lastFrame.trans clock, heard, recent⟩
  · obtain ⟨learned, advertised⟩ := tracked.quiet (fullBefore notFull)
    exact ⟨learnedFrame.trans learned, advertised⟩
  · refine moves.peerId.trans ?_
    have up : segment.responder.faker.state ≠ .down := by
      intro down
      have none := (tracked.quiet (by simp [down])).2
      rw [none] at member
      cases member
    rw [← tracked.heard entry member]
    exact (tracked.peer_eq same up).symm
  · rw [learnedFrame]
    exact tracked.learned key

theorem router_of_mem_advertisements {entry : Advertised} (member : entry ∈ advertisements packet) :
    entry.router = packet.srcId := by
  unfold advertisements at member
  split at member
  · obtain ⟨lsa, -, made⟩ := List.mem_filterMap.mp (List.mem_reverse.mp member)
    cases lsa with
    | external key metric age =>
      obtain rfl := Option.some.inj made
      rfl
    | other => cases made
  · cases member

theorem Tracked.update (tracked : Tracked config segment) (same : FromNeighbor segment packet)
    {lsas : List Lsa} (body : packet.body = .lsupd lsas)
    (hello : segment.responder.faker.state = .down → advertisements packet = [])
    (unflushed : ∀ key entry,
      (advertisements packet).find? (fun other => decide (other.key = key)) = some entry →
        entry.age < 3600) (stopped : segment.responder.stopped = false) :
    Tracked config { segment with
        responder := Responder.handleLsupd { segment.responder with
            faker :=
              { segment.responder.faker with
                peerIp := some packet.srcIp
                peerId := some packet.srcId } } lsas
        advertised := advertisements packet ++ segment.advertised
        dropped := false } := by
  by_cases down : segment.responder.faker.state = .down
  · obtain ⟨learned, advertised⟩ := tracked.quiet (by simp [down])
    have nothing := hello down
    have other : ∀ lsa ∈ lsas, lsa = .other := by
      intro lsa member
      unfold advertisements at nothing
      rw [body] at nothing
      have none := List.filterMap_eq_nil_iff.mp (List.reverse_eq_nil_iff.mp nothing) lsa member
      cases lsa with
      | external => cases none
      | other => rfl
    have same' : ∀ router, segment.responder.listed router = none := fun router =>
      (tracked.listed_sender same router).trans (if_neg fun up => up.2 down)
    unfold Responder.handleLsupd
    dsimp only
    rw [if_pos (.inl down), Responder.foldl_applyLsa_of_other _ other, nothing, advertised]
    exact
      { clock := tracked.clock
        dropped := nofun
        stopped := fun _ => down
        listed := fun router => (same' router).trans (if_neg fun up => up.2 down).symm
        alive := fun up => absurd down up
        quiet := fun _ => ⟨learned, rfl⟩
        heard := nofun
        learned := fun key => by
          rw [learned]
          rfl }
  · have peer := tracked.peer_eq same down
    have sender := tracked.listed_sender same
    obtain ⟨between, shape, moved, lastHello, running, learned, listed⟩ :=
      Responder.exists_promoted { segment.responder with
          faker :=
            { segment.responder.faker with
              peerIp := some packet.srcIp
              peerId := some packet.srcId } } down rfl
        (fun router => (sender router).trans (by simp [down])) lsas
    have full : between.faker.state = .full := by rw [moved]
    have peerId : between.faker.peerId = some packet.srcId := by rw [moved]
    obtain ⟨faker, lastFrame, stoppedFrame, table⟩ :=
      between.foldl_applyLsa_frame lsas
    rw [shape]
    refine
      { clock := tracked.clock
        dropped := nofun
        stopped := fun halted => ?_
        listed := fun router => ?_
        alive := fun _ => ?_
        quiet := fun notFull => ?_
        heard := fun entry member => ?_
        learned := fun key => ?_ }
    · rw [stoppedFrame, running, stopped] at halted
      cases halted
    · rw [faker, full, peerId]
      unfold Responder.listed at listed ⊢
      rw [table, listed]
      simp
    · obtain ⟨router, last, known, clock, heard, recent⟩ := tracked.alive down
      obtain rfl := Option.some.inj (peer.symm.trans known)
      exact ⟨packet.srcId, last, by rw [faker, peerId], by rw [lastFrame, lastHello, clock], heard,
        recent⟩
    · rw [faker, full] at notFull
      exact absurd rfl notFull
    · rw [faker, peerId]
      rcases List.mem_append.mp member with new | old
      · rw [router_of_mem_advertisements new]
      · rw [← peer]
        exact tracked.heard entry old
    · have new := learned_foldl_applyLsa between packet.srcId lsas key
      have spelled : advertisements packet =
          (lsas.filterMap (Advertised.ofLsa packet.srcId)).reverse := by
        unfold advertisements
        rw [body]
      rw [← spelled, learned] at new
      rw [new]
      unfold latest
      rw [List.find?_append]
      cases found : (advertisements packet).find? fun other => decide (other.key = key) with
      | none =>
        rw [Option.map_none, Option.none_or, Option.none_or]
        exact tracked.learned key
      | some entry =>
        have young := unflushed key entry found
        simp [Option.filter, young]

theorem Tracked.other (tracked : Tracked config segment) (seconds : Nat)
    (same : FromNeighbor segment packet) (notHello : ∀ neighbors, packet.body ≠ .hello neighbors)
    (notUpdate : ∀ lsas, packet.body ≠ .lsupd lsas)
    (stopped : segment.responder.stopped = false) (foreign : packet.srcIp ≠ config.myIp) :
    Tracked config { segment with
        responder := segment.responder.adopt
          (segment.responder.faker.onPacket config.myIp config.routerId seconds packet)
        dropped := false } := by
  have moves := Moves.onPacket segment.responder.faker config.routerId seconds foreign notUpdate
  refine tracked.handled same segment.responder.lastHelloRx segment.helloAt moves (fun up => ?_)
    stopped
  have before : segment.responder.faker.state ≠ .down := by
    intro down
    have last := moves.last
    rw [Moves.still_of_down down notHello] at last
    exact up (last.trans down)
  obtain ⟨router, last, known, clock, heard, recent⟩ := tracked.alive before
  obtain rfl := Option.some.inj ((tracked.peer_eq same before).symm.trans known)
  exact ⟨last, clock, heard, recent⟩

theorem Tracked.onPacket (tracked : Tracked config segment) (seconds : Nat)
    (tame : Tame config segment (.packet seconds packet)) :
    Tracked config (segment.step config (.packet seconds packet)) := by
  unfold step
  dsimp only
  cases accepted : segment.responder.accepts config packet with
  | false => exact { tracked with dropped := nofun }
  | true =>
    obtain ⟨same, hello, unflushed⟩ := tame accepted
    have running : segment.responder.stopped = false ∧ packet.srcIp ≠ config.myIp := by
      unfold Responder.accepts at accepted
      simp only [Bool.and_eq_true, Bool.not_eq_eq_eq_not, Bool.not_true, bne_iff_ne] at accepted
      exact ⟨accepted.1.1, accepted.2⟩
    rw [if_pos rfl]
    unfold Responder.onPacket
    rw [if_pos accepted]
    obtain ⟨srcIp, srcId, body⟩ := packet
    cases body with
    | hello neighbors =>
      have after := tracked.handled same (some segment.now)
        (segment.helloAt.insert srcId segment.now)
        (Moves.onPacket segment.responder.faker config.routerId seconds running.2 nofun)
        (fun _ => ⟨segment.now, rfl, lookup_insert_self .., by
          simp [Nat.sub_eq_zero_of_le tracked.clock]⟩) running.1
      exact after.forget_eq.symm ▸ after
    | lsupd lsas =>
      have after := tracked.update same rfl hello unflushed running.1
      exact after.forget_eq.symm ▸ after
    | dbdesc dbd =>
      have after := tracked.other seconds same nofun nofun running.1 running.2
      exact after.forget_eq.symm ▸ after
    | lsreq =>
      have after := tracked.other seconds same nofun nofun running.1 running.2
      exact after.forget_eq.symm ▸ after
    | lsack =>
      have after := tracked.other seconds same nofun nofun running.1 running.2
      exact after.forget_eq.symm ▸ after

theorem Tracked.step (tracked : Tracked config segment) (event : SegmentEvent)
    (tame : Tame config segment event) : Tracked config (segment.step config event) := by
  cases event with
  | packet seconds packet => exact tracked.onPacket seconds tame
  | elapse ticks => exact tracked.elapse ticks
  | checkDead => exact tracked.checkDead
  | stop => exact tracked.stop

/-- As long as one router is heard, and none of its advertisements is flushed or comes before
its Hello, no residue is left. -/
theorem residueFree_of_tame (config : ResponderConfig) (events : List SegmentEvent)
    (tame : Along (step config) (Tame config) {} events) :
    Throughout (step config) (ResidueFree config) {} events := by
  have tracked : Throughout (step config) (Tracked config) {} events :=
    throughout_of_along (fun _ event tracked tame => tracked.step event tame) tracked_start tame
  exact tracked.weaken fun _ => Tracked.residueFree

/-- A device at 10.0.0.1/24. -/
def lanDevice : ResponderConfig where
  myIp := 0x0a000001
  maskLength := 24
  routerId := 9

/-- Router 1 says Hello and advertises a route, and is not heard again. -/
def firstRouter : List SegmentEvent :=
  [.packet 0 ⟨0x0a000002, 1, .hello []⟩, .packet 0 ⟨0x0a000002, 1, .lsupd [.external (7, 24) 20 0]⟩]

theorem firstRouter_tame : Along (step lanDevice) (Tame lanDevice) {}
    (firstRouter ++ [.elapse 41, .checkDead]) := by
  refine ⟨fun _ => ⟨nofun, fun _ => rfl, nofun⟩, fun _ => ⟨?_, ?_, ?_⟩, trivial, trivial, trivial⟩
  · decide +kernel
  · intro down
    have init : (step lanDevice {} (.packet 0 ⟨0x0a000002, 1, .hello []⟩)).responder.faker.state =
        .init := by decide +kernel
    rw [init] at down
    cases down
  · intro key entry found
    obtain rfl := List.mem_singleton.mp (List.mem_of_find?_eq_some found)
    decide

theorem firstRouter_residueFree : Throughout (step lanDevice) (ResidueFree lanDevice) {}
    (firstRouter ++ [.elapse 41, .checkDead]) :=
  residueFree_of_tame lanDevice _ firstRouter_tame

/-- After the Hello of a second router the first one stays in the table. -/
theorem second_router_hides_first : ¬ Throughout (step lanDevice) (ResidueFree lanDevice) {}
    (firstRouter ++ [.packet 0 ⟨0x0a000003, 2, .hello []⟩, .elapse 41, .checkDead]) := by
  intro free
  have dropped : (runFrom (step lanDevice) {} (firstRouter ++
      [.packet 0 ⟨0x0a000003, 2, .hello []⟩, .elapse 41, .checkDead])).dropped = true := by
    decide +kernel
  have left : (runFrom (step lanDevice) {} (firstRouter ++
      [.packet 0 ⟨0x0a000003, 2, .hello []⟩, .elapse 41, .checkDead])).responder.listed 1 =
        some .full := by decide +kernel
  unfold Responder.listed at left
  rw [free.finish.withdrawn dropped] at left
  cases left

end Segment

end NetLab.Ospf
