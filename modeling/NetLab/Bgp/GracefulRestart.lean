import Mathlib.Data.NNRat.Defs
import Mathlib.Data.Fintype.Basic
import NetLab.Bgp.LocalPref
import NetLab.Bgp.Machine
import NetLab.Bgp.Session
import Mathlib.Algebra.Field.Rat

/-!
# Expiry of graceful restart

The loss of a session spawns for each of its ends a task that purges the stale routes when
the restart time is over. The tasks stand beside the sessions and a clock, together with a
history: when each end was lost last, and when it came up again. `retention_kept` says
under which condition a purge waits for the whole restart time of the last loss and leaves
no copy of what it removes.
-/

namespace NetLab.Bgp

open NetLab.Library NetLab.Network NetLab.Execution List Option BgpEngine

/-- A purge that waits: the session end, the event that spawned it, and its time. -/
structure Expiry (Device : Type) where
  device : Device
  neighbor : Device
  number : Nat
  due : ℚ≥0

/-- The last loss of a session end, and the first time it was up after that. -/
structure Loss where
  number : Nat
  since : ℚ≥0
  restartTime : Nat
  upAgain : Option ℚ≥0 := none

/-- The session was down for the whole restart time after the loss. -/
def Loss.Outlasted (loss : Loss) (now : ℚ≥0) : Prop :=
  loss.since + loss.restartTime ≤ now ∧
    ∀ up, loss.upAgain = some up → loss.since + loss.restartTime ≤ up

/-- The sessions, the purges that wait, a clock and the history of losses. -/
structure RestartWorld (Device : Type) where
  sessions : World Device
  now : ℚ≥0 := 0
  expiries : List (Expiry Device) := []
  handled : Nat := 0
  lastLoss : Device → Device → Option Loss := fun _ _ => none

/-- Time passes, a purge runs, or something happens to the sessions. -/
inductive RestartEvent (Device : Type) where
  | wait (seconds : ℚ≥0)
  | expire (index : Nat)
  | session (event : SessionEvent Device)

namespace BgpEngine

variable {Device : Type} [DecidableEq Device] (engine : BgpEngine Device)

/-- `_schedule_gr_expiry`, when a session end is taken down. -/
def scheduleGrExpiry (number : Nat) (now : ℚ≥0) (device neighbor : Device) : List (Expiry Device) :=
  match engine.session device neighbor with
  | none => []
  | some session =>
    if session.state = .established ∧ session.gracefulRestart ∧ ¬ session.llgr then
      [⟨device, neighbor, number, now + session.restartTime⟩]
    else []

def restartTime (device neighbor : Device) : Nat :=
  ((engine.session device neighbor).map BgpSession.restartTime).getD 0

/-- Destinations of the stale routes from a neighbour. -/
def staleFrom (device neighbor : Device) : List Prefix :=
  ((engine.node device).ribIn.entries.filter fun entry =>
    decide (entry.1.1 = neighbor) && entry.2.stale).map fun entry => entry.1.2

/-- The route that another speaker is to hold for a best path. -/
def passedOn (filters : FilterEngine Device) (device other : Device) (best : LocRoute Device) :
    Option (BgpRoute Device) :=
  (engine.session device other).bind fun session =>
    if (engine.node device).passesOn other session best.learnedFrom then
      ((engine.node device).exportAdvert (filters device) session
        ((engine.node device).transitAdvert device session best)).bind
          ((engine.node other).acceptAdvert (filters other) device
            ((engine.node device).isEbgp session) (engine.session other device))
    else none

def HoldsCopy (filters : FilterEngine Device) (device other : Device) (best : LocRoute Device) :
    Prop :=
  ∃ held ∈ (engine.node other).ribIn.lookup (device, best.destination),
    ∃ route ∈ engine.passedOn filters device other best,
      BgpRoute.outdated { held with stale := false } route = false

end BgpEngine

namespace RestartWorld

variable {Device : Type} [DecidableEq Device]

def TakesDown (state : RestartWorld Device) (event : SessionEvent Device)
    (first second : Device) : Prop :=
  match event with
  | .sessionDown device neighbor =>
    ((first = device ∧ second = neighbor) ∨ (first = neighbor ∧ second = device)) ∧
      state.sessions.engine.established first second = true
  | _ => False

instance (state : RestartWorld Device) (event : SessionEvent Device) (first second : Device) :
    Decidable (state.TakesDown event first second) := by
  unfold TakesDown
  split <;> infer_instance

/-- The purges that an event spawns: `session_down` visits both ends in turn. -/
def spawned (state : RestartWorld Device) : SessionEvent Device → List (Expiry Device)
  | .sessionDown device neighbor =>
    let engine := state.sessions.engine
    engine.scheduleGrExpiry state.handled state.now device neighbor ++
      (engine.downEnd device neighbor).1.scheduleGrExpiry state.handled state.now neighbor device
  | _ => []

/-- The history of a session end after an event that leads to `after`. -/
def recordLoss (state : RestartWorld Device) (event : SessionEvent Device) (after : World Device)
    (first second : Device) : Option Loss :=
  if state.TakesDown event first second then
    some
      { number := state.handled
        since := state.now
        restartTime := state.sessions.engine.restartTime first second }
  else
    (state.lastLoss first second).map fun loss =>
      if after.engine.established first second then
        { loss with upAgain := loss.upAgain.or (some state.now) }
      else loss

/-- One step. A purge that is not due does not run. -/
def step (filters : FilterEngine Device) (state : RestartWorld Device) :
    RestartEvent Device → RestartWorld Device
  | .wait seconds => { state with now := state.now + seconds }
  | .expire index =>
    match state.expiries[index]? with
    | none => state
    | some task =>
      if task.due ≤ state.now then
        { state with
          sessions := { state.sessions with
            engine := state.sessions.engine.expireStale task.device task.neighbor }
          expiries := state.expiries.eraseIdx index }
      else state
  | .session event =>
    let after := state.sessions.handle filters event
    { state with
      sessions := after
      expiries := state.expiries ++ state.spawned event
      handled := state.handled + 1
      lastLoss := state.recordLoss event after }

/-- No purge waits, and no session end was lost yet. -/
def start (engine : BgpEngine Device) : RestartWorld Device where
  sessions := { engine := engine }

/-- Graceful restart is kept by a step: a purge that removes a stale route does so after
the whole restart time of the last loss, and every speaker with a copy stops holding it. -/
def Retains (filters : FilterEngine Device) (state : RestartWorld Device) :
    RestartEvent Device → Prop
  | .expire index =>
    let after := (state.step filters (.expire index)).sessions.engine
    ∀ task ∈ state.expiries[index]?,
      ∀ destination ∈ state.sessions.engine.staleFrom task.device task.neighbor,
        (task.neighbor, destination) ∉ (after.node task.device).ribIn.keys →
          (∃ loss ∈ state.lastLoss task.device task.neighbor, loss.Outlasted state.now) ∧
            ∀ best ∈ (state.sessions.engine.node task.device).locRib,
              best.learnedFrom = task.neighbor → best.destination = destination →
                ∀ other, state.sessions.engine.HoldsCopy filters task.device other best →
                  (after.node other).ribIn.lookup (task.device, destination) ≠
                    (state.sessions.engine.node other).ribIn.lookup (task.device, destination)
  | _ => True

/-- The purge that the last loss of a session end spawned is due. -/
def LastDue (state : RestartWorld Device) (device neighbor : Device) : Prop :=
  ∃ latest ∈ state.expiries, latest.device = device ∧ latest.neighbor = neighbor ∧
    latest.due ≤ state.now ∧ ∃ loss ∈ state.lastLoss device neighbor, loss.number = latest.number

/-- An opening does not touch an established session. A purge of stale routes runs only
when that of the last loss is due, and while no other speaker holds a copy. -/
def Orderly (filters : FilterEngine Device) (state : RestartWorld Device) :
    RestartEvent Device → Prop
  | .session (.openSession device neighbor) =>
    state.sessions.engine.established device neighbor = false ∧
      (state.sessions.engine.passwordOf device neighbor ≠
          state.sessions.engine.passwordOf neighbor device →
        state.sessions.engine.established neighbor device = false)
  | .session (.continueOpen index) =>
    ∀ opening ∈ state.sessions.openings[index]?,
      opening.stage = .connect ∨ opening.stage = .openSent →
        state.sessions.engine.established opening.device opening.neighbor = false
  | .expire index =>
    ∀ task ∈ state.expiries[index]?, task.due ≤ state.now →
      state.sessions.engine.established task.device task.neighbor = false →
        ∀ destination ∈ state.sessions.engine.staleFrom task.device task.neighbor,
          state.LastDue task.device task.neighbor ∧
            ∀ best ∈ (state.sessions.engine.node task.device).locRib,
              best.learnedFrom = task.neighbor → best.destination = destination →
                ∀ other, ¬ state.sessions.engine.HoldsCopy filters task.device other best
  | _ => True

/-! ## Sessions that stay up -/

variable {device neighbor : Device} {first second : Device} {event : SessionEvent Device}

variable {engine : BgpEngine Device}

section Sessions

variable {filters : FilterEngine Device} {state : RestartWorld Device}

theorem established_setState_of_down {written : SessionState}
    (down : engine.established device neighbor = false)
    (up : engine.established first second = true) :
    (engine.setState device neighbor written).established first second = true := by
  rw [established_setState, if_neg]
  · exact up
  · rintro ⟨rfl, rfl⟩
    rw [down] at up
    cases up

theorem established_beginOpen (down : engine.established device neighbor = false)
    (peerDown : engine.passwordOf device neighbor ≠ engine.passwordOf neighbor device →
      engine.established neighbor device = false) (up : engine.established first second = true) :
    (engine.beginOpen device neighbor).1.established first second = true := by
  unfold beginOpen
  cases held : engine.session device neighbor with
  | none => exact up
  | some session =>
    have password : engine.passwordOf device neighbor = session.password := by
      simp [passwordOf, held]
    dsimp only
    split
    case isTrue => exact established_setState_of_down down up
    case isFalse =>
        split
        case isTrue different =>
            rw [← password] at different
            refine established_setState_of_down ?_ (established_setState_of_down down up)
            rw [established_setState]
            split
            · simp
            · exact peerDown different
        case isFalse => exact established_setState_of_down down up

/-- An opening that goes on takes no established end down, if its own end is down until it
finishes. -/
theorem established_continueOpen {world : World Device} {index : Nat}
    (orderly : ∀ opening ∈ world.openings[index]?,
      opening.stage = .connect ∨ opening.stage = .openSent →
        world.engine.established opening.device opening.neighbor = false)
    (up : world.engine.established first second = true) :
    (world.handle filters (.continueOpen index)).engine.established first second = true := by
  simp only [World.handle]
  cases found : world.openings[index]? with
  | none => exact up
  | some opening =>
    have down := orderly opening found
    dsimp only
    unfold World.continueOpening
    cases stage : opening.stage with
    | connect => exact established_setState_of_down (down (.inl stage)) up
    | openSent => exact established_setState_of_down (down (.inr stage)) up
    | openConfirm =>
      dsimp only
      rw [established_establish]
      split
      · obtain ⟨session, held, -⟩ := established_iff.mp up
        rw [held]
        rfl
      · exact up
    | established =>
      exact (established_of_config (config_exchangeUpdates filters _ _ _) _ _).trans up
    | updated =>
      exact (established_of_config (config_exchangeUpdates filters _ _ _) _ _).trans up

theorem established_handle (orderly : state.Orderly filters (.session event))
    (kept : ¬ state.TakesDown event first second)
    (up : state.sessions.engine.established first second = true) :
    (state.sessions.handle filters event).engine.established first second = true := by
  cases event with
  | start device localAs => simpa [World.handle] using up
  | addNeighbor device neighbor remoteAs => simpa [World.handle] using up
  | setNeighborPassword device neighbor password => simpa [World.handle] using up
  | openSession device neighbor => exact established_beginOpen orderly.1 orderly.2 up
  | continueOpen index => exact established_continueOpen orderly up
  | sessionDown device neighbor =>
    simp only [World.handle, established_sessionDown]
    rw [if_neg fun named => kept ⟨named, up⟩]
    exact up

end Sessions

/-! ## What is known of the purges -/

/-- Every waiting purge has its time from a loss, the last one of its end if it has that
one's number. An end that came up again is still up. -/
structure Consistent (state : RestartWorld Device) : Prop where
  numbered : ∀ task ∈ state.expiries, task.number < state.handled
  scheduled : ∀ task ∈ state.expiries, ∃ loss ∈ state.lastLoss task.device task.neighbor,
    loss.number = task.number → task.due = loss.since + loss.restartTime
  stillUp : ∀ first second, ∀ loss ∈ state.lastLoss first second, loss.upAgain ≠ none →
    state.sessions.engine.established first second = true

theorem consistent_start (engine : BgpEngine Device) : Consistent (start engine) where
  numbered := fun task waiting => by cases waiting
  scheduled := fun task waiting => by cases waiting
  stillUp := fun first second loss lost => by cases lost

section Steps

variable {filters : FilterEngine Device} {state : RestartWorld Device}

/-- A spawned purge belongs to an end that the event takes down, and has its time from the
restart time of that end. -/
theorem mem_scheduleGrExpiry {number : Nat} {now : ℚ≥0} {task : Expiry Device}
    (spawned : task ∈ engine.scheduleGrExpiry number now device neighbor) :
    task = ⟨device, neighbor, number, now + engine.restartTime device neighbor⟩ ∧
      engine.established device neighbor = true := by
  unfold scheduleGrExpiry at spawned
  cases held : engine.session device neighbor with
  | none => simp [held] at spawned
  | some session =>
    rw [held] at spawned
    dsimp only at spawned
    split at spawned
    case isTrue restarts =>
        rw [mem_singleton] at spawned
        refine ⟨?_, established_iff.mpr ⟨session, held, restarts.1⟩⟩
        simp [spawned, restartTime, held]
    case isFalse => cases spawned

theorem mem_spawned {task : Expiry Device} (spawned : task ∈ state.spawned event) :
    state.TakesDown event task.device task.neighbor ∧ task.number = state.handled ∧
      task.due = state.now + state.sessions.engine.restartTime task.device task.neighbor := by
  cases event with
  | sessionDown device neighbor =>
    rcases mem_append.mp spawned with first | second
    · obtain ⟨rfl, up⟩ := mem_scheduleGrExpiry first
      exact ⟨⟨.inl ⟨rfl, rfl⟩, up⟩, rfl, rfl⟩
    · obtain ⟨rfl, up⟩ := mem_scheduleGrExpiry second
      rw [established_downEnd] at up
      split at up
      case isTrue => cases up
      case isFalse apart =>
          have same : (state.sessions.engine.downEnd device neighbor).1.restartTime
              neighbor device = state.sessions.engine.restartTime neighbor device := by
            unfold restartTime
            rw [session_downEnd, if_neg fun both => apart both.1]
          refine ⟨⟨.inr ⟨rfl, rfl⟩, up⟩, rfl, ?_⟩
          dsimp only
          rw [same]
  | start | addNeighbor | setNeighborPassword | openSession | continueOpen => cases spawned

theorem Consistent.session (consistent : state.Consistent)
    (orderly : state.Orderly filters (.session event)) :
    (state.step filters (.session event)).Consistent where
  numbered := by
    intro task waiting
    rcases mem_append.mp waiting with old | new
    · exact Nat.lt_succ_of_lt (consistent.numbered task old)
    · rw [(mem_spawned new).2.1]
      exact Nat.lt_succ_self _
  scheduled := by
    intro task waiting
    change ∃ loss ∈ state.recordLoss event (state.sessions.handle filters event) task.device
      task.neighbor, _
    unfold recordLoss
    rcases mem_append.mp waiting with old | new
    · by_cases down : state.TakesDown event task.device task.neighbor
      · -- the new loss has another number
        rw [if_pos down]
        refine ⟨_, rfl, fun same => ?_⟩
        exact absurd same.symm (Nat.ne_of_lt (consistent.numbered task old))
      · rw [if_neg down]
        obtain ⟨loss, lost, due⟩ := consistent.scheduled task old
        rw [mem_def.mp lost]
        refine ⟨_, rfl, ?_⟩
        split
        · exact due
        · exact due
    · obtain ⟨down, -, due⟩ := mem_spawned new
      rw [if_pos down]
      exact ⟨_, rfl, fun _ => due⟩
  stillUp := by
    intro first second loss lost up
    change loss ∈ state.recordLoss event (state.sessions.handle filters event) first second at lost
    unfold recordLoss at lost
    by_cases down : state.TakesDown event first second
    · rw [if_pos down] at lost
      obtain rfl := Option.some.inj (mem_def.mp lost)
      exact absurd rfl up
    · rw [if_neg down] at lost
      obtain ⟨before, was, rfl⟩ := map_eq_some_iff.mp (mem_def.mp lost)
      by_cases here : (state.sessions.handle filters event).engine.established first second = true
      · exact here
      · rw [if_neg here] at up
        exact established_handle orderly down (consistent.stillUp first second before was up)

theorem established_expireStale (engine : BgpEngine Device) (device neighbor first second : Device) :
    (engine.expireStale device neighbor).established first second =
      engine.established first second := by
  unfold expireStale
  split
  · rfl
  · split
    · rfl
    · have keeps : ∀ node : BgpNode Device,
          (loseNeighbor node neighbor false).sessions = node.sessions := fun _ => rfl
      unfold established
      rw [session_modifyNode_of_keeps _ _ _ _ keeps]

theorem Consistent.step (consistent : state.Consistent) {event : RestartEvent Device}
    (orderly : state.Orderly filters event) : (state.step filters event).Consistent := by
  cases event with
  | wait seconds => exact ⟨consistent.numbered, consistent.scheduled, consistent.stillUp⟩
  | session event => exact consistent.session orderly
  | expire index =>
    unfold RestartWorld.step
    dsimp only
    split
    · exact consistent
    · split
      case isFalse => exact consistent
      case isTrue =>
          exact
            { numbered := fun task waiting =>
                consistent.numbered task (mem_of_mem_eraseIdx waiting)
              scheduled := fun task waiting =>
                consistent.scheduled task (mem_of_mem_eraseIdx waiting)
              stillUp := fun first second loss lost up =>
                (established_expireStale ..).trans (consistent.stillUp first second loss lost up) }

/-! ## A purge -/

omit [DecidableEq Device] in
theorem mem_keys_of_staleFrom [DecidableEq Device] {engine : BgpEngine Device}
    {device neighbor : Device} {destination : Prefix}
    (stale : destination ∈ engine.staleFrom device neighbor) :
    (neighbor, destination) ∈ (engine.node device).ribIn.keys := by
  obtain ⟨entry, listed, rfl⟩ := mem_map.mp stale
  obtain ⟨member, matching⟩ := mem_filter.mp listed
  have own : entry.1.1 = neighbor := of_decide_eq_true (Bool.and_eq_true_iff.mp matching).1
  exact mem_map.mpr ⟨entry, member, Prod.ext own rfl⟩

theorem purges_of_gone {index : Nat} {task : Expiry Device}
    (waiting : task ∈ state.expiries[index]?) {destination : Prefix}
    (stale : destination ∈ state.sessions.engine.staleFrom task.device task.neighbor)
    (gone : (task.neighbor, destination) ∉
      ((state.step filters (.expire index)).sessions.engine.node task.device).ribIn.keys) :
    task.due ≤ state.now ∧ state.sessions.engine.established task.device task.neighbor = false := by
  have here := mem_keys_of_staleFrom stale
  have found : state.expiries[index]? = some task := waiting
  constructor
  · by_contra early
    refine gone ?_
    simpa [RestartWorld.step, found, early] using here
  · by_contra up
    obtain ⟨session, held, established⟩ :=
      established_iff.mp (by simpa using up)
    have same : state.sessions.engine.expireStale task.device task.neighbor =
        state.sessions.engine := by
      simp [expireStale, held, established]
    refine gone ?_
    by_cases due : task.due ≤ state.now
    · simpa [RestartWorld.step, found, due, same] using here
    · simpa [RestartWorld.step, found, due] using here

/-- When the purge of the last loss is due and the session is down, the loss has been
outlasted. -/
theorem Consistent.outlasted (consistent : state.Consistent)
    (down : state.sessions.engine.established device neighbor = false)
    (lastDue : state.LastDue device neighbor) :
    ∃ loss ∈ state.lastLoss device neighbor, loss.Outlasted state.now := by
  obtain ⟨latest, waiting, rfl, rfl, due, loss, lost, number⟩ := lastDue
  obtain ⟨scheduled, known, time⟩ := consistent.scheduled latest waiting
  obtain rfl := mem_unique lost known
  refine ⟨loss, lost, (time number).symm.trans_le due, fun up again => ?_⟩
  have established := consistent.stillUp _ _ loss lost (by simp [again])
  rw [down] at established
  cases established

theorem Consistent.retains (consistent : state.Consistent) {event : RestartEvent Device}
    (orderly : state.Orderly filters event) : state.Retains filters event := by
  cases event with
  | wait seconds => trivial
  | session event => trivial
  | expire index =>
    intro task waiting destination stale gone
    obtain ⟨due, down⟩ := purges_of_gone waiting stale gone
    obtain ⟨lastDue, uncopied⟩ := orderly task waiting due down destination stale
    exact ⟨consistent.outlasted down lastDue, fun best member learned named other copy =>
      absurd copy (uncopied best member learned named other)⟩

end Steps

/-- In a run of orderly steps, from any state of the sessions, every purge keeps graceful
restart. -/
theorem retention_kept (filters : FilterEngine Device) (engine : BgpEngine Device)
    (events : List (RestartEvent Device))
    (orderly : Along (step filters) (Orderly filters) (start engine) events) :
    Along (step filters) (Retains filters) (start engine) events :=
  orderly.derive (fun _ _ consistent kept => consistent.step kept)
    (fun _ _ consistent kept => consistent.retains kept) (consistent_start engine)

/-! ## Concrete runs -/

section Concrete

variable [Fintype Device] (filters : FilterEngine Device) (state : RestartWorld Device)

instance decidableHoldsCopy (engine : BgpEngine Device) (device other : Device)
    (best : LocRoute Device) : Decidable (engine.HoldsCopy filters device other best) := by
  unfold BgpEngine.HoldsCopy
  infer_instance

instance decidableLastDue (device neighbor : Device) : Decidable (state.LastDue device neighbor) := by
  unfold LastDue
  infer_instance

instance decidableOutlasted (loss : Loss) (now : ℚ≥0) : Decidable (loss.Outlasted now) :=
  decidable_of_iff (loss.since + loss.restartTime ≤ now ∧
    ∀ up ∈ loss.upAgain, loss.since + loss.restartTime ≤ up) Iff.rfl

instance decidableRetains (event : RestartEvent Device) :
    Decidable (state.Retains filters event) := by
  unfold Retains
  split <;> infer_instance

instance decidableOrderly (event : RestartEvent Device) :
    Decidable (state.Orderly filters event) := by
  unfold Orderly
  split <;> infer_instance

end Concrete

local instance restartSize : NeZero 3 := ⟨by decide⟩

/-- Speaker 0 originates a network, and speaker 1 restarts gracefully. -/
def restartingPair : BgpEngine (Fin 3) :=
  runFrom handle .initial
    ([.start 0 65001, .start 1 65002, .addNeighbor 0 1 65002, .addNeighbor 1 0 65001,
      .setGracefulRestart 1 true (some 120), .advertiseNetwork 0 ⟨"10.1.0.0", some 16⟩,
      .openSession 0 1].map fun operation => ⟨fun _ => {}, operation⟩)

/-- Speaker 2 learns the network from speaker 1. -/
def restartingTransit : BgpEngine (Fin 3) :=
  runFrom handle restartingPair
    ([.start 2 65003, .addNeighbor 1 2 65003, .addNeighbor 2 1 65002, .openSession 1 2].map
      fun operation => ⟨fun _ => {}, operation⟩)

/-- One loss that is not repaired. -/
def oneLoss : List (RestartEvent (Fin 3)) :=
  [.session (.sessionDown 1 0), .wait 120, .expire 0]

/-- The session comes up again and is lost a second time. -/
def flap : List (RestartEvent (Fin 3)) :=
  [.session (.sessionDown 1 0), .session (.openSession 1 0), .session (.continueOpen 0),
    .session (.continueOpen 0), .session (.continueOpen 0), .session (.continueOpen 0),
    .session (.continueOpen 0), .wait 100, .session (.sessionDown 1 0), .wait 20, .expire 0]

theorem oneLoss_retained :
    Along (step fun _ => {}) (Retains fun _ => {}) (start restartingPair) oneLoss :=
  retention_kept (fun _ => {}) restartingPair oneLoss (by decide +kernel)

/-- The purge of the first loss removes the routes 20 seconds after the second one, and a
purge leaves the route with the speaker to which it was passed on. -/
theorem flap_not_retained :
    ¬ Along (step fun _ => {}) (Retains fun _ => {}) (start restartingPair) flap ∧
      ¬ Along (step fun _ => {}) (Retains fun _ => {}) (start restartingTransit) oneLoss := by
  decide +kernel

end RestartWorld

end NetLab.Bgp
