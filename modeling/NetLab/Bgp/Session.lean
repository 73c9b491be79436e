import NetLab.Library.Execution
import NetLab.Bgp.Frame

/-!
# Agreement of BGP sessions

Opening a session pauses between its states, so several openings, configuration
commands and session losses interleave. The world keeps the openings under way
and, as history, whether the passwords agreed when a session end became
established. `sessions_agree_iff` says which steps make the two ends of an
established session disagree.
-/

namespace NetLab.Bgp

open NetLab.Library NetLab.Network NetLab.Execution BgpEngine

/-- What an opening does when it goes on after a pause. -/
inductive OpenStage where
  | connect
  | openSent
  | openConfirm
  | established
  | updated
deriving DecidableEq

/-- A call of `_open_session` that is under way. -/
structure Opening (Device : Type) where
  device : Device
  neighbor : Device
  stage : OpenStage
deriving DecidableEq

/-- The engine, the openings under way and the history of established ends. -/
structure World (Device : Type) where
  engine : BgpEngine Device
  openings : List (Opening Device) := []
  passwordsAgreed : Device → Device → Bool := fun _ _ => false

/-- What happens next. -/
inductive SessionEvent (Device : Type) where
  | start (device : Device) (localAs : Nat)
  | addNeighbor (device neighbor : Device) (remoteAs : Nat)
  | setNeighborPassword (device neighbor : Device) (password : String)
  | openSession (device neighbor : Device)
  | continueOpen (index : Nat)
  | sessionDown (device neighbor : Device)

namespace World

variable {Device : Type} [DecidableEq Device]

/-- Nothing is configured. -/
def initial : World Device := { engine := .initial }

/-- The history after the two ends of a session become established: an end that
was established already keeps its record. -/
def recordAgreement (world : World Device) (device neighbor first second : Device) : Bool :=
  if ((first = device ∧ second = neighbor) ∨ (first = neighbor ∧ second = device)) ∧
      world.engine.established first second = false then
    decide (world.engine.passwordOf device neighbor = world.engine.passwordOf neighbor device)
  else world.passwordsAgreed first second

/-- An opening goes on until its next pause. -/
def continueOpening (filters : FilterEngine Device) (world : World Device) (index : Nat)
    (opening : Opening Device) : World Device :=
  match opening.stage with
  | .connect =>
    { world with
      engine := world.engine.setState opening.device opening.neighbor .openSent
      openings := world.openings.set index { opening with stage := .openSent } }
  | .openSent =>
    { world with
      engine := world.engine.setState opening.device opening.neighbor .openConfirm
      openings := world.openings.set index { opening with stage := .openConfirm } }
  | .openConfirm =>
    { engine := world.engine.establish opening.device opening.neighbor
      openings := world.openings.set index { opening with stage := .established }
      passwordsAgreed := world.recordAgreement opening.device opening.neighbor }
  | .established =>
    { world with
      engine := world.engine.exchangeUpdates filters opening.device opening.neighbor
      openings := world.openings.set index { opening with stage := .updated } }
  | .updated =>
    { world with
      engine := world.engine.exchangeUpdates filters opening.device opening.neighbor
      openings := world.openings.eraseIdx index }

/-- One step of the world. -/
def handle (filters : FilterEngine Device) (world : World Device) :
    SessionEvent Device → World Device
  | .start device localAs => { world with engine := world.engine.start device localAs }
  | .addNeighbor device neighbor remoteAs =>
    { world with engine := world.engine.addNeighbor device neighbor remoteAs }
  | .setNeighborPassword device neighbor password =>
    { world with engine := world.engine.setNeighborPassword device neighbor password }
  | .openSession device neighbor =>
    let opened := world.engine.beginOpen device neighbor
    { world with
      engine := opened.1
      openings :=
        if opened.2 then world.openings ++ [⟨device, neighbor, .connect⟩]
        else world.openings }
  | .continueOpen index =>
    match world.openings[index]? with
    | none => world
    | some opening => world.continueOpening filters index opening
  | .sessionDown device neighbor =>
    { world with engine := world.engine.sessionDown filters device neighbor }

/-- The two ends of every established session agree: the peer is enabled, its end
is established too, the passwords were equal when the session came up, and each
AS number is the one that the other end expects. -/
def SessionsAgree (world : World Device) : Prop :=
  ∀ device neighbor, world.engine.established device neighbor = true →
    world.engine.isEnabled neighbor = true ∧
    world.engine.established neighbor device = true ∧
    world.passwordsAgreed device neighbor = true ∧
    world.engine.remoteAs device neighbor = world.engine.localAs neighbor ∧
    world.engine.remoteAs neighbor device = world.engine.localAs device

/-- What the end of a handshake would have to check again: the peer is enabled and
has an end of the session, the passwords are equal and the AS numbers match. -/
def ReadyToEstablish (engine : BgpEngine Device) (device neighbor : Device) : Prop :=
  engine.isEnabled neighbor = true ∧
  (engine.session neighbor device).isSome = true ∧
  engine.passwordOf device neighbor = engine.passwordOf neighbor device ∧
  engine.remoteAs device neighbor = engine.localAs neighbor ∧
  engine.remoteAs neighbor device = engine.localAs device

/-- The steps that keep the ends in agreement: no established session gets a new AS
number, none is opened again, and a handshake ends with a peer that is ready. -/
def KeepsAgreement (world : World Device) : SessionEvent Device → Prop
  | .start device localAs =>
    ∀ neighbor, world.engine.established neighbor device = true →
      world.engine.remoteAs neighbor device = some localAs
  | .addNeighbor device neighbor remoteAs =>
    world.engine.established device neighbor = true → world.engine.localAs neighbor = some remoteAs
  | .setNeighborPassword _ _ _ => True
  | .openSession device neighbor =>
    world.engine.established device neighbor = true → device = neighbor ∨
      world.engine.passwordOf device neighbor ≠ world.engine.passwordOf neighbor device
  | .continueOpen index =>
    ∀ opening, world.openings[index]? = some opening → match opening.stage with
      | .connect | .openSent =>
        world.engine.established opening.device opening.neighbor = true →
          opening.device = opening.neighbor
      | .openConfirm =>
        world.engine.established opening.device opening.neighbor = true ∨
          ReadyToEstablish world.engine opening.device opening.neighbor
      | .established | .updated => True
  | .sessionDown _ _ => True

/-! ## What each step does to the agreement -/

section Steps

variable {world next : World Device} {filters : FilterEngine Device}

theorem sessionsAgree_congr (established : ∀ first second,
      next.engine.established first second = world.engine.established first second)
    (enabled : ∀ device, next.engine.isEnabled device = world.engine.isEnabled device)
    (remote : ∀ first second,
      next.engine.remoteAs first second = world.engine.remoteAs first second)
    (own : ∀ device, next.engine.localAs device = world.engine.localAs device)
    (history : next.passwordsAgreed = world.passwordsAgreed) :
    next.SessionsAgree ↔ world.SessionsAgree := by
  simp only [SessionsAgree, established, enabled, remote, own, history]

theorem SessionsAgree.of_config (agree : world.SessionsAgree)
    (same : next.engine.config = world.engine.config)
    (history : next.passwordsAgreed = world.passwordsAgreed) : next.SessionsAgree :=
  (sessionsAgree_congr (established_of_config same)
    (isEnabled_of_config same) (remoteAs_of_config same)
    (localAs_of_config same) history).mpr agree

theorem SessionsAgree.of_fewer (agree : world.SessionsAgree)
    (fewer : ∀ first second, next.engine.established first second = true →
      world.engine.established first second = true)
    (paired : ∀ first second, next.engine.established first second = true →
      world.engine.established second first = true →
      next.engine.established second first = true)
    (enabled : ∀ device, next.engine.isEnabled device = world.engine.isEnabled device)
    (remote : ∀ first second,
      next.engine.remoteAs first second = world.engine.remoteAs first second)
    (own : ∀ device, next.engine.localAs device = world.engine.localAs device)
    (history : next.passwordsAgreed = world.passwordsAgreed) : next.SessionsAgree := by
  intro device neighbor up
  obtain ⟨peerEnabled, peerUp, agreed, forth, back⟩ := agree device neighbor (fewer _ _ up)
  refine ⟨?_, paired _ _ up peerUp, ?_, ?_, ?_⟩
  · rw [enabled, peerEnabled]
  · rw [history, agreed]
  · rw [remote, own, forth]
  · rw [remote, own, back]

theorem agree_start (agree : world.SessionsAgree) (device : Device) (localAs : Nat) :
    (handle filters world (.start device localAs)).SessionsAgree ↔
      KeepsAgreement world (.start device localAs) := by
  constructor
  · intro kept neighbor up
    have facts := kept neighbor device (by simpa [handle] using up)
    simpa [handle, localAs_start] using facts.2.2.2.1
  · intro matching first second up
    replace up : world.engine.established first second = true := by simpa [handle] using up
    obtain ⟨peerEnabled, peerUp, agreed, forth, back⟩ := agree first second up
    refine ⟨?_, by simpa [handle] using peerUp, agreed, ?_, ?_⟩
    · simp [handle, isEnabled_start, peerEnabled]
    · simp only [handle, remoteAs_start, localAs_start]
      split
      case isTrue here =>
          subst here
          exact matching first up
      case isFalse => exact forth
    · simp only [handle, remoteAs_start, localAs_start]
      split
      case isTrue here =>
          subst here
          exact matching second peerUp
      case isFalse => exact back

theorem agree_addNeighbor (agree : world.SessionsAgree) (device neighbor : Device)
    (remoteAs : Nat) :
    (handle filters world (.addNeighbor device neighbor remoteAs)).SessionsAgree ↔
      KeepsAgreement world (.addNeighbor device neighbor remoteAs) := by
  constructor
  · intro kept up
    have ownEnabled := (agree neighbor device (agree device neighbor up).2.1).1
    have facts := kept device neighbor (by simpa [handle] using up)
    have expected := facts.2.2.2.1
    simp only [handle, remoteAs_addNeighbor, localAs_addNeighbor] at expected
    simpa [ownEnabled] using expected.symm
  · intro matching first second up
    replace up : world.engine.established first second = true := by simpa [handle] using up
    obtain ⟨peerEnabled, peerUp, agreed, forth, back⟩ := agree first second up
    refine ⟨by simpa [handle] using peerEnabled, by simpa [handle] using peerUp, agreed, ?_, ?_⟩
    · simp only [handle, remoteAs_addNeighbor, localAs_addNeighbor]
      split
      case isTrue named =>
          obtain ⟨⟨rfl, rfl⟩, -⟩ := named
          exact (matching up).symm
      case isFalse => exact forth
    · simp only [handle, remoteAs_addNeighbor, localAs_addNeighbor]
      split
      case isTrue named =>
          obtain ⟨⟨rfl, rfl⟩, -⟩ := named
          exact (matching peerUp).symm
      case isFalse => exact back

theorem agree_setNeighborPassword (agree : world.SessionsAgree) (device neighbor : Device)
    (password : String) :
    (handle filters world (.setNeighborPassword device neighbor password)).SessionsAgree := by
  have history : (handle filters world
    (.setNeighborPassword device neighbor password)).passwordsAgreed = world.passwordsAgreed := rfl
  refine (sessionsAgree_congr (fun first second => ?_) (fun other => ?_) (fun first second => ?_)
    (fun other => ?_) history).mpr agree
  · exact established_setNeighborPassword _ _ _ _ _ _
  · exact isEnabled_setNeighborPassword _ _ _ _ _
  · exact remoteAs_setNeighborPassword _ _ _ _ _ _
  · exact localAs_setNeighborPassword _ _ _ _ _

theorem agree_sessionDown (agree : world.SessionsAgree) (device neighbor : Device) :
    (handle filters world (.sessionDown device neighbor)).SessionsAgree := by
  have same := config_sessionDown filters world.engine device neighbor
  refine agree.of_fewer ?_ ?_ (fun other => ?_) (fun first second => ?_) (fun other => ?_) rfl
  · intro first second up
    simp only [handle, established_sessionDown] at up
    split at up
    · cases up
    · exact up
  · intro first second up peerUp
    simp only [handle, established_sessionDown] at up ⊢
    split at up
    case isTrue => cases up
    case isFalse apart =>
        rw [if_neg fun named => apart (named.symm.imp And.symm And.symm)]
        exact peerUp
  · refine (isEnabled_of_config same other).trans ?_
    rw [(speaker_downEnd _ _ _ _).1, (speaker_downEnd _ _ _ _).1]
  · refine (remoteAs_of_config same first second).trans ?_
    rw [remoteAs_downEnd, remoteAs_downEnd]
  · refine (localAs_of_config same other).trans ?_
    exact ((speaker_downEnd _ _ _ _).2).trans (speaker_downEnd _ _ _ _).2

theorem agree_setState (agree : world.SessionsAgree) {device neighbor : Device}
    {state : SessionState} (unfinished : state ≠ .established)
    (engine : next.engine = world.engine.setState device neighbor state)
    (history : next.passwordsAgreed = world.passwordsAgreed) :
    next.SessionsAgree ↔ (world.engine.established device neighbor = true → device = neighbor) := by
  have written : ∀ first second, next.engine.established first second =
      if first = device ∧ second = neighbor then false
      else world.engine.established first second := by
    intro first second
    rw [engine, established_setState, beq_eq_false_iff_ne.mpr unfinished, Bool.and_false]
  constructor
  · intro kept up
    by_contra apart
    have peerUp := (agree device neighbor up).2.1
    have back := (kept neighbor device (by
      rw [written, if_neg fun named => apart named.2, peerUp])).2.1
    rw [written, if_pos ⟨rfl, rfl⟩] at back
    cases back
  · intro free
    refine agree.of_fewer ?_ ?_ (by simp [engine]) (by simp [engine]) (by simp [engine]) history
    · intro first second up
      rw [written] at up
      split at up
      · cases up
      · exact up
    · intro first second up peerUp
      rw [written] at up ⊢
      split at up
      case isTrue => cases up
      case isFalse apart =>
          rw [if_neg ?_]
          · exact peerUp
          · rintro ⟨rfl, rfl⟩
            have loop := free peerUp
            exact apart ⟨loop.symm, loop⟩

/-- Beginning to open a session. The passwords decide before anything is written;
a mismatch takes both ends down together. -/
theorem agree_openSession (agree : world.SessionsAgree) (device neighbor : Device) :
    (handle filters world (.openSession device neighbor)).SessionsAgree ↔
      KeepsAgreement world (.openSession device neighbor) := by
  change _ ↔ (world.engine.established device neighbor = true → device = neighbor ∨
    world.engine.passwordOf device neighbor ≠ world.engine.passwordOf neighbor device)
  have engine : (handle filters world (.openSession device neighbor)).engine =
      (world.engine.beginOpen device neighbor).1 := rfl
  have history : (handle filters world (.openSession device neighbor)).passwordsAgreed =
      world.passwordsAgreed := rfl
  generalize handle filters world (.openSession device neighbor) = next at engine history
  unfold beginOpen at engine
  cases held : world.engine.session device neighbor with
  | none =>
    have down : world.engine.established device neighbor = false := by
      simp [established, held]
    rw [held] at engine
    refine iff_of_true ?_ fun up => absurd up (by simp [down])
    exact (sessionsAgree_congr (by simp [engine]) (by simp [engine]) (by simp [engine])
      (by simp [engine]) history).mpr agree
  | some session =>
    have password : world.engine.passwordOf device neighbor = session.password := by
      simp [passwordOf, held]
    rw [held] at engine
    dsimp only at engine
    by_cases peer : world.engine.isEnabled neighbor = true
    · rw [peer] at engine
      by_cases same : session.password = world.engine.passwordOf neighbor device
      · -- the session is written to `connect`
        rw [if_neg (by simp), if_neg (not_not_intro same)] at engine
        refine (agree_setState agree (by decide) engine history).trans ?_
        refine imp_congr_right fun _ => (or_iff_left fun different => ?_).symm
        exact different (password.trans same)
      · rw [if_neg (by simp), if_pos same] at engine
        dsimp only at engine
        refine iff_of_true ?_ fun _ => .inr fun equal => same (password.symm.trans equal)
        refine agree.of_fewer ?_ ?_ (by simp [engine]) (by simp [engine]) (by simp [engine]) history
        · intro first second up
          rw [engine, established_setState, established_setState] at up
          split at up
          · simp at up
          · split at up
            · simp at up
            · exact up
        · intro first second up peerUp
          rw [engine, established_setState, established_setState] at up ⊢
          split at up
          case isTrue => simp at up
          case isFalse apartBack =>
              split at up
              case isTrue => simp at up
              case isFalse apartForth =>
                  rw [if_neg fun named => apartForth named.symm,
                    if_neg fun named => apartBack named.symm]
                  exact peerUp
    · -- a peer that is not enabled has no established session
      have down : world.engine.established device neighbor = false := by
        by_contra up
        exact peer (agree device neighbor (by simpa using up)).1
      rw [if_pos (by simpa using peer)] at engine
      dsimp only at engine
      refine iff_of_true ?_ fun up => absurd up (by simp [down])
      refine (sessionsAgree_congr (fun first second => ?_) (by simp [engine]) (by simp [engine])
        (by simp [engine]) history).mpr agree
      rw [engine, established_setState]
      split
      case isTrue named =>
          obtain ⟨rfl, rfl⟩ := named
          simp [down]
      case isFalse => rfl

/-- The end of a handshake keeps the agreement exactly if the session was up already
or its peer is ready. -/
theorem agree_establish (agree : world.SessionsAgree) {device neighbor : Device}
    (held : (world.engine.session device neighbor).isSome = true)
    (ownEnabled : world.engine.isEnabled device = true)
    (engine : next.engine = world.engine.establish device neighbor)
    (history : next.passwordsAgreed = world.recordAgreement device neighbor) :
    next.SessionsAgree ↔ world.engine.established device neighbor = true ∨
        ReadyToEstablish world.engine device neighbor := by
  have enabled : ∀ other, next.engine.isEnabled other = world.engine.isEnabled other := by
    simp [engine, establish]
  have remote : ∀ first second,
      next.engine.remoteAs first second = world.engine.remoteAs first second := by
    simp [engine, establish]
  have own : ∀ other, next.engine.localAs other = world.engine.localAs other := by
    simp [engine, establish]
  have written : ∀ first second, next.engine.established first second =
      if (first = device ∧ second = neighbor) ∨ (first = neighbor ∧ second = device) then
        (world.engine.session first second).isSome
      else world.engine.established first second := by
    intro first second
    rw [engine, established_establish]
  constructor
  · intro kept
    refine or_iff_not_imp_left.mpr fun down => ?_
    obtain ⟨peerEnabled, peerUp, agreed, forth, back⟩ := kept device neighbor (by
      rw [written, if_pos (.inl ⟨rfl, rfl⟩), held])
    rw [written, if_pos (.inr ⟨rfl, rfl⟩)] at peerUp
    rw [history, World.recordAgreement, if_pos ⟨.inl ⟨rfl, rfl⟩, by simpa using down⟩] at agreed
    exact ⟨(enabled _).symm.trans peerEnabled, peerUp, of_decide_eq_true agreed,
      (remote _ _).symm.trans (forth.trans (own _)), (remote _ _).symm.trans (back.trans (own _))⟩
  · intro allowed
    by_cases already : world.engine.established device neighbor = true
    · -- both ends were up, and keep their record
      have peerUp := (agree device neighbor already).2.1
      have same : ∀ first second, next.engine.established first second =
          world.engine.established first second := by
        intro first second
        rw [written]
        split
        case isTrue named =>
            obtain ⟨rfl, rfl⟩ | ⟨rfl, rfl⟩ := named
            · rw [held, already]
            · rw [peerUp]
              obtain ⟨peer, found, -⟩ := established_iff.mp peerUp
              rw [found]
              rfl
        case isFalse => rfl
      have kept : next.passwordsAgreed = world.passwordsAgreed := by
        rw [history]
        funext first second
        rw [World.recordAgreement, if_neg]
        rintro ⟨⟨rfl, rfl⟩ | ⟨rfl, rfl⟩, down⟩
        · simp [already] at down
        · simp [peerUp] at down
      exact (sessionsAgree_congr same enabled remote own kept).mpr agree
    · obtain ⟨peerEnabled, peerHeld, passwords, forth, back⟩ := allowed.resolve_left already
      have peerDown : ¬ world.engine.established neighbor device = true := fun peerUp =>
        already (agree neighbor device peerUp).2.1
      intro first second up
      rw [enabled, written, history, World.recordAgreement, remote, remote, own, own]
      rw [written] at up
      by_cases there : first = device ∧ second = neighbor
      · obtain ⟨rfl, rfl⟩ := there
        rw [if_pos (.inr ⟨rfl, rfl⟩), if_pos ⟨.inl ⟨rfl, rfl⟩, by simpa using already⟩]
        exact ⟨peerEnabled, peerHeld, decide_eq_true passwords, forth, back⟩
      · by_cases here : first = neighbor ∧ second = device
        · obtain ⟨rfl, rfl⟩ := here
          rw [if_pos (.inl ⟨rfl, rfl⟩), if_pos ⟨.inr ⟨rfl, rfl⟩, by simpa using peerDown⟩]
          exact ⟨ownEnabled, held, decide_eq_true passwords, back, forth⟩
        · have others : ¬ ((first = device ∧ second = neighbor) ∨
              (first = neighbor ∧ second = device)) := by simp [there, here]
          rw [if_neg fun named => others (named.symm.imp And.symm And.symm),
            if_neg fun named => others named.1]
          rw [if_neg others] at up
          exact agree first second up

/-- Going on with an opening. Each of its session ends exists and its own speaker is
enabled. -/
theorem agree_continueOpen (agree : world.SessionsAgree) (index : Nat)
    (configured : ∀ opening, world.openings[index]? = some opening →
      (world.engine.session opening.device opening.neighbor).isSome = true ∧
        world.engine.isEnabled opening.device = true) :
    (handle filters world (.continueOpen index)).SessionsAgree ↔
      KeepsAgreement world (.continueOpen index) := by
  simp only [handle, KeepsAgreement]
  cases found : world.openings[index]? with
  | none => simpa using agree
  | some opening =>
    obtain ⟨held, ownEnabled⟩ := configured opening found
    have updates := config_exchangeUpdates filters world.engine opening.device opening.neighbor
    simp only [Option.some.injEq, forall_eq']
    unfold continueOpening
    cases opening.stage with
    | connect => exact agree_setState agree (by decide) rfl rfl
    | openSent => exact agree_setState agree (by decide) rfl rfl
    | openConfirm => exact agree_establish agree held ownEnabled rfl rfl
    | established => exact iff_of_true (agree.of_config updates rfl) trivial
    | updated => exact iff_of_true (agree.of_config updates rfl) trivial

end Steps

/-! ## Runs -/

/-- Session ends belong to enabled speakers, and every opening has its own end. -/
structure Configured (world : World Device) : Prop where
  enabled : ∀ device neighbor, (world.engine.session device neighbor).isSome = true →
    world.engine.isEnabled device = true
  openings : ∀ opening ∈ world.openings,
    (world.engine.session opening.device opening.neighbor).isSome = true

variable {world : World Device} {filters : FilterEngine Device}

theorem Configured.grow (configured : world.Configured) {next : World Device}
    (kept : ∀ device neighbor, (world.engine.session device neighbor).isSome = true →
      (next.engine.session device neighbor).isSome = true)
    (added : ∀ device neighbor, (next.engine.session device neighbor).isSome = true →
      (world.engine.session device neighbor).isSome = true ∨ next.engine.isEnabled device = true)
    (enabled : ∀ device, world.engine.isEnabled device = true → next.engine.isEnabled device = true)
    (openings : ∀ opening ∈ next.openings,
      (world.engine.session opening.device opening.neighbor).isSome = true) :
    next.Configured where
  enabled device neighbor held :=
    (added device neighbor held).elim
      (fun old => enabled device (configured.enabled device neighbor old)) id
  openings opening member := kept _ _ (openings opening member)

/-- Changing nothing but existing session ends and tables. -/
theorem Configured.same (configured : world.Configured) {next : World Device}
    (same : ∀ device neighbor, (next.engine.session device neighbor).isSome =
      (world.engine.session device neighbor).isSome)
    (enabled : ∀ device, next.engine.isEnabled device = world.engine.isEnabled device)
    (openings : ∀ opening ∈ next.openings,
      (world.engine.session opening.device opening.neighbor).isSome = true) :
    next.Configured :=
  configured.grow (fun _ _ held => (same _ _).trans held)
    (fun _ _ held => .inl ((same _ _).symm.trans held))
    (fun _ held => (enabled _).trans held) openings

theorem Configured.handle (configured : world.Configured) (event : SessionEvent Device) :
    (handle filters world event).Configured := by
  cases event with
  | start device localAs =>
    refine configured.grow (by simp [World.handle]) (by simp [World.handle]; tauto) ?_
      configured.openings
    intro other enabled
    simp [World.handle, isEnabled_start, enabled]
  | addNeighbor device neighbor remoteAs =>
    refine configured.grow ?_ ?_ ?_ configured.openings
    · intro first second held
      simp only [World.handle, session_addNeighbor]
      split
      · rfl
      · exact held
    · intro first second held
      simp only [World.handle, session_addNeighbor, isEnabled_addNeighbor] at held ⊢
      split at held
      case isTrue named => exact .inr (named.1.1 ▸ named.2)
      case isFalse => exact .inl held
    · intro other enabled
      simpa [World.handle] using enabled
  | setNeighborPassword device neighbor password =>
    refine configured.same (fun first second => ?_) (by simp [World.handle]) configured.openings
    simp only [World.handle, session_setNeighborPassword]
    split
    · cases world.engine.session first second <;> rfl
    · rfl
  | openSession device neighbor =>
    refine configured.same (fun first second => ?_) (fun other => ?_) ?_
    · simp only [World.handle, beginOpen]
      split
      · rfl
      · split
        · simp
        · split <;> simp
    · simp only [World.handle, beginOpen]
      split
      · rfl
      · split
        · simp
        · split <;> simp
    · intro opening member
      simp only [World.handle] at member
      split at member
      case isTrue goesOn =>
          rcases List.mem_append.mp member with old | fresh
          · exact configured.openings opening old
          · obtain rfl := List.mem_singleton.mp fresh
            simp only [beginOpen] at goesOn
            split at goesOn
            case h_1 => cases goesOn
            case h_2 found => simp [found]
      case isFalse => exact configured.openings opening member
  | continueOpen index =>
    simp only [World.handle]
    cases found : world.openings[index]? with
    | none => exact configured
    | some opening =>
      have own := configured.openings opening (List.mem_of_getElem? found)
      have replaced : ∀ stage, ∀ other ∈ world.openings.set index { opening with stage := stage },
          (world.engine.session other.device other.neighbor).isSome = true := by
        intro stage other member
        rcases List.mem_or_eq_of_mem_set member with old | rfl
        · exact configured.openings other old
        · exact own
      have updates := config_exchangeUpdates filters world.engine opening.device opening.neighbor
      have sessions := session_of_config updates
      have enabled := isEnabled_of_config updates
      unfold continueOpening
      dsimp only
      cases opening.stage with
      | connect => exact configured.same (by simp) (by simp) (replaced _)
      | openSent => exact configured.same (by simp) (by simp) (replaced _)
      | openConfirm =>
        exact configured.same (by simp [establish]) (by simp [establish]) (replaced _)
      | established =>
        exact configured.same (fun _ _ => congrArg _ (sessions _ _)) enabled (replaced _)
      | updated =>
        refine configured.same (fun _ _ => congrArg _ (sessions _ _)) enabled ?_
        intro other member
        exact configured.openings other (List.mem_of_mem_eraseIdx member)
  | sessionDown device neighbor =>
    have same := config_sessionDown filters world.engine device neighbor
    refine configured.same (fun first second => ?_) (fun other => ?_) configured.openings
    · refine (congrArg Option.isSome (session_of_config same first second)).trans ?_
      rw [isSome_session_downEnd, isSome_session_downEnd]
    · refine (isEnabled_of_config same other).trans ?_
      rw [(speaker_downEnd _ _ _ _).1, (speaker_downEnd _ _ _ _).1]

theorem agree_step (configured : world.Configured) (agree : world.SessionsAgree)
    (event : SessionEvent Device) :
    (World.handle filters world event).SessionsAgree ↔ KeepsAgreement world event := by
  cases event with
  | start device localAs => exact agree_start agree device localAs
  | addNeighbor device neighbor remoteAs => exact agree_addNeighbor agree device neighbor remoteAs
  | setNeighborPassword device neighbor password =>
    exact iff_of_true (agree_setNeighborPassword agree device neighbor password) trivial
  | openSession device neighbor => exact agree_openSession agree device neighbor
  | continueOpen index =>
    refine agree_continueOpen agree index fun opening found => ?_
    have own := configured.openings opening (List.mem_of_getElem? found)
    exact ⟨own, configured.enabled _ _ own⟩
  | sessionDown device neighbor =>
    exact iff_of_true (agree_sessionDown agree device neighbor) trivial

/-- Two speakers configured for each other open the session from both sides, the
second one 0.7 seconds after the first. -/
def overlappingOpens : List (SessionEvent Bool) :=
  [.start false 65001, .start true 65002, .addNeighbor false true 65002,
    .addNeighbor true false 65001, .openSession false true, .continueOpen 0, .openSession true false,
    .continueOpen 0, .continueOpen 1, .continueOpen 0, .continueOpen 1]

end World

end NetLab.Bgp
