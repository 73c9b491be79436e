import NetLab.Ike.Lockstep
import NetLab.Library.Polling
import Mathlib.Data.Rat.Defs
import Mathlib.Algebra.Order.Ring.Rat
import Mathlib.Tactic.Linarith

/-!
# Dead-peer detection of Si-R tunnels

When an interface goes down, the tunnels over it that use detection become suspect, and they
are given up when the detection window has passed by the time somebody shows them.
`sirDpd_observationFree_iff` says on which schedules of link events and negotiations it
cannot be noticed who looked and when. Times are rational numbers of seconds.
-/

namespace NetLab.Ike

open List Option

open NetLab.Library NetLab.Library.Polling NetLab.Execution

variable {own : DpdEnd} {tunnel : Tunnel} {localIp : String}

/-- Detection as configured for a tunnel. -/
structure DpdSettings where
  use : Bool := false
  idle : Option Nat := none
  retryTime : Option Nat := none
  retryCount : Option Nat := none

def defaultDpdIdle : Nat := 10
def defaultDpdRetryTime : Nat := 1
def defaultDpdRetryCount : Nat := 3

/-- The settings of all tunnels. `fast` is set in tests. -/
structure DpdConfig (Device : Type) where
  fast : Bool
  settings : Device → String → DpdSettings

/-- Seconds until a suspect tunnel is given up. -/
def sirDpdDetectSeconds (fast : Bool) (settings : DpdSettings) : ℚ :=
  let idle := settings.idle.getD defaultDpdIdle
  let retryTime := settings.retryTime.getD defaultDpdRetryTime
  let retryCount := settings.retryCount.getD defaultDpdRetryCount
  (idle + retryTime * retryCount : Nat) / if fast then 10 else 1

inductive DpdState where
  | detecting (since : ℚ)
  | down
deriving DecidableEq

/-- What a device keeps about one of its ends. -/
structure DpdEnd where
  sa : Sa
  dpd : Option DpdState
deriving DecidableEq

/-- All devices, with the detection states of their ends. -/
structure DpdWorld (Device : Type) where
  world : World Device
  dpd : Device → String → Option DpdState

def DeviceType.runsDpd : DeviceType → Bool
  | .sir | .srs => true
  | _ => false

namespace DpdEnd

/-- The interface with the local address goes down. Only established tunnels that use
detection become suspect. -/
def sirLinkDown (now : ℚ) (localIp : String) (settings : DpdSettings) (tunnel : Tunnel)
    (own : DpdEnd) : DpdEnd :=
  if tunnel.localIp ≠ some localIp then own
  else if own.sa.status ≠ some .established then own
  else if settings.use then { own with dpd := some (.detecting now) }
  else own

/-- The interface with the local address comes back. -/
def sirLinkUp (localIp : String) (tunnel : Tunnel) (own : DpdEnd) : DpdEnd :=
  match own.dpd with
  | some (.detecting _) =>
    if tunnel.localIp = some localIp then { own with dpd := none } else own
  | _ => own

/-- Give up a tunnel whose window has passed. -/
def sirDpdStatus (window now : ℚ) (own : DpdEnd) : DpdEnd :=
  match own.dpd with
  | some (.detecting since) =>
    if window ≤ now - since then
      { sa := { own.sa with status := some .wait, phase1 := some .dying, phase2 := some .dying }
        dpd := some .down }
    else own
  | _ => own

end DpdEnd

/-- State column of `show ipsec sa`. -/
inductive SaColumn where
  | dpdDetect
  | mature
  | dying
  | larval
deriving DecidableEq

/-- Status column of `show ipsec tunnel`. -/
inductive TunnelColumn where
  | dpdDetecting
  | established
  | waiting
deriving DecidableEq

/-- What is shown of an end, and the status that the check for dead peers returns. -/
structure EndReport where
  saColumn : SaColumn
  tunnelColumn : TunnelColumn
  status : Status
deriving DecidableEq

/-- The report of an end that has just been checked. -/
def DpdEnd.shown (own : DpdEnd) : EndReport :=
  let status := own.sa.status.getD .wait
  match own.dpd with
  | some (.detecting _) => { saColumn := .dpdDetect, tunnelColumn := .dpdDetecting, status }
  | _ =>
    { saColumn :=
        if status = .established ∧ own.sa.phase2 = some .mature then .mature
        else if own.sa.phase2 = some .dying then .dying
        else .larval
      tunnelColumn := if status = .established then .established else .waiting
      status }

/-! ## One end -/

/-- A record that shows the tunnel as given up. -/
def Sa.Down (sa : Sa) : Prop := sa.status ≠ some .established ∧ sa.phase2 = some .dying

instance (sa : Sa) : Decidable sa.Down := inferInstanceAs (Decidable (_ ∧ _))

/-- Records that are shown alike. -/
structure SameSa (first second : Sa) : Prop where
  up : first.status = some .established ↔ second.status = some .established
  mature : first.phase2 = some .mature ↔ second.phase2 = some .mature
  dying : first.phase2 = some .dying ↔ second.phase2 = some .dying

theorem SameSa.refl (sa : Sa) : SameSa sa sa := ⟨.rfl, .rfl, .rfl⟩

variable {second : Sa} {now : ℚ} {other own : DpdEnd} {first : Sa}

theorem SameSa.status_eq (same : SameSa first second) :
    first.status.getD .wait = second.status.getD .wait := by
  have general : ∀ first second : Option Status,
      (first = some .established ↔ second = some .established) →
        first.getD .wait = second.getD .wait := by
    rintro (_ | _ | _) (_ | _ | _) <;> simp
  exact general _ _ same.up

/-- Records stay alike under the same writes. -/
theorem SameSa.write {first' second' : Sa} (same : SameSa first second) {status : Option Status}
    {phase2 : Option Phase} (firstStatus : first'.status = status.or first.status)
    (firstPhase : first'.phase2 = phase2.or first.phase2)
    (secondStatus : second'.status = status.or second.status)
    (secondPhase : second'.phase2 = phase2.or second.phase2) : SameSa first' second' := by
  refine ⟨?_, ?_, ?_⟩
  · rw [firstStatus, secondStatus]
    cases status with
    | none => exact same.up
    | some _ => rfl
  · rw [firstPhase, secondPhase]
    cases phase2 with
    | none => exact same.mature
    | some _ => rfl
  · rw [firstPhase, secondPhase]
    cases phase2 with
    | none => exact same.dying
    | some _ => rfl

/-- Writes that leave one record given up leave any other that was. -/
theorem Sa.Down.write {first' second' : Sa} (down : second.Down) {status : Option Status}
    {phase2 : Option Phase} (left : first'.Down)
    (firstStatus : first'.status = status.or first.status)
    (firstPhase : first'.phase2 = phase2.or first.phase2)
    (secondStatus : second'.status = status.or second.status)
    (secondPhase : second'.phase2 = phase2.or second.phase2) : second'.Down := by
  obtain ⟨notUp, dying⟩ := left
  rw [firstStatus] at notUp
  rw [firstPhase] at dying
  refine ⟨?_, ?_⟩
  · rw [secondStatus]
    cases status with
    | none => exact down.1
    | some _ => exact notUp
  · rw [secondPhase]
    cases phase2 with
    | none => exact down.2
    | some _ => exact dying

namespace DpdEnd

/-- The tunnel is given up for whoever looks, although nobody has looked yet. -/
def Overdue (window now : ℚ) (own : DpdEnd) : Prop :=
  match own.dpd with
  | some (.detecting since) => window ≤ now - since
  | _ => False

/-- The tunnel is not suspect. -/
def Settled (own : DpdEnd) : Prop :=
  match own.dpd with
  | some (.detecting _) => False
  | _ => True

instance (window now : ℚ) (own : DpdEnd) : Decidable (own.Overdue window now) := by
  unfold Overdue
  split
  · exact inferInstance
  · exact inferInstance

/-- What is shown of a tunnel that is given up. -/
def givenUp : EndReport := { saColumn := .dying, tunnelColumn := .waiting, status := .wait }

theorem Overdue.later {window next : ℚ} (overdue : own.Overdue window now) (later : now ≤ next) :
    own.Overdue window next := by
  unfold Overdue at overdue ⊢
  split at overdue
  · linarith
  · exact overdue

theorem Overdue.not_settled {window : ℚ} (overdue : own.Overdue window now) : ¬ own.Settled := by
  unfold Overdue at overdue
  unfold Settled
  split at overdue
  · exact id
  · exact overdue.elim

theorem overdue_congr {window : ℚ} (same : other.dpd = own.dpd) :
    other.Overdue window now ↔ own.Overdue window now := by
  unfold Overdue
  rw [same]

theorem settled_congr (same : other.dpd = own.dpd) : other.Settled ↔ own.Settled := by
  unfold Settled
  rw [same]

theorem sirDpdStatus_of_overdue {window : ℚ} (overdue : own.Overdue window now) :
    own.sirDpdStatus window now =
      { sa := { own.sa with status := some .wait, phase1 := some .dying, phase2 := some .dying }
        dpd := some .down } := by
  unfold Overdue at overdue
  unfold sirDpdStatus
  split
  · rename_i since suspect
    rw [suspect] at overdue
    exact if_pos overdue
  · rename_i settled
    split at overdue
    · rename_i since suspect
      exact absurd suspect (settled since)
    · exact overdue.elim

theorem sirDpdStatus_of_not_overdue {window : ℚ} (waits : ¬ own.Overdue window now) :
    own.sirDpdStatus window now = own := by
  unfold Overdue at waits
  unfold sirDpdStatus
  split
  · rename_i since suspect
    rw [suspect] at waits
    exact if_neg waits
  · rfl

theorem sirDpdStatus_of_settled {window : ℚ} (settled : own.Settled) :
    own.sirDpdStatus window now = own :=
  sirDpdStatus_of_not_overdue fun overdue => overdue.not_settled settled

theorem shown_of_settled (settled : own.Settled) : own.shown =
    { saColumn :=
        if own.sa.status.getD .wait = .established ∧ own.sa.phase2 = some .mature then .mature
        else if own.sa.phase2 = some .dying then .dying
        else .larval
      tunnelColumn :=
        if own.sa.status.getD .wait = .established then .established else .waiting
      status := own.sa.status.getD .wait } := by
  unfold Settled at settled
  unfold shown
  split
  · rename_i suspect
    simp [suspect] at settled
  · rfl

theorem shown_eq_givenUp_iff (settled : own.Settled) : own.shown = givenUp ↔ own.sa.Down := by
  rw [shown_of_settled settled]
  unfold givenUp Sa.Down
  rcases own.sa.status with _ | _ | _ <;> by_cases dying : own.sa.phase2 = some .dying <;>
    simp [dying]

theorem shown_of_sameSa (same : SameSa own.sa other.sa)
    (dpd : other.dpd = own.dpd ∨ own.Settled ∧ other.Settled) : own.shown = other.shown := by
  have status := same.status_eq
  by_cases settled : own.Settled
  · have alsoSettled : other.Settled := by
      rcases dpd with same | both
      · exact (settled_congr same).mpr settled
      · exact both.2
    rw [shown_of_settled settled, shown_of_settled alsoSettled]
    simp only [status, same.mature, same.dying]
  · have sameDpd := dpd.resolve_right fun both => settled both.1
    unfold shown
    rw [sameDpd]
    unfold Settled at settled
    split at settled
    · rename_i since suspect
      simp [status]
    · exact absurd trivial settled

/-- An end, and the same end if somebody has looked in the meantime. -/
inductive Ahead (window now : ℚ) (own other : DpdEnd) : Prop
  | alike (sa : SameSa own.sa other.sa)
      (dpd : other.dpd = own.dpd ∨ own.Settled ∧ other.Settled) : Ahead window now own other
  | givenUp (overdue : own.Overdue window now) (settled : other.Settled)
      (down : other.sa.Down) : Ahead window now own other

theorem Ahead.refl (window now : ℚ) (own : DpdEnd) : own.Ahead window now own :=
  .alike (.refl _) (.inl rfl)

theorem Ahead.later {window next : ℚ} (later : now ≤ next) (ahead : own.Ahead window now other) :
    own.Ahead window next other := by
  cases ahead with
  | alike sa dpd => exact .alike sa dpd
  | givenUp overdue settled down => exact .givenUp (overdue.later later) settled down

/-- An end that is given up when somebody looks. -/
theorem givenUp_of_overdue {window : ℚ} (overdue : own.Overdue window now) :
    (own.sirDpdStatus window now).Settled ∧ (own.sirDpdStatus window now).sa.Down := by
  rw [sirDpdStatus_of_overdue overdue]
  exact ⟨trivial, nofun, rfl⟩

theorem shown_of_overdue {window : ℚ} (overdue : own.Overdue window now) :
    (own.sirDpdStatus window now).shown = givenUp :=
  (shown_eq_givenUp_iff (givenUp_of_overdue overdue).1).mpr (givenUp_of_overdue overdue).2

theorem Ahead.look {window : ℚ} (ahead : own.Ahead window now other) :
    own.Ahead window now (other.sirDpdStatus window now) := by
  cases ahead with
  | givenUp overdue settled down =>
    rw [sirDpdStatus_of_settled settled]
    exact .givenUp overdue settled down
  | alike sa dpd =>
    by_cases overdue : other.Overdue window now
    · have sameDpd := dpd.resolve_right fun both => overdue.not_settled both.2
      obtain ⟨settled, down⟩ := givenUp_of_overdue overdue
      exact .givenUp ((overdue_congr sameDpd).mp overdue) settled down
    · rw [sirDpdStatus_of_not_overdue overdue]
      exact .alike sa dpd

/-- Both ends look the same to whoever looks now. -/
theorem Ahead.shown_eq {window : ℚ} (ahead : own.Ahead window now other) :
    (own.sirDpdStatus window now).shown = (other.sirDpdStatus window now).shown := by
  cases ahead with
  | givenUp overdue settled down =>
    rw [shown_of_overdue overdue, sirDpdStatus_of_settled settled]
    exact ((shown_eq_givenUp_iff settled).mpr down).symm
  | alike sa dpd =>
    by_cases overdue : own.Overdue window now
    · have sameDpd := dpd.resolve_right fun both => overdue.not_settled both.1
      rw [shown_of_overdue overdue, shown_of_overdue ((overdue_congr sameDpd).mpr overdue)]
    · have waits : ¬ other.Overdue window now := by
        rcases dpd with sameDpd | both
        · rwa [overdue_congr sameDpd]
        · exact fun overdue => overdue.not_settled both.2
      rw [sirDpdStatus_of_not_overdue overdue, sirDpdStatus_of_not_overdue waits]
      exact shown_of_sameSa sa dpd

/-! ## Calls on one end -/

/-- A call that goes down on a link does not restart the window of a tunnel that is given up
unnoticed. -/
theorem Ahead.sirLinkDown {window : ℚ} {settings : DpdSettings} (ahead : own.Ahead window now other)
    (quiet : tunnel.localIp = some localIp → own.Overdue window now →
      ¬ (own.sa.status = some .established ∧ settings.use = true ∧ 0 < window)) :
    (own.sirLinkDown now localIp settings tunnel).Ahead window now
      (other.sirLinkDown now localIp settings tunnel) := by
  unfold DpdEnd.sirLinkDown
  by_cases here : tunnel.localIp = some localIp
  · rw [if_neg (not_not.mpr here), if_neg (not_not.mpr here)]
    cases ahead with
    | alike sa dpd =>
      by_cases up : own.sa.status = some .established
      · rw [if_neg (not_not.mpr up), if_neg (not_not.mpr (sa.up.mp up))]
        split
        · exact .alike sa (.inl rfl)
        · exact .alike sa dpd
      · rw [if_pos up, if_pos (fun alsoUp => up (sa.up.mpr alsoUp))]
        exact .alike sa dpd
    | givenUp overdue settled down =>
      rw [if_pos down.1]
      by_cases up : own.sa.status = some .established
      · rw [if_neg (not_not.mpr up)]
        split
        · rename_i use
          -- A window without length has passed at once.
          have short := not_lt.mp fun long => quiet here overdue ⟨up, use, long⟩
          refine .givenUp ?_ settled down
          change window ≤ now - now
          rwa [sub_self]
        · exact .givenUp overdue settled down
      · rw [if_pos up]
        exact .givenUp overdue settled down
  · rw [if_pos here, if_pos here]
    exact ahead

theorem sirLinkDown_noticed {window : ℚ} {settings : DpdSettings}
    (here : tunnel.localIp = some localIp) (overdue : own.Overdue window now)
    (up : own.sa.status = some .established) (use : settings.use = true) (long : 0 < window) :
    ((own.sirLinkDown now localIp settings tunnel).sirDpdStatus window now).shown ≠
      (((own.sirDpdStatus window now).sirLinkDown now localIp settings tunnel).sirDpdStatus
        window now).shown := by
  obtain ⟨settled, down⟩ := givenUp_of_overdue overdue
  have looked : (own.sirDpdStatus window now).sirLinkDown now localIp settings tunnel =
      own.sirDpdStatus window now :=
    (if_neg (not_not.mpr here)).trans (if_pos down.1)
  have suspect : own.sirLinkDown now localIp settings tunnel =
      { own with dpd := some (.detecting now) } :=
    (if_neg (not_not.mpr here)).trans ((if_neg (not_not.mpr up)).trans (if_pos use))
  have waits : ¬ ({ own with dpd := some (.detecting now) } : DpdEnd).Overdue window now := by
    change ¬ window ≤ now - now
    rw [sub_self]
    exact not_le.mpr long
  rw [looked, suspect, sirDpdStatus_of_not_overdue waits, sirDpdStatus_of_settled settled,
    (shown_eq_givenUp_iff settled).mpr down]
  exact nofun

theorem sirLinkUp_of_settled (settled : own.Settled) (localIp : String) (tunnel : Tunnel) :
    own.sirLinkUp localIp tunnel = own := by
  unfold Settled at settled
  unfold sirLinkUp
  split
  · rename_i suspect
    simp [suspect] at settled
  · rfl

theorem sirLinkUp_of_suspect (suspect : ¬ own.Settled) (here : tunnel.localIp = some localIp) :
    own.sirLinkUp localIp tunnel = { own with dpd := none } := by
  unfold Settled at suspect
  unfold sirLinkUp
  split
  · exact if_pos here
  · split at suspect
    · simp_all
    · exact absurd trivial suspect

theorem sirLinkUp_elsewhere (away : tunnel.localIp ≠ some localIp) :
    own.sirLinkUp localIp tunnel = own := by
  unfold sirLinkUp
  split
  · exact if_neg away
  · rfl

/-- A call that comes up on a link does not save a tunnel that is given up unnoticed. -/
theorem Ahead.sirLinkUp {window : ℚ} (ahead : own.Ahead window now other)
    (quiet : tunnel.localIp = some localIp → own.Overdue window now → own.sa.Down) :
    (own.sirLinkUp localIp tunnel).Ahead window now (other.sirLinkUp localIp tunnel) := by
  by_cases here : tunnel.localIp = some localIp
  · cases ahead with
    | alike sa dpd =>
      by_cases settled : own.Settled
      · have alsoSettled : other.Settled := by
          rcases dpd with same | both
          · exact (settled_congr same).mpr settled
          · exact both.2
        rw [sirLinkUp_of_settled settled, sirLinkUp_of_settled alsoSettled]
        exact .alike sa dpd
      · have sameDpd := dpd.resolve_right fun both => settled both.1
        have alsoSuspect : ¬ other.Settled := by rwa [settled_congr sameDpd]
        rw [sirLinkUp_of_suspect settled here, sirLinkUp_of_suspect alsoSuspect here]
        exact .alike sa (.inl rfl)
    | givenUp overdue settled down =>
      have alsoDown := quiet here overdue
      rw [sirLinkUp_of_suspect overdue.not_settled here, sirLinkUp_of_settled settled]
      refine .alike ⟨?_, ?_, ?_⟩ (.inr ⟨trivial, settled⟩)
      · exact iff_of_false alsoDown.1 down.1
      · simp [alsoDown.2, down.2]
      · exact iff_of_true alsoDown.2 down.2
  · rw [sirLinkUp_elsewhere here, sirLinkUp_elsewhere here]
    exact ahead

theorem sirLinkUp_noticed {window : ℚ} (here : tunnel.localIp = some localIp)
    (overdue : own.Overdue window now) (kept : ¬ own.sa.Down) :
    ((own.sirLinkUp localIp tunnel).sirDpdStatus window now).shown ≠
      (((own.sirDpdStatus window now).sirLinkUp localIp tunnel).sirDpdStatus window now).shown := by
  obtain ⟨settled, down⟩ := givenUp_of_overdue overdue
  have saved : ({ own with dpd := none } : DpdEnd).Settled := trivial
  rw [sirLinkUp_of_suspect overdue.not_settled here, sirDpdStatus_of_settled saved,
    sirLinkUp_of_settled settled, sirDpdStatus_of_settled settled,
    (shown_eq_givenUp_iff settled).mpr down]
  exact fun same => kept ((shown_eq_givenUp_iff saved).mp same)

end DpdEnd

namespace DpdWorld

variable {Device : Type} [DecidableEq Device] (state : DpdWorld Device)

def sirTunnels (world : World Device) (device : Device) : List (String × Tunnel) :=
  match world.sessions.lookup device with
  | none => []
  | some session => if session.deviceType.runsDpd then session.tunnels.entries else []

def readEnd (device : Device) (tid : String) : DpdEnd :=
  ⟨state.world.sa device tid, state.dpd device tid⟩

def writeEnd (device : Device) (tid : String) (own : DpdEnd) : DpdWorld Device where
  world := state.world.updateSa device tid fun _ => own.sa
  dpd other otherTid :=
    if other = device ∧ otherTid = tid then own.dpd else state.dpd other otherTid

def eachTunnel (effect : String → Tunnel → DpdEnd → DpdEnd) (device : Device) : DpdWorld Device :=
  (sirTunnels state.world device).foldl (fun state entry =>
    state.writeEnd device entry.1 (effect entry.1 entry.2 (state.readEnd device entry.1))) state

variable (config : DpdConfig Device)

def sirLinkDown (now : ℚ) (device : Device) (localIp : String) : DpdWorld Device :=
  state.eachTunnel (fun tid => DpdEnd.sirLinkDown now localIp (config.settings device tid)) device

def sirLinkUp (device : Device) (localIp : String) : DpdWorld Device :=
  state.eachTunnel (fun _ => DpdEnd.sirLinkUp localIp) device

/-- The window of a tunnel. -/
def window (device : Device) (tid : String) : ℚ :=
  sirDpdDetectSeconds config.fast (config.settings device tid)

def advanceAllSirDpd (now : ℚ) (device : Device) : DpdWorld Device :=
  state.eachTunnel (fun tid _ => DpdEnd.sirDpdStatus (window config device tid) now) device

def showIpsec (now : ℚ) (device : Device) : List (String × EndReport) :=
  let checked := state.advanceAllSirDpd config now device
  (sirTunnels checked.world device).map fun entry =>
    (entry.1, (checked.readEnd device entry.1).shown)

/-- Link events and negotiations. -/
inductive Call (Device : Type) where
  | linkDown (device : Device) (localIp : String)
  | linkUp (device : Device) (localIp : String)
  | negotiateIpsec (device : Device)
  | negotiateManualIpsec (device : Device)

def call (now : ℚ) : Call Device → DpdWorld Device
  | .linkDown device localIp => state.sirLinkDown config now device localIp
  | .linkUp device localIp => state.sirLinkUp device localIp
  | .negotiateIpsec device => { state with world := (state.world.negotiateIpsec device).1 }
  | .negotiateManualIpsec device =>
    { state with world := (state.world.negotiateManualIpsec device).1 }

def machine (config : DpdConfig Device) :
    Machine ℚ (DpdWorld Device) (Call Device) Device (Device → List (String × EndReport)) where
  call now call state := state.call config now call
  look now device state := state.advanceAllSirDpd config now device
  report now state := state.showIpsec config now

/-! ## Handling the tunnels of a device -/

def sirTunnel (world : World Device) (device : Device) (tid : String) : Option Tunnel :=
  OrderedMap.lookupEntries (sirTunnels world device) tid

theorem sirTunnels_nodup (world : World Device) (device : Device) :
    ((sirTunnels world device).map Prod.fst).Nodup := by
  unfold sirTunnels
  cases world.sessions.lookup device with
  | none => exact .nil
  | some session =>
    dsimp only
    split
    · exact session.tunnels.distinct
    · exact .nil

variable {device : Device} {tid : String} {now : ℚ}

theorem mem_sirTunnels_iff {world : World Device} :
    (tid, tunnel) ∈ sirTunnels world device ↔ sirTunnel world device tid = some tunnel := by
  let listed : OrderedMap String Tunnel :=
    ⟨sirTunnels world device, sirTunnels_nodup world device⟩
  change (tid, tunnel) ∈ listed.entries ↔ listed.lookup tid = some tunnel
  exact OrderedMap.mem_entries_iff

variable (state : DpdWorld Device)

theorem readEnd_writeEnd (device other : Device) (tid otherTid : String) (own : DpdEnd) :
    (state.writeEnd device tid own).readEnd other otherTid =
      if other = device ∧ otherTid = tid then own else state.readEnd other otherTid := by
  have place : (state.world.updateSa device tid fun _ => own.sa).sa other otherTid =
      if (other, otherTid) = (device, tid) then own.sa else state.world.sa other otherTid :=
    World.sa_updateSa device tid (fun _ => own.sa) (other, otherTid)
  simp only [Prod.mk.injEq] at place
  simp only [readEnd, writeEnd, place]
  split <;> rfl

theorem readEnd_eachTunnel (state : DpdWorld Device)
    (effect : String → Tunnel → DpdEnd → DpdEnd) (device other : Device) (tid : String) :
    (state.eachTunnel effect device).readEnd other tid = if other = device then
        match sirTunnel state.world device tid with
        | some tunnel => effect tid tunnel (state.readEnd device tid)
        | none => state.readEnd device tid
      else state.readEnd other tid := by
  unfold eachTunnel sirTunnel
  have distinct := sirTunnels_nodup state.world device
  generalize sirTunnels state.world device = entries at distinct
  induction entries generalizing state with
  | nil =>
    simp only [foldl_nil, OrderedMap.lookupEntries]
    split
    · rename_i here
      rw [here]
    · rfl
  | cons entry rest ih =>
    obtain ⟨fresh, distinct⟩ := nodup_cons.mp distinct
    rw [foldl_cons, ih _ distinct]
    by_cases here : other = device
    · subst here
      simp only [if_true, OrderedMap.lookupEntries]
      by_cases same : entry.1 = tid
      · subst same
        let later : OrderedMap String Tunnel := ⟨rest, distinct⟩
        have absent : later.lookup entry.1 = none := OrderedMap.lookup_eq_none_iff.mpr fresh
        change OrderedMap.lookupEntries rest entry.1 = none at absent
        rw [absent, readEnd_writeEnd]
        simp
      · simp only [if_neg same, readEnd_writeEnd, Ne.symm same, and_false, if_false]
    · simp only [readEnd_writeEnd, here, false_and, if_false]

theorem setup_eachTunnel (effect : String → Tunnel → DpdEnd → DpdEnd) (device : Device) :
    World.SameSetup state.world (state.eachTunnel effect device).world := by
  unfold eachTunnel
  generalize sirTunnels state.world device = entries
  induction entries generalizing state with
  | nil => exact .refl _
  | cons entry rest ih =>
    let next := state.writeEnd device entry.1
      (effect entry.1 entry.2 (state.readEnd device entry.1))
    have first : World.SameSetup state.world next.world := .updateSa _ _ _ _
    exact first.trans (ih next)

theorem recordedEnds_eachTunnel (effect : String → Tunnel → DpdEnd → DpdEnd) (device : Device)
    {other : Device} {session : Session} (found : state.world.sessions.lookup other = some session)
    (crypto : session.deviceType.hasCrypto = true) :
    (state.eachTunnel effect device).world.recordedEnds other = state.world.recordedEnds other := by
  by_cases here : other = device
  · subst here
    have none : sirTunnels state.world other = [] := by
      simp only [sirTunnels, found]
      refine if_neg ?_
      revert crypto
      cases session.deviceType <;> decide
    unfold eachTunnel
    rw [none]
    rfl
  · unfold eachTunnel
    generalize sirTunnels state.world device = entries
    clear found
    induction entries generalizing state with
    | nil => rfl
    | cons entry rest ih =>
      rw [foldl_cons, ih]
      exact (World.recordedEnds_updateSa _ _ _ _ _).trans (if_neg fun both => here both.1)

theorem sirTunnels_of_setup {first second : World Device} (same : World.SameSetup first second) :
    sirTunnels second = sirTunnels first := by
  funext device
  unfold sirTunnels
  rw [same.sessions_eq]

theorem sirTunnel_of_setup {first second : World Device} (same : World.SameSetup first second) :
    sirTunnel second = sirTunnel first := by
  funext device tid
  unfold sirTunnel
  rw [sirTunnels_of_setup same]

theorem isSome_sirTunnel_iff {world : World Device} : (sirTunnel world device tid).isSome = true ↔
      ∃ outline, world.outline device = some outline ∧ outline.1.runsDpd = true ∧
        tid ∈ outline.2 := by
  have listed : (sirTunnel world device tid).isSome = true ↔
      tid ∈ (sirTunnels world device).map Prod.fst := by
    let tunnels : OrderedMap String Tunnel :=
      ⟨sirTunnels world device, sirTunnels_nodup world device⟩
    have known : tid ∈ tunnels.keys ↔ ∃ tunnel, tunnels.lookup tid = some tunnel :=
      OrderedMap.mem_keys_iff
    exact isSome_iff_exists.trans known.symm
  rw [listed]
  unfold sirTunnels World.outline
  cases world.sessions.lookup device with
  | none => simp
  | some session =>
    by_cases runs : session.deviceType.runsDpd = true
    · simp only [runs, if_true, map_some, Option.some.injEq, exists_eq_left', true_and]
      rfl
    · simp [runs]

theorem readEnd_advanceAll (state : DpdWorld Device) (config : DpdConfig Device) (now : ℚ)
    (present : (sirTunnel state.world device tid).isSome = true) :
    (state.advanceAllSirDpd config now device).readEnd device tid =
      (state.readEnd device tid).sirDpdStatus (window config device tid) now := by
  obtain ⟨tunnel, found⟩ := isSome_iff_exists.mp present
  unfold advanceAllSirDpd
  rw [readEnd_eachTunnel, if_pos rfl, found]

theorem showIpsec_eq (state : DpdWorld Device) (config : DpdConfig Device) (now : ℚ)
    (device : Device) : state.showIpsec config now device =
      (sirTunnels state.world device).map fun entry => (entry.1,
        ((state.readEnd device entry.1).sirDpdStatus (window config device entry.1) now).shown) := by
  have setup : World.SameSetup state.world (state.advanceAllSirDpd config now device).world :=
    setup_eachTunnel state _ device
  unfold showIpsec
  dsimp only
  rw [sirTunnels_of_setup setup, map_inj_left]
  intro entry member
  have present := isSome_iff_exists.mpr ⟨entry.2, mem_sirTunnels_iff.mp member⟩
  rw [readEnd_advanceAll state config now present]

theorem showIpsec_eq_iff {state other : DpdWorld Device} {config : DpdConfig Device}
    (setup : World.SameSetup state.world other.world) (device : Device) :
    state.showIpsec config now device = other.showIpsec config now device ↔
      ∀ tid, (sirTunnel state.world device tid).isSome = true →
        ((state.readEnd device tid).sirDpdStatus (window config device tid) now).shown =
          ((other.readEnd device tid).sirDpdStatus (window config device tid) now).shown := by
  rw [showIpsec_eq, showIpsec_eq, sirTunnels_of_setup setup, map_inj_left]
  constructor
  · intro same tid present
    obtain ⟨tunnel, found⟩ := isSome_iff_exists.mp present
    exact congrArg Prod.snd (same (tid, tunnel) (mem_sirTunnels_iff.mpr found))
  · intro same entry member
    have present := isSome_iff_exists.mpr ⟨entry.2, mem_sirTunnels_iff.mp member⟩
    rw [same entry.1 present]

/-! ## Calls that cannot tell who looked -/

variable (config : DpdConfig Device)

/-- The ends that are given up unnoticed would stay so through a negotiation, had somebody
looked. -/
def LeavesDown (now : ℚ) (negotiate : World Device → World Device) (state : DpdWorld Device) :
    Prop :=
  ∀ device tid, (sirTunnel state.world device tid).isSome = true →
    (state.readEnd device tid).Overdue (window config device tid) now →
    ((negotiate (state.advanceAllSirDpd config now device).world).sa device tid).Down

/-- A call that treats a tunnel that is given up unnoticed like one that somebody has looked
at: a link that goes down does not restart its window, a link that comes up does not save it,
and a negotiation does not bring it up. -/
def Quiet (now : ℚ) : Call Device → DpdWorld Device → Prop
  | .linkDown device localIp, state => ∀ tid tunnel, sirTunnel state.world device tid = some tunnel →
      tunnel.localIp = some localIp →
      (state.readEnd device tid).Overdue (window config device tid) now →
      ¬ ((state.world.sa device tid).status = some .established ∧
        (config.settings device tid).use = true ∧ 0 < window config device tid)
  | .linkUp device localIp, state => ∀ tid tunnel, sirTunnel state.world device tid = some tunnel →
      tunnel.localIp = some localIp →
      (state.readEnd device tid).Overdue (window config device tid) now →
      (state.world.sa device tid).Down
  | .negotiateIpsec device, state =>
    LeavesDown config now (fun world => (world.negotiateIpsec device).1) state
  | .negotiateManualIpsec device, state =>
    LeavesDown config now (fun world => (world.negotiateManualIpsec device).1) state

/-- A world, and the same world if somebody has looked in the meantime. -/
structure AllAhead (now : ℚ) (state other : DpdWorld Device) : Prop where
  setup : World.SameSetup state.world other.world
  peers : ∀ device session, state.world.sessions.lookup device = some session →
    session.deviceType.hasCrypto = true →
      state.world.recordedEnds device = other.world.recordedEnds device
  ends : ∀ device tid, (state.readEnd device tid).Ahead (window config device tid) now
    (other.readEnd device tid)
  others : ∀ device tid, sirTunnel state.world device tid = none →
    SameSa (state.world.sa device tid) (other.world.sa device tid) ∧
      (other.dpd device tid = state.dpd device tid ∨
        (state.readEnd device tid).Settled ∧ (other.readEnd device tid).Settled)

variable {config}

theorem AllAhead.eachTunnel {state other : DpdWorld Device}
    (ahead : AllAhead config now state other) (effect : String → Tunnel → DpdEnd → DpdEnd)
    (device : Device) (keeps : ∀ tid tunnel, sirTunnel state.world device tid = some tunnel →
      (effect tid tunnel (state.readEnd device tid)).Ahead (window config device tid) now
        (effect tid tunnel (other.readEnd device tid))) :
    AllAhead config now (state.eachTunnel effect device) (other.eachTunnel effect device) where
  setup := ((setup_eachTunnel state effect device).symm.trans ahead.setup).trans
    (setup_eachTunnel other effect device)
  peers asked session found crypto := by
    rw [(setup_eachTunnel state effect device).sessions_eq] at found
    have alsoFound := found
    rw [← ahead.setup.sessions_eq] at alsoFound
    rw [recordedEnds_eachTunnel state effect device found crypto,
      recordedEnds_eachTunnel other effect device alsoFound crypto]
    exact ahead.peers asked session found crypto
  ends asked tid := by
    rw [readEnd_eachTunnel, readEnd_eachTunnel, sirTunnel_of_setup ahead.setup]
    split
    · rename_i here
      subst here
      split
      · rename_i tunnel found
        exact keeps tid tunnel found
      · exact ahead.ends asked tid
    · exact ahead.ends asked tid
  others asked tid absent := by
    rw [sirTunnel_of_setup (setup_eachTunnel state effect device)] at absent
    have stateEnd : (state.eachTunnel effect device).readEnd asked tid =
        state.readEnd asked tid := by
      rw [readEnd_eachTunnel]
      split
      · rename_i here
        subst here
        rw [absent]
      · rfl
    have otherEnd : (other.eachTunnel effect device).readEnd asked tid =
        other.readEnd asked tid := by
      rw [readEnd_eachTunnel, sirTunnel_of_setup ahead.setup]
      split
      · rename_i here
        subst here
        rw [absent]
      · rfl
    obtain ⟨sa, dpd⟩ := ahead.others asked tid absent
    have records := DpdEnd.mk.inj stateEnd
    have otherRecords := DpdEnd.mk.inj otherEnd
    rw [stateEnd, otherEnd, records.1, records.2, otherRecords.1, otherRecords.2]
    exact ⟨sa, dpd⟩

theorem AllAhead.look {state other : DpdWorld Device} (ahead : AllAhead config now state other)
    (device : Device) :
    AllAhead config now state (other.advanceAllSirDpd config now device) where
  setup := ahead.setup.trans (setup_eachTunnel other _ device)
  peers asked session found crypto := by
    have alsoFound := found
    rw [← ahead.setup.sessions_eq] at alsoFound
    exact (ahead.peers asked session found crypto).trans
      (recordedEnds_eachTunnel other _ device alsoFound crypto).symm
  ends asked tid := by
    unfold advanceAllSirDpd
    rw [readEnd_eachTunnel]
    split
    · rename_i here
      subst here
      split
      · exact (ahead.ends asked tid).look
      · exact ahead.ends asked tid
    · exact ahead.ends asked tid
  others asked tid absent := by
    have unchanged : (other.advanceAllSirDpd config now device).readEnd asked tid =
        other.readEnd asked tid := by
      unfold advanceAllSirDpd
      rw [readEnd_eachTunnel, sirTunnel_of_setup ahead.setup]
      split
      · rename_i here
        subst here
        rw [absent]
      · rfl
    have records := DpdEnd.mk.inj unchanged
    rw [unchanged, records.1, records.2]
    exact ahead.others asked tid absent

theorem AllAhead.looked (state : DpdWorld Device) (now : ℚ) (device : Device) :
    AllAhead config now state (state.advanceAllSirDpd config now device) :=
  have start : AllAhead config now state state :=
    ⟨.refl _, fun _ _ _ _ => rfl, fun _ _ => .refl _ _ _, fun _ _ _ => ⟨.refl _, .inl rfl⟩⟩
  start.look device

theorem AllAhead.together {state other : DpdWorld Device}
    (ahead : AllAhead config now state other) :
    World.Together state.world other.world state.world other.world :=
  .start ahead.setup ahead.peers

section Negotiation

variable {negotiate : World Device → World Device}
  (course : ∀ {related : World Device → World Device → Prop}, World.Lockstep related →
    ∀ {first second}, related first second → related (negotiate first) (negotiate second))

include course

theorem isSome_sirTunnel_negotiate (world : World Device) (device : Device) (tid : String) :
    (sirTunnel (negotiate world) device tid).isSome = true ↔
      (sirTunnel world device tid).isSome = true := by
  have together := course (World.lockstep_together world world)
    (.start (.refl world) fun _ _ _ _ => rfl)
  rw [isSome_sirTunnel_iff, isSome_sirTunnel_iff, together.outline]

/-- A negotiation keeps a world ahead if it leaves the ends down that are given up
unnoticed. -/
theorem AllAhead.negotiated {state other : DpdWorld Device}
    (ahead : AllAhead config now state other) (quiet : LeavesDown config now negotiate state) :
    AllAhead config now { state with world := negotiate state.world }
      { other with world := negotiate other.world } := by
  have together := course (World.lockstep_together state.world other.world) ahead.together
  have alike : ∀ device tid, SameSa (state.world.sa device tid) (other.world.sa device tid) →
      SameSa ((negotiate state.world).sa device tid) ((negotiate other.world).sa device tid) := by
    intro device tid same
    obtain ⟨status, phase2, ⟨status1, phase1⟩, status2, phase2'⟩ := together.writes device tid
    exact same.write status1 phase1 status2 phase2'
  refine ⟨together.setup, together.peers, fun device tid => ?_, fun device tid absent => ?_⟩
  · cases found : sirTunnel state.world device tid with
    | none =>
      obtain ⟨sa, dpd⟩ := ahead.others device tid found
      exact .alike (alike device tid sa) dpd
    | some tunnel =>
      cases ahead.ends device tid with
      | alike sa dpd => exact .alike (alike device tid sa) dpd
      | givenUp overdue settled down =>
        -- Compare with what the negotiation does after somebody has looked.
        have left := quiet device tid (isSome_iff_exists.mpr ⟨tunnel, found⟩) overdue
        let checked := (state.advanceAllSirDpd config now device).world
        have looked : World.SameSetup state.world checked := setup_eachTunnel state _ device
        have setup : World.SameSetup checked other.world := looked.symm.trans ahead.setup
        have peers : ∀ asked session, checked.sessions.lookup asked = some session →
            session.deviceType.hasCrypto = true →
              checked.recordedEnds asked = other.world.recordedEnds asked := by
          intro asked session known crypto
          rw [looked.sessions_eq] at known
          exact (recordedEnds_eachTunnel state _ device known crypto).trans
            (ahead.peers asked session known crypto)
        obtain ⟨status, phase2, ⟨status1, phase1⟩, status2, phase2'⟩ :=
          (course (World.lockstep_together checked other.world) (.start setup peers)).writes
            device tid
        exact .givenUp overdue settled (down.write left status1 phase1 status2 phase2')
  · have absentBefore : sirTunnel state.world device tid = none := by
      refine not_isSome_iff_eq_none.mp fun present => ?_
      have after := (isSome_sirTunnel_negotiate course state.world device tid).mpr present
      change sirTunnel (negotiate state.world) device tid = none at absent
      simp [absent] at after
    obtain ⟨sa, dpd⟩ := ahead.others device tid absentBefore
    exact ⟨alike device tid sa, dpd⟩

/-- Otherwise the negotiation brings up an end for those only who have looked. -/
theorem negotiate_noticed {state : DpdWorld Device}
    (loud : ¬ LeavesDown config now negotiate state) : ∃ device,
      showIpsec { state with world := negotiate state.world } config now ≠
        showIpsec { state.advanceAllSirDpd config now device with
          world := negotiate (state.advanceAllSirDpd config now device).world } config now := by
  simp only [LeavesDown, not_forall] at loud
  obtain ⟨device, tid, present, overdue, kept⟩ := loud
  refine ⟨device, fun same => kept ?_⟩
  have looked : AllAhead config now state (state.advanceAllSirDpd config now device) :=
    .looked state now device
  have together := course (World.lockstep_together _ _) looked.together
  have shown := (showIpsec_eq_iff together.setup device).mp (congrFun same device) tid
    ((isSome_sirTunnel_negotiate course state.world device tid).mpr present)
  have checked := readEnd_advanceAll state config now present
  have suspect : DpdEnd.Overdue (window config device tid) now
      (readEnd { state with world := negotiate state.world } device tid) := overdue
  have settled : DpdEnd.Settled (readEnd { state.advanceAllSirDpd config now device with
      world := negotiate (state.advanceAllSirDpd config now device).world } device tid) := by
    rw [DpdEnd.sirDpdStatus_of_overdue overdue] at checked
    have state := (DpdEnd.mk.inj checked).2
    unfold DpdEnd.Settled readEnd
    rw [state]
    trivial
  rw [DpdEnd.shown_of_overdue suspect, DpdEnd.sirDpdStatus_of_settled settled] at shown
  exact (DpdEnd.shown_eq_givenUp_iff settled).mp shown.symm

end Negotiation

theorem eachTunnel_noticed {state : DpdWorld Device} (effect : String → Tunnel → DpdEnd → DpdEnd)
    (found : sirTunnel state.world device tid = some tunnel)
    (differs : ((effect tid tunnel (state.readEnd device tid)).sirDpdStatus
        (window config device tid) now).shown ≠
      ((effect tid tunnel ((state.readEnd device tid).sirDpdStatus (window config device tid)
        now)).sirDpdStatus (window config device tid) now).shown) :
    (state.eachTunnel effect device).showIpsec config now ≠
      ((state.advanceAllSirDpd config now device).eachTunnel effect device).showIpsec config
        now := by
  intro same
  have present := isSome_iff_exists.mpr ⟨tunnel, found⟩
  have looked : World.SameSetup state.world (state.advanceAllSirDpd config now device).world :=
    setup_eachTunnel state _ device
  have setup := ((setup_eachTunnel state effect device).symm.trans looked).trans
    (setup_eachTunnel _ effect device)
  have alsoPresent : (sirTunnel (state.eachTunnel effect device).world device tid).isSome = true := by
    rwa [sirTunnel_of_setup (setup_eachTunnel state effect device)]
  have shown := (showIpsec_eq_iff setup device).mp (congrFun same device) tid alsoPresent
  rw [readEnd_eachTunnel, readEnd_eachTunnel, if_pos rfl, if_pos rfl,
    sirTunnel_of_setup looked, found, readEnd_advanceAll state config now present] at shown
  exact differs shown

/-- Who shows tunnels settles what is due, and only calls that are not quiet notice. -/
theorem settles_sirDpd : (machine config).Settles (AllAhead config) (Quiet config) where
  refl _ _ := ⟨.refl _, fun _ _ _ _ => rfl, fun _ _ => .refl _ _ _, fun _ _ _ => ⟨.refl _, .inl rfl⟩⟩
  later later ahead := ⟨ahead.setup, ahead.peers, fun device tid => (ahead.ends device tid).later later,
    ahead.others⟩
  look ahead := ahead.look _
  call := by
    intro now call state other ahead quiet
    cases call with
    | linkDown device localIp =>
      exact ahead.eachTunnel _ device fun tid tunnel found =>
        (ahead.ends device tid).sirLinkDown (quiet tid tunnel found)
    | linkUp device localIp =>
      exact ahead.eachTunnel _ device fun tid tunnel found =>
        (ahead.ends device tid).sirLinkUp (quiet tid tunnel found)
    | negotiateIpsec device =>
      exact ahead.negotiated (fun lockstep _ _ kept => lockstep.negotiateIpsec kept device) quiet
    | negotiateManualIpsec device =>
      exact ahead.negotiated (fun lockstep _ _ kept => lockstep.negotiateManualIpsec kept device)
        quiet
  report ahead := funext fun device => (showIpsec_eq_iff ahead.setup device).mpr fun tid _ =>
    (ahead.ends device tid).shown_eq
  loud := by
    intro now call state loud
    cases call with
    | linkDown device localIp =>
      simp only [Quiet, not_forall, not_not] at loud
      obtain ⟨tid, tunnel, found, here, overdue, up, use, long⟩ := loud
      exact ⟨device, eachTunnel_noticed
        (fun tid => DpdEnd.sirLinkDown now localIp (config.settings device tid)) found
        (DpdEnd.sirLinkDown_noticed here overdue up use long)⟩
    | linkUp device localIp =>
      simp only [Quiet, not_forall] at loud
      obtain ⟨tid, tunnel, found, here, overdue, kept⟩ := loud
      exact ⟨device, eachTunnel_noticed (fun _ => DpdEnd.sirLinkUp localIp) found
        (DpdEnd.sirLinkUp_noticed here overdue kept)⟩
    | negotiateIpsec device =>
      exact negotiate_noticed (fun lockstep _ _ kept => lockstep.negotiateIpsec kept device) loud
    | negotiateManualIpsec device =>
      exact negotiate_noticed
        (fun lockstep _ _ kept => lockstep.negotiateManualIpsec kept device) loud

/-- Reports do not depend on who looked before exactly if every call is quiet when nobody
looks. -/
theorem sirDpd_observationFree_iff {start stop : ℚ} {state : DpdWorld Device}
    {schedule : List (ℚ × Call Device)} (ordered : InOrder start schedule stop) :
    (machine config).ObservationFree start state schedule ↔
      Along (machine config).callAt (fun state event => Quiet config event.1 event.2 state)
        state schedule :=
  settles_sirDpd.observationFree_iff ordered

/-! ## An outage -/

def oneTunnel : DpdWorld Nat where
  world :=
    { sessions := OrderedMap.empty.insert 0
        { deviceType := .sir
          tunnels := OrderedMap.empty.insert "1"
            { localIp := some "10.0.0.1", remoteIp := some "10.0.0.2" } }
      neighbors := fun _ => []
      textHash := fun _ => 0
      sas := OrderedMap.empty.insert (0, "1")
        { status := some .established, phase1 := some .mature, phase2 := some .mature } }
  dpd _ _ := none

/-- Detection is on, with a window of 13 seconds. -/
def detectionOn : DpdConfig Nat where
  fast := false
  settings _ _ := { use := true }

/-- The link of the tunnel is down for some seconds. -/
def outage (sec : ℚ) : List (ℚ × Call Nat) :=
  [(0, .linkDown 0 "10.0.0.1"), (sec, .linkUp 0 "10.0.0.1")]

/-- An outage of 20 seconds brings the tunnel down if somebody looks after 15 seconds, and
leaves it established if nobody does. -/
theorem outage_noticed : ¬ (machine detectionOn).ObservationFree 0 oneTunnel (outage 20) ∧
    ((machine detectionOn).report 20
      (runFrom (machine detectionOn).callAt oneTunnel (outage 20))) 0 =
        [("1", ⟨.mature, .established, .established⟩)] := by
  refine ⟨fun free => ?_, by decide +kernel⟩
  have same := free 20
    [(0, .call (.linkDown 0 "10.0.0.1")), (20, .call (.linkUp 0 "10.0.0.1"))]
    [(0, .call (.linkDown 0 "10.0.0.1")), (15, .look 0), (20, .call (.linkUp 0 "10.0.0.1"))]
    (prefix_refl _) rfl (by decide +kernel) (by decide +kernel)
  have shown := congrFun same 0
  revert shown
  decide +kernel

/-- While the window has not passed, it makes no difference who looked. -/
theorem outage_unnoticed : (machine detectionOn).ObservationFree 0 oneTunnel (outage 5) := by
  have ordered : InOrder 0 (outage 5) 5 := by decide +kernel
  refine (sirDpd_observationFree_iff ordered).mpr ⟨?_, ?_, trivial⟩
  · intro tid tunnel _ _ overdue
    exact overdue.elim
  · intro tid tunnel found _ overdue
    have listed := mem_sirTunnels_iff.mpr found
    revert overdue
    have only : sirTunnels (runFrom (machine detectionOn).callAt oneTunnel
        [(0, .linkDown 0 "10.0.0.1")]).world 0 =
          [("1", { localIp := some "10.0.0.1", remoteIp := some "10.0.0.2" })] := by
      decide +kernel
    change (tid, tunnel) ∈ sirTunnels (runFrom (machine detectionOn).callAt oneTunnel
      [(0, .linkDown 0 "10.0.0.1")]).world 0 at listed
    rw [only, mem_singleton] at listed
    cases listed
    decide +kernel

end DpdWorld

end NetLab.Ike
