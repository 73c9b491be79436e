import NetLab.Library.OrderedMap
import NetLab.Library.Polling
import Mathlib.Data.Rat.Floor
import Mathlib.Tactic.Linarith

/-!
# IPsec tunnels and dead-peer detection

A tunnel negotiates for a while before it is up and is taken for dead some time after it was
cleared. Both changes are made when somebody asks for the state of the tunnel.
`reports_observationFree_iff` says on which schedules of calls it cannot be noticed who asked
and when. Times are rational numbers of seconds.
-/

namespace NetLab.Icmp

open List

open NetLab.Library NetLab.Library.Polling NetLab.Execution

variable {now : ℚ} {tunnel other : IpsecTunnel}

inductive TunnelState where
  | negotiating
  | established
  | detecting
  | down
deriving DecidableEq

/-- A positive number of seconds. -/
abbrev Seconds := { sec : ℚ // 0 < sec }

/-- A tunnel, the time of its last change of state, and its own timers. -/
structure IpsecTunnel where
  localIp : String
  peerIp : String
  state : TunnelState
  since : ℚ
  detectSec : Seconds
  negoSec : Seconds

/-- Seconds from clearing a tunnel until it is down, unless given. `fast` is set in tests. -/
def dpdDetectSec (fast : Bool) : Seconds := if fast then ⟨3, by decide⟩ else ⟨30, by decide⟩

/-- Seconds from registering a tunnel until it is up, unless given. -/
def ikeNegoSec (fast : Bool) : Seconds := if fast then ⟨1, by decide⟩ else ⟨3, by decide⟩

/-- A configured time, shortened in tests, and not below a least one. -/
def configured (fast : Bool) (least : Seconds) (sec : ℚ) : Seconds :=
  ⟨max least.1 (sec / if fast then 10 else 1), lt_max_of_lt_left least.2⟩

namespace IpsecTunnel

/-- The tunnel is registered under these two addresses. -/
def named (localIp peerIp : String) (tunnel : IpsecTunnel) : Bool :=
  tunnel.localIp == localIp && tunnel.peerIp == peerIp

/-- Register a tunnel again: it takes over the timers that are given, and negotiates anew
unless it is up. -/
def renew (now : ℚ) (detectSec negoSec : Option Seconds) (tunnel : IpsecTunnel) : IpsecTunnel :=
  let timed :=
    { tunnel with
      detectSec := detectSec.getD tunnel.detectSec
      negoSec := negoSec.getD tunnel.negoSec }
  if timed.state ≠ .established then
    { timed with
      state := .negotiating
      since := now }
  else timed

/-- A tunnel that is up becomes suspect when it is cleared, one that negotiates goes down. -/
def clear (now : ℚ) (tunnel : IpsecTunnel) : IpsecTunnel :=
  if tunnel.state = .established then
    { tunnel with
      state := .detecting
      since := now }
  else if tunnel.state = .negotiating then
    { tunnel with
      state := .down
      since := now }
  else tunnel

/-- Make the change that is due. -/
def advanceDpd (now : ℚ) (tunnel : IpsecTunnel) : IpsecTunnel :=
  let elapsed := now - tunnel.since
  if tunnel.state = .detecting ∧ tunnel.detectSec.1 ≤ elapsed then
    { tunnel with
      state := .down
      since := now }
  else if tunnel.state = .negotiating ∧ tunnel.negoSec.1 ≤ elapsed then
    { tunnel with
      state := .established
      since := now }
  else tunnel

end IpsecTunnel

/-- Renew the first tunnel between two addresses, or add one. -/
def registerIn (now : ℚ) (localIp peerIp : String) (detectSec negoSec : Option Seconds)
    (fresh : IpsecTunnel) : List IpsecTunnel → List IpsecTunnel
  | [] => [fresh]
  | tunnel :: rest =>
    if tunnel.named localIp peerIp then tunnel.renew now detectSec negoSec :: rest
    else tunnel :: registerIn now localIp peerIp detectSec negoSec fresh rest

/-- Look for an established tunnel to one of some addresses. The tunnels behind it are not
looked at. -/
def searchTunnel (now : ℚ) (peerIps : List String) : List IpsecTunnel → Bool × List IpsecTunnel
  | [] => (false, [])
  | tunnel :: rest =>
    let advanced := tunnel.advanceDpd now
    if advanced.state = .established ∧ advanced.peerIp ∈ peerIps then (true, advanced :: rest)
    else
      let later := searchTunnel now peerIps rest
      (later.1, advanced :: later.2)

/-- What is shown beside a state; seconds remain until the next one. -/
inductive SaLabel where
  | established
  | detecting (remain : ℚ)
  | negotiating (remain : ℚ)
  | down
deriving DecidableEq

/-- One line of `show crypto ipsec sa`. -/
structure SaStatus where
  localIp : String
  peerIp : String
  state : TunnelState
  label : SaLabel
  elapsed : Int
deriving DecidableEq

/-- Whole seconds, towards zero. -/
def wholeSeconds (sec : ℚ) : Int := if 0 ≤ sec then ⌊sec⌋ else ⌈sec⌉

/-- The line of a tunnel whose due change has been made. The time that negotiation still takes
is reckoned with the common timer. -/
def IpsecTunnel.status (fast : Bool) (now : ℚ) (tunnel : IpsecTunnel) : SaStatus :=
  let elapsed := wholeSeconds (now - tunnel.since)
  { localIp := tunnel.localIp
    peerIp := tunnel.peerIp
    state := tunnel.state
    label :=
      match tunnel.state with
      | .established => .established
      | .detecting => .detecting (max 0 (tunnel.detectSec.1 - elapsed))
      | .negotiating => .negotiating (max 0 ((ikeNegoSec fast).1 - elapsed))
      | .down => .down
    elapsed }

/-! ## One tunnel -/

namespace IpsecTunnel

/-- The tunnel is up for whoever asks, although nobody has asked yet. -/
def DueUp (now : ℚ) (tunnel : IpsecTunnel) : Prop :=
  tunnel.state = .negotiating ∧ tunnel.negoSec.1 ≤ now - tunnel.since

/-- The tunnel is down for whoever asks, although nobody has asked yet. -/
def DueDown (now : ℚ) (tunnel : IpsecTunnel) : Prop :=
  tunnel.state = .detecting ∧ tunnel.detectSec.1 ≤ now - tunnel.since

instance (now : ℚ) (tunnel : IpsecTunnel) : Decidable (tunnel.DueUp now) :=
  inferInstanceAs (Decidable (_ ∧ _))

/-- A tunnel, and the same tunnel if somebody has asked in the meantime. -/
inductive Ahead (now : ℚ) (tunnel : IpsecTunnel) : IpsecTunnel → Prop
  | same : Ahead now tunnel tunnel
  | up (since : ℚ) (due : tunnel.DueUp now) :
      Ahead now tunnel { tunnel with
        state := .established
        since := since }
  | down (since : ℚ) (due : tunnel.DueDown now) :
      Ahead now tunnel { tunnel with
        state := .down
        since := since }

/-- What is due stays due. -/
theorem Ahead.later {now next : ℚ} (later : now ≤ next) (ahead : Ahead now tunnel other) :
    Ahead next tunnel other := by
  cases ahead with
  | same => exact .same
  | up since due => exact .up since ⟨due.1, by linarith [due.2]⟩
  | down since due => exact .down since ⟨due.1, by linarith [due.2]⟩

theorem advanceDpd_of_dueDown {tunnel : IpsecTunnel} (due : tunnel.DueDown now) :
    tunnel.advanceDpd now = { tunnel with
      state := .down
      since := now } :=
  if_pos due

theorem advanceDpd_of_dueUp {tunnel : IpsecTunnel} (due : tunnel.DueUp now) :
    tunnel.advanceDpd now = { tunnel with
      state := .established
      since := now } :=
  (if_neg (by simp [due.1])).trans (if_pos due)

theorem advanceDpd_of_not_due {tunnel : IpsecTunnel} (up : ¬ tunnel.DueUp now)
    (down : ¬ tunnel.DueDown now) : tunnel.advanceDpd now = tunnel :=
  (if_neg down).trans (if_neg up)

theorem advanceDpd_of_settled (tunnel : IpsecTunnel)
    (settled : tunnel.state = .established ∨ tunnel.state = .down) :
    tunnel.advanceDpd now = tunnel := by
  refine advanceDpd_of_not_due ?_ ?_ <;> rintro ⟨state, -⟩ <;> rcases settled with up | down <;>
    simp_all

section

variable (ahead : Ahead now tunnel other)
include ahead

theorem Ahead.advanceDpd : Ahead now tunnel (other.advanceDpd now) := by
  cases ahead with
  | same =>
    by_cases up : tunnel.DueUp now
    · rw [advanceDpd_of_dueUp up]
      exact .up now up
    · by_cases down : tunnel.DueDown now
      · rw [advanceDpd_of_dueDown down]
        exact .down now down
      · rw [advanceDpd_of_not_due up down]
        exact .same
  | up since due =>
    rw [advanceDpd_of_settled _ (.inl rfl)]
    exact .up since due
  | down since due =>
    rw [advanceDpd_of_settled _ (.inr rfl)]
    exact .down since due

/-- What is shown of a tunnel but for times. -/
def view (tunnel : IpsecTunnel) : String × String × TunnelState :=
  (tunnel.localIp, tunnel.peerIp, tunnel.state)

theorem Ahead.view_eq : (tunnel.advanceDpd now).view = (other.advanceDpd now).view := by
  cases ahead with
  | same => rfl
  | up since due =>
    let other : IpsecTunnel :=
      { tunnel with
        state := .established
        since := since }
    rw [advanceDpd_of_settled other (.inl rfl), advanceDpd_of_dueUp due]
    rfl
  | down since due =>
    let other : IpsecTunnel :=
      { tunnel with
        state := .down
        since := since }
    rw [advanceDpd_of_settled other (.inr rfl), advanceDpd_of_dueDown due]
    rfl

theorem Ahead.named_eq (localIp peerIp : String) :
    other.named localIp peerIp = tunnel.named localIp peerIp := by
  cases ahead <;> rfl

theorem Ahead.renew (quiet : ¬ tunnel.DueUp now) (detectSec negoSec : Option Seconds) :
    Ahead now (tunnel.renew now detectSec negoSec) (other.renew now detectSec negoSec) := by
  cases ahead with
  | same => exact .same
  | up since due => exact absurd due quiet
  | down since due =>
    have same : IpsecTunnel.renew now detectSec negoSec { tunnel with
        state := .down
        since := since } = tunnel.renew now detectSec negoSec := by
      simp [IpsecTunnel.renew, due.1]
    rw [same]
    exact .same

theorem Ahead.clear (quiet : ¬ tunnel.DueUp now) :
    Ahead now (tunnel.clear now) (other.clear now) := by
  cases ahead with
  | same => exact .same
  | up since due => exact absurd due quiet
  | down since due =>
    have kept : tunnel.clear now = tunnel := by simp [IpsecTunnel.clear, due.1]
    rw [kept]
    exact .down since due

end

theorem state_clear (now : ℚ) (tunnel : IpsecTunnel) :
    (tunnel.clear now).state = .detecting ∨ (tunnel.clear now).state = .down := by
  unfold clear
  split
  · exact .inl rfl
  · split
    · exact .inr rfl
    · cases state : tunnel.state <;> simp_all

/-- A tunnel that is up unnoticed negotiates anew, unless somebody asked. -/
theorem renew_of_dueUp {tunnel : IpsecTunnel} (due : tunnel.DueUp now)
    (detectSec negoSec : Option Seconds) :
    ((tunnel.renew now detectSec negoSec).advanceDpd now).view ≠
      (((tunnel.advanceDpd now).renew now detectSec negoSec).advanceDpd now).view := by
  have fresh : (tunnel.renew now detectSec negoSec).advanceDpd now =
      tunnel.renew now detectSec negoSec := by
    refine advanceDpd_of_not_due ?_ ?_
    · rintro ⟨-, passed⟩
      have positive := (negoSec.getD tunnel.negoSec).2
      simp only [renew, due.1, ne_eq, reduceCtorEq, not_false_eq_true, if_true, sub_self] at passed
      exact absurd passed (not_le.mpr positive)
    · rintro ⟨state, -⟩
      simp [renew, due.1] at state
  rw [fresh, advanceDpd_of_dueUp due]
  simp [renew, due.1, advanceDpd, view]

/-- A tunnel that is up unnoticed goes down at once when it is cleared, unless somebody
asked. -/
theorem clear_of_dueUp {tunnel : IpsecTunnel} (due : tunnel.DueUp now) :
    ((tunnel.clear now).advanceDpd now).view ≠
      (((tunnel.advanceDpd now).clear now).advanceDpd now).view := by
  have positive := tunnel.detectSec.2
  rw [advanceDpd_of_dueUp due]
  simp [clear, due.1, advanceDpd, view, not_le.mpr positive]

end IpsecTunnel

section Table

variable {Device : Type} [DecidableEq Device]

abbrev IpsecTunnels (Device : Type) := OrderedMap Device (List IpsecTunnel)

def tunnelsOf (tunnels : IpsecTunnels Device) (device : Device) : List IpsecTunnel :=
  (tunnels.lookup device).getD []

def registerIpsec (fast : Bool) (now : ℚ) (device : Device) (localIp peerIp : String)
    (detectSec negoSec : Option ℚ) (tunnels : IpsecTunnels Device) : IpsecTunnels Device :=
  let detectSec := detectSec.map (configured fast ⟨1, by decide⟩)
  let negoSec := negoSec.map (configured fast ⟨1 / 2, by norm_num⟩)
  let fresh : IpsecTunnel :=
    { localIp, peerIp, state := .negotiating, since := now
      detectSec := detectSec.getD (dpdDetectSec fast)
      negoSec := negoSec.getD (ikeNegoSec fast) }
  tunnels.insert device
    (registerIn now localIp peerIp detectSec negoSec fresh (tunnelsOf tunnels device))

def clearIpsec (now : ℚ) (device : Device) (tunnels : IpsecTunnels Device) : IpsecTunnels Device :=
  let kept := ((tunnelsOf tunnels device).map (IpsecTunnel.clear now)).filter fun tunnel =>
    tunnel.state == .detecting || tunnel.state == .down
  if kept.isEmpty then tunnels.erase device else tunnels.insert device kept

/-- Whether an established tunnel leads from one device to another. -/
def hasIpsecTo (peerIps : Device → List String) (now : ℚ) (device next : Device)
    (tunnels : IpsecTunnels Device) : Bool × IpsecTunnels Device :=
  ((searchTunnel now (peerIps next) (tunnelsOf tunnels device)).1,
    tunnels.modify device fun own => (searchTunnel now (peerIps next) own).2)

def getIpsecSaStatus (fast : Bool) (now : ℚ) (device : Device) (tunnels : IpsecTunnels Device) :
    List SaStatus × IpsecTunnels Device :=
  let advanced := (tunnelsOf tunnels device).map (IpsecTunnel.advanceDpd now)
  (advanced.map (IpsecTunnel.status fast now),
    tunnels.modify device fun own => own.map (IpsecTunnel.advanceDpd now))

inductive IpsecCall (Device : Type) where
  | registerIpsec (device : Device) (localIp peerIp : String) (detectSec negoSec : Option ℚ)
  | clearIpsec (device : Device)

inductive IpsecLook (Device : Type) where
  | hasIpsecTo (device next : Device)
  | getIpsecSaStatus (device : Device)

/-- The tunnels of each device with their states, and between which devices one is up. -/
structure IpsecReport (Device : Type) where
  states : Device → List (String × String × TunnelState)
  tunneled : Device → Device → Bool

def ipsecMachine (fast : Bool) (peerIps : Device → List String) :
    Machine ℚ (IpsecTunnels Device) (IpsecCall Device) (IpsecLook Device) (IpsecReport Device) where
  call now call tunnels :=
    match call with
    | .registerIpsec device localIp peerIp detectSec negoSec =>
      registerIpsec fast now device localIp peerIp detectSec negoSec tunnels
    | .clearIpsec device => clearIpsec now device tunnels
  look now look tunnels :=
    match look with
    | .hasIpsecTo device next => (hasIpsecTo peerIps now device next tunnels).2
    | .getIpsecSaStatus device => (getIpsecSaStatus fast now device tunnels).2
  report now tunnels :=
    { states := fun device => (getIpsecSaStatus fast now device tunnels).1.map fun status =>
        (status.localIp, status.peerIp, status.state)
      tunneled := fun device next => (hasIpsecTo peerIps now device next tunnels).1 }

/-! ## All tunnels -/

/-- A call that meets no tunnel of its own that is up unnoticed: registration meets the first
tunnel between its addresses, clearing meets all tunnels of the device. -/
def Quiet (now : ℚ) (call : IpsecCall Device) (tunnels : IpsecTunnels Device) : Prop :=
  match call with
  | .registerIpsec device localIp peerIp _ _ =>
    ∀ tunnel, (tunnelsOf tunnels device).find? (IpsecTunnel.named localIp peerIp) = some tunnel →
      ¬ tunnel.DueUp now
  | .clearIpsec device => ∀ tunnel ∈ tunnelsOf tunnels device, ¬ tunnel.DueUp now

/-- Tunnels that may have been asked for in the meantime. -/
def AllAhead (now : ℚ) (tunnels other : IpsecTunnels Device) : Prop :=
  ∀ device, List.Forall₂ (IpsecTunnel.Ahead now) (tunnelsOf tunnels device) (tunnelsOf other device)

omit [DecidableEq Device] in
theorem forall₂_advanceDpd {own other : List IpsecTunnel}
    (ahead : List.Forall₂ (IpsecTunnel.Ahead now) own other) :
    List.Forall₂ (IpsecTunnel.Ahead now) own (other.map (IpsecTunnel.advanceDpd now)) := by
  induction ahead with
  | nil => exact .nil
  | cons first _ ih => exact .cons first.advanceDpd ih

theorem forall₂_searchTunnel {peerIps : List String} {own other : List IpsecTunnel}
    (ahead : List.Forall₂ (IpsecTunnel.Ahead now) own other) :
    List.Forall₂ (IpsecTunnel.Ahead now) own (searchTunnel now peerIps other).2 := by
  induction ahead with
  | nil => exact .nil
  | cons first rest ih =>
    simp only [searchTunnel]
    split
    · exact .cons first.advanceDpd rest
    · exact .cons first.advanceDpd ih

theorem searchTunnel_fst (now : ℚ) (peerIps : List String) (own : List IpsecTunnel) :
    (searchTunnel now peerIps own).1 =
      (own.map fun tunnel => (tunnel.advanceDpd now).view).any fun view =>
        decide (view.2.2 = .established ∧ view.2.1 ∈ peerIps) := by
  induction own with
  | nil => rfl
  | cons tunnel rest ih =>
    simp only [searchTunnel, map_cons, any_cons, ← ih]
    split
    · rename_i found
      simp [IpsecTunnel.view, found]
    · rename_i missed
      have unmet : decide ((tunnel.advanceDpd now).view.2.2 = .established ∧
          (tunnel.advanceDpd now).view.2.1 ∈ peerIps) = false := decide_eq_false missed
      rw [unmet, Bool.false_or]

theorem map_view_eq {own other : List IpsecTunnel}
    (ahead : List.Forall₂ (IpsecTunnel.Ahead now) own other) :
    own.map (fun tunnel => (tunnel.advanceDpd now).view) =
      other.map fun tunnel => (tunnel.advanceDpd now).view := by
  induction ahead with
  | nil => rfl
  | cons first _ ih => rw [map_cons, map_cons, first.view_eq, ih]

theorem forall₂_registerIn {localIp peerIp : String} {detectSec negoSec : Option Seconds}
    {fresh : IpsecTunnel} {own other : List IpsecTunnel}
    (ahead : List.Forall₂ (IpsecTunnel.Ahead now) own other)
    (quiet : ∀ tunnel, own.find? (IpsecTunnel.named localIp peerIp) = some tunnel →
      ¬ tunnel.DueUp now) :
    List.Forall₂ (IpsecTunnel.Ahead now) (registerIn now localIp peerIp detectSec negoSec fresh own)
      (registerIn now localIp peerIp detectSec negoSec fresh other) := by
  induction ahead with
  | nil => exact .cons .same .nil
  | @cons tunnel asked rest askedRest first later ih =>
    simp only [registerIn, first.named_eq]
    by_cases found : tunnel.named localIp peerIp = true
    · rw [if_pos found, if_pos found]
      exact .cons (first.renew (quiet tunnel (find?_cons_of_pos found)) _ _) later
    · rw [if_neg found, if_neg found]
      refine .cons first (ih fun other hit => quiet other ?_)
      rwa [find?_cons_of_neg found]

theorem forall₂_clear {own other : List IpsecTunnel}
    (ahead : List.Forall₂ (IpsecTunnel.Ahead now) own other)
    (quiet : ∀ tunnel ∈ own, ¬ tunnel.DueUp now) :
    List.Forall₂ (IpsecTunnel.Ahead now) (own.map (IpsecTunnel.clear now))
      (other.map (IpsecTunnel.clear now)) := by
  induction ahead with
  | nil => exact .nil
  | cons first _ ih =>
    exact .cons (first.clear (quiet _ mem_cons_self))
      (ih fun tunnel member => quiet tunnel (mem_cons_of_mem _ member))

theorem registerIn_noticed {localIp peerIp : String} {detectSec negoSec : Option Seconds}
    {fresh : IpsecTunnel} {own : List IpsecTunnel} {tunnel : IpsecTunnel}
    (found : own.find? (IpsecTunnel.named localIp peerIp) = some tunnel) (due : tunnel.DueUp now) :
    (registerIn now localIp peerIp detectSec negoSec fresh own).map
        (fun tunnel => (tunnel.advanceDpd now).view) ≠
      (registerIn now localIp peerIp detectSec negoSec fresh
        (own.map (IpsecTunnel.advanceDpd now))).map fun tunnel => (tunnel.advanceDpd now).view := by
  induction own with
  | nil => cases found
  | cons first rest ih =>
    have sameName : (first.advanceDpd now).named localIp peerIp = first.named localIp peerIp :=
      (IpsecTunnel.Ahead.advanceDpd .same).named_eq localIp peerIp
    simp only [registerIn, map_cons, sameName]
    intro same
    by_cases here : first.named localIp peerIp = true
    · rw [find?_cons_of_pos here, Option.some_inj] at found
      subst found
      rw [if_pos here, if_pos here] at same
      exact IpsecTunnel.renew_of_dueUp due detectSec negoSec (cons_eq_cons.mp same).1
    · rw [find?_cons_of_neg here] at found
      rw [if_neg here, if_neg here] at same
      exact ih found (cons_eq_cons.mp same).2

/-! ## The calls and looks of the engine -/

theorem tunnelsOf_insert (tunnels : IpsecTunnels Device) (device other : Device)
    (own : List IpsecTunnel) :
    tunnelsOf (tunnels.insert device own) other =
      if other = device then own else tunnelsOf tunnels other := by
  unfold tunnelsOf
  rw [OrderedMap.lookup_insert]
  split <;> rfl

theorem tunnelsOf_modify (tunnels : IpsecTunnels Device) (device other : Device)
    (update : List IpsecTunnel → List IpsecTunnel) (none : update [] = []) :
    tunnelsOf (tunnels.modify device update) other =
      if other = device then update (tunnelsOf tunnels other) else tunnelsOf tunnels other := by
  unfold tunnelsOf
  rw [OrderedMap.lookup_modify]
  split
  · cases tunnels.lookup other with
    | none => exact none.symm
    | some own => rfl
  · rfl

theorem tunnelsOf_clearIpsec (now : ℚ) (device other : Device) (tunnels : IpsecTunnels Device) :
    tunnelsOf (clearIpsec now device tunnels) other =
      if other = device then (tunnelsOf tunnels other).map (IpsecTunnel.clear now)
      else tunnelsOf tunnels other := by
  have all : ((tunnelsOf tunnels device).map (IpsecTunnel.clear now)).filter (fun tunnel =>
      tunnel.state == .detecting || tunnel.state == .down) =
        (tunnelsOf tunnels device).map (IpsecTunnel.clear now) := by
    rw [filter_eq_self]
    intro tunnel member
    obtain ⟨before, -, rfl⟩ := mem_map.mp member
    rcases before.state_clear now with state | state <;> simp [state]
  simp only [clearIpsec, all]
  split
  · rename_i empty
    unfold tunnelsOf at empty ⊢
    rw [OrderedMap.lookup_erase]
    by_cases here : other = device
    · subst here
      rw [if_pos rfl, if_pos rfl]
      exact (isEmpty_iff.mp empty).symm
    · rw [if_neg here, if_neg here]
  · rw [tunnelsOf_insert]
    split
    · rename_i here
      rw [here]
    · rfl

variable {fast : Bool} {peerIps : Device → List String}

theorem report_eq_iff {tunnels other : IpsecTunnels Device} :
    (ipsecMachine fast peerIps).report now tunnels = (ipsecMachine fast peerIps).report now other ↔
      ∀ device, (tunnelsOf tunnels device).map (fun tunnel => (tunnel.advanceDpd now).view) =
        (tunnelsOf other device).map fun tunnel => (tunnel.advanceDpd now).view := by
  have states : ∀ (tunnels : IpsecTunnels Device) (device : Device),
      ((ipsecMachine fast peerIps).report now tunnels).states device =
        (tunnelsOf tunnels device).map fun tunnel => (tunnel.advanceDpd now).view := by
    intro tunnels device
    simp only [ipsecMachine, getIpsecSaStatus, map_map]
    rfl
  constructor
  · intro same device
    rw [← states, ← states, same]
  · intro same
    have tunneled : ((ipsecMachine fast peerIps).report now tunnels).tunneled =
        ((ipsecMachine fast peerIps).report now other).tunneled := by
      funext device next
      simp only [ipsecMachine, hasIpsecTo, searchTunnel_fst, same]
    have shown : ((ipsecMachine fast peerIps).report now tunnels).states =
        ((ipsecMachine fast peerIps).report now other).states := by
      funext device
      rw [states, states, same]
    exact (congrArg₂ IpsecReport.mk shown tunneled :)

/-- Who asks for tunnels settles what is due, and only calls that are not quiet notice. -/
theorem settles_ipsec : (ipsecMachine fast peerIps).Settles AllAhead Quiet where
  refl _ _ _ := forall₂_same.mpr fun _ _ => .same
  later later ahead device := (ahead device).imp fun _ _ ahead => ahead.later later
  look := by
    intro now look tunnels other ahead device
    cases look with
    | hasIpsecTo asked next =>
      change List.Forall₂ _ _ (tunnelsOf (other.modify asked _) device)
      rw [tunnelsOf_modify _ _ _ _ rfl]
      split
      · exact forall₂_searchTunnel (ahead device)
      · exact ahead device
    | getIpsecSaStatus asked =>
      change List.Forall₂ _ _ (tunnelsOf (other.modify asked _) device)
      rw [tunnelsOf_modify _ _ _ _ rfl]
      split
      · exact forall₂_advanceDpd (ahead device)
      · exact ahead device
  call := by
    intro now call tunnels other ahead quiet device
    cases call with
    | registerIpsec own localIp peerIp detectSec negoSec =>
      change List.Forall₂ _ (tunnelsOf (tunnels.insert own _) device)
        (tunnelsOf (other.insert own _) device)
      rw [tunnelsOf_insert, tunnelsOf_insert]
      split
      · exact forall₂_registerIn (ahead own) quiet
      · exact ahead device
    | clearIpsec own =>
      change List.Forall₂ _ (tunnelsOf (clearIpsec now own tunnels) device)
        (tunnelsOf (clearIpsec now own other) device)
      rw [tunnelsOf_clearIpsec, tunnelsOf_clearIpsec]
      split
      · rename_i here
        subst here
        exact forall₂_clear (ahead device) quiet
      · exact ahead device
  report ahead := report_eq_iff.mpr fun device => map_view_eq (ahead device)
  loud := by
    intro now call tunnels loud
    cases call with
    | registerIpsec own localIp peerIp detectSec negoSec =>
      simp only [Quiet, not_forall, not_not] at loud
      obtain ⟨tunnel, found, due⟩ := loud
      refine ⟨.getIpsecSaStatus own, fun same => ?_⟩
      have shown := report_eq_iff.mp same own
      change (tunnelsOf (tunnels.insert own _) own).map _ =
        (tunnelsOf (OrderedMap.insert _ own _) own).map _ at shown
      rw [tunnelsOf_insert, tunnelsOf_insert, if_pos rfl, if_pos rfl] at shown
      change _ = (registerIn now localIp peerIp _ _ _
        (tunnelsOf (tunnels.modify own _) own)).map _ at shown
      rw [tunnelsOf_modify _ _ _ _ rfl, if_pos rfl] at shown
      exact registerIn_noticed found due shown
    | clearIpsec own =>
      simp only [Quiet, not_forall, not_not] at loud
      obtain ⟨tunnel, member, due⟩ := loud
      refine ⟨.getIpsecSaStatus own, fun same => ?_⟩
      have shown := report_eq_iff.mp same own
      change (tunnelsOf (clearIpsec now own tunnels) own).map _ =
        (tunnelsOf (clearIpsec now own (tunnels.modify own _)) own).map _ at shown
      rw [tunnelsOf_clearIpsec, tunnelsOf_clearIpsec, if_pos rfl, if_pos rfl,
        tunnelsOf_modify _ _ _ _ rfl, if_pos rfl, map_map, map_map, map_map,
        map_inj_left] at shown
      exact IpsecTunnel.clear_of_dueUp due (shown tunnel member)

/-- Reports do not depend on who asked before exactly if every call is quiet when nobody
asks. -/
theorem reports_observationFree_iff {start stop : ℚ} {tunnels : IpsecTunnels Device}
    {schedule : List (ℚ × IpsecCall Device)} (ordered : InOrder start schedule stop) :
    (ipsecMachine fast peerIps).ObservationFree start tunnels schedule ↔
      Along (ipsecMachine fast peerIps).callAt (fun tunnels event => Quiet event.1 event.2 tunnels)
        tunnels schedule :=
  settles_ipsec.observationFree_iff ordered

/-- A tunnel that is registered and cleared some seconds later. -/
def clearedAfter (sec : ℚ) : List (ℚ × IpsecCall Nat) :=
  [(0, .registerIpsec 0 "10.0.0.1" "10.0.0.2" none none), (sec, .clearIpsec 0)]

/-- If nobody asked for the tunnel before it was cleared, it is down at once; otherwise it is
suspect first. -/
theorem clearedAfter_noticed :
    ¬ (ipsecMachine false fun _ => []).ObservationFree 0 .empty (clearedAfter 5) := by
  intro free
  have same := free 5
    [(0, .call (.registerIpsec 0 "10.0.0.1" "10.0.0.2" none none)), (5, .call (.clearIpsec 0))]
    [(0, .call (.registerIpsec 0 "10.0.0.1" "10.0.0.2" none none)),
      (4, .look (.getIpsecSaStatus 0)), (5, .call (.clearIpsec 0))]
    (prefix_refl _) rfl (by decide +kernel) (by decide +kernel)
  have states := congrFun (congrArg IpsecReport.states same) 0
  revert states
  decide +kernel

/-- While the tunnel still negotiates, it makes no difference who asked. -/
theorem clearedAfter_unnoticed :
    (ipsecMachine false fun _ => []).ObservationFree 0 .empty (clearedAfter 2) := by
  have ordered : InOrder 0 (clearedAfter 2) 2 := by decide +kernel
  refine (reports_observationFree_iff ordered).mpr ⟨?_, ?_, trivial⟩
  · intro tunnel found
    cases found
  · intro tunnel member
    revert tunnel
    decide +kernel

end Table

end NetLab.Icmp
