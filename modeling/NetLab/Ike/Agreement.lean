import NetLab.Ike.Negotiation
import NetLab.Library.Execution
import Mathlib.Data.List.Dedup

/-!
# Agreement of the two ends of a tunnel

A negotiation brings up both ends of a tunnel but takes down only the end that it was
started from, and with IOS or ASA devices on both sides it brings up only that end. Two
ends therefore agree as long as no failed negotiation, no key and no foreign attempt
changes one of them alone. The switch for IPsec is read on the side that starts, so the
two sides succeed alike if and only if their switches do not matter or are alike.
-/

namespace NetLab.Ike

open NetLab.Library NetLab.Execution
open OrderedMap List Option

namespace World

variable {Device : Type} [DecidableEq Device]

section Conditions

variable (world : World Device)

/-- Both ends are established and the outgoing SPI of each is the incoming one of the
other, or neither is established. -/
def Agree (first second : Device × String) : Prop :=
  world.report first = (world.report second).map Prod.swap

def attempt (initiator : Device) (key : String) : Option (Attempt Device) :=
  match world.sessions.lookup initiator with
  | none => none
  | some session =>
    if session.deviceType.hasTunnels then
      (session.tunnels.lookup key).map fun tunnel =>
        world.tunnelAttempt initiator session tunnel
    else if session.deviceType.hasCrypto = true ∧ key ∈ world.allPeers initiator session then
      some (world.cryptoAttempt initiator session key)
    else none

/-- The outcome of negotiating from a device, by tunnel or peer address. -/
def ikeVerdict (initiator : Device) (key : String) : Option (Verdict Device) :=
  (world.attempt initiator key).map Attempt.verdict

def manualOutcome (initiator : Device) (key : String) : Option (Verdict Device) :=
  match world.sessions.lookup initiator with
  | none => none
  | some session =>
    if session.deviceType.startsManual then
      (session.tunnels.lookup key).bind fun tunnel => world.manualVerdict initiator tunnel
    else none

/-- IOS and ASA devices report what they did before when a negotiation of theirs fails. -/
def keepsOnFailure (initiator : Device) : Bool :=
  (world.sessions.lookup initiator).any fun session =>
    !session.deviceType.hasTunnels && session.deviceType.hasCrypto

/-- What negotiating from the device of one end must not do to the other end alone: no
other attempt is recorded there, a success is recorded there, and a failure comes only
when the other end is down or the own report outlives it. -/
def SideKeeps (verdict : String → Option (Verdict Device)) (own other : Device × String) :
    Prop :=
  (∀ key, key ≠ own.2 → verdict key ≠ some (.passes (some other))) ∧
    (∀ recordedAt, verdict own.2 = some (.passes recordedAt) → recordedAt = some other) ∧
    (verdict own.2 = some .fails → world.keepsOnFailure own.1 = true ∨ world.report other = none)

/-- What negotiating from a device must not do to one of two ends alone. -/
def CallKeeps (verdict : String → Option (Verdict Device)) (initiator : Device)
    (first second : Device × String) : Prop :=
  (initiator = first.1 → world.SideKeeps verdict first second) ∧
    (initiator = second.1 → world.SideKeeps verdict second first) ∧
    (initiator ≠ first.1 → initiator ≠ second.1 → ∀ key,
      verdict key ≠ some (.passes (some first)) ∧ verdict key ≠ some (.passes (some second)))

/-- The event changes neither of the two ends alone. -/
def StepKeeps (first second : Device × String) (world : World Device) : IkeEvent Device → Prop
  | .configure device session =>
    -- An end that is no longer configured must not leave the other one up.
    (device = first.1 → session.deviceType.hasTunnels = true →
      first.2 ∉ session.tunnels.keys → world.report second = none) ∧
    (device = second.1 → session.deviceType.hasTunnels = true →
      second.2 ∉ session.tunnels.keys → world.report first = none)
  | .presharedKey device tid _ =>
    -- The key of an end marks it as established.
    ((device, tid) = first → world.report first ≠ none) ∧
      ((device, tid) = second → world.report second ≠ none)
  | .tunnelDisable device tid =>
    ((device, tid) = first → world.report second = none) ∧
      ((device, tid) = second → world.report first = none)
  | .negotiateIpsec device => world.CallKeeps (world.ikeVerdict device) device first second
  | .negotiateManualIpsec device =>
    world.CallKeeps (world.manualOutcome device) device first second

end Conditions

/-! ## One call -/

/-- Handling one item has the outcome of its verdict and keeps what verdicts depend on. -/
structure Handles {Item : Type} (initiator : Device) (name : Item → String)
    (handle : World Device → Item → World Device × Option NegotiationResult) (keeps : Bool)
    (verdict : Item → Option (Verdict Device)) (invariant : World Device → Prop) : Prop where
  stable : ∀ world item, invariant world → invariant (handle world item).1
  skipped : ∀ world item, invariant world → verdict item = none →
    (handle world item).1.report = world.report
  effect : ∀ world item outcome, invariant world → verdict item = some outcome →
    Effect world.report (handle world item).1.report (initiator, name item) keeps outcome

section Calls

variable {Item : Type} {initiator : Device} {name : Item → String}
  {handle : World Device → Item → World Device × Option NegotiationResult} {keeps : Bool}
  {verdict : Item → Option (Verdict Device)} {invariant : World Device → Prop}

theorem Handles.untouched (handles : Handles initiator name handle keeps verdict invariant)
    {world : World Device} (holds : invariant world) {item : Item} (place : Device × String)
    (notOwn : place ≠ (initiator, name item))
    (notTarget : verdict item ≠ some (.passes (some place))) :
    (handle world item).1.report place = world.report place := by
  cases outcome : verdict item with
  | none => rw [handles.skipped world item holds outcome]
  | some result =>
    refine (handles.effect world item result holds outcome).others place notOwn fun equal => ?_
    exact notTarget (by rw [outcome, equal])

theorem negotiateEach_untouched
    (handles : Handles initiator name handle keeps verdict invariant) (items : List Item)
    {world : World Device} (holds : invariant world) (place : Device × String)
    (notOwn : ∀ item ∈ items, place ≠ (initiator, name item))
    (notTarget : ∀ item ∈ items, verdict item ≠ some (.passes (some place))) :
    (negotiateEach name handle world items).1.report place = world.report place := by
  induction items generalizing world with
  | nil => rfl
  | cons item rest ih =>
    refine (ih (handles.stable world item holds)
      (fun other member => notOwn other (mem_cons_of_mem _ member))
      fun other member => notTarget other (mem_cons_of_mem _ member)).trans ?_
    exact handles.untouched holds place (notOwn item mem_cons_self) (notTarget item mem_cons_self)

theorem negotiateEach_agree
    (handles : Handles initiator name handle keeps verdict invariant) (items : List Item)
    (distinct : (items.map name).Nodup)
    (notHere : ∀ item ∈ items, ∀ place, verdict item = some (.passes (some place)) →
      place.1 ≠ initiator)
    {key : String} {other : Device × String} (elsewhere : other.1 ≠ initiator)
    {world : World Device} (holds : invariant world)
    (onlyOwn : ∀ item ∈ items, name item ≠ key → verdict item ≠ some (.passes (some other)))
    (recorded : ∀ item ∈ items, name item = key → ∀ recordedAt,
      verdict item = some (.passes recordedAt) → recordedAt = some other)
    (failsDown : ∀ item ∈ items, name item = key → verdict item = some .fails →
      keeps = true ∨ world.report other = none)
    (agree : world.Agree (initiator, key) other) :
    (negotiateEach name handle world items).1.Agree (initiator, key) other := by
  have notOwn : ∀ item, other ≠ (initiator, name item) := by
    rintro item rfl
    exact elsewhere rfl
  induction items generalizing world with
  | nil => exact agree
  | cons item rest ih =>
    obtain ⟨fresh, restDistinct⟩ := nodup_cons.mp distinct
    have ownNotTarget : ∀ next ∈ item :: rest,
        verdict next ≠ some (.passes (some (initiator, key))) :=
      fun next member passes => notHere next member _ passes rfl
    by_cases same : name item = key
    · -- This is the attempt of the end itself; the rest touches neither end.
      have restName : ∀ next ∈ rest, name next ≠ key := by
        rintro next member rfl
        exact fresh (mem_map.mpr ⟨next, member, same.symm⟩)
      have here : (handle world item).1.Agree (initiator, key) other := by
        cases outcome : verdict item with
        | none =>
          unfold Agree
          rw [handles.skipped world item holds outcome]
          exact agree
        | some result =>
          have effect := handles.effect world item result holds outcome
          rw [same] at effect
          cases result with
          | fails =>
            unfold Agree at agree ⊢
            rw [effect.fails rfl, effect.others other (same ▸ notOwn item) (by simp)]
            rcases failsDown item mem_cons_self same outcome with kept | down
            · rw [if_pos kept]
              exact agree
            · rw [down] at agree ⊢
              split
              · exact agree
              · rfl
          | passes recordedAt =>
            obtain ⟨spis, own, target⟩ := effect.passes recordedAt rfl
            unfold Agree
            rw [own, target other (recorded item mem_cons_self same _ outcome)]
            simp
      unfold Agree at here ⊢
      have stable := handles.stable world item holds
      have ownSame := negotiateEach_untouched handles rest stable (initiator, key)
        (fun next member equal =>
          restName next member (congrArg Prod.snd equal).symm)
        fun next member => ownNotTarget next (mem_cons_of_mem _ member)
      have otherSame := negotiateEach_untouched handles rest stable other
        (fun next _ => notOwn next) fun next member =>
          onlyOwn next (mem_cons_of_mem _ member) (restName next member)
      change (negotiateEach name handle (handle world item).1 rest).1.report (initiator, key) =
        ((negotiateEach name handle (handle world item).1 rest).1.report other).map Prod.swap
      rw [ownSame, otherSame]
      exact here
    · have ownSame := handles.untouched holds (initiator, key)
        (fun equal => same (congrArg Prod.snd equal).symm)
        (ownNotTarget item mem_cons_self)
      have otherSame := handles.untouched holds other (notOwn item)
        (onlyOwn item mem_cons_self same)
      refine ih restDistinct (fun next member => notHere next (mem_cons_of_mem _ member))
        (handles.stable world item holds)
        (fun next member => onlyOwn next (mem_cons_of_mem _ member))
        (fun next member => recorded next (mem_cons_of_mem _ member)) ?_ ?_
      · intro next member equal fails
        rw [otherSame]
        exact failsDown next (mem_cons_of_mem _ member) equal fails
      · unfold Agree at agree ⊢
        rw [ownSame, otherSame]
        exact agree

end Calls

/-- Searches depend on the configuration and the links. -/
theorem search_congr {first second : World Device} (sessions : first.sessions = second.sessions)
    (neighbors : first.neighbors = second.neighbors) (initiator : Device)
    (remoteIp localIp : String) :
    first.search initiator remoteIp localIp = second.search initiator remoteIp localIp := by
  unfold search findPeer
  rw [sessions, neighbors]

theorem search_ne {world : World Device} {initiator : Device} {remoteIp localIp : String}
    {peer : Device} {session : Session} {view : PeerView}
    (led : world.search initiator remoteIp localIp = some (peer, session, view)) :
    peer ≠ initiator := by
  obtain ⟨found, foundEq, viewed⟩ := bind_eq_some_iff.mp led
  obtain ⟨_, _, equal⟩ := map_eq_some_iff.mp viewed
  cases equal
  exact (findPeer_some foundEq).1

variable {place : Device × String} {tunnel : Tunnel}

omit [DecidableEq Device] in
theorem recorded_lead {attempt : Attempt Device} (passes : attempt.verdict = .passes (some place)) :
    ∃ session view, attempt.lead = some (place.1, session, view) ∧ view.key = place.2 := by
  cases lead : attempt.lead with
  | none =>
    rw [verdict_of_none lead] at passes
    cases passes
  | some found =>
    obtain ⟨peer, session, view⟩ := found
    by_cases agreed : attempt.ipsecOn = true ∧ Compatible attempt.ikeOn attempt.own view
    · rw [verdict_of_agreed lead agreed] at passes
      injection passes with recordedAt
      split at recordedAt
      · cases recordedAt
        exact ⟨session, view, rfl, rfl⟩
      · cases recordedAt
    · rw [verdict_of_refused lead agreed] at passes
      cases passes

theorem manualVerdict_elsewhere {world : World Device} {initiator : Device}
    (passes : world.manualVerdict initiator tunnel = some (.passes (some place))) :
    place.1 ≠ initiator := by
  unfold manualVerdict at passes
  split at passes
  · cases passes
  split at passes
  · cases passes
  split at passes
  swap
  · cases passes
  split at passes
  · cases passes
  · next target peerSend peerReceive led =>
      split at passes
      swap
      · cases passes
      cases passes
      obtain ⟨found, foundEq, viewed⟩ := bind_eq_some_iff.mp led
      obtain ⟨_, _, equal⟩ := map_eq_some_iff.mp viewed
      cases equal
      exact (findPeer_some foundEq).1

section

variable {world current : World Device}
  (same : current.sessions = world.sessions ∧ current.neighbors = world.neighbors)
  (initiator : Device) (session : Session)
include same initiator session

/-- Negotiations of one call depend on the world before it alone: none of them changes a
configuration or a link. -/
theorem tunnel_made (entry : String × Tunnel) :
    Made current (current.negotiateTunnel initiator session entry.1 entry.2)
      (initiator, entry.1) false (world.tunnelAttempt initiator session entry.2).verdict := by
  have attemptEq : current.tunnelAttempt initiator session entry.2 =
      world.tunnelAttempt initiator session entry.2 := by
    unfold tunnelAttempt
    rw [search_congr same.1 same.2]
  exact attemptEq ▸ negotiateTunnel_made current initiator session entry.1 entry.2

theorem crypto_made (remoteIp : String) :
    Made current (current.negotiateCrypto initiator session remoteIp) (initiator, remoteIp) true
      (world.cryptoAttempt initiator session remoteIp).verdict := by
  have attemptEq : current.cryptoAttempt initiator session remoteIp =
      world.cryptoAttempt initiator session remoteIp := by
    unfold cryptoAttempt
    rw [search_congr same.1 same.2]
  exact attemptEq ▸ negotiateCrypto_made current initiator session remoteIp

end

section

variable (world : World Device) (initiator : Device)
include world initiator

theorem handles_tunnels (session : Session) :
    Handles initiator Prod.fst (fun (current : World Device) (entry : String × Tunnel) =>
        ((current.negotiateTunnel initiator session entry.1 entry.2).1,
          some (current.negotiateTunnel initiator session entry.1 entry.2).2)) false
      (fun entry => some (world.tunnelAttempt initiator session entry.2).verdict)
      fun current => current.sessions = world.sessions ∧ current.neighbors = world.neighbors := by
  refine ⟨fun current entry same => ?_, fun _ _ _ skipped => (by cases skipped),
    fun current entry outcome same equal => ?_⟩
  · have one := tunnel_made same initiator session entry
    exact ⟨one.sessions.trans same.1, one.neighbors.trans same.2⟩
  · cases equal
    exact (tunnel_made same initiator session entry).effect

theorem handles_crypto (session : Session) :
    Handles initiator id (fun (current : World Device) (remoteIp : String) =>
        ((current.negotiateCrypto initiator session remoteIp).1,
          some (current.negotiateCrypto initiator session remoteIp).2)) true
      (fun remoteIp => some (world.cryptoAttempt initiator session remoteIp).verdict)
      fun current => current.sessions = world.sessions ∧ current.neighbors = world.neighbors := by
  refine ⟨fun current remoteIp same => ?_, fun _ _ _ skipped => (by cases skipped),
    fun current remoteIp outcome same equal => ?_⟩
  · have one := crypto_made same initiator session remoteIp
    exact ⟨one.sessions.trans same.1, one.neighbors.trans same.2⟩
  · cases equal
    exact (crypto_made same initiator session remoteIp).effect

theorem handles_manual :
    Handles initiator Prod.fst (fun (current : World Device) (entry : String × Tunnel) =>
        current.negotiateManual initiator entry.1 entry.2) false
      (fun entry => world.manualVerdict initiator entry.2)
      fun current => current.keying = world.keying ∧ current.neighbors = world.neighbors := by
  have made : ∀ (current : World Device) (entry : String × Tunnel),
      (current.keying = world.keying ∧ current.neighbors = world.neighbors) →
      ManualMade current (current.negotiateManual initiator entry.1 entry.2)
        (initiator, entry.1) (world.manualVerdict initiator entry.2) := by
    intro current entry same
    have verdictEq : current.manualVerdict initiator entry.2 =
        world.manualVerdict initiator entry.2 := by
      unfold manualVerdict
      rw [manualSearch_congr same.1 same.2]
    exact verdictEq ▸ negotiateManual_made current initiator entry.1 entry.2
  refine ⟨fun current entry same => ?_, fun current entry same skipped => ?_,
    fun current entry outcome same equal => ?_⟩
  · have one := made current entry same
    exact ⟨one.keying.trans same.1, one.neighbors.trans same.2⟩
  · exact (made current entry same).skipped skipped
  · exact (made current entry same).effect outcome equal

/-- What a whole call does to two ends, by the verdicts on the world before it. -/
structure Call (world : World Device) (initiator : Device)
    (verdict : String → Option (Verdict Device)) (after : World Device) : Prop where
  side : ∀ key other, other.1 ≠ initiator → world.SideKeeps verdict (initiator, key) other →
    world.Agree (initiator, key) other → after.Agree (initiator, key) other
  foreign : ∀ place : Device × String, place.1 ≠ initiator →
    (∀ key, verdict key ≠ some (.passes (some place))) → after.report place = world.report place

theorem Call.idle (verdict : String → Option (Verdict Device)) :
    Call world initiator verdict world :=
  ⟨fun _ _ _ _ agree => agree, fun _ _ _ => rfl⟩

end

variable {world : World Device} {initiator : Device} {second first : Device × String}
  (localD peerD : Proposal)

theorem Call.of_handles {Item : Type} {name : Item → String}
    {handle : World Device → Item → World Device × Option NegotiationResult} {keeps : Bool}
    {verdict : Item → Option (Verdict Device)} {invariant : World Device → Prop}
    (handles : Handles initiator name handle keeps verdict invariant) (holds : invariant world)
    {items : List Item} (distinct : (items.map name).Nodup)
    {byKey : String → Option (Verdict Device)}
    (verdicts : ∀ item ∈ items, byKey (name item) = verdict item)
    (elsewhere : ∀ item ∈ items, ∀ place, verdict item = some (.passes (some place)) →
      place.1 ≠ initiator) (keepsEq : world.keepsOnFailure initiator = keeps) :
    Call world initiator byKey (negotiateEach name handle world items).1 := by
  refine ⟨fun key other different sideKeeps agree => ?_, fun place different never => ?_⟩
  · obtain ⟨onlyOwn, recorded, failsDown⟩ := sideKeeps
    refine negotiateEach_agree handles items distinct elsewhere different holds ?_ ?_ ?_ agree
    · intro item member notKey
      rw [← verdicts item member]
      exact onlyOwn (name item) notKey
    · rintro item member rfl recordedAt passes
      exact recorded recordedAt ((verdicts item member).trans passes)
    · rintro item member rfl fails
      rw [← keepsEq]
      exact failsDown ((verdicts item member).trans fails)
  · refine negotiateEach_untouched handles items holds place (fun item _ equal => ?_) ?_
    · exact different (congrArg Prod.fst equal)
    · intro item member
      rw [← verdicts item member]
      exact never (name item)

theorem tunnelAttempt_lead {session : Session} {found : Device × Session × PeerView}
    (lead : (world.tunnelAttempt initiator session tunnel).lead = some found) :
    world.search initiator (tunnel.remoteIp.getD "") (tunnel.localIp.getD "") = some found := by
  unfold tunnelAttempt at lead
  dsimp only at lead
  split at lead
  · cases lead
  · exact lead

theorem negotiateIpsec_call (world : World Device) (initiator : Device) :
    Call world initiator (world.ikeVerdict initiator) (world.negotiateIpsec initiator).1 := by
  unfold negotiateIpsec
  cases found : world.sessions.lookup initiator with
  | none => exact .idle world initiator _
  | some session =>
    dsimp only
    by_cases tunnels : session.deviceType.hasTunnels = true
    · rw [if_pos tunnels]
      refine .of_handles (handles_tunnels world initiator session) ⟨rfl, rfl⟩
        session.tunnels.distinct (fun entry listed => ?_) (fun entry _ place passes => ?_) ?_
      · have here := mem_entries_iff.mp (show (entry.1, entry.2) ∈ _ from listed)
        simp [ikeVerdict, attempt, found, tunnels, here]
      · obtain ⟨_, _, lead, -⟩ := recorded_lead (Option.some.inj passes)
        exact search_ne (tunnelAttempt_lead lead)
      · simp [keepsOnFailure, found, tunnels]
    rw [if_neg tunnels]
    by_cases crypto : session.deviceType.hasCrypto = true
    · rw [if_pos crypto]
      refine .of_handles (handles_crypto world initiator session) ⟨rfl, rfl⟩ ?_
        (fun remoteIp listed => ?_) (fun remoteIp _ place passes => ?_) ?_
      · rw [List.map_id]
        exact nodup_dedup _
      · simp [ikeVerdict, attempt, found, tunnels, crypto, listed]
      · obtain ⟨_, _, lead, -⟩ := recorded_lead (Option.some.inj passes)
        exact search_ne lead
      · simp [keepsOnFailure, found, tunnels, crypto]
    · rw [if_neg crypto]
      exact .idle world initiator _

theorem negotiateManualIpsec_call (world : World Device) (initiator : Device) :
    Call world initiator (world.manualOutcome initiator)
      (world.negotiateManualIpsec initiator).1 := by
  unfold negotiateManualIpsec
  cases found : world.sessions.lookup initiator with
  | none => exact .idle world initiator _
  | some session =>
    dsimp only
    by_cases starts : session.deviceType.startsManual = true
    · rw [if_pos starts]
      refine .of_handles (handles_manual world initiator) ⟨rfl, rfl⟩
        session.tunnels.distinct (fun entry listed => ?_) (fun entry _ place passes => ?_) ?_
      · have here := mem_entries_iff.mp (show (entry.1, entry.2) ∈ _ from listed)
        simp [manualOutcome, found, starts, here]
      · exact manualVerdict_elsewhere passes
      · have tunnels : session.deviceType.hasTunnels = true := by
          revert starts
          cases session.deviceType <;> decide
        simp [keepsOnFailure, found, tunnels]
    · rw [if_neg starts]
      exact .idle world initiator _

/-! ## Runs -/

omit [DecidableEq Device] in
theorem swap_eq_iff {first second : Report} :
    first = second.map Prod.swap ↔ second = first.map Prod.swap := by
  constructor
  all_goals
    rintro rfl
    simp [Option.map_map]

theorem Agree.symm (agree : world.Agree first second) : world.Agree second first :=
  swap_eq_iff.mp agree

theorem Call.agree {after : World Device} {verdict : String → Option (Verdict Device)}
    (call : Call world initiator verdict after) (different : first.1 ≠ second.1)
    (keeps : world.CallKeeps verdict initiator first second) (agree : world.Agree first second) :
    after.Agree first second := by
  by_cases atFirst : initiator = first.1
  · subst atFirst
    exact call.side first.2 second (Ne.symm different) (keeps.1 rfl) agree
  by_cases atSecond : initiator = second.1
  · subst atSecond
    exact (call.side second.2 first different (keeps.2.1 rfl) agree.symm).symm
  · have never := keeps.2.2 atFirst atSecond
    unfold Agree
    rw [call.foreign first (Ne.symm atFirst) fun key => (never key).1,
      call.foreign second (Ne.symm atSecond) fun key => (never key).2]
    exact agree

theorem report_configure (world : World Device) (device : Device) (session : Session)
    (place : Device × String) :
    (world.configure device session).report place =
      if place.1 = device ∧ session.deviceType.hasTunnels = true ∧
          place.2 ∉ session.tunnels.keys then none
      else world.report place := by
  unfold report sa configure
  dsimp only
  rw [lookup_filter]
  by_cases gone : place.1 = device ∧ session.deviceType.hasTunnels = true ∧
      place.2 ∉ session.tunnels.keys
  · rw [if_pos gone]
    cases world.sas.lookup (place.1, place.2) with
    | none => rfl
    | some sa => simp [Option.filter, gone.1, gone.2.1, gone.2.2, Sa.report]
  · rw [if_neg gone]
    have kept : (decide (place.1 ≠ device) || !session.deviceType.hasTunnels ||
        decide (place.2 ∈ session.tunnels.keys)) = true := by
      by_contra dropped
      simp only [Bool.or_eq_true, decide_eq_true_eq, Bool.not_eq_true', not_or,
        Bool.not_eq_false, not_not] at dropped
      exact gone ⟨dropped.1.1, dropped.1.2, dropped.2⟩
    cases world.sas.lookup (place.1, place.2) with
    | none => rfl
    | some sa => simp only [Option.filter, kept, if_true]

theorem step_agree (different : first.1 ≠ second.1) (agree : world.Agree first second)
    {event : IkeEvent Device} (keeps : StepKeeps first second world event) :
    (world.step event).Agree first second := by
  have notSame : first ≠ second := fun equal => different (congrArg Prod.fst equal)
  cases event with
  | configure device session =>
    change (world.configure device session).report first =
      ((world.configure device session).report second).map Prod.swap
    rw [report_configure, report_configure]
    unfold Agree at agree
    split
    · next gone =>
        have secondDown := keeps.1 gone.1.symm gone.2.1 gone.2.2
        rw [secondDown]
        split <;> rfl
    · split
      · next gone =>
          have firstDown := keeps.2 gone.1.symm gone.2.1 gone.2.2
          rw [firstDown]
          rfl
      · exact agree
  | presharedKey device tid preshared =>
    -- An end that the command marks is established already.
    have same : (world.setPresharedKey device tid preshared).report first = world.report first ∧
        (world.setPresharedKey device tid preshared).report second = world.report second := by
      have marked : ∀ place : Device × String, ((device, tid) = place → world.report place ≠ none) →
          (world.setPresharedKey device tid preshared).report place = world.report place := by
        intro place up
        unfold setPresharedKey
        split
        · rfl
        · split
          · dsimp only
            rw [report_updateSa]
            split
            · next equal =>
                have established := up equal.symm
                subst equal
                unfold report Sa.report at established ⊢
                split at established
                · next status =>
                    rw [if_pos status, if_pos rfl]
                    rfl
                · exact absurd rfl established
            · rfl
          · rfl
      exact ⟨marked first keeps.1, marked second keeps.2⟩
    change (world.setPresharedKey device tid preshared).report first =
      ((world.setPresharedKey device tid preshared).report second).map Prod.swap
    rw [same.1, same.2]
    exact agree
  | tunnelDisable device tid =>
    have down : ∀ place : Device × String,
        (world.disableTunnel device tid).report place = world.report place ∨
          ((device, tid) = place ∧ (world.disableTunnel device tid).report place = none) := by
      intro place
      unfold disableTunnel
      split
      · exact Or.inl rfl
      · split
        · dsimp only
          split
          · exact Or.inl rfl
          · rw [report_updateSa]
            split
            · next equal => exact Or.inr ⟨equal.symm, rfl⟩
            · exact Or.inl rfl
        · exact Or.inl rfl
    change (world.disableTunnel device tid).report first =
      ((world.disableTunnel device tid).report second).map Prod.swap
    unfold Agree at agree
    rcases down first with firstSame | ⟨isFirst, firstDown⟩
    · rcases down second with secondSame | ⟨isSecond, secondDown⟩
      · rw [firstSame, secondSame]
        exact agree
      · rw [firstSame, secondDown, keeps.2 isSecond]
        rfl
    · rcases down second with secondSame | ⟨isSecond, secondDown⟩
      · rw [firstDown, secondSame, keeps.1 isFirst]
        rfl
      · exact absurd (isFirst.symm.trans isSecond) notSame
  | negotiateIpsec device =>
    exact (negotiateIpsec_call world device).agree different keeps agree
  | negotiateManualIpsec device =>
    exact (negotiateManualIpsec_call world device).agree different keeps agree

/-! ## Success from either side -/

def SucceedsFrom (world : World Device) (place : Device × String) : Prop :=
  ∃ result, (place.2, result) ∈ (world.negotiateIpsec place.1).2 ∧ result.success = true

omit [DecidableEq Device] in
theorem negotiateEach_succeeds {Item : Type} {name : Item → String}
    {handle : World Device → Item → World Device × NegotiationResult}
    {verdict : Item → Verdict Device} {invariant : World Device → Prop}
    (answers : ∀ world item, invariant world → invariant (handle world item).1 ∧
      ((handle world item).2.success = true ↔ verdict item ≠ .fails)) (items : List Item)
    (holds : invariant world) (key : String) :
    (∃ result, (key, result) ∈ (negotiateEach name (fun current item =>
        ((handle current item).1, some (handle current item).2)) world items).2 ∧
      result.success = true) ↔
    ∃ item ∈ items, name item = key ∧ verdict item ≠ .fails := by
  induction items generalizing world with
  | nil => simp [negotiateEach]
  | cons item rest ih =>
    obtain ⟨stable, success⟩ := answers world item holds
    simp only [negotiateEach, map_some, toList_some, cons_append,
      nil_append, mem_cons, Prod.mk.injEq, exists_eq_or_imp, ← ih stable]
    constructor
    · rintro ⟨result, ⟨rfl, rfl⟩ | later, succeeded⟩
      · exact Or.inl ⟨rfl, success.mp succeeded⟩
      · exact Or.inr ⟨result, later, succeeded⟩
    · rintro (⟨rfl, passes⟩ | ⟨result, later, succeeded⟩)
      · exact ⟨_, Or.inl ⟨rfl, rfl⟩, success.mpr passes⟩
      · exact ⟨result, Or.inr later, succeeded⟩

theorem succeedsFrom_iff (world : World Device) (place : Device × String) :
    world.SucceedsFrom place ↔
      ∃ attempt, world.attempt place.1 place.2 = some attempt ∧ attempt.verdict ≠ .fails := by
  unfold SucceedsFrom negotiateIpsec attempt
  cases found : world.sessions.lookup place.1 with
  | none => simp
  | some session =>
    dsimp only
    by_cases tunnels : session.deviceType.hasTunnels = true
    · rw [if_pos tunnels, if_pos tunnels]
      have answers : ∀ (current : World Device) (entry : String × Tunnel),
          (current.sessions = world.sessions ∧ current.neighbors = world.neighbors) →
          ((current.negotiateTunnel place.1 session entry.1 entry.2).1.sessions = world.sessions ∧
            (current.negotiateTunnel place.1 session entry.1 entry.2).1.neighbors =
              world.neighbors) ∧
          ((current.negotiateTunnel place.1 session entry.1 entry.2).2.success = true ↔
            (world.tunnelAttempt place.1 session entry.2).verdict ≠ .fails) := by
        intro current entry same
        have one := tunnel_made same place.1 session entry
        exact ⟨⟨one.sessions.trans same.1, one.neighbors.trans same.2⟩, one.success⟩
      refine (negotiateEach_succeeds answers session.tunnels.entries ⟨rfl, rfl⟩ place.2).trans ?_
      simp only [map_eq_some_iff, Prod.exists, mem_entries_iff]
      constructor
      · rintro ⟨tid, tunnel, listed, rfl, passes⟩
        exact ⟨_, ⟨tunnel, listed, rfl⟩, passes⟩
      · rintro ⟨_, ⟨tunnel, listed, rfl⟩, passes⟩
        exact ⟨_, tunnel, listed, rfl, passes⟩
    rw [if_neg tunnels, if_neg tunnels]
    by_cases crypto : session.deviceType.hasCrypto = true
    · rw [if_pos crypto]
      have answers : ∀ (current : World Device) (remoteIp : String),
          (current.sessions = world.sessions ∧ current.neighbors = world.neighbors) →
          ((current.negotiateCrypto place.1 session remoteIp).1.sessions = world.sessions ∧
            (current.negotiateCrypto place.1 session remoteIp).1.neighbors = world.neighbors) ∧
          ((current.negotiateCrypto place.1 session remoteIp).2.success = true ↔
            (world.cryptoAttempt place.1 session remoteIp).verdict ≠ .fails) := by
        intro current remoteIp same
        have one := crypto_made same place.1 session remoteIp
        exact ⟨⟨one.sessions.trans same.1, one.neighbors.trans same.2⟩, one.success⟩
      refine (negotiateEach_succeeds answers (world.allPeers place.1 session) ⟨rfl, rfl⟩
        place.2).trans ?_
      constructor
      · rintro ⟨remoteIp, listed, rfl, passes⟩
        exact ⟨_, if_pos ⟨crypto, listed⟩, passes⟩
      · rintro ⟨attempt, attempted, passes⟩
        split at attempted
        · next here =>
            cases attempted
            exact ⟨place.2, here.2, rfl, passes⟩
        · cases attempted
    · rw [if_neg crypto]
      simp [crypto]

/-! ### Comparison from both sides -/

theorem phase1Check_none_iff : phase1Check localD peerD = none ↔
    localD.preshared ≠ "" ∧ localD.preshared = peerD.preshared ∧
      normDh (localD.dhGroup.getD (.number defaultDh)) =
        normDh (peerD.dhGroup.getD (.number defaultDh)) ∧
      normEnc (localD.encryption.getD defaultEncryption) =
        normEnc (peerD.encryption.getD defaultEncryption) ∧
      normHash (localD.hash.getD defaultHash) = normHash (peerD.hash.getD defaultHash) ∧
      localD.ikeMode.getD defaultMode = peerD.ikeMode.getD defaultMode := by
  unfold phase1Check
  dsimp only
  constructor
  · intro passes
    split_ifs at passes
    simp_all
  · rintro ⟨set, key, dh, enc, hash, mode⟩
    have peerSet : peerD.preshared ≠ "" := key ▸ set
    rw [if_neg set, if_neg peerSet, if_neg (not_not.mpr key), if_neg (not_not.mpr dh),
      if_neg (not_not.mpr enc), if_neg (not_not.mpr hash), if_neg (not_not.mpr mode)]

theorem phase1Check_comm : phase1Check localD peerD = none ↔ phase1Check peerD localD = none := by
  rw [phase1Check_none_iff, phase1Check_none_iff]
  constructor
  all_goals
    rintro ⟨set, key, dh, enc, hash, mode⟩
    exact ⟨key ▸ set, key.symm, dh.symm, enc.symm, hash.symm, mode.symm⟩

theorem phase2Check_comm : phase2Check localD peerD = none ↔ phase2Check peerD localD = none := by
  unfold phase2Check
  dsimp only
  constructor
  all_goals
    intro passes
    split at passes
    · cases passes
    · next same => exact if_neg fun other => same fun equal => other equal.symm

/-- The side that is addressed makes its own attempt with the proposal and the switch that
the other side saw. -/
theorem attempt_of_search {peer : Device} {remoteIp localIp : String} {session : Session}
    {view : PeerView} {back : Attempt Device}
    (led : world.search initiator remoteIp localIp = some (peer, session, view))
    (attempted : world.attempt peer view.key = some back) :
    back.own = view.proposal ∧ back.ikeOn = view.ikeOn := by
  obtain ⟨⟨found, foundSession⟩, foundEq, viewed⟩ := bind_eq_some_iff.mp led
  obtain ⟨seen, seenEq, equal⟩ := map_eq_some_iff.mp viewed
  cases equal
  have sessionFound := (findPeer_some foundEq).2
  unfold attempt at attempted
  rw [sessionFound] at attempted
  dsimp only at attempted
  unfold peerView at seenEq
  by_cases tunnels : foundSession.deviceType.hasTunnels = true
  · rw [if_pos tunnels] at seenEq attempted
    obtain ⟨⟨tid, tunnel⟩, info, rfl⟩ := map_eq_some_iff.mp seenEq
    unfold sirTunnelInfo at info
    rw [if_pos tunnels] at info
    have listed := mem_entries_iff.mp (mem_of_find?_eq_some info)
    obtain ⟨own, ownListed, rfl⟩ := map_eq_some_iff.mp attempted
    cases listed.symm.trans ownListed
    exact ⟨rfl, rfl⟩
  · rw [if_neg tunnels] at seenEq attempted
    cases seenEq
    split at attempted
    · cases attempted
      exact ⟨rfl, rfl⟩
    · cases attempted

theorem attempt_search {attempt : Attempt Device} {found : Device × Session × PeerView}
    (attempted : world.attempt place.1 place.2 = some attempt) (lead : attempt.lead = some found) :
    ∃ remoteIp localIp, world.search place.1 remoteIp localIp = some found := by
  unfold World.attempt at attempted
  split at attempted
  · cases attempted
  · split at attempted
    · obtain ⟨tunnel, _, rfl⟩ := map_eq_some_iff.mp attempted
      exact ⟨_, _, tunnelAttempt_lead lead⟩
    · split at attempted
      · cases attempted
        exact ⟨_, _, lead⟩
      · cases attempted

def PointsAt (world : World Device) (place other : Device × String) : Prop :=
  ∃ attempt session view, world.attempt place.1 place.2 = some attempt ∧
    attempt.lead = some (other.1, session, view) ∧ view.key = other.2

/-- The attempt of one end leads nowhere else than to another. -/
def PointsOnlyAt (world : World Device) (place other : Device × String) : Prop :=
  ∀ attempt peer session view, world.attempt place.1 place.2 = some attempt →
    attempt.lead = some (peer, session, view) → (peer, view.key) = other

/-- IKE is on at both sides of the attempt of an end, and the proposals agree. -/
def Matches (world : World Device) (place : Device × String) : Prop :=
  ∃ attempt peer session view, world.attempt place.1 place.2 = some attempt ∧
    attempt.lead = some (peer, session, view) ∧ Compatible attempt.ikeOn attempt.own view

/-- IPsec is on at the device of an end; IOS and ASA devices have no such switch. -/
def IpsecOn (world : World Device) (place : Device × String) : Prop :=
  ∃ attempt, world.attempt place.1 place.2 = some attempt ∧ attempt.ipsecOn = true

theorem succeedsFrom_iff_matches (world : World Device) (place : Device × String) :
    world.SucceedsFrom place ↔ world.Matches place ∧ world.IpsecOn place := by
  rw [succeedsFrom_iff]
  constructor
  · rintro ⟨attempt, attempted, passes⟩
    cases lead : attempt.lead with
    | none => exact absurd (verdict_of_none lead) passes
    | some found =>
      obtain ⟨peer, session, view⟩ := found
      by_cases agreed : attempt.ipsecOn = true ∧ Compatible attempt.ikeOn attempt.own view
      · exact ⟨⟨attempt, peer, session, view, attempted, lead, agreed.2⟩, attempt, attempted,
          agreed.1⟩
      · exact absurd (verdict_of_refused lead agreed) passes
  · rintro ⟨⟨attempt, peer, session, view, attempted, lead, compatible⟩, other, otherEq, on⟩
    cases attempted.symm.trans otherEq
    refine ⟨attempt, attempted, ?_⟩
    rw [verdict_of_agreed lead ⟨on, compatible⟩]
    simp

/-- Ends that lead to each other match from either side. -/
theorem matches_iff_of_pointsAt (there : world.PointsAt first second)
    (back : world.PointsAt second first) : world.Matches first ↔ world.Matches second := by
  obtain ⟨one, session, view, attempted, lead, key⟩ := there
  obtain ⟨two, backSession, backView, backAttempted, backLead, backKey⟩ := back
  obtain ⟨_, _, led⟩ := attempt_search attempted lead
  obtain ⟨_, _, backLed⟩ := attempt_search backAttempted backLead
  obtain ⟨twoOwn, twoOn⟩ := attempt_of_search led (key ▸ backAttempted)
  obtain ⟨oneOwn, oneOn⟩ := attempt_of_search backLed (backKey ▸ attempted)
  have compatible : Compatible one.ikeOn one.own view ↔ Compatible two.ikeOn two.own backView := by
    unfold Compatible
    rw [twoOn, twoOwn, oneOn, oneOwn, phase1Check_comm, phase2Check_comm]
    tauto
  constructor
  · rintro ⟨_, _, _, _, attempted', lead', holds⟩
    cases attempted.symm.trans attempted'
    cases lead.symm.trans lead'
    exact ⟨two, _, _, _, backAttempted, backLead, compatible.mp holds⟩
  · rintro ⟨_, _, _, _, attempted', lead', holds⟩
    cases backAttempted.symm.trans attempted'
    cases backLead.symm.trans lead'
    exact ⟨one, _, _, _, attempted, lead, compatible.mpr holds⟩

/-- For an end that leads to another one, which leads nowhere else, the two sides succeed
alike exactly if a match leaves no difference in the switches. -/
theorem succeeds_alike_iff (there : world.PointsAt first second)
    (only : world.PointsOnlyAt second first) :
    (world.SucceedsFrom first ↔ world.SucceedsFrom second) ↔ (world.Matches first →
        (world.IpsecOn first ↔ world.PointsAt second first ∧ world.IpsecOn second)) := by
  have secondMatches : world.Matches second ↔ world.Matches first ∧ world.PointsAt second first := by
    constructor
    · rintro matched
      obtain ⟨attempt, peer, session, view, attempted, lead, _⟩ := id matched
      have same := only attempt peer session view attempted lead
      have back : world.PointsAt second first :=
        ⟨attempt, session, view, attempted, by rw [lead, ← same], by rw [← same]⟩
      exact ⟨(matches_iff_of_pointsAt there back).mpr matched, back⟩
    · rintro ⟨matched, back⟩
      exact (matches_iff_of_pointsAt there back).mp matched
  rw [succeedsFrom_iff_matches, succeedsFrom_iff_matches, secondMatches]
  tauto

/-- In every run whose events change neither end alone, the two ends agree; and ends that
lead to each other succeed alike exactly if a match leaves no difference in the switches. -/
theorem two_sided_agreement (sessions : OrderedMap Device Session)
    (neighbors : Device → List Device) (textHash : String → Nat)
    (first second : Device × String) (different : first.1 ≠ second.1)
    (events : List (IkeEvent Device))
    (keeps : Along step (StepKeeps first second) { sessions, neighbors, textHash } events) :
    (runFrom step { sessions, neighbors, textHash } events).Agree first second ∧
      ∀ world : World Device, world.PointsAt first second → world.PointsOnlyAt second first →
        ((world.SucceedsFrom first ↔ world.SucceedsFrom second) ↔ (world.Matches first →
            (world.IpsecOn first ↔ world.PointsAt second first ∧ world.IpsecOn second))) := by
  have preserved : ∀ (world : World Device) (event : IkeEvent Device),
      world.Agree first second → StepKeeps first second world event →
      (world.step event).Agree first second :=
    fun world event agree keep => step_agree different agree keep
  have nothingYet : ({ sessions, neighbors, textHash } : World Device).Agree first second := rfl
  exact ⟨invariant_along preserved nothingYet keeps, fun world => succeeds_alike_iff⟩

/-! ## Two Si-R devices -/

/-- A tunnel between two addresses with a pre-shared key. -/
def keyedTunnel (localIp remoteIp preshared : String) : Tunnel :=
  { localIp := some localIp, remoteIp := some remoteIp, proposal := { preshared } }

def sirSession (tunnel : Tunnel) (ipsecEnabled : Bool) : Session :=
  { deviceType := .sir, tunnels := OrderedMap.empty.insert "1" tunnel, ikeEnabled := true,
    ipsecEnabled }

def leftTunnel (preshared : String) : Tunnel := keyedTunnel "10.0.0.1" "10.0.0.2" preshared

def rightTunnel (preshared : String) : Tunnel := keyedTunnel "10.0.0.2" "10.0.0.1" preshared

/-- Devices 0 and 1 with matching tunnels; `ipsecEnabled` is the switch of device 1. -/
def sirPair (ipsecEnabled : Bool) : OrderedMap (Fin 2) Session :=
  OrderedMap.empty.insert 0 (sirSession (leftTunnel "key") true)
    |>.insert 1 (sirSession (rightTunnel "key") ipsecEnabled)

/-- Devices 0 and 1 before any negotiation. -/
def sirWorld (ipsecEnabled : Bool) : World (Fin 2) :=
  { sessions := sirPair ipsecEnabled, neighbors := fun _ => [], textHash := String.length }

theorem ikeVerdict_sirSession {world : World (Fin 2)} {device : Fin 2} {ipsecEnabled : Bool}
    (found : world.sessions.lookup device = some (sirSession tunnel ipsecEnabled)) {key : String}
    (other : key ≠ "1") : world.ikeVerdict device key = none := by
  have noTunnel : (sirSession tunnel ipsecEnabled).tunnels.lookup key = none := by
    simp [sirSession, lookup_insert, other]
  have tunnels : (sirSession tunnel ipsecEnabled).deviceType.hasTunnels = true := rfl
  unfold ikeVerdict attempt
  rw [found]
  dsimp only
  rw [if_pos tunnels, noTunnel]
  rfl

/-- A negotiation brings up both ends of the pair, which would succeed from either side. -/
theorem sirPair_negotiated :
    (runFrom step (sirWorld true) [.negotiateIpsec 0]).Agree (0, "1") (1, "1") ∧
      ∀ world : World (Fin 2), world.PointsAt (0, "1") (1, "1") →
        world.PointsOnlyAt (1, "1") (0, "1") →
        ((world.SucceedsFrom (0, "1") ↔ world.SucceedsFrom (1, "1")) ↔
          (world.Matches (0, "1") → (world.IpsecOn (0, "1") ↔
            world.PointsAt (1, "1") (0, "1") ∧ world.IpsecOn (1, "1")))) := by
  have passes : (sirWorld true).ikeVerdict 0 "1" = some (.passes (some (1, "1"))) := by
    decide +kernel
  refine two_sided_agreement (sirPair true) (fun _ => []) String.length (0, "1") (1, "1")
    (by decide) [.negotiateIpsec 0] ⟨⟨fun _ => ⟨?_, ?_, ?_⟩, fun equal => ?_, fun different => ?_⟩,
      trivial⟩
  · intro key other
    have silent : (sirWorld true).ikeVerdict 0 key = none :=
      ikeVerdict_sirSession
        (show (sirWorld true).sessions.lookup 0 = some (sirSession (leftTunnel "key") true) from rfl)
        other
    exact fun equal => by cases silent.symm.trans equal
  · intro recordedAt equal
    cases passes.symm.trans equal
    rfl
  · intro fails
    cases passes.symm.trans fails
  · cases equal
  · exact absurd rfl different

/-- The negotiations and the change of key that the end at device 0 sees. -/
def rekeyed : List (IkeEvent (Fin 2)) :=
  [.negotiateIpsec 0, .configure 0 (sirSession (leftTunnel "other") true), .negotiateIpsec 0]

/-- After a failed renegotiation one end is down and the other one still up; and with
IPsec off at device 1 a negotiation succeeds from device 0 only. -/
theorem sirPair_disagrees : ¬ (runFrom step (sirWorld true) rekeyed).Agree (0, "1") (1, "1") ∧
      (sirWorld false).SucceedsFrom (0, "1") ∧ ¬ (sirWorld false).SucceedsFrom (1, "1") := by
  have reports : (runFrom step (sirWorld true) rekeyed).report (0, "1") = none ∧
      (runFrom step (sirWorld true) rekeyed).report (1, "1") = some (some 1, some 17) := by
    decide +kernel
  have fromZero : ∃ entry ∈ ((sirWorld false).negotiateIpsec 0).2,
      entry.1 = "1" ∧ entry.2.success = true := by decide +kernel
  have fromOne : ∀ entry ∈ ((sirWorld false).negotiateIpsec 1).2, entry.2.success ≠ true := by
    decide +kernel
  refine ⟨fun agree => ?_, ?_, ?_⟩
  · unfold Agree at agree
    rw [reports.1, reports.2] at agree
    cases agree
  · obtain ⟨⟨key, result⟩, listed, rfl, succeeded⟩ := fromZero
    exact ⟨result, listed, succeeded⟩
  · rintro ⟨result, listed, succeeded⟩
    exact fromOne _ listed succeeded

end World

end NetLab.Ike
