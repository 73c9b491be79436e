import NetLab.Ike.Engine

/-!
# What a negotiation does to the reports

Whether an attempt succeeds depends on configurations only, so it is a verdict on the
world before the call. An attempt that passes brings up its own end and, unless both
sides are IOS or ASA devices, the end that it addressed; one that fails takes a tunnel of
its own down and leaves every other end as it was.
-/

namespace NetLab.Ike

open NetLab.Library Option

variable {session : Session}

/-- The two SPIs that an established end reports, incoming first. -/
abbrev Report := Option (Option Nat × Option Nat)

def Sa.report (sa : Sa) : Report :=
  if sa.status = some .established then some (sa.spiIn, sa.spiOut) else none

/-- The outcome of an attempt; one that passes may be recorded at an end of the peer. -/
inductive Verdict (Device : Type) where
  | fails
  | passes (recordedAt : Option (Device × String))
deriving DecidableEq

/-- What decides an attempt: the own proposal and switches, and the end it leads to.
`records` tells whether a success is recorded at any peer or at tunnels only. -/
structure Attempt (Device : Type) where
  own : Proposal
  ikeOn : Bool
  ipsecOn : Bool
  records : Bool
  lead : Option (Device × Session × PeerView)

/-- Both sides have IKE on and their proposals agree. -/
def Compatible (ikeOn : Bool) (own : Proposal) (view : PeerView) : Prop :=
  ikeOn = true ∧ view.ikeOn = true ∧ phase1Check own view.proposal = none ∧
    phase2Check own view.proposal = none

instance (ikeOn : Bool) (own : Proposal) (view : PeerView) :
    Decidable (Compatible ikeOn own view) :=
  inferInstanceAs (Decidable (_ ∧ _ ∧ _ ∧ _))

/-- An attempt passes if it leads to an end and both sides agree; of IPsec, only the own
switch counts. -/
def Attempt.verdict {Device : Type} (attempt : Attempt Device) : Verdict Device :=
  match attempt.lead with
  | none => .fails
  | some (peer, peerSession, view) =>
    if attempt.ipsecOn = true ∧ Compatible attempt.ikeOn attempt.own view then
      .passes (if attempt.records || peerSession.deviceType.hasTunnels then
        some (peer, view.key) else none)
    else .fails

/-- What an attempt did to the reports of all ends. `keeps` tells whether a failure leaves
the own report as it was. -/
structure Effect {Device : Type} (before after : Device × String → Report)
    (own : Device × String) (keeps : Bool) (verdict : Verdict Device) : Prop where
  others : ∀ place, place ≠ own → verdict ≠ .passes (some place) → after place = before place
  fails : verdict = .fails → after own = if keeps then before own else none
  passes : ∀ recordedAt, verdict = .passes recordedAt → ∃ spis, after own = some spis ∧
    ∀ target, recordedAt = some target → after target = some spis.swap

/-- A tunnel without the algorithms that it shows. -/
def Tunnel.keying (tunnel : Tunnel) : Tunnel :=
  { tunnel with
    proposal := { tunnel.proposal with protocol := none, encryption := none, hash := none } }

/-- A configuration without the algorithms that its tunnels show. -/
def Session.keying (session : Session) : Session :=
  { session with tunnels := session.tunnels.mapValues fun _ tunnel => tunnel.keying }

namespace World

variable {Device : Type} [DecidableEq Device] (world : World Device)

def report (place : Device × String) : Report := (world.sa place.1 place.2).report

/-- The end that a search from one address to another leads to. -/
def search (initiator : Device) (remoteIp localIp : String) :
    Option (Device × Session × PeerView) :=
  (world.findPeer initiator remoteIp).bind fun found =>
    (peerView found.2 remoteIp localIp).map fun view => (found.1, found.2, view)

def tunnelAttempt (initiator : Device) (session : Session) (tunnel : Tunnel) : Attempt Device where
  own := tunnel.proposal
  ikeOn := session.ikeEnabled
  ipsecOn := session.ipsecEnabled
  records := true
  lead :=
    if tunnel.remoteIp.getD "" = "" ∨ tunnel.localIp.getD "" = "" then none
    else world.search initiator (tunnel.remoteIp.getD "") (tunnel.localIp.getD "")

/-- The attempt that an IOS or ASA device makes with a peer address. -/
def cryptoAttempt (initiator : Device) (session : Session) (remoteIp : String) :
    Attempt Device where
  own := ciscoPeerInfo session remoteIp
  ikeOn := session.isakmpEnabled
  ipsecOn := true
  records := false
  lead := world.search initiator remoteIp (getLocalIp session)

variable {world}

/-! ## Reports -/

variable {peer : Device} (device : Device) (key : String) (spis : Option Nat × Option Nat)

theorem sa_updateSa (update : Sa → Sa) (place : Device × String) :
    (world.updateSa device key update).sa place.1 place.2 =
      if place = (device, key) then update (world.sa device key) else world.sa place.1 place.2 := by
  simp only [sa, updateSa, OrderedMap.lookup_insert]
  split <;> rfl

theorem report_updateSa (update : Sa → Sa) (place : Device × String) :
    (world.updateSa device key update).report place =
      if place = (device, key) then (update (world.sa device key)).report
      else world.report place := by
  unfold report
  rw [sa_updateSa]
  split <;> rfl

section

variable {key : String} {update : Sa → Sa} (same : ∀ sa, (update sa).report = sa.report)
include same

theorem report_updateSa_same {device : Device} :
    (world.updateSa device key update).report = world.report := by
  funext place
  rw [report_updateSa]
  split
  · next equal =>
      rw [same, equal]
      rfl
  · rfl

theorem report_updatePeer_same :
    (world.updatePeer peer session key update).report = world.report := by
  unfold updatePeer
  split
  · exact report_updateSa_same same
  · rfl

end

theorem findPeer_some {initiator : Device} {remoteIp : String}
    (found : world.findPeer initiator remoteIp = some (peer, session)) :
    peer ≠ initiator ∧ world.sessions.lookup peer = some session := by
  have listed : (peer, session) ∈ world.sessions.entries.filter fun entry =>
      decide (entry.1 ≠ initiator) && answersAt entry.2 remoteIp := by
    unfold findPeer at found
    dsimp only at found
    split at found
    · next entry preferred =>
        cases found
        exact List.mem_of_find?_eq_some preferred
    · exact List.mem_of_head? found
  obtain ⟨member, passes⟩ := List.mem_filter.mp listed
  refine ⟨?_, OrderedMap.mem_entries_iff.mp member⟩
  simpa using (Bool.and_eq_true_iff.mp passes).1

/-- Taking the own end down is what a failed attempt of a tunnel does. -/
theorem Effect.wait {initiator : Device} {tid : String} {update : Sa → Sa} {reports}
    (down : ∀ sa, (update sa).report = none) (same : reports = world.report) :
    Effect reports (world.updateSa initiator tid update).report (initiator, tid) false .fails := by
  subst same
  refine ⟨fun place other _ => ?_, fun _ => ?_, fun recordedAt passes => by cases passes⟩
  · rw [report_updateSa, if_neg other]
  · rw [report_updateSa, if_pos rfl]
    exact down _

/-- Bringing up the own end and the one that the success is recorded at. -/
theorem Effect.established {own target : Device × String} {update updatePeer : Sa → Sa}
    {keeps : Bool} (other : target ≠ own) (up : ∀ sa, (update sa).report = some spis)
    (peerUp : ∀ sa, (updatePeer sa).report = some spis.swap) :
    Effect world.report
      ((world.updateSa own.1 own.2 update).updateSa target.1 target.2 updatePeer).report own keeps
      (.passes (some target)) := by
  refine ⟨fun place notOwn notTarget => ?_, fun failed => (by cases failed), fun recordedAt passes => ?_⟩
  · have notHere : place ≠ target := fun equal => notTarget (by rw [equal])
    rw [report_updateSa, if_neg notHere, report_updateSa, if_neg notOwn]
  · cases passes
    refine ⟨spis, ?_, fun place equal => ?_⟩
    · rw [report_updateSa, if_neg (Ne.symm other), report_updateSa, if_pos rfl]
      exact up _
    · cases equal
      rw [report_updateSa, if_pos rfl]
      exact peerUp _

theorem Effect.alone {own : Device × String} {update : Sa → Sa} {keeps : Bool}
    (up : ∀ sa, (update sa).report = some spis) :
    Effect world.report (world.updateSa own.1 own.2 update).report own keeps (.passes none) := by
  refine ⟨fun place notOwn _ => ?_, fun failed => (by cases failed), fun recordedAt passes => ?_⟩
  · rw [report_updateSa, if_neg notOwn]
  · cases passes
    refine ⟨spis, ?_, fun place equal => by cases equal⟩
    rw [report_updateSa, if_pos rfl]
    exact up _

/-- What is to know about one attempt that has been made. -/
structure Made (world : World Device) (made : World Device × NegotiationResult)
    (own : Device × String) (keeps : Bool) (verdict : Verdict Device) : Prop where
  effect : Effect world.report made.1.report own keeps verdict
  success : made.2.success = true ↔ verdict ≠ .fails
  sessions : made.1.sessions = world.sessions
  neighbors : made.1.neighbors = world.neighbors

theorem Made.refused {current : World Device} {initiator : Device} {tid : String}
    {update : Sa → Sa} {phase : Nat} {reason : String} {verdict : Verdict Device}
    (failed : verdict = .fails) (down : ∀ sa, (update sa).report = none)
    (reports : current.report = world.report) (sessions : current.sessions = world.sessions)
    (neighbors : current.neighbors = world.neighbors) :
    Made world (current.updateSa initiator tid update, ⟨false, phase, reason⟩) (initiator, tid)
      false verdict := by
  subst failed
  exact ⟨Effect.wait down reports.symm, by simp, sessions, neighbors⟩

variable {attempt : Attempt Device} (world : World Device) (initiator : Device)

theorem sessions_updatePeer (peer : Device) (session : Session) (key : String) (update : Sa → Sa) :
    (world.updatePeer peer session key update).sessions = world.sessions ∧
      (world.updatePeer peer session key update).neighbors = world.neighbors := by
  unfold updatePeer
  split <;> exact ⟨rfl, rfl⟩

omit [DecidableEq Device] in
theorem verdict_of_none (lead : attempt.lead = none) : attempt.verdict = .fails := by
  unfold Attempt.verdict
  rw [lead]

omit [DecidableEq Device] in
theorem verdict_of_refused {view : PeerView} (lead : attempt.lead = some (peer, session, view))
    (refused : ¬ (attempt.ipsecOn = true ∧ Compatible attempt.ikeOn attempt.own view)) :
    attempt.verdict = .fails := by
  unfold Attempt.verdict
  rw [lead]
  exact if_neg refused

omit [DecidableEq Device] in
theorem verdict_of_agreed {view : PeerView} (lead : attempt.lead = some (peer, session, view))
    (agreed : attempt.ipsecOn = true ∧ Compatible attempt.ikeOn attempt.own view) :
    attempt.verdict = .passes (if attempt.records || session.deviceType.hasTunnels then
      some (peer, view.key) else none) := by
  unfold Attempt.verdict
  rw [lead]
  exact if_pos agreed

theorem negotiateTunnel_made (session : Session) (tid : String) (tunnel : Tunnel) :
    Made world (world.negotiateTunnel initiator session tid tunnel) (initiator, tid) false
      (world.tunnelAttempt initiator session tunnel).verdict := by
  have down : ∀ (sa : Sa) (phase1 phase2 : Option Phase),
      Sa.report { sa with status := some .wait, phase1, phase2 } = none := fun _ _ _ => rfl
  have marked : ∀ (sa : Sa) (phase1 : Option Phase),
      Sa.report { sa with phase1 } = sa.report := fun _ _ => rfl
  unfold negotiateTunnel
  dsimp only
  by_cases unset : tunnel.remoteIp.getD "" = "" ∨ tunnel.localIp.getD "" = ""
  · rw [if_pos unset]
    refine .refused (verdict_of_none ?_) (fun sa => down sa _ _) rfl rfl rfl
    exact if_pos unset
  rw [if_neg unset]
  have leadEq : (world.tunnelAttempt initiator session tunnel).lead =
      world.search initiator (tunnel.remoteIp.getD "") (tunnel.localIp.getD "") := if_neg unset
  -- With a switch of its own off, an attempt fails wherever it leads.
  have switchedOff : ¬ (session.ikeEnabled = true ∧ session.ipsecEnabled = true) →
      (world.tunnelAttempt initiator session tunnel).verdict = .fails := by
    intro off
    cases lead : (world.tunnelAttempt initiator session tunnel).lead with
    | none => exact verdict_of_none lead
    | some found =>
      exact verdict_of_refused lead fun agreed => off ⟨agreed.2.1, agreed.1⟩
  by_cases ikeOn : session.ikeEnabled = true
  swap
  · rw [if_pos (by simp [ikeOn])]
    exact .refused (switchedOff fun on => ikeOn on.1) (fun sa => down sa _ _) rfl rfl rfl
  rw [if_neg (by simp [ikeOn])]
  by_cases ipsecOn : session.ipsecEnabled = true
  swap
  · rw [if_pos (by simp [ipsecOn])]
    exact .refused (switchedOff fun on => ipsecOn on.2) (fun sa => down sa _ _) rfl rfl rfl
  rw [if_neg (by simp [ipsecOn])]
  cases found : world.findPeer initiator (tunnel.remoteIp.getD "") with
  | none =>
    refine .refused (verdict_of_none ?_) (fun sa => down sa _ _) rfl rfl rfl
    simp [leadEq, search, found]
  | some entry =>
    obtain ⟨peer, peerSession⟩ := entry
    dsimp only
    cases viewed : peerView peerSession (tunnel.remoteIp.getD "") (tunnel.localIp.getD "") with
    | none =>
      refine .refused (verdict_of_none ?_) (fun sa => down sa _ _) rfl rfl rfl
      simp [leadEq, search, found, viewed]
    | some view =>
      have lead : (world.tunnelAttempt initiator session tunnel).lead =
          some (peer, peerSession, view) := by simp [leadEq, search, found, viewed]
      dsimp only
      by_cases peerOn : view.ikeOn = true
      swap
      · rw [if_pos (by simp [peerOn])]
        exact .refused (verdict_of_refused lead fun agreed => peerOn agreed.2.2.1)
          (fun sa => down sa _ _) rfl rfl rfl
      rw [if_neg (by simp [peerOn])]
      cases phase1 : phase1Check tunnel.proposal view.proposal with
      | some reason =>
        have failed := verdict_of_refused lead fun agreed => by
          have compatible : phase1Check tunnel.proposal view.proposal = none := agreed.2.2.2.1
          rw [phase1] at compatible
          cases compatible
        obtain ⟨sessions, neighbors⟩ := sessions_updatePeer (world.updateSa
          initiator tid fun sa => { sa with status := some .wait, phase1 := some .dying })
          peer peerSession view.key fun sa => { sa with phase1 := some .dying }
        refine ⟨?_, by simp [failed], sessions, neighbors⟩
        dsimp only
        rw [failed, report_updatePeer_same fun sa => marked sa _]
        exact Effect.wait (fun sa => down sa _ _) rfl
      | none =>
        dsimp only
        obtain ⟨agreed, agreedEq⟩ : ∃ agreed, agreed = (world.updateSa initiator tid fun sa =>
                { sa with phase1 := some .mature }).updatePeer peer peerSession view.key
              fun sa => { sa with phase1 := some .mature } := ⟨_, rfl⟩
        have reports : agreed.report = world.report := by
          rw [agreedEq, report_updatePeer_same fun sa => marked sa _]
          exact report_updateSa_same fun sa => marked sa _
        obtain ⟨sessions, neighbors⟩ := sessions_updatePeer (world.updateSa
          initiator tid fun sa => { sa with phase1 := some .mature }) peer peerSession
          view.key fun sa => { sa with phase1 := some .mature }
        rw [← agreedEq] at sessions neighbors ⊢
        cases phase2 : phase2Check tunnel.proposal view.proposal with
        | some reason =>
          refine .refused (verdict_of_refused lead fun agreed => ?_)
            (fun sa => down sa _ _) reports sessions neighbors
          have compatible : phase2Check tunnel.proposal view.proposal = none :=
            agreed.2.2.2.2
          rw [phase2] at compatible
          cases compatible
        | none =>
          have passes := verdict_of_agreed lead ⟨ipsecOn, ikeOn, peerOn, phase1, phase2⟩
          have other : (peer, view.key) ≠ (initiator, tid) := fun equal =>
            (findPeer_some found).1 (congrArg Prod.fst equal)
          refine ⟨?_, by simp [passes], sessions, neighbors⟩
          rw [passes, ← reports]
          exact Effect.established (_, _) other (fun _ => rfl) fun _ => rfl

theorem negotiateCrypto_made (session : Session) (remoteIp : String) :
    Made world (world.negotiateCrypto initiator session remoteIp) (initiator, remoteIp) true
      (world.cryptoAttempt initiator session remoteIp).verdict := by
  have refused : ∀ (phase : Nat) (reason : String),
      (world.cryptoAttempt initiator session remoteIp).verdict = .fails →
      Made world (world, ⟨false, phase, reason⟩) (initiator, remoteIp) true
        (world.cryptoAttempt initiator session remoteIp).verdict := by
    intro phase reason failed
    rw [failed]
    exact ⟨⟨fun _ _ _ => rfl, fun _ => rfl, fun recordedAt passes => by cases passes⟩, by simp,
      rfl, rfl⟩
  -- Where there is no agreement, the attempt fails wherever it leads.
  have noAgreement : (∀ view : PeerView,
      ¬ Compatible session.isakmpEnabled (ciscoPeerInfo session remoteIp) view) →
      (world.cryptoAttempt initiator session remoteIp).verdict = .fails := by
    intro never
    cases lead : (world.cryptoAttempt initiator session remoteIp).lead with
    | none => exact verdict_of_none lead
    | some found => exact verdict_of_refused lead fun agreed => never _ agreed.2
  unfold negotiateCrypto
  dsimp only
  by_cases isakmpOn : session.isakmpEnabled = true
  swap
  · rw [if_pos (by simp [isakmpOn])]
    exact refused _ _ (noAgreement fun view compatible => isakmpOn compatible.1)
  rw [if_neg (by simp [isakmpOn])]
  by_cases noKey : (ciscoPeerInfo session remoteIp).preshared = ""
  · rw [if_pos noKey]
    refine refused _ _ (noAgreement fun view compatible => ?_)
    have phase1 := compatible.2.2.1
    simp [phase1Check, noKey] at phase1
  rw [if_neg noKey]
  cases found : world.findPeer initiator remoteIp with
  | none =>
    refine refused _ _ (verdict_of_none ?_)
    simp [cryptoAttempt, search, found]
  | some entry =>
    obtain ⟨peer, peerSession⟩ := entry
    dsimp only
    cases viewed : peerView peerSession remoteIp (getLocalIp session) with
    | none =>
      refine refused _ _ (verdict_of_none ?_)
      simp [cryptoAttempt, search, found, viewed]
    | some view =>
      have lead : (world.cryptoAttempt initiator session remoteIp).lead =
          some (peer, peerSession, view) := by simp [cryptoAttempt, search, found, viewed]
      by_cases peerOn : view.ikeOn = true
      swap
      · simp only [Option.filter, peerOn]
        exact refused _ _ (verdict_of_refused lead fun agreed => peerOn agreed.2.2.1)
      simp only [Option.filter, peerOn, if_true]
      cases phase1 : phase1Check (ciscoPeerInfo session remoteIp) view.proposal with
      | some reason =>
        refine refused _ _ (verdict_of_refused lead fun agreed => ?_)
        have compatible : phase1Check (ciscoPeerInfo session remoteIp) view.proposal = none :=
          agreed.2.2.2.1
        rw [phase1] at compatible
        cases compatible
      | none =>
        cases phase2 : phase2Check (ciscoPeerInfo session remoteIp) view.proposal with
        | some reason =>
          refine refused _ _ (verdict_of_refused lead fun agreed => ?_)
          have compatible : phase2Check (ciscoPeerInfo session remoteIp) view.proposal = none :=
            agreed.2.2.2.2
          rw [phase2] at compatible
          cases compatible
        | none =>
          have passes := verdict_of_agreed lead ⟨rfl, isakmpOn, peerOn, phase1, phase2⟩
          have other : (peer, view.key) ≠ (initiator, remoteIp) := fun equal =>
            (findPeer_some found).1 (congrArg Prod.fst equal)
          have notAlways : (world.cryptoAttempt initiator session remoteIp).records =
            false := rfl
          rw [notAlways, Bool.false_or] at passes
          dsimp only
          obtain ⟨sessions, neighbors⟩ := sessions_updatePeer
            (world.updateSa initiator remoteIp fun sa =>
              { sa with
                status := some .established, phase1 := some .mature
                phase2 := some .mature
                spiIn := some (world.textHash (getLocalIp session ++ remoteIp) % 2 ^ 32)
                spiOut := some (world.textHash (getLocalIp session ++ remoteIp) >>> 4 % 2 ^ 32) })
            peer peerSession view.key fun sa =>
              { sa with
                status := some .established, phase1 := some .mature
                phase2 := some .mature
                spiIn := some (world.textHash (getLocalIp session ++ remoteIp) >>> 4 % 2 ^ 32)
                spiOut := some (world.textHash (getLocalIp session ++ remoteIp) % 2 ^ 32) }
          refine ⟨?_, by simp [passes], sessions, neighbors⟩
          rw [passes]
          cases tunnels : peerSession.deviceType.hasTunnels with
          | true =>
            simp only [updatePeer, tunnels, if_true]
            exact Effect.established (_, _) other (fun _ => rfl) fun _ => rfl
          | false =>
            simp only [updatePeer, tunnels, Bool.false_eq_true, if_false]
            change Effect world.report (world.updateSa (initiator, remoteIp).1
              (initiator, remoteIp).2 _).report (initiator, remoteIp) true (.passes none)
            exact Effect.alone (_, _) fun _ => rfl

/-! ## Manual keys -/

def manualSearch (world : World Device) (initiator : Device) (remoteIp localIp : String) :
    Option ((Device × String) × ManualDirection × ManualDirection) :=
  (world.findPeer initiator remoteIp).bind fun found =>
    ((sirTunnelInfo found.2 remoteIp localIp).filter fun entry =>
      entry.2.ipsecType == some "manual").map fun entry =>
        ((found.1, entry.1), entry.2.manualSend, entry.2.manualReceive)

def ManualAgrees (tunnel : Tunnel) (peerSend peerReceive : ManualDirection) : Prop :=
  manualKeyMatches tunnel.manualSend peerReceive = none ∧
    manualKeyMatches peerSend tunnel.manualReceive = none

instance (tunnel : Tunnel) (peerSend peerReceive : ManualDirection) :
    Decidable (ManualAgrees tunnel peerSend peerReceive) :=
  inferInstanceAs (Decidable (_ ∧ _))

/-- The outcome for a tunnel, when it is a manually keyed one. -/
def manualVerdict (world : World Device) (initiator : Device) (tunnel : Tunnel) :
    Option (Verdict Device) :=
  if tunnel.ipsecType ≠ some "manual" then none
  else if tunnel.localIp.getD "" = "" ∨ tunnel.remoteIp.getD "" = "" then some .fails
  else if manualSaCreatable tunnel.manualSend = true ∧
      manualSaCreatable tunnel.manualReceive = true then
    match world.manualSearch initiator (tunnel.remoteIp.getD "") (tunnel.localIp.getD "") with
    | none => some .fails
    | some (place, peerSend, peerReceive) =>
      if ManualAgrees tunnel peerSend peerReceive then some (.passes (some place))
      else some .fails
  else some .fails

theorem spi_eq_of_manualKeyMatches {localD peerD : ManualDirection}
    (agree : manualKeyMatches localD peerD = none) : localD.spi = peerD.spi := by
  unfold manualKeyMatches at agree
  dsimp only at agree
  by_contra different
  by_cases protocol : localD.protocol = peerD.protocol
  · rw [if_neg (not_not.mpr protocol), if_pos different] at agree
    cases agree
  · rw [if_pos protocol] at agree
    cases agree

/-- The configuration that manual keying reads: the shown algorithms are left out. -/
def keying (world : World Device) : OrderedMap Device Session :=
  world.sessions.mapValues fun _ session => session.keying

theorem keying_showManual (device : Device) (tid : String) (send : ManualDirection) :
    (world.showManual device tid send).keying = world.keying := by
  refine OrderedMap.mapValues_modify (fun _ session => Session.keying session) fun session => ?_
  dsimp only
  unfold Session.keying
  congr 1
  exact OrderedMap.mapValues_modify (fun _ tunnel => Tunnel.keying tunnel) fun tunnel => rfl

theorem findPeer_keying (remoteIp : String) :
    (world.findPeer initiator remoteIp).map (fun found => (found.1, found.2.keying)) =
      { world with sessions := world.keying }.findPeer initiator remoteIp := by
  have kept : ∀ entry : Device × Session,
      answersAt entry.2.keying remoteIp = answersAt entry.2 remoteIp := by
    intro entry
    unfold answersAt
    simp [Session.keying, OrderedMap.values, OrderedMap.mapValues, Tunnel.keying, Function.comp_def]
  have entries : world.keying.entries =
      world.sessions.entries.map fun entry => (entry.1, entry.2.keying) := rfl
  have filtered : (world.keying.entries.filter fun entry =>
      decide (entry.1 ≠ initiator) && answersAt entry.2 remoteIp) =
      (world.sessions.entries.filter fun entry =>
        decide (entry.1 ≠ initiator) && answersAt entry.2 remoteIp).map
          fun entry => (entry.1, entry.2.keying) := by
    rw [entries, List.filter_map]
    congr 1
    exact List.filter_congr fun entry _ => by simp [kept]
  unfold findPeer
  dsimp only
  rw [filtered, List.find?_map, List.head?_map]
  simp only [Function.comp_def]
  cases (world.sessions.entries.filter fun entry =>
      decide (entry.1 ≠ initiator) && answersAt entry.2 remoteIp).find? fun entry =>
        decide (entry.1 ∈ world.neighbors initiator) with
  | none => rfl
  | some entry => rfl

theorem sirTunnelInfo_keying (session : Session) (localIp remoteIp : String) :
    sirTunnelInfo session.keying localIp remoteIp =
      (sirTunnelInfo session localIp remoteIp).map fun entry => (entry.1, entry.2.keying) := by
  have entries : session.keying.tunnels.entries =
      session.tunnels.entries.map fun entry => (entry.1, entry.2.keying) := rfl
  have sameType : session.keying.deviceType = session.deviceType := rfl
  unfold sirTunnelInfo
  rw [entries, sameType, List.find?_map]
  split <;> rfl

theorem manualSearch_congr {first second : World Device} (keying : first.keying = second.keying)
    (neighbors : first.neighbors = second.neighbors) (initiator : Device)
    (remoteIp localIp : String) :
    first.manualSearch initiator remoteIp localIp =
      second.manualSearch initiator remoteIp localIp := by
  have found : (first.findPeer initiator remoteIp).map (fun found => (found.1, found.2.keying)) =
      (second.findPeer initiator remoteIp).map fun found => (found.1, found.2.keying) := by
    rw [findPeer_keying, findPeer_keying, keying]
    unfold findPeer
    rw [neighbors]
  -- Only the part of a tunnel that showing leaves alone is returned.
  have viaKeying : ∀ found : Option (Device × Session), (found.bind fun found =>
        ((sirTunnelInfo found.2 remoteIp localIp).filter fun entry =>
          entry.2.ipsecType == some "manual").map fun entry =>
            ((found.1, entry.1), entry.2.manualSend, entry.2.manualReceive)) =
      (found.map fun found => (found.1, found.2.keying)).bind fun found =>
        ((sirTunnelInfo found.2 remoteIp localIp).filter fun entry =>
          entry.2.ipsecType == some "manual").map fun entry =>
            ((found.1, entry.1), entry.2.manualSend, entry.2.manualReceive) := by
    intro found
    cases found with
    | none => rfl
    | some entry =>
      simp only [bind_some, map_some, sirTunnelInfo_keying]
      cases sirTunnelInfo entry.2 remoteIp localIp with
      | none => rfl
      | some tunnel =>
        simp only [map_some, Option.filter, Tunnel.keying]
        split <;> rfl
  unfold manualSearch
  rw [viaKeying, viaKeying (second.findPeer initiator remoteIp), found]

/-- What is to know about one manual tunnel that has been handled. -/
structure ManualMade (world : World Device) (made : World Device × Option NegotiationResult)
    (own : Device × String) (verdict : Option (Verdict Device)) : Prop where
  skipped : verdict = none → made.1.report = world.report
  effect : ∀ outcome, verdict = some outcome → Effect world.report made.1.report own false outcome
  keying : made.1.keying = world.keying
  neighbors : made.1.neighbors = world.neighbors

theorem negotiateManual_made (tid : String) (tunnel : Tunnel) :
    ManualMade world (world.negotiateManual initiator tid tunnel) (initiator, tid)
      (world.manualVerdict initiator tunnel) := by
  have waits : ∀ result : Option NegotiationResult,
      ManualMade world (world.updateSa initiator tid fun sa => { sa with status := some .wait },
        result) (initiator, tid) (some .fails) := by
    intro result
    refine ⟨fun skipped => (by cases skipped), fun outcome equal => ?_, rfl, rfl⟩
    cases equal
    exact Effect.wait (fun _ => rfl) rfl
  unfold negotiateManual manualVerdict
  dsimp only
  by_cases manual : tunnel.ipsecType ≠ some "manual"
  · rw [if_pos manual, if_pos manual]
    refine ⟨fun _ => rfl, fun outcome equal => ?_, rfl, rfl⟩
    cases equal
  rw [if_neg manual, if_neg manual]
  by_cases unset : tunnel.localIp.getD "" = "" ∨ tunnel.remoteIp.getD "" = ""
  · rw [if_pos unset, if_pos unset]
    exact waits _
  rw [if_neg unset, if_neg unset]
  by_cases creatable : manualSaCreatable tunnel.manualSend = true ∧
      manualSaCreatable tunnel.manualReceive = true
  swap
  · rw [if_neg creatable, if_pos (by
      rw [Bool.or_eq_true, Bool.not_eq_true', Bool.not_eq_true', ← Bool.not_eq_true,
        ← Bool.not_eq_true]
      tauto)]
    exact waits _
  rw [if_pos creatable, if_neg (by simp [creatable])]
  unfold manualSearch
  cases found : world.findPeer initiator (tunnel.remoteIp.getD "") with
  | none => exact waits _
  | some entry =>
    obtain ⟨peer, peerSession⟩ := entry
    dsimp only [bind_some]
    cases viewed : (sirTunnelInfo peerSession (tunnel.remoteIp.getD "")
        (tunnel.localIp.getD "")).filter fun entry => entry.2.ipsecType == some "manual" with
    | none => exact waits _
    | some peerEntry =>
      obtain ⟨peerTid, peerTunnel⟩ := peerEntry
      dsimp only [map_some]
      by_cases agrees : ManualAgrees tunnel peerTunnel.manualSend peerTunnel.manualReceive
      swap
      · rw [if_neg agrees]
        cases combined : (manualKeyMatches tunnel.manualSend peerTunnel.manualReceive).or
            (manualKeyMatches peerTunnel.manualSend tunnel.manualReceive) with
        | none => exact absurd (or_eq_none_iff.mp combined) agrees
        | some reason => exact waits _
      rw [if_pos agrees, agrees.1, agrees.2]
      have other : (peer, peerTid) ≠ (initiator, tid) := fun equal =>
        (findPeer_some found).1 (congrArg Prod.fst equal)
      have out := spi_eq_of_manualKeyMatches agrees.1
      have in_ := spi_eq_of_manualKeyMatches agrees.2
      refine ⟨fun skipped => (by cases skipped), fun outcome equal => ?_, ?_, rfl⟩
      · cases equal
        have reports : ∀ first second : Sa → Sa,
            ((((world.updateSa initiator tid first).showManual initiator tid
              tunnel.manualSend).updateSa peer peerTid second).showManual peer peerTid
                peerTunnel.manualSend).report =
            ((world.updateSa (initiator, tid).1 (initiator, tid).2 first).updateSa
              (peer, peerTid).1 (peer, peerTid).2 second).report := fun _ _ => rfl
        dsimp only [none_or]
        rw [reports]
        refine Effect.established (some (tunnel.manualReceive.spi.getD 0),
          some (tunnel.manualSend.spi.getD 0)) other (fun _ => rfl) fun _ => ?_
        rw [out, ← in_]
        rfl
      · dsimp only [none_or]
        rw [keying_showManual]
        change (((world.updateSa initiator tid _).showManual initiator tid _).keying) = _
        rw [keying_showManual]
        rfl

end World

end NetLab.Ike
