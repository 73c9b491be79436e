import NetLab.Ike.Negotiation

/-!
# Negotiations in lockstep

A negotiation writes what devices report and does not read it. A relation between two worlds
that each write keeps is therefore kept by whole negotiations.
-/

namespace NetLab.Ike

open NetLab.Library

variable {Device : Type} [DecidableEq Device]

/-- The status and the phase 2 that an update sets, where it sets any. -/
structure Writes (update : Sa → Sa) (status : Option Status) (phase2 : Option Phase) : Prop where
  status : ∀ sa, (update sa).status = status.or sa.status
  phase2 : ∀ sa, (update sa).phase2 = phase2.or sa.phase2

namespace World

/-- The worlds differ in what devices report only. -/
def SameSetup (first second : World Device) : Prop := { first with sas := second.sas } = second

def recordedEnds (world : World Device) (device : Device) : List String :=
  (world.sas.keys.filter fun entry => decide (entry.1 = device)).map Prod.snd

/-- A relation that makes two negotiations take the same course, and that each of their writes
keeps. -/
structure Lockstep (related : World Device → World Device → Prop) : Prop where
  setup : ∀ {first second}, related first second → SameSetup first second
  peers : ∀ {first second}, related first second → ∀ device session,
    first.sessions.lookup device = some session → session.deviceType.hasCrypto = true →
      first.recordedEnds device = second.recordedEnds device
  write : ∀ {first second}, related first second → ∀ device key {update} status phase2,
    Writes update status phase2 →
      related (first.updateSa device key update) (second.updateSa device key update)
  manual : ∀ {first second}, related first second → ∀ device tid send,
    related (first.showManual device tid send) (second.showManual device tid send)

namespace SameSetup

omit [DecidableEq Device] in
theorem refl (world : World Device) : SameSetup world world := rfl

omit [DecidableEq Device] in
theorem symm {first second : World Device} (same : SameSetup first second) :
    SameSetup second first := by
  unfold SameSetup at same ⊢
  rw [← same]

omit [DecidableEq Device] in
theorem trans {first second third : World Device} (same : SameSetup first second)
    (next : SameSetup second third) : SameSetup first third := by
  unfold SameSetup at same next ⊢
  rw [← next, ← same]

theorem updateSa (world : World Device) (device : Device) (key : String) (update : Sa → Sa) :
    SameSetup world (world.updateSa device key update) := rfl

theorem showManual {first second : World Device} (same : SameSetup first second)
    (device : Device) (tid : String) (send : ManualDirection) :
    SameSetup (first.showManual device tid send) (second.showManual device tid send) := by
  unfold SameSetup at same ⊢
  rw [← same]
  rfl

variable {first second : World Device} (same : SameSetup first second)

include same

omit [DecidableEq Device] in
theorem sessions_eq : second.sessions = first.sessions := by
  rw [← same]

omit [DecidableEq Device] in
theorem textHash_eq : second.textHash = first.textHash := by
  rw [← same]

theorem findPeer_eq (localId : Device) (remoteIp : String) :
    second.findPeer localId remoteIp = first.findPeer localId remoteIp := by
  rw [← same]
  rfl

end SameSetup

omit [DecidableEq Device] in
theorem negotiateEach_related (related : World Device → World Device → Prop)
    {first second : World Device} {Item : Type} (name : Item → String)
    {handle : World Device → Item → World Device × Option NegotiationResult}
    (keeps : ∀ {first second}, related first second → ∀ item,
      related (handle first item).1 (handle second item).1)
    (items : List Item) (kept : related first second) :
    related (World.negotiateEach name handle first items).1
      (World.negotiateEach name handle second items).1 := by
  induction items generalizing first second with
  | nil => exact kept
  | cons item rest ih => exact ih (keeps kept item)

namespace Lockstep

variable {related : World Device → World Device → Prop} (lockstep : Lockstep related)
  {first second : World Device}

include lockstep

section

variable (kept : related first second)
include kept

theorem updatePeer {update : Sa → Sa} (peer : Device) (session : Session) (key : String)
    (status : Option Status) (phase2 : Option Phase) (writes : Writes update status phase2) :
    related (first.updatePeer peer session key update)
      (second.updatePeer peer session key update) := by
  unfold World.updatePeer
  split
  · exact lockstep.write kept peer key status phase2 writes
  · exact kept

variable (initiator : Device) (session : Session) (tid : String) (tunnel : Tunnel)

theorem negotiateTunnel : related (first.negotiateTunnel initiator session tid tunnel).1
      (second.negotiateTunnel initiator session tid tunnel).1 := by
  have setup := lockstep.setup kept
  have refused : related (first.updateSa initiator tid fun sa =>
        { sa with status := some .wait, phase1 := some .larval })
      (second.updateSa initiator tid fun sa =>
        { sa with status := some .wait, phase1 := some .larval }) := by
    refine lockstep.write kept initiator tid (some .wait) none ?_
    exact ⟨fun _ => rfl, fun _ => rfl⟩
  unfold World.negotiateTunnel
  dsimp only
  rw [setup.findPeer_eq, setup.textHash_eq]
  split_ifs
  · dsimp only
    refine lockstep.write kept initiator tid (some .wait) (some .larval) ?_
    exact ⟨fun _ => rfl, fun _ => rfl⟩
  · exact refused
  · exact refused
  rcases first.findPeer initiator (tunnel.remoteIp.getD "") with _ | ⟨peer, peerSession⟩
  · exact refused
  dsimp only
  rcases peerView peerSession (tunnel.remoteIp.getD "") (tunnel.localIp.getD "") with _ | view
  · exact refused
  dsimp only
  split_ifs
  · exact refused
  have phase1 : ∀ phase : Phase, Writes (fun sa => { sa with phase1 := some phase }) none none :=
    fun _ => ⟨fun _ => rfl, fun _ => rfl⟩
  rcases phase1Check tunnel.proposal view.proposal with _ | reason
  · have agreed := lockstep.updatePeer (lockstep.write kept initiator tid none none
      (phase1 .mature)) peer peerSession view.key none none (phase1 .mature)
    dsimp only
    rcases phase2Check tunnel.proposal view.proposal with _ | reason
    · dsimp only
      refine lockstep.write (lockstep.write agreed initiator tid (some .established)
        (some .mature) ?_) peer view.key (some .established) (some .mature) ?_
      · exact ⟨fun _ => rfl, fun _ => rfl⟩
      · exact ⟨fun _ => rfl, fun _ => rfl⟩
    · dsimp only
      refine lockstep.write agreed initiator tid (some .wait) (some .dying) ?_
      exact ⟨fun _ => rfl, fun _ => rfl⟩
  · dsimp only
    refine lockstep.updatePeer (lockstep.write kept initiator tid (some .wait) none ?_) peer
      peerSession view.key none none (phase1 .dying)
    exact ⟨fun _ => rfl, fun _ => rfl⟩

theorem negotiateCrypto (remoteIp : String) :
    related (first.negotiateCrypto initiator session remoteIp).1
      (second.negotiateCrypto initiator session remoteIp).1 := by
  have setup := lockstep.setup kept
  unfold World.negotiateCrypto
  dsimp only
  rw [setup.findPeer_eq, setup.textHash_eq]
  split_ifs
  · exact kept
  · exact kept
  rcases first.findPeer initiator remoteIp with _ | ⟨peer, peerSession⟩
  · exact kept
  dsimp only
  rcases (peerView peerSession remoteIp (getLocalIp session)).filter PeerView.ikeOn with _ | view
  · exact kept
  dsimp only
  rcases phase1Check (ciscoPeerInfo session remoteIp) view.proposal with _ | reason
  · dsimp only
    rcases phase2Check (ciscoPeerInfo session remoteIp) view.proposal with _ | reason
    · dsimp only
      refine lockstep.updatePeer (lockstep.write kept initiator remoteIp (some .established)
        (some .mature) ?_) peer peerSession view.key (some .established) (some .mature) ?_
      · exact ⟨fun _ => rfl, fun _ => rfl⟩
      · exact ⟨fun _ => rfl, fun _ => rfl⟩
    · exact kept
  · exact kept

theorem negotiateManual : related (first.negotiateManual initiator tid tunnel).1
      (second.negotiateManual initiator tid tunnel).1 := by
  have setup := lockstep.setup kept
  have waits : related (first.updateSa initiator tid fun sa => { sa with status := some .wait })
      (second.updateSa initiator tid fun sa => { sa with status := some .wait }) := by
    refine lockstep.write kept initiator tid (some .wait) none ?_
    exact ⟨fun _ => rfl, fun _ => rfl⟩
  unfold World.negotiateManual
  dsimp only
  rw [setup.findPeer_eq]
  split_ifs
  · exact kept
  · exact waits
  · exact waits
  rcases first.findPeer initiator (tunnel.remoteIp.getD "") with _ | ⟨peer, peerSession⟩
  · exact waits
  dsimp only
  generalize Option.filter _ (sirTunnelInfo peerSession (tunnel.remoteIp.getD "")
    (tunnel.localIp.getD "")) = peerEnd
  rcases peerEnd with _ | ⟨peerTid, peerTunnel⟩
  · exact waits
  dsimp only
  rcases (manualKeyMatches tunnel.manualSend peerTunnel.manualReceive).or
      (manualKeyMatches peerTunnel.manualSend tunnel.manualReceive) with _ | reason
  · dsimp only
    refine lockstep.manual (lockstep.write (lockstep.manual (lockstep.write kept initiator tid
      (some .established) (some .mature) ?_) initiator tid tunnel.manualSend) peer peerTid
      (some .established) (some .mature) ?_) peer peerTid peerTunnel.manualSend
    · exact ⟨fun _ => rfl, fun _ => rfl⟩
    · exact ⟨fun _ => rfl, fun _ => rfl⟩
  · exact waits

/-- A device that has no tunnels asks all peers; both worlds know the same ones. -/
theorem allPeers_eq {device : Device} {session : Session}
    (found : first.sessions.lookup device = some session)
    (crypto : session.deviceType.hasCrypto = true) :
    second.allPeers device session = first.allPeers device session := by
  have same := lockstep.peers kept device session found crypto
  unfold recordedEnds at same
  unfold World.allPeers
  rw [same]

theorem negotiateIpsec :
    related (first.negotiateIpsec initiator).1 (second.negotiateIpsec initiator).1 := by
  have setup := lockstep.setup kept
  unfold World.negotiateIpsec
  rw [setup.sessions_eq]
  cases found : first.sessions.lookup initiator with
  | none => exact kept
  | some session =>
    dsimp only
    split_ifs with tunnels crypto
    · exact negotiateEach_related related Prod.fst
        (fun kept entry => lockstep.negotiateTunnel kept initiator session entry.1 entry.2) _ kept
    · rw [lockstep.allPeers_eq kept found crypto]
      exact negotiateEach_related related id
        (fun kept remoteIp => lockstep.negotiateCrypto kept initiator session remoteIp) _ kept
    · exact kept

theorem negotiateManualIpsec : related (first.negotiateManualIpsec initiator).1
      (second.negotiateManualIpsec initiator).1 := by
  have setup := lockstep.setup kept
  unfold World.negotiateManualIpsec
  rw [setup.sessions_eq]
  cases first.sessions.lookup initiator with
  | none => exact kept
  | some session =>
    dsimp only
    split_ifs
    · exact negotiateEach_related related Prod.fst
        (fun kept entry => lockstep.negotiateManual kept initiator entry.1 entry.2) _ kept
    · exact kept

end

end Lockstep

/-! ## The same writes -/

theorem mem_recordedEnds {world : World Device} {device : Device} {key : String} :
    key ∈ world.recordedEnds device ↔ (device, key) ∈ world.sas.keys := by
  simp [recordedEnds]

theorem recordedEnds_updateSa (world : World Device) (device other : Device) (key : String)
    (update : Sa → Sa) : (world.updateSa device key update).recordedEnds other =
      if other = device ∧ key ∉ world.recordedEnds device then world.recordedEnds other ++ [key]
      else world.recordedEnds other := by
  simp only [mem_recordedEnds]
  simp only [recordedEnds, World.updateSa, OrderedMap.keys_insert]
  by_cases known : (device, key) ∈ world.sas.keys
  · simp [known]
  · by_cases here : other = device
    · subst here
      simp [known, List.filter_append]
    · simp [known, here, Ne.symm here, List.filter_append]

def outline (world : World Device) (device : Device) : Option (DeviceType × List String) :=
  (world.sessions.lookup device).map fun session => (session.deviceType, session.tunnels.keys)

/-- Two worlds that came about by the same writes from two given ones. -/
structure Together (origin other first second : World Device) : Prop where
  setup : SameSetup first second
  outline : first.outline = origin.outline
  peers : ∀ device session, first.sessions.lookup device = some session →
    session.deviceType.hasCrypto = true → first.recordedEnds device = second.recordedEnds device
  writes : ∀ device key, ∃ (status : Option Status) (phase2 : Option Phase),
    ((first.sa device key).status = status.or (origin.sa device key).status ∧
      (first.sa device key).phase2 = phase2.or (origin.sa device key).phase2) ∧
    ((second.sa device key).status = status.or (other.sa device key).status ∧
      (second.sa device key).phase2 = phase2.or (other.sa device key).phase2)

theorem outline_showManual (world : World Device) (device : Device) (tid : String)
    (send : ManualDirection) : (world.showManual device tid send).outline = world.outline := by
  funext other
  unfold outline World.showManual
  rw [OrderedMap.lookup_modify]
  split
  · cases world.sessions.lookup other <;> simp
  · rfl

/-- Nothing written so far. -/
theorem Together.start {origin other : World Device} (setup : SameSetup origin other)
    (peers : ∀ device session, origin.sessions.lookup device = some session →
      session.deviceType.hasCrypto = true →
        origin.recordedEnds device = other.recordedEnds device) :
    Together origin other origin other :=
  ⟨setup, rfl, peers, fun _ _ => ⟨none, none, ⟨rfl, rfl⟩, rfl, rfl⟩⟩

theorem lockstep_together (origin other : World Device) : Lockstep (Together origin other) where
  setup together := together.setup
  peers together := together.peers
  write := by
    intro first second together device key update status phase2 writes
    refine ⟨?_, together.outline, ?_, ?_⟩
    · exact ((SameSetup.updateSa first device key update).symm.trans together.setup).trans
        (.updateSa second device key update)
    · intro asked session found crypto
      have same := together.peers asked session found crypto
      rw [recordedEnds_updateSa, recordedEnds_updateSa, same]
      by_cases here : asked = device
      · rw [← here, same]
      · simp [here]
    · intro asked tid
      have firstPlace : (first.updateSa device key update).sa asked tid =
          if (asked, tid) = (device, key) then update (first.sa device key)
          else first.sa asked tid := sa_updateSa device key update (asked, tid)
      have secondPlace : (second.updateSa device key update).sa asked tid =
          if (asked, tid) = (device, key) then update (second.sa device key)
          else second.sa asked tid := sa_updateSa device key update (asked, tid)
      obtain ⟨oldStatus, oldPhase, ⟨status1, phase1⟩, status2, phase2'⟩ :=
        together.writes asked tid
      rw [firstPlace, secondPlace]
      split
      · rename_i here
        cases here
        refine ⟨status.or oldStatus, phase2.or oldPhase, ⟨?_, ?_⟩, ?_, ?_⟩
        · rw [writes.status, status1, Option.or_assoc]
        · rw [writes.phase2, phase1, Option.or_assoc]
        · rw [writes.status, status2, Option.or_assoc]
        · rw [writes.phase2, phase2', Option.or_assoc]
      · exact ⟨oldStatus, oldPhase, ⟨status1, phase1⟩, status2, phase2'⟩
  manual := by
    intro first second together device tid send
    refine ⟨together.setup.showManual device tid send,
      (outline_showManual first device tid send).trans together.outline, ?_, together.writes⟩
    intro asked session found crypto
    have same := congrFun (outline_showManual first device tid send) asked
    unfold World.outline at same
    rw [found, Option.map_some] at same
    obtain ⟨before, known, sameType⟩ := Option.map_eq_some_iff.mp same.symm
    refine together.peers asked before known ?_
    rwa [(Prod.mk.inj sameType).1]

end World

end NetLab.Ike
