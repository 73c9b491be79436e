import NetLab.Library.Execution
import NetLab.Network.VirtualNetwork

/-!
# PPPoE sessions

A BAS leases addresses of its pool to the routers that dial in. Three tables
record a session: the leased addresses and the sessions of the BAS, and the
session of each router's pp interface. `accounting_iff` characterises the runs in
which the three agree.
-/

namespace NetLab.Access

open NetLab.Library NetLab.Network NetLab.Execution Option
open OrderedMap

variable {dial : Dial}

/-- A pp interface is numbered on some routers and named on others. -/
inductive PpId where
  | number (value : Nat)
  | name (value : String)
deriving DecidableEq

/-- How a pp id appears in a session id. -/
def PpId.text : PpId → String
  | .number value => toString value
  | .name value => value

/-- Session id of a router's pp interface. -/
def sessionId (rtx : String) (ppId : PpId) : String := rtx ++ "-pp" ++ ppId.text

/-- A live session in the table of a BAS. -/
structure BasSession where
  rtxId : String
  ip : Nat
  ppId : PpId
deriving DecidableEq

/-- A BAS with its pool, its users and its sessions. -/
structure BasNode where
  pool : Option (Nat × Nat) := none
  prefixLength : Nat := 32
  users : OrderedMap String String := .empty
  leased : List Nat := []
  sessions : OrderedMap String BasSession := .empty

/-- The session of a pp interface, as its router sees it. -/
structure PpSession where
  basId : String
  ip : Nat
  prefixLength : Nat
  sessionId : String
deriving DecidableEq

/-- The PPPoE engine: the BAS devices, and the session of each pp interface. -/
structure PppoeEngine where
  nodes : OrderedMap String BasNode := .empty
  ppSessions : OrderedMap (String × PpId) PpSession := .empty

/-- The first free address of the pool. -/
def BasNode.allocIp (bas : BasNode) : Option Nat :=
  bas.pool.bind fun (first, last) =>
    (List.range' first (last + 1 - first)).find? fun ip => decide (ip ∉ bas.leased)

def BasNode.open (bas : BasNode) (id : String) (session : BasSession) : BasNode :=
  { bas with
    leased := session.ip :: bas.leased
    sessions := bas.sessions.insert id session }

/-- End a session and free its address. -/
def BasNode.close (bas : BasNode) (id : String) (ip : Nat) : BasNode :=
  { bas with
    leased := bas.leased.filter fun leased => decide (leased ≠ ip)
    sessions := bas.sessions.erase id }

/-- The surroundings of the engine: links, and which devices are BASes. -/
structure AccessNetwork where
  network : VirtualNetwork String
  isBas : String → Bool

/-- What a router dials with. -/
structure Dial where
  rtx : String
  ppId : PpId
  iface : String
  username : String
  password : String
deriving DecidableEq

namespace PppoeEngine

variable (engine : PppoeEngine) (access : AccessNetwork)

/-- The BAS that takes a call, and the address it offers: the first one behind the
interface that accepts the password and has an address left. -/
def answering (dial : Dial) : Option (String × BasNode × Nat) :=
  (access.network.getNeighbors dial.rtx).findSome? fun peer =>
    if access.network.interfaceLinks dial.rtx peer = some dial.iface ∧ access.isBas peer then
      (engine.nodes.lookup peer).bind fun bas =>
        if bas.users.lookup dial.username = some dial.password then
          bas.allocIp.map fun ip => (peer, bas, ip)
        else none
    else none

/-- Dial in: authentication, address and session in one step. -/
def connect (dial : Dial) : PppoeEngine × Option PpSession :=
  match engine.answering access dial with
  | none => (engine, none)
  | some (peer, bas, ip) =>
    let id := sessionId dial.rtx dial.ppId
    let result : PpSession := { basId := peer, ip, prefixLength := bas.prefixLength, sessionId := id }
    ({ nodes := engine.nodes.insert peer (bas.open id { rtxId := dial.rtx, ip, ppId := dial.ppId })
       ppSessions := engine.ppSessions.insert (dial.rtx, dial.ppId) result },
      some result)

/-- Hang up. -/
def disconnect (rtx : String) (ppId : PpId) : PppoeEngine × Option PpSession :=
  match engine.ppSessions.lookup (rtx, ppId) with
  | none => (engine, none)
  | some session =>
    ({ nodes := engine.nodes.modify session.basId fun bas => bas.close session.sessionId session.ip
       ppSessions := engine.ppSessions.erase (rtx, ppId) },
      some session)

/-- Change the configuration of a BAS, which is created on first use. -/
def configure (device : String) (update : BasNode → BasNode) : PppoeEngine :=
  { engine with nodes := engine.nodes.insert device (update ((engine.nodes.lookup device).getD {})) }

end PppoeEngine

/-- Calls of the engine. -/
inductive PppoeEvent where
  | setPool (bas : String) (first last prefixLength : Nat)
  | addUser (bas username password : String)
  | connect (dial : Dial)
  | disconnect (rtx : String) (ppId : PpId)

/-- One call. -/
def PppoeEngine.step (access : AccessNetwork) (engine : PppoeEngine) : PppoeEvent → PppoeEngine
  | .setPool bas first last prefixLength =>
    engine.configure bas fun node => { node with pool := some (first, last), prefixLength }
  | .addUser bas username password =>
    engine.configure bas fun node => { node with users := node.users.insert username password }
  | .connect dial => (engine.connect access dial).1
  | .disconnect rtx ppId => (engine.disconnect rtx ppId).1

/-! ## Accounting -/

/-- The leased addresses are those of the live sessions, each of one session. -/
structure BasNode.Accounted (bas : BasNode) : Prop where
  leased_iff : ∀ ip, ip ∈ bas.leased ↔ ∃ id session, bas.sessions.lookup id = some session ∧
    session.ip = ip
  distinct : ∀ first firstSession second secondSession,
    bas.sessions.lookup first = some firstSession →
    bas.sessions.lookup second = some secondSession →
    firstSession.ip = secondSession.ip → first = second

/-- The tables of the routers and of the BASes list the same sessions. -/
structure PppoeEngine.Accounted (engine : PppoeEngine) : Prop where
  node : ∀ device bas, engine.nodes.lookup device = some bas → bas.Accounted
  atBas : ∀ key session, engine.ppSessions.lookup key = some session →
    ∃ bas, engine.nodes.lookup session.basId = some bas ∧
      bas.sessions.lookup session.sessionId = some ⟨key.1, session.ip, key.2⟩
  atRouter : ∀ device bas id live, engine.nodes.lookup device = some bas →
    bas.sessions.lookup id = some live →
    ∃ session, engine.ppSessions.lookup (live.rtxId, live.ppId) = some session ∧
      session.basId = device ∧ session.sessionId = id ∧ session.ip = live.ip

/-- A call that succeeds is made by a pp interface without a session, under a session
id that the answering BAS does not use. -/
def PppoeEngine.DialsFresh (access : AccessNetwork) (engine : PppoeEngine) : PppoeEvent → Prop
  | .connect dial =>
    ∀ peer bas ip, engine.answering access dial = some (peer, bas, ip) →
      engine.ppSessions.lookup (dial.rtx, dial.ppId) = none ∧
        bas.sessions.lookup (sessionId dial.rtx dial.ppId) = none
  | _ => True

/-- Sessions are kept under the ids made from their routers and pp interfaces. -/
structure PppoeEngine.Named (engine : PppoeEngine) : Prop where
  atRouter : ∀ key session, engine.ppSessions.lookup key = some session →
    session.sessionId = sessionId key.1 key.2
  atBas : ∀ device bas id live, engine.nodes.lookup device = some bas →
    bas.sessions.lookup id = some live → id = sessionId live.rtxId live.ppId

/-! ## One BAS -/

namespace BasNode

variable {bas : BasNode} {id : String} {session : BasSession}

theorem not_mem_leased_of_allocIp {ip : Nat} (offered : bas.allocIp = some ip) :
    ip ∉ bas.leased := by
  obtain ⟨range, -, found⟩ := bind_eq_some_iff.mp offered
  simpa using List.find?_some found

theorem Accounted.open (accounted : bas.Accounted) (free : session.ip ∉ bas.leased)
    (fresh : bas.sessions.lookup id = none) : (bas.open id session).Accounted where
  leased_iff := by
    intro ip
    have before := accounted.leased_iff ip
    constructor
    · intro member
      rcases List.mem_cons.mp member with rfl | old
      · exact ⟨id, session, lookup_insert_self _ _ _, rfl⟩
      · obtain ⟨other, live, isLive, same⟩ := before.mp old
        have different : other ≠ id := by
          rintro rfl
          cases fresh.symm.trans isLive
        exact ⟨other, live, (lookup_insert_of_ne _ _ different).trans isLive, same⟩
    · rintro ⟨other, live, isLive, rfl⟩
      change (bas.sessions.insert id session).lookup other = some live at isLive
      rw [lookup_insert] at isLive
      split at isLive
      · cases isLive
        exact List.mem_cons_self
      · exact List.mem_cons_of_mem _ (before.mpr ⟨other, live, isLive, rfl⟩)
  distinct := by
    intro first firstSession second secondSession isFirst isSecond same
    change (bas.sessions.insert id session).lookup _ = _ at isFirst isSecond
    have isOld : ∀ other live, bas.sessions.lookup other = some live → live.ip ≠ session.ip :=
      fun other live isLive equal =>
        free (equal ▸ (accounted.leased_iff live.ip).mpr ⟨other, live, isLive, rfl⟩)
    rw [lookup_insert] at isFirst isSecond
    split at isFirst <;> split at isSecond
    · rename_i firstIs secondIs
      exact firstIs.trans secondIs.symm
    · cases isFirst
      exact absurd same.symm (isOld second secondSession isSecond)
    · cases isSecond
      exact absurd same (isOld first firstSession isFirst)
    · exact accounted.distinct first firstSession second secondSession isFirst isSecond same

theorem Accounted.not_open {live : BasSession} (accounted : bas.Accounted)
    (free : session.ip ∉ bas.leased) (taken : bas.sessions.lookup id = some live) :
    ¬ (bas.open id session).Accounted := by
  intro stays
  have isLeased : live.ip ∈ bas.leased := (accounted.leased_iff live.ip).mpr ⟨id, live, taken, rfl⟩
  obtain ⟨other, found, isFound, same⟩ :=
    (stays.leased_iff live.ip).mp (List.mem_cons_of_mem _ isLeased)
  change (bas.sessions.insert id session).lookup other = some found at isFound
  rw [lookup_insert] at isFound
  split at isFound
  · cases isFound
    exact free (same ▸ isLeased)
  · exact absurd (accounted.distinct other found id live isFound taken same) ‹_›

theorem Accounted.close (accounted : bas.Accounted) (isLive : bas.sessions.lookup id = some session) :
    (bas.close id session.ip).Accounted where
  leased_iff := by
    intro ip
    change ip ∈ bas.leased.filter _ ↔ ∃ other live, (bas.sessions.erase id).lookup other = _ ∧ _
    simp only [List.mem_filter, decide_eq_true_eq, lookup_erase, accounted.leased_iff ip]
    constructor
    · rintro ⟨⟨other, live, isOther, rfl⟩, different⟩
      refine ⟨other, live, ?_, rfl⟩
      rw [if_neg, isOther]
      rintro rfl
      cases isLive.symm.trans isOther
      exact different rfl
    · rintro ⟨other, live, isOther, rfl⟩
      split at isOther
      · cases isOther
      · refine ⟨⟨other, live, isOther, rfl⟩, fun same => ?_⟩
        exact absurd (accounted.distinct other live id session isOther isLive same) ‹_›
  distinct := by
    intro first firstSession second secondSession isFirst isSecond same
    change (bas.sessions.erase id).lookup _ = _ at isFirst isSecond
    rw [lookup_erase] at isFirst isSecond
    split at isFirst
    · cases isFirst
    · split at isSecond
      · cases isSecond
      · exact accounted.distinct first firstSession second secondSession isFirst isSecond same

end BasNode

/-! ## One call -/

namespace PppoeEngine

variable {engine : PppoeEngine} {access : AccessNetwork}

variable {peer : String} {bas : BasNode} {ip : Nat}

theorem answering_eq_some (answers : engine.answering access dial = some (peer, bas, ip)) :
    engine.nodes.lookup peer = some bas ∧ ip ∉ bas.leased := by
  obtain ⟨other, -, found⟩ := List.exists_of_findSome?_eq_some answers
  split at found
  · obtain ⟨node, isNode, rest⟩ := bind_eq_some_iff.mp found
    split at rest
    · obtain ⟨offered, isOffered, same⟩ := map_eq_some_iff.mp rest
      cases same
      exact ⟨isNode, BasNode.not_mem_leased_of_allocIp isOffered⟩
    · cases rest
  · cases found

/-- A call that no BAS takes changes nothing. -/
theorem connect_of_unanswered (unanswered : engine.answering access dial = none) :
    (engine.connect access dial).1 = engine := by
  simp [connect, unanswered]

/-- What a successful call stores. -/
theorem connect_of_answered (answers : engine.answering access dial = some (peer, bas, ip)) :
    (engine.connect access dial).1 =
      { nodes := engine.nodes.insert peer
          (bas.open (sessionId dial.rtx dial.ppId) ⟨dial.rtx, ip, dial.ppId⟩)
        ppSessions := engine.ppSessions.insert (dial.rtx, dial.ppId)
          ⟨peer, ip, bas.prefixLength, sessionId dial.rtx dial.ppId⟩ } := by
  simp [connect, answers]

theorem accounted_configure {device : String} {update : BasNode → BasNode}
    (leased : ∀ bas, (update bas).leased = bas.leased)
    (sessions : ∀ bas, (update bas).sessions = bas.sessions)
    (accounted : engine.Accounted) : (engine.configure device update).Accounted := by
  have fresh : (({} : BasNode)).Accounted :=
    ⟨fun ip => iff_of_false List.not_mem_nil (by rintro ⟨_, _, impossible, _⟩; cases impossible),
      fun _ _ _ _ impossible => (by cases impossible)⟩
  have updated : ∀ bas : BasNode, bas.Accounted → (update bas).Accounted := fun bas holds =>
    ⟨by simpa only [leased, sessions] using holds.leased_iff,
      by simpa only [sessions] using holds.distinct⟩
  refine ⟨fun other bas found => ?_, fun key session isSession => ?_,
    fun other bas id live found isLive => ?_⟩
  · simp only [configure, lookup_insert] at found
    split at found
    · cases found
      cases before : engine.nodes.lookup device with
      | none => exact updated _ fresh
      | some bas => exact updated _ (accounted.node device bas before)
    · exact accounted.node other bas found
  · obtain ⟨bas, isNode, isLive⟩ := accounted.atBas key session isSession
    simp only [configure, lookup_insert]
    split
    · rename_i same
      refine ⟨_, rfl, ?_⟩
      rw [sessions, ← same, isNode]
      exact isLive
    · exact ⟨bas, isNode, isLive⟩
  · simp only [configure, lookup_insert] at found
    split at found
    · rename_i same
      cases found
      rw [sessions] at isLive
      cases before : engine.nodes.lookup device with
      | none =>
        rw [before] at isLive
        cases isLive
      | some bas =>
        rw [before] at isLive
        rw [same]
        exact accounted.atRouter device bas id live before isLive
    · exact accounted.atRouter other bas id live found isLive

/-- A fresh call keeps the tables in agreement. -/
theorem accounted_connect (accounted : engine.Accounted)
    (answers : engine.answering access dial = some (peer, bas, ip))
    (newAtRouter : engine.ppSessions.lookup (dial.rtx, dial.ppId) = none)
    (newAtBas : bas.sessions.lookup (sessionId dial.rtx dial.ppId) = none) :
    (engine.connect access dial).1.Accounted := by
  obtain ⟨isNode, free⟩ := answering_eq_some answers
  rw [connect_of_answered answers]
  refine ⟨fun other node found => ?_, fun key session isSession => ?_,
    fun other node id live found isLive => ?_⟩
  · rw [lookup_insert] at found
    split at found
    · cases found
      exact (accounted.node peer bas isNode).open free newAtBas
    · exact accounted.node other node found
  · simp only [lookup_insert] at isSession ⊢
    split at isSession
    · cases isSession
      refine ⟨_, if_pos rfl, ?_⟩
      rename_i same
      rw [same]
      exact lookup_insert_self _ _ _
    · obtain ⟨node, isOther, isLive⟩ := accounted.atBas key session isSession
      by_cases same : session.basId = peer
      · rw [same, isNode] at isOther
        cases isOther
        refine ⟨_, if_pos same, ?_⟩
        change (bas.sessions.insert _ _).lookup _ = _
        rw [lookup_insert_of_ne _ _ fun equal => ?_]
        · exact isLive
        · rw [equal, newAtBas] at isLive
          cases isLive
      · exact ⟨node, (if_neg same).trans isOther, isLive⟩
  · have kept : ∀ node : BasNode, engine.nodes.lookup other = some node →
        node.sessions.lookup id = some live →
        ∃ session, (engine.ppSessions.insert (dial.rtx, dial.ppId)
          ⟨peer, ip, bas.prefixLength, sessionId dial.rtx dial.ppId⟩).lookup
            (live.rtxId, live.ppId) = some session ∧
          session.basId = other ∧ session.sessionId = id ∧ session.ip = live.ip := by
      intro node isOther isLive
      obtain ⟨session, isSession, facts⟩ := accounted.atRouter other node id live isOther isLive
      refine ⟨session, ?_, facts⟩
      rw [lookup_insert_of_ne _ _ fun equal => ?_]
      · exact isSession
      · rw [equal, newAtRouter] at isSession
        cases isSession
    simp only [lookup_insert] at found
    split at found
    · rename_i same
      cases found
      change (bas.sessions.insert _ _).lookup id = some live at isLive
      rw [lookup_insert] at isLive
      split at isLive
      · rename_i isNew
        cases isLive
        exact ⟨_, lookup_insert_self _ _ _, same.symm, isNew.symm, rfl⟩
      · exact kept bas (same ▸ isNode) isLive
    · exact kept node found isLive

/-- Only a fresh call keeps the tables in agreement. -/
theorem fresh_of_accounted_connect (named : engine.Named) (accounted : engine.Accounted)
    (answers : engine.answering access dial = some (peer, bas, ip))
    (stays : (engine.connect access dial).1.Accounted) :
    engine.ppSessions.lookup (dial.rtx, dial.ppId) = none ∧
      bas.sessions.lookup (sessionId dial.rtx dial.ppId) = none := by
  obtain ⟨isNode, free⟩ := answering_eq_some answers
  rw [connect_of_answered answers] at stays
  have newAtBas : bas.sessions.lookup (sessionId dial.rtx dial.ppId) = none := by
    rw [eq_none_iff_forall_ne_some]
    intro live taken
    exact (accounted.node peer bas isNode).not_open free taken
      (stays.node peer _ (lookup_insert_self _ _ _))
  refine ⟨?_, newAtBas⟩
  rw [eq_none_iff_forall_ne_some]
  intro old isOld
  obtain ⟨node, isOther, isLive⟩ := accounted.atBas _ old isOld
  have oldId := named.atRouter _ old isOld
  have elsewhere : old.basId ≠ peer := by
    intro same
    rw [same, isNode] at isOther
    cases isOther
    rw [oldId, newAtBas] at isLive
    cases isLive
  obtain ⟨session, isSession, atOld, -⟩ := stays.atRouter old.basId node old.sessionId _
    ((lookup_insert_of_ne _ _ elsewhere).trans isOther) isLive
  cases (lookup_insert_self _ _ _).symm.trans isSession
  exact elsewhere atOld.symm

/-- Hanging up keeps the tables in agreement. -/
theorem accounted_disconnect (accounted : engine.Accounted) (rtx : String) (ppId : PpId) :
    (engine.disconnect rtx ppId).1.Accounted := by
  cases isSession : engine.ppSessions.lookup (rtx, ppId) with
  | none => simpa [disconnect, isSession] using accounted
  | some session =>
    obtain ⟨bas, isNode, isLive⟩ := accounted.atBas _ session isSession
    simp only [disconnect, isSession]
    refine ⟨fun other node found => ?_, fun key live isKey => ?_,
      fun other node id live found isOther => ?_⟩
    · rw [lookup_modify_of_found _ _ isNode, lookup_insert] at found
      split at found
      · cases found
        exact (accounted.node _ bas isNode).close isLive
      · exact accounted.node other node found
    · rw [lookup_erase] at isKey
      split at isKey
      · cases isKey
      · obtain ⟨node, isOther, isLive'⟩ := accounted.atBas key live isKey
        rw [lookup_modify_of_found _ _ isNode, lookup_insert]
        split
        · rename_i different same
          rw [same, isNode] at isOther
          cases isOther
          refine ⟨_, rfl, ?_⟩
          change (bas.sessions.erase session.sessionId).lookup live.sessionId = _
          rw [lookup_erase, if_neg fun equal => ?_]
          · exact isLive'
          · rw [equal, isLive] at isLive'
            simp only [Option.some.injEq, BasSession.mk.injEq] at isLive'
            exact different (Prod.ext isLive'.1.symm isLive'.2.2.symm)
        · exact ⟨node, isOther, isLive'⟩
    · have kept : ∀ node : BasNode, engine.nodes.lookup other = some node →
          node.sessions.lookup id = some live →
          (live.rtxId, live.ppId) ≠ (rtx, ppId) →
          ∃ found, (engine.ppSessions.erase (rtx, ppId)).lookup (live.rtxId, live.ppId) =
            some found ∧ found.basId = other ∧ found.sessionId = id ∧ found.ip = live.ip := by
        intro node isBefore isThere different
        obtain ⟨found, isFound, facts⟩ := accounted.atRouter other node id live isBefore isThere
        exact ⟨found, (lookup_erase _ _ _).trans ((if_neg different).trans isFound), facts⟩
      rw [lookup_modify_of_found _ _ isNode, lookup_insert] at found
      split at found
      · rename_i same
        cases found
        change (bas.sessions.erase session.sessionId).lookup id = some live at isOther
        rw [lookup_erase] at isOther
        split at isOther
        · cases isOther
        · rename_i different
          refine kept bas (same ▸ isNode) isOther fun equal => ?_
          obtain ⟨found, isFound, -, isId, -⟩ :=
            accounted.atRouter other bas id live (same ▸ isNode) isOther
          rw [equal, isSession] at isFound
          cases isFound
          exact different isId.symm
      · rename_i different
        refine kept node found isOther fun equal => ?_
        obtain ⟨found', isFound, isDevice, -⟩ := accounted.atRouter other node id live found isOther
        rw [equal, isSession] at isFound
        cases isFound
        exact different isDevice.symm

/-- Session ids stay those of their routers and pp interfaces. -/
theorem named_step (named : engine.Named) (event : PppoeEvent) :
    (engine.step access event).Named := by
  have configured : ∀ device (update : BasNode → BasNode),
      (∀ bas, (update bas).sessions = bas.sessions) → (engine.configure device update).Named := by
    intro device update sessions
    refine ⟨named.atRouter, fun other bas id live found isLive => ?_⟩
    simp only [configure, lookup_insert] at found
    split at found
    · cases found
      rw [sessions] at isLive
      cases before : engine.nodes.lookup device with
      | none =>
        rw [before] at isLive
        cases isLive
      | some bas =>
        rw [before] at isLive
        exact named.atBas device bas id live before isLive
    · exact named.atBas other bas id live found isLive
  cases event with
  | setPool bas first last prefixLength =>
    rw [step]
    exact configured bas _ fun _ => rfl
  | addUser bas username password =>
    rw [step]
    exact configured bas _ fun _ => rfl
  | connect dial =>
    cases answers : engine.answering access dial with
    | none =>
      rw [step, connect_of_unanswered answers]
      exact named
    | some answer =>
      obtain ⟨peer, bas, ip⟩ := answer
      rw [step, connect_of_answered answers]
      refine ⟨fun key session isSession => ?_, fun other node id live found isLive => ?_⟩
      · simp only [lookup_insert] at isSession
        split at isSession
        · rename_i same
          cases isSession
          rw [same]
        · exact named.atRouter key session isSession
      · simp only [lookup_insert] at found
        split at found
        · cases found
          change (bas.sessions.insert _ _).lookup id = some live at isLive
          rw [lookup_insert] at isLive
          split at isLive
          · rename_i isNew
            cases isLive
            exact isNew
          · exact named.atBas peer bas id live (answering_eq_some answers).1 isLive
        · exact named.atBas other node id live found isLive
  | disconnect rtx ppId =>
    cases isSession : engine.ppSessions.lookup (rtx, ppId) with
    | none => simpa [step, disconnect, isSession] using named
    | some session =>
      simp only [step, disconnect, isSession]
      refine ⟨fun key live isKey => ?_, fun other node id live found isLive => ?_⟩
      · rw [lookup_erase] at isKey
        split at isKey
        · cases isKey
        · exact named.atRouter key live isKey
      · rw [lookup_modify] at found
        split at found
        · obtain ⟨bas, isNode, rfl⟩ := map_eq_some_iff.mp found
          change (bas.sessions.erase _).lookup id = some live at isLive
          rw [lookup_erase] at isLive
          split at isLive
          · cases isLive
          · exact named.atBas other bas id live isNode isLive
        · exact named.atBas other node id live found isLive

/-- From tables in agreement, a call keeps them so exactly if it dials fresh. -/
theorem accounted_step_iff (named : engine.Named) (accounted : engine.Accounted)
    (event : PppoeEvent) :
    (engine.step access event).Accounted ↔ engine.DialsFresh access event := by
  cases event with
  | setPool bas first last prefixLength =>
    rw [step]
    exact iff_of_true (accounted_configure (fun _ => rfl) (fun _ => rfl) accounted) trivial
  | addUser bas username password =>
    rw [step]
    exact iff_of_true (accounted_configure (fun _ => rfl) (fun _ => rfl) accounted) trivial
  | connect dial =>
    cases answers : engine.answering access dial with
    | none =>
      rw [step, connect_of_unanswered answers]
      refine iff_of_true accounted fun peer bas ip impossible => ?_
      cases answers.symm.trans impossible
    | some answer =>
      obtain ⟨peer, bas, ip⟩ := answer
      constructor
      · intro stays peer' bas' ip' answers'
        exact fresh_of_accounted_connect named accounted answers' stays
      · intro fresh
        obtain ⟨newAtRouter, newAtBas⟩ := fresh peer bas ip answers
        exact accounted_connect accounted answers newAtRouter newAtBas
  | disconnect rtx ppId => exact iff_of_true (accounted_disconnect accounted rtx ppId) trivial

/-- The three tables agree throughout a run exactly if every call that succeeds is
made by an interface without a session, under a session id not in use. -/
theorem accounting_iff (access : AccessNetwork) (events : List PppoeEvent) :
    Throughout (step access) Accounted {} events ↔
      Along (step access) (DialsFresh access) {} events := by
  refine throughout_iff_along (fun state event named => named_step named event)
    (fun state event named accounted => accounted_step_iff named accounted event) ?_ ?_ events
  · exact ⟨fun _ _ impossible => (by cases impossible),
      fun _ _ _ _ impossible => (by cases impossible)⟩
  · exact ⟨fun _ _ impossible => (by cases impossible), fun _ _ impossible => (by cases impossible),
      fun _ _ _ _ impossible => (by cases impossible)⟩

/-! ## A call repeated -/

/-- Router R behind one BAS. -/
def dialUp : AccessNetwork where
  network :=
    { links := ⟨[("R", ["BAS"])], by decide⟩
      interfaceLinks := fun device peer =>
        if device = "R" ∧ peer = "BAS" then some "lan2" else none
      linkIfaces := fun _ _ => []
      downInterfaces := fun _ => []
      subifVlans := fun _ => []
      vlanPorts := fun _ => []
      deviceIps := .empty }
  isBas device := device == "BAS"

/-- The call of router R on pp 1. -/
def call : Dial := ⟨"R", .number 1, "lan2", "user", "secret"⟩

/-- The BAS is configured and the router dials in twice. -/
def dialledTwice : List PppoeEvent :=
  [.setPool "BAS" 10 20 29, .addUser "BAS" "user" "secret", .connect call, .connect call]

/-- The address of the first call stays leased and belongs to no session. -/
theorem repeated_connect_leaks : ¬ (runFrom (step dialUp) {} dialledTwice).Accounted := by
  intro accounted
  have tables : ((runFrom (step dialUp) {} dialledTwice).nodes.lookup "BAS").map
      (fun bas => (bas.leased, bas.sessions.entries)) =
        some ([11, 10], [("R-pp1", ⟨"R", 11, .number 1⟩)]) := by
    decide +kernel
  obtain ⟨bas, found, same⟩ := map_eq_some_iff.mp tables
  obtain ⟨leased, sessions⟩ := Prod.mk.inj same
  have isLeased : 10 ∈ bas.leased := by
    rw [leased]
    decide
  obtain ⟨id, live, isLive, isIp⟩ := ((accounted.node "BAS" bas found).leased_iff 10).mp isLeased
  have listed := mem_entries_iff.mpr isLive
  rw [sessions, List.mem_singleton] at listed
  cases listed
  exact absurd isIp (by decide)

end PppoeEngine

end NetLab.Access
