import NetLab.Bigip.VirtualServer

/-!
# Member selection by concurrent connections

Source-address persistence and least-connections balancing, each over several steps of a thread,
when the steps of other threads come between. `selections_undisturbed` has both promises for the
runs in which nothing comes between that matters.
-/

namespace NetLab.Bigip

open NetLab.Library NetLab.Execution List World

def Selection.isWithin (selection previous : Selection) : Prop :=
  selection.readings.now - previous.readings.now ≤ selection.readings.timeout.getD 0

/-- Every later selection of the client found the member healthy and came within its timeout of
an earlier one. The selections are listed newest first. -/
def Unbroken (first : Selection) : List Selection → Prop
  | [] => True
  | selection :: earlier =>
    (selection.clientIp = first.clientIp → first.member ∈ selection.readings.healthy.members ∧
        ∃ previous ∈ earlier ++ [first],
          previous.clientIp = first.clientIp ∧ selection.isWithin previous) ∧
    Unbroken first earlier

/-- A client stays with its member as long as the member is healthy and the client comes back
within the timeout. -/
def Pinned (history : List Selection) : Prop :=
  ∀ later first earlier, history = later ++ first :: earlier → Unbroken first later →
    ∀ selection ∈ later, selection.clientIp = first.clientIp → selection.member = first.member

def latest (history : List Selection) (clientIp : String) : Option Selection :=
  history.find? fun selection => selection.clientIp = clientIp

/-- The selection follows the client's latest one, if that member is healthy and any of the
client's selections is recent enough. -/
def Follows (selection : Selection) (earlier : List Selection) : Prop :=
  ∀ last, latest earlier selection.clientIp = some last →
    last.member ∈ selection.readings.healthy.members →
    (∃ previous ∈ earlier, previous.clientIp = selection.clientIp ∧ selection.isWithin previous) →
    selection.member = last.member

def Sticky : List Selection → Prop
  | [] => True
  | selection :: earlier => Follows selection earlier ∧ Sticky earlier

theorem latest_append (later : List Selection) (first : Selection) (earlier : List Selection) :
    ∃ last ∈ later ++ [first], last.clientIp = first.clientIp ∧
      latest (later ++ first :: earlier) first.clientIp = some last := by
  induction later with
  | nil => exact ⟨first, by simp, rfl, by simp [latest]⟩
  | cons selection later ih =>
    by_cases same : selection.clientIp = first.clientIp
    · exact ⟨selection, by simp, same, by simp [latest, same]⟩
    · obtain ⟨last, member, client, found⟩ := ih
      refine ⟨last, mem_cons_of_mem _ member, client, ?_⟩
      simpa [latest, same] using found

/-- Following the latest selection each time, a client stays with its first member. -/
theorem Sticky.pinned {history : List Selection} (sticky : Sticky history) : Pinned history := by
  rintro later first earlier rfl unbroken
  induction later with
  | nil => simp
  | cons selection later ih =>
    obtain ⟨follows, before⟩ := sticky
    have stayed := ih before unbroken.2
    intro other member client
    rcases mem_cons.mp member with rfl | inLater
    · obtain ⟨healthy, previous, inTail, previousClient, recent⟩ := unbroken.1 client
      obtain ⟨last, lastMember, lastClient, found⟩ := latest_append later first earlier
      have lastStayed : last.member = first.member := by
        rcases mem_append.mp lastMember with inLater | isFirst
        · exact stayed last inLater lastClient
        · rw [mem_singleton.mp isFirst]
      rw [← lastStayed]
      refine follows last (client ▸ found) (lastStayed ▸ healthy) ⟨previous, ?_, ?_, recent⟩
      · rcases mem_append.mp inTail with inLater | isFirst
        · exact mem_append_left _ inLater
        · rw [mem_singleton.mp isFirst]
          exact mem_append_right _ mem_cons_self
      · rw [previousClient, client]
    · exact stayed other inLater client

/-- What a thread that writes its client's entry next had read, and the pinned member it found. -/
def Connection.pending (connection : Connection) : Option (Readings × Option Member) :=
  match connection.phase with
  | .pinned readings member => some (readings, some member)
  | .balanced readings _ =>
    if readings.persists connection.clientIp then some (readings, none) else none
  | _ => none

/-- Nothing came between that matters to the entry the thread writes next: its client, looked up
again, has the same pinned member, and nobody has written a later time. -/
def Connection.Undisturbed (proxy : VirtualServerProxy) (connection : Connection) : Prop :=
  ∀ pending ∈ connection.pending, proxy.pinnedMember connection.clientIp pending.1 = pending.2 ∧
      ∀ entry ∈ proxy.affinity.lookup connection.clientIp, entry.2 ≤ pending.1.now

instance (proxy : VirtualServerProxy) (connection : Connection) :
    Decidable (connection.Undisturbed proxy) :=
  inferInstanceAs (Decidable (∀ pending ∈ connection.pending, _ ∧ _))

/-- The thread that takes a step is undisturbed. -/
def World.Undisturbed (world : World) (event : Event) : Prop :=
  ∀ connection ∈ world.moving event, connection.Undisturbed world.proxy

instance (world : World) (event : Event) : Decidable (world.Undisturbed event) :=
  inferInstanceAs (Decidable (∀ connection ∈ world.moving event, _))

theorem VirtualServerProxy.pinnedMember_eq_some {proxy : VirtualServerProxy} {clientIp : String}
    {readings : Readings} {member : Member}
    (found : proxy.pinnedMember clientIp readings = some member) :
    ∃ lastSeen, proxy.affinity.lookup clientIp = some (member, lastSeen) := by
  unfold pinnedMember at found
  split at found
  case isFalse => cases found
  case isTrue =>
    cases entry : proxy.affinity.lookup clientIp with
    | none => simp [entry] at found
    | some pair =>
      simp only [entry, Option.ite_none_right_eq_some, Option.some.injEq] at found
      obtain ⟨-, rfl⟩ := found
      exact ⟨pair.2, rfl⟩

theorem VirtualServerProxy.pinnedMember_of_lookup {proxy : VirtualServerProxy} {clientIp : String}
    {readings : Readings} {member : Member} {lastSeen : Nat}
    (entry : proxy.affinity.lookup clientIp = some (member, lastSeen))
    (persists : readings.persists clientIp = true) (healthy : member ∈ readings.healthy.members)
    (recent : readings.now - lastSeen ≤ readings.timeout.getD 0) :
    proxy.pinnedMember clientIp readings = some member := by
  simp only [pinnedMember, persists, if_true, entry, healthy, recent, and_self]

/-- What a thread completes next is what it has pending: the pinned member it found, or under
persistence a balanced one. -/
theorem Connection.pending_of_completes {connection : Connection} {selection : Selection}
    (completes : connection.completes = some selection) :
    selection.clientIp = connection.clientIp ∧
      (connection.pending = some (selection.readings, some selection.member) ∨
        connection.pending = some (selection.readings, none) ∧
          selection.readings.persists connection.clientIp = true) := by
  obtain ⟨clientIp, phase⟩ := connection
  cases phase with
  | pinned readings member =>
    obtain rfl := Option.some.inj completes
    exact ⟨rfl, .inl rfl⟩
  | balanced readings member =>
    simp only [Connection.completes, Option.ite_none_right_eq_some, Option.some.injEq] at completes
    obtain ⟨persists, rfl⟩ := completes
    exact ⟨rfl, .inr ⟨by simp [pending, persists], persists⟩⟩
  | _ => cases completes

theorem affinity_advance (surroundings : Surroundings) (clock : Nat) (proxy : VirtualServerProxy)
    (connection : Connection) :
    (connection.advance surroundings clock proxy).1.affinity = match connection.completes with
      | none => proxy.affinity
      | some selection =>
        proxy.affinity.insert selection.clientIp (selection.member, selection.readings.now) := by
  obtain ⟨clientIp, phase⟩ := connection
  cases phase with
  | accepted =>
    simp only [Connection.advance, Connection.completes]
    split <;> rfl
  | timed readings =>
    simp only [Connection.advance, Connection.completes]
    split <;> rfl
  | balancing readings mode => cases mode <;> rfl
  | balanced readings member =>
    simp only [Connection.advance, Connection.completes]
    split <;> rfl
  | counted member =>
    simp only [Connection.advance, Connection.completes]
    split <;> rfl
  | _ => rfl

theorem now_le_latest {history : List Selection} {last previous : Selection}
    (ordered : history.Pairwise fun later earlier =>
      later.clientIp = earlier.clientIp → earlier.readings.now ≤ later.readings.now)
    (found : latest history previous.clientIp = some last) (member : previous ∈ history) :
    previous.readings.now ≤ last.readings.now := by
  obtain ⟨client, newer, older, rfl, others⟩ := find?_eq_some_iff_append.mp found
  have client : last.clientIp = previous.clientIp := by simpa using client
  rcases mem_append.mp member with isNewer | isOlder
  · simpa using others previous isNewer
  · rcases mem_cons.mp isOlder with rfl | isOlder
    · exact le_rfl
    · have fromLast := (pairwise_append.mp ordered).2.1
      exact rel_of_pairwise_cons fromLast isOlder client

/-- What undisturbed threads keep up: the affinity table has the latest selection of every client,
which no other of its selections is later than, and every selection follows those before it. -/
structure World.Faithful (world : World) : Prop where
  entries : ∀ clientIp, world.proxy.affinity.lookup clientIp =
    (latest world.history clientIp).map fun last => (last.member, last.readings.now)
  ordered : world.history.Pairwise fun later earlier =>
    later.clientIp = earlier.clientIp → earlier.readings.now ≤ later.readings.now
  sticky : Sticky world.history

theorem faithful_initial : initial.Faithful :=
  ⟨fun _ => rfl, .nil, trivial⟩

namespace World.Faithful

variable {world : World} {connection : Connection} {selection : Selection}

section

variable (faithful : world.Faithful) (undisturbed : connection.Undisturbed world.proxy)
  (completes : connection.completes = some selection)
include faithful undisturbed completes

theorem now_le (previous : Selection) (member : previous ∈ world.history)
    (client : previous.clientIp = selection.clientIp) :
    previous.readings.now ≤ selection.readings.now := by
  obtain ⟨clientIp, pending⟩ := connection.pending_of_completes completes
  have lastSeen : ∀ entry ∈ world.proxy.affinity.lookup selection.clientIp,
      entry.2 ≤ selection.readings.now := by
    rw [clientIp]
    rcases pending with pending | ⟨pending, -⟩
    · exact (undisturbed _ pending).2
    · exact (undisturbed _ pending).2
  cases found : latest world.history previous.clientIp with
  | none => simpa using find?_eq_none.mp found previous member
  | some last =>
    have entry := faithful.entries previous.clientIp
    rw [found, client] at entry
    exact (now_le_latest faithful.ordered found member).trans (lastSeen _ entry)

theorem follows : Follows selection world.history := by
  obtain ⟨clientIp, pending⟩ := connection.pending_of_completes completes
  rintro last found healthy ⟨previous, member, client, recent⟩
  have entry : world.proxy.affinity.lookup connection.clientIp =
      some (last.member, last.readings.now) := by
    rw [← clientIp, faithful.entries, found]
    rfl
  rcases pending with pending | ⟨pending, persists⟩
  · -- The pinned member is that of the client's entry.
    have again := (undisturbed _ pending).1
    obtain ⟨lastSeen, entry'⟩ := VirtualServerProxy.pinnedMember_eq_some again
    rw [entry] at entry'
    exact (congrArg Prod.fst (Option.some.inj entry')).symm
  · -- Looked up again, the entry would still be usable, but it is not.
    have notBefore := now_le_latest faithful.ordered (client ▸ found) member
    have stillRecent : selection.readings.now - last.readings.now ≤
        selection.readings.timeout.getD 0 :=
      (Nat.sub_le_sub_left notBefore _).trans recent
    have usable := VirtualServerProxy.pinnedMember_of_lookup entry persists healthy stillRecent
    rw [(undisturbed _ pending).1] at usable
    cases usable

end

theorem advance {id : Nat} {surroundings : Surroundings} (faithful : world.Faithful)
    (undisturbed : world.Undisturbed (.advance id surroundings)) :
    (world.handle (.advance id surroundings)).Faithful := by
  cases found : world.threads.locals[id]? with
  | none =>
    have same : world.handle (.advance id surroundings) = world := by
      simp [handle, moving, found, Threads.step_of_none found]
    rwa [same]
  | some connection =>
    have undisturbed : connection.Undisturbed world.proxy := undisturbed connection found
    have affinity : (world.handle (.advance id surroundings)).proxy.affinity =
        (connection.advance surroundings world.clock world.proxy).1.affinity :=
      congrArg VirtualServerProxy.affinity (Threads.shared_step found)
    rw [affinity_advance] at affinity
    cases completes : connection.completes with
    | none =>
      have history : (world.handle (.advance id surroundings)).history = world.history := by
        simp [handle, moving, found, completes]
      rw [completes] at affinity
      exact ⟨fun clientIp => by rw [affinity, history]; exact faithful.entries clientIp,
        history ▸ faithful.ordered, history ▸ faithful.sticky⟩
    | some selection =>
      have history : (world.handle (.advance id surroundings)).history =
          selection :: world.history := by
        simp [handle, moving, found, completes]
      rw [completes] at affinity
      refine ⟨fun clientIp => ?_, ?_, ?_⟩
      · rw [affinity, history, OrderedMap.lookup_insert, faithful.entries clientIp]
        by_cases same : clientIp = selection.clientIp
        · simp [latest, same]
        · simp [latest, same, Ne.symm same]
      · rw [history]
        exact .cons (fun previous member client =>
          faithful.now_le undisturbed completes previous member client.symm) faithful.ordered
      · rw [history]
        exact ⟨faithful.follows undisturbed completes, faithful.sticky⟩

theorem handle {event : Event} (faithful : world.Faithful)
    (undisturbed : world.Undisturbed event) : (world.handle event).Faithful := by
  cases event with
  | accept clientIp => exact ⟨faithful.entries, faithful.ordered, faithful.sticky⟩
  | elapse seconds => exact ⟨faithful.entries, faithful.ordered, faithful.sticky⟩
  | advance id surroundings => exact faithful.advance undisturbed

end World.Faithful

/-! ## Least connections -/

/-- The members from which the thread that takes a step chooses one by least connections. -/
def Connection.choosesFrom (connection : Connection) : Option HealthyMembers :=
  match connection.phase with
  | .balancing readings .leastConnections => some readings.healthy
  | _ => none

def Connection.chosen (connection : Connection) : Option Member :=
  match connection.phase with
  | .balanced _ member => some member
  | _ => none

namespace World

/-- Connections sent to a member and not closed. -/
def openConnections (world : World) (member : Member) : Nat :=
  world.threads.count (Connection.isOpen member)

/-- A choice by least connections takes a healthy member with the fewest open connections. -/
def LeastLoaded (world : World) (event : Event) : Prop :=
  ∀ connection ∈ world.moving event, ∀ healthy ∈ connection.choosesFrom, ∃ member ∈ healthy.members,
      ((world.handle event).moving event).bind Connection.chosen = some member ∧
        ∀ other ∈ healthy.members, world.openConnections member ≤ world.openConnections other

/-- At a choice by least connections, the connections counted for its members are the open ones. -/
def CountsSettled (world : World) (event : Event) : Prop :=
  ∀ connection ∈ world.moving event, ∀ healthy ∈ connection.choosesFrom,
    ∀ other ∈ world.threads.locals, ∀ member ∈ healthy.members,
      other.isCounted member = other.isOpen member

instance (world : World) (event : Event) : Decidable (world.CountsSettled event) :=
  inferInstanceAs (Decidable (∀ connection ∈ world.moving event,
    ∀ healthy ∈ connection.choosesFrom, ∀ other ∈ world.threads.locals, ∀ member ∈ healthy.members,
      other.isCounted member = other.isOpen member))

end World

theorem VirtualServerProxy.leastConnections_mem (proxy : VirtualServerProxy)
    (healthy : HealthyMembers) : proxy.leastConnections healthy ∈ healthy.members :=
  argmin_mem (Option.get_mem _)

theorem VirtualServerProxy.activeOf_leastConnections_le (proxy : VirtualServerProxy)
    {healthy : HealthyMembers} {other : Member} (member : other ∈ healthy.members) :
    proxy.activeOf (proxy.leastConnections healthy) ≤ proxy.activeOf other :=
  le_of_mem_argmin member (Option.get_mem _)

theorem World.CountsConnections.leastLoaded {world : World} {event : Event}
    (counts : world.CountsConnections) (settled : world.CountsSettled event) :
    world.LeastLoaded event := by
  intro connection moves healthy chooses
  cases event with
  | accept clientIp => cases moves
  | elapse seconds => cases moves
  | advance id surroundings =>
    have openIsActive : ∀ member ∈ healthy.members,
        world.proxy.activeOf member = world.openConnections member := by
      intro member inPool
      have same := Threads.count_congr fun other started =>
        settled connection moves healthy chooses other started member inPool
      rw [counts member, same, openConnections]
    have chosen : (connection.advance surroundings world.clock world.proxy).2.chosen =
        some (world.proxy.leastConnections healthy) := by
      obtain ⟨clientIp, phase⟩ := connection
      cases phase with
      | balancing readings mode =>
        cases mode with
        | leastConnections =>
          obtain rfl := Option.some.inj chooses
          rfl
        | roundRobin => cases chooses
      | _ => cases chooses
    have least := world.proxy.leastConnections_mem healthy
    refine ⟨world.proxy.leastConnections healthy, least, ?_, fun other inPool => ?_⟩
    · change (((world.threads.step _ id).locals[id]?).bind Connection.chosen) = _
      rw [Threads.getElem?_step moves]
      exact chosen
    · have fewest := world.proxy.activeOf_leastConnections_le inPool
      rw [openIsActive _ least, openIsActive other inPool] at fewest
      exact_mod_cast fewest

/-- Whatever the order in which threads take their steps, clients stay with their members as long
as the threads that write entries are undisturbed, and least connections takes a member with the
fewest open connections as long as the counts are settled. -/
theorem selections_undisturbed (events : List Event) :
    (Along handle World.Undisturbed .initial events →
      Throughout handle (fun world => Pinned world.history) .initial events) ∧
    (Along handle World.CountsSettled .initial events →
      Along handle World.LeastLoaded .initial events) := by
  constructor
  · intro undisturbed
    have faithful := throughout_of_along
      (fun _ _ faithful undisturbed => World.Faithful.handle faithful undisturbed)
      faithful_initial undisturbed
    exact faithful.weaken fun world faithful => faithful.sticky.pinned
  · intro settled
    exact settled.derive (fun _ event counts _ => counts.handle event)
      (fun _ _ counts settled => counts.leastLoaded settled) countsConnections_initial

section Overlap

def web1 : Member := ⟨"10.0.1.1", 80⟩
def web2 : Member := ⟨"10.0.1.2", 80⟩

/-- Both members are healthy, and the connections to them succeed. -/
def bothHealthy (timeout : Option Nat) (mode : LbMode) : Surroundings where
  getMembers := [web1, web2]
  getPersistTimeout := timeout
  getLbMode := mode

/-- A thread takes several steps in a row. -/
def steps (count id : Nat) (surroundings : Surroundings) : List Event :=
  List.replicate count (.advance id surroundings)

/-- A client connects, stays connected, and connects again a minute later. -/
def returning : List Event :=
  .accept "10.0.0.9" :: steps 9 0 (bothHealthy (some 180) .leastConnections) ++
    .elapse 60 :: .accept "10.0.0.9" :: steps 5 1 (bothHealthy (some 180) .leastConnections)

theorem returning_pinned :
    Throughout handle (fun world => Pinned world.history) .initial returning ∧
      Along handle World.LeastLoaded .initial returning :=
  ⟨(selections_undisturbed returning).1 (by decide),
    (selections_undisturbed returning).2 (by decide)⟩

/-- Two connections of a client both look it up before either has written its entry. -/
def bothLookUp : List Event :=
  .accept "10.0.0.9" :: .accept "10.0.0.9" :: (steps 4 0 (bothHealthy (some 180) .roundRobin) ++
      steps 7 1 (bothHealthy (some 180) .roundRobin) ++
      steps 3 0 (bothHealthy (some 180) .roundRobin))

/-- A connection chooses its member before the choice of another one is counted. -/
def beforeCount : List Event :=
  .accept "10.0.0.8" :: .accept "10.0.0.9" :: (steps 6 0 (bothHealthy none .leastConnections) ++
      steps 5 1 (bothHealthy none .leastConnections))

/-- Two first connections of a client go to different members, and a choice by least connections
takes a member that has a connection while the other has none. -/
theorem overlap_splits :
    ¬ Throughout handle (fun world => Pinned world.history) .initial bothLookUp ∧
      ¬ Along handle World.LeastLoaded .initial
        (beforeCount ++ [.advance 1 (bothHealthy none .leastConnections)]) := by
  constructor
  · intro pinned
    let readings : Readings := ⟨⟨[web1, web2], by decide⟩, some 180, 0⟩
    have history : (runFrom handle .initial bothLookUp).history =
        [⟨"10.0.0.9", readings, web2⟩, ⟨"10.0.0.9", readings, web1⟩] := by decide
    have same := pinned.finish [⟨"10.0.0.9", readings, web2⟩] ⟨"10.0.0.9", readings, web1⟩ []
      history ⟨fun _ => ⟨by decide, _, mem_cons_self, rfl, Nat.zero_le _⟩, trivial⟩ _
      mem_cons_self rfl
    exact absurd same (by decide)
  · intro least
    have chooses := (along_append.mp least).2.1
    let pool : HealthyMembers := ⟨[web1, web2], by decide⟩
    have moves : (runFrom handle .initial beforeCount).moving
        (.advance 1 (bothHealthy none .leastConnections)) =
          some ⟨"10.0.0.9", .balancing ⟨pool, none, 0⟩ .leastConnections⟩ := by decide
    obtain ⟨member, -, chosen, fewest⟩ := chooses _ moves pool rfl
    have first : (((runFrom handle .initial beforeCount).handle
        (.advance 1 (bothHealthy none .leastConnections))).moving
          (.advance 1 (bothHealthy none .leastConnections))).bind Connection.chosen =
            some web1 := by decide
    obtain rfl : web1 = member := Option.some.inj (first.symm.trans chosen)
    exact absurd (fewest web2 (by decide)) (by decide)

end Overlap

end NetLab.Bigip
