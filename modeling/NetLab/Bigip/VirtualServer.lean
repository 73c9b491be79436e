import NetLab.Library.Execution
import NetLab.Library.OrderedMap
import NetLab.Library.Threads
import Mathlib.Data.List.MinMax

/-!
# Virtual servers of a BIG-IP

A virtual server answers every client in a thread of its own, which selects a pool member, counts
its connection, relays and takes the connection out of the count. The lock is held for single
reads and writes only, so a step of a thread is one of these, or one question to the device.
-/

namespace NetLab.Bigip

open NetLab.Library NetLab.Execution

/-- A pool member. -/
structure Member where
  node : String
  port : Nat
deriving DecidableEq

/-- A pool's load-balancing mode. All but least-connections work as round-robin. -/
inductive LbMode where
  | roundRobin
  | leastConnections
deriving DecidableEq

/-- A non-empty answer of `get_members`, the members found healthy. -/
structure HealthyMembers where
  members : List Member
  nonempty : members ≠ []
deriving DecidableEq

/-- What `_select_member` has read when it looks the client up. -/
structure Readings where
  healthy : HealthyMembers
  timeout : Option Nat
  now : Nat
deriving DecidableEq

/-- The connection is subject to persistence: `timeout and client_ip`. -/
def Readings.persists (readings : Readings) (clientIp : String) : Bool :=
  readings.timeout.getD 0 ≠ 0 && clientIp ≠ ""

/-- The instance variables of `VirtualServerProxy`. -/
structure VirtualServerProxy where
  rrIndex : Int := -1
  activeConns : OrderedMap Member Int := .empty
  affinity : OrderedMap String (Member × Nat) := .empty
deriving DecidableEq

namespace VirtualServerProxy

/-- `_active_conns.get(member, 0)`. -/
def activeOf (proxy : VirtualServerProxy) (member : Member) : Int :=
  (proxy.activeConns.lookup member).getD 0

/-- The member a connection is pinned to: that of its client, if it is healthy and was used within
the timeout. -/
def pinnedMember (proxy : VirtualServerProxy) (clientIp : String) (readings : Readings) :
    Option Member :=
  if readings.persists clientIp then
    match proxy.affinity.lookup clientIp with
    | none => none
    | some (member, lastSeen) =>
      if member ∈ readings.healthy.members ∧ readings.now - lastSeen ≤ readings.timeout.getD 0 then
        some member
      else none
  else none

/-- The first of the members with the fewest counted connections. -/
def leastConnections (proxy : VirtualServerProxy) (healthy : HealthyMembers) : Member :=
  -- the order of the integers that can be computed with
  letI : Preorder Int := Int.instLinearOrder.toPreorder
  (healthy.members.argmin proxy.activeOf).get
    (Option.isSome_iff_ne_none.mpr (mt List.argmin_eq_none.mp healthy.nonempty))

/-- `_rr_index` moved on by one. -/
def nextIndex (proxy : VirtualServerProxy) (healthy : HealthyMembers) : Int :=
  (proxy.rrIndex + 1) % healthy.members.length

theorem nextIndex_lt (proxy : VirtualServerProxy) (healthy : HealthyMembers) :
    (proxy.nextIndex healthy).toNat < healthy.members.length := by
  have positive := List.length_pos_of_ne_nil healthy.nonempty
  have := Int.emod_nonneg (proxy.rrIndex + 1) (b := healthy.members.length) (by omega)
  have := Int.emod_lt_of_pos (proxy.rrIndex + 1) (b := healthy.members.length) (by omega)
  unfold nextIndex
  omega

/-- Choose a member by the load-balancing mode. -/
def balance (proxy : VirtualServerProxy) (mode : LbMode) (healthy : HealthyMembers) :
    VirtualServerProxy × Member :=
  match mode with
  | .leastConnections => (proxy, proxy.leastConnections healthy)
  | .roundRobin =>
    ({ proxy with rrIndex := proxy.nextIndex healthy },
      healthy.members.get ⟨_, proxy.nextIndex_lt healthy⟩)

def writeAffinity (proxy : VirtualServerProxy) (clientIp : String) (member : Member) (now : Nat) :
    VirtualServerProxy :=
  { proxy with affinity := proxy.affinity.insert clientIp (member, now) }

def addActive (proxy : VirtualServerProxy) (member : Member) (change : Int) : VirtualServerProxy :=
  { proxy with activeConns := proxy.activeConns.insert member (proxy.activeOf member + change) }

end VirtualServerProxy

/-- How far a thread of `_handle` has come. -/
inductive Phase where
  | accepted
  | listed (healthy : HealthyMembers)
  | profiled (healthy : HealthyMembers) (timeout : Option Nat)
  | timed (readings : Readings)
  /-- Pinned to a member; the refreshed entry is still to be written. -/
  | pinned (readings : Readings) (member : Member)
  | unpinned (readings : Readings)
  | balancing (readings : Readings) (mode : LbMode)
  /-- Balanced to a member; the entry is still to be written. -/
  | balanced (readings : Readings) (member : Member)
  | selected (member : Member)
  | counted (member : Member)
  | relaying (member : Member)
  /-- The sockets are closed; the connection is still counted. -/
  | closed (member : Member)
  | finished
deriving DecidableEq

/-- A client's connection and the thread that handles it. The address is empty when the client is
gone before it is read. -/
structure Connection where
  clientIp : String
  phase : Phase
deriving DecidableEq

/-- What the device and the network answer a thread at a step. -/
structure Surroundings where
  getMembers : List Member := []
  getPersistTimeout : Option Nat := none
  getLbMode : LbMode := .roundRobin
  connects : Bool := true

/-- One step of the thread of a connection. -/
def Connection.advance (surroundings : Surroundings) (clock : Nat) (proxy : VirtualServerProxy)
    (connection : Connection) : VirtualServerProxy × Connection :=
  let clientIp := connection.clientIp
  match connection.phase with
  | .accepted =>
    if nonempty : surroundings.getMembers = [] then (proxy, ⟨clientIp, .finished⟩)
    else (proxy, ⟨clientIp, .listed ⟨surroundings.getMembers, nonempty⟩⟩)
  | .listed healthy => (proxy, ⟨clientIp, .profiled healthy surroundings.getPersistTimeout⟩)
  | .profiled healthy timeout =>
    (proxy, ⟨clientIp, .timed ⟨healthy, timeout, clock⟩⟩)
  | .timed readings =>
    match proxy.pinnedMember clientIp readings with
    | some member => (proxy, ⟨clientIp, .pinned readings member⟩)
    | none => (proxy, ⟨clientIp, .unpinned readings⟩)
  | .pinned readings member =>
    (proxy.writeAffinity clientIp member readings.now, ⟨clientIp, .selected member⟩)
  | .unpinned readings => (proxy, ⟨clientIp, .balancing readings surroundings.getLbMode⟩)
  | .balancing readings mode =>
    let (proxy, member) := proxy.balance mode readings.healthy
    (proxy, ⟨clientIp, .balanced readings member⟩)
  | .balanced readings member =>
    if readings.persists clientIp then
      (proxy.writeAffinity clientIp member readings.now, ⟨clientIp, .selected member⟩)
    else (proxy, ⟨clientIp, .selected member⟩)
  | .selected member => (proxy.addActive member 1, ⟨clientIp, .counted member⟩)
  | .counted member =>
    if surroundings.connects then (proxy, ⟨clientIp, .relaying member⟩)
    else (proxy, ⟨clientIp, .closed member⟩)
  | .relaying member => (proxy, ⟨clientIp, .closed member⟩)
  | .closed member => (proxy.addActive member (-1), ⟨clientIp, .finished⟩)
  | .finished => (proxy, connection)

/-- A selection under persistence: what the connection had read, and the member it was sent to. -/
structure Selection where
  clientIp : String
  readings : Readings
  member : Member
deriving DecidableEq

/-- The selection a thread completes with its next step by writing its client's entry. -/
def Connection.completes (connection : Connection) : Option Selection :=
  match connection.phase with
  | .pinned readings member => some ⟨connection.clientIp, readings, member⟩
  | .balanced readings member =>
    if readings.persists connection.clientIp then some ⟨connection.clientIp, readings, member⟩
    else none
  | _ => none

inductive Event where
  | accept (clientIp : String)
  | elapse (seconds : Nat)
  /-- A thread takes its next step. -/
  | advance (id : Nat) (surroundings : Surroundings)

/-- A virtual server in operation. The history has the selections under persistence, newest
first. -/
structure World where
  threads : Threads VirtualServerProxy Connection
  clock : Nat
  history : List Selection
deriving DecidableEq

namespace World

/-- A virtual server that has just been started. -/
def initial : World := ⟨⟨{}, []⟩, 0, []⟩

def proxy (world : World) : VirtualServerProxy := world.threads.shared

def moving (world : World) : Event → Option Connection
  | .advance id _ => world.threads.locals[id]?
  | _ => none

def handle (world : World) (event : Event) : World :=
  match event with
  | .accept clientIp => { world with threads := world.threads.spawn ⟨clientIp, .accepted⟩ }
  | .elapse seconds => { world with clock := world.clock + seconds }
  | .advance id surroundings =>
    { world with
      threads := world.threads.step (Connection.advance surroundings world.clock) id
      history := ((world.moving event).bind Connection.completes).toList ++ world.history }

end World

def Connection.isOpen (member : Member) (connection : Connection) : Bool :=
  match connection.phase with
  | .pinned _ sentTo | .balanced _ sentTo | .selected sentTo | .counted sentTo
  | .relaying sentTo => sentTo = member
  | _ => false

def Connection.isCounted (member : Member) (connection : Connection) : Bool :=
  match connection.phase with
  | .counted sentTo | .relaying sentTo | .closed sentTo => sentTo = member
  | _ => false

namespace VirtualServerProxy

@[simp] theorem activeOf_writeAffinity (proxy : VirtualServerProxy) (clientIp : String)
    (sentTo : Member) (now : Nat) (member : Member) :
    (proxy.writeAffinity clientIp sentTo now).activeOf member = proxy.activeOf member := rfl

@[simp] theorem activeOf_balance (proxy : VirtualServerProxy) (mode : LbMode)
    (healthy : HealthyMembers) (member : Member) :
    (proxy.balance mode healthy).1.activeOf member = proxy.activeOf member := by
  cases mode <;> rfl

theorem activeOf_addActive (proxy : VirtualServerProxy) (sentTo : Member) (change : Int)
    (member : Member) :
    (proxy.addActive sentTo change).activeOf member =
      proxy.activeOf member + if sentTo = member then change else 0 := by
  by_cases same : sentTo = member
  · simp [addActive, activeOf, same]
  · simp [addActive, activeOf, same, OrderedMap.lookup_insert_of_ne _ _ (Ne.symm same)]

end VirtualServerProxy

theorem activeOf_advance (surroundings : Surroundings) (clock : Nat) (member : Member)
    (proxy : VirtualServerProxy) (connection : Connection) :
    (connection.advance surroundings clock proxy).1.activeOf member +
        (connection.isCounted member).toNat =
      proxy.activeOf member +
        ((connection.advance surroundings clock proxy).2.isCounted member).toNat := by
  obtain ⟨clientIp, phase⟩ := connection
  cases phase with
  | accepted =>
    simp only [Connection.advance]
    split <;> simp [Connection.isCounted]
  | timed readings =>
    simp only [Connection.advance]
    split <;> simp [Connection.isCounted]
  | balanced readings sentTo =>
    simp only [Connection.advance]
    split <;> simp [Connection.isCounted]
  | counted sentTo =>
    simp only [Connection.advance]
    split <;> simp [Connection.isCounted]
  | selected sentTo =>
    simp only [Connection.advance, Connection.isCounted, VirtualServerProxy.activeOf_addActive]
    by_cases same : sentTo = member <;> simp [same]
  | closed sentTo =>
    simp only [Connection.advance, Connection.isCounted, VirtualServerProxy.activeOf_addActive]
    by_cases same : sentTo = member
    · simp only [same, if_true, decide_true, Bool.toNat_true, Bool.toNat_false]
      omega
    · simp [same]
  | _ => simp [Connection.advance, Connection.isCounted]

def World.CountsConnections (world : World) : Prop :=
  ∀ member, world.proxy.activeOf member = world.threads.count (Connection.isCounted member)

theorem countsConnections_initial : World.initial.CountsConnections := fun _ => rfl

theorem World.CountsConnections.handle {world : World} (counts : world.CountsConnections)
    (event : Event) : (world.handle event).CountsConnections := by
  intro member
  cases event with
  | accept clientIp =>
    change world.proxy.activeOf member =
      ((world.threads.spawn ⟨clientIp, .accepted⟩).count (Connection.isCounted member) : Int)
    rw [Threads.count_spawn, counts member]
    simp [Connection.isCounted]
  | elapse seconds => exact counts member
  | advance id surroundings =>
    exact Threads.counter_step (VirtualServerProxy.activeOf · member)
      (activeOf_advance surroundings world.clock member) (counts member)

end NetLab.Bigip
