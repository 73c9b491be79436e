import NetLab.Library.Execution
import NetLab.Snmp.Agent

/-!
# Who may write

Operators configure communities, devices are registered with what is configured, and anyone
sends requests to write. `authorised_iff` says in which histories only communities that are
configured for writing change anything.
-/

namespace NetLab.Snmp

open NetLab.Execution Function

inductive Permission where
  | ro
  | rw
deriving DecidableEq

structure Community where
  name : String
  perm : Permission
deriving DecidableEq

/-- What the configuration of a device says about the agent. -/
structure Session where
  deviceType : String
  hostname : String
  contact : String
  location : String
  communities : List Community

namespace Session

variable (session : Session)

def setCommunity (name : String) (perm : Permission) : Session :=
  if session.communities.any fun community => community.name == name then
    { session with communities := session.communities.map fun community =>
        if community.name = name then ⟨name, perm⟩ else community }
  else { session with communities := session.communities ++ [⟨name, perm⟩] }

def removeCommunity : Option String → Session
  | some name => { session with communities :=
      session.communities.filter fun community => decide (community.name ≠ name) }
  | none => { session with communities := [] }

def named (perm : Permission) : List String :=
  (session.communities.filter fun community =>
    decide (community.name ≠ "" ∧ community.perm = perm)).map Community.name

end Session

/-- The configurations and the agent. -/
structure World where
  sessions : String → Option Session
  agent : SnmpAgent

/-- What happens. A session appears, changes or disappears in any way by `configure`; at the
start of the program a device is restored without its communities. -/
inductive Event where
  | configure (device : String) (session : Option Session)
  | community (device name : String) (perm : Permission)
  | noCommunity (device : String) (name : Option String)
  | register (device : String)
  | restore (device : String)
  | set (device oid value community : String)

namespace World

variable (world : World)

/-- Hand the configuration of a device to the agent. -/
def registerIcmp (device : String) : World :=
  match world.sessions device with
  | none => world
  | some session =>
    let first := (session.communities.head?.map Community.name).getD "public"
    let rw := session.named .rw
    { world with
      agent := world.agent.register device session.deviceType session.hostname session.contact
        session.location first (session.named .ro ++ rw) rw }

/-- Change the configuration of a device and hand it to the agent. -/
def reconfigure (device : String) (change : Session → Session) : World :=
  registerIcmp { world with
      sessions := Function.update world.sessions device ((world.sessions device).map change) }
    device

def restore (device : String) : World :=
  match world.sessions device with
  | none => world
  | some session =>
    { world with
      agent := world.agent.register device session.deviceType session.hostname "" "" "public"
        [] [] }

def step : Event → World
  | .configure device session =>
    { world with sessions := Function.update world.sessions device session }
  | .community device name perm => world.reconfigure device fun session =>
    session.setCommunity name perm
  | .noCommunity device name => world.reconfigure device fun session =>
    session.removeCommunity name
  | .register device => world.registerIcmp device
  | .restore device => world.restore device
  | .set device oid value community =>
    { world with agent := (world.agent.set device oid value community).1 }

/-- No device is registered. -/
def start (sessions : String → Option Session) : World := ⟨sessions, ⟨fun _ => none⟩⟩

/-- The communities that are configured for writing to a device. -/
def rwConfigured (device : String) : List String :=
  ((world.sessions device).map fun session => session.named .rw).getD []

/-- A request changes nothing unless its community is configured for writing. -/
def Authorised : Event → Prop
  | .set device oid value community =>
    community ∈ world.rwConfigured device ∨ world.step (.set device oid value community) = world
  | _ => True

end World

/-- A request would replace what a record holds. -/
def Record.Overwrites (record : Record) (oid value : String) : Prop :=
  ∃ target, writableOf (stripDots oid) = some target ∧ record.held target ≠ some value

/-- A request with the built-in community overwrites something only where that community is
configured for writing. -/
def World.Guarded (world : World) : Event → Prop
  | .set device oid value community => community = "private" →
      ∀ record, world.agent.devices device = some record → record.Overwrites oid value →
        "private" ∈ world.rwConfigured device
  | _ => True

/-! ## What a request changes -/

theorem Record.write_held {record : Record} {target : Writable} {value : String} :
    record.write target value = record ↔ record.held target = some value := by
  cases target with
  | contact | hostname | location =>
    obtain ⟨type, hostname, contact, location, community, communities, rwCommunities,
      rwCommunity, ifAdmin⟩ := record
    simp [write, held, eq_comm]
  | ifAdmin index =>
    obtain ⟨type, hostname, contact, location, community, communities, rwCommunities,
      rwCommunity, ifAdmin⟩ := record
    simp only [write, held, Record.mk.injEq, true_and]
    rw [update_eq_self_iff]
    exact eq_comm

@[simp] theorem Record.write_rwCommunity (record : Record) (target : Writable) (value : String) :
    (record.write target value).rwCommunity = record.rwCommunity := by
  cases target <;> rfl

/-- A request leaves the agent as it is unless the device is registered, the community is the
one of its record and the value is a new one for something that can be written. -/
theorem SnmpAgent.set_eq_self_iff {agent : SnmpAgent} {device oid value community : String} :
    (agent.set device oid value community).1 = agent ↔
      ∀ record, agent.devices device = some record → community = record.rwCommunity →
        ¬ record.Overwrites oid value := by
  unfold SnmpAgent.set
  cases found : agent.devices device with
  | none => simp
  | some record =>
    simp only [Option.some.injEq, forall_eq']
    by_cases other : community = record.rwCommunity
    case neg => simp [other]
    case pos =>
        rw [if_neg (not_not.mpr other)]
        unfold Record.Overwrites
        cases shape : writableOf (stripDots oid) with
        | none => simp
        | some target =>
          have kept : (⟨Function.update agent.devices device
              (some (record.write target value))⟩ : SnmpAgent) = agent ↔
              record.write target value = record := by
            obtain ⟨devices⟩ := agent
            rw [SnmpAgent.mk.injEq, update_eq_self_iff]
            change some (record.write target value) = devices device ↔ _
            rw [show devices device = some record from found, Option.some.injEq]
          simp [kept, Record.write_held, other]

/-- What a request can do. -/
theorem SnmpAgent.set_cases (agent : SnmpAgent) (device oid value community : String) :
    (agent.set device oid value community).1 = agent ∨
      ∃ record target, agent.devices device = some record ∧
        (agent.set device oid value community).1 =
          ⟨Function.update agent.devices device (some (record.write target value))⟩ := by
  unfold SnmpAgent.set
  cases registered : agent.devices device with
  | none => exact .inl rfl
  | some record =>
    dsimp only
    split
    · exact .inl rfl
    · cases writableOf (stripDots oid) with
      | none => exact .inl rfl
      | some target => exact .inr ⟨record, target, rfl, rfl⟩

/-! ## Every history -/

/-- Nobody ever changes the community that may write. -/
def World.Builtin (world : World) : Prop :=
  ∀ device record, world.agent.devices device = some record → record.rwCommunity = "private"

namespace World

variable {world : World}

theorem builtin_start (sessions : String → Option Session) : (start sessions).Builtin := by
  intro device record registered
  cases registered

section

variable (builtin : world.Builtin)
include builtin

theorem Builtin.update {device : String} {record : Record} (own : record.rwCommunity = "private")
    (sessions : String → Option Session) :
    World.Builtin ⟨sessions, ⟨Function.update world.agent.devices device (some record)⟩⟩ := by
  intro other held registered
  change Function.update world.agent.devices device (some record) other = some held at registered
  by_cases same : other = device
  · subst same
    rw [update_self, Option.some.injEq] at registered
    exact registered ▸ own
  · rw [update_of_ne same] at registered
    exact builtin other held registered

theorem Builtin.register (device type hostname contact location community : String)
    (communities rwCommunities : List String) (sessions : String → Option Session) :
    World.Builtin ⟨sessions, world.agent.register device type hostname contact location community
      communities rwCommunities⟩ := by
  refine builtin.update ?_ sessions
  cases previous : world.agent.devices device with
  | none => rfl
  | some record => exact builtin device record previous

theorem Builtin.registerIcmp (device : String) : (world.registerIcmp device).Builtin := by
  unfold World.registerIcmp
  split
  · exact builtin
  · exact builtin.register device _ _ _ _ _ _ _ _

theorem Builtin.restore (device : String) : (world.restore device).Builtin := by
  unfold World.restore
  split
  · exact builtin
  · exact builtin.register device _ _ _ _ _ _ _ _

theorem Builtin.step (event : Event) : (world.step event).Builtin := by
  have edited : ∀ sessions, World.Builtin { world with sessions } := fun _ => builtin
  cases event with
  | configure device session => exact builtin
  | community device name perm => exact Builtin.registerIcmp (edited _) device
  | noCommunity device name => exact Builtin.registerIcmp (edited _) device
  | register device => exact builtin.registerIcmp device
  | restore device => exact builtin.restore device
  | set device oid value community =>
    change World.Builtin { world with agent := (world.agent.set device oid value community).1 }
    rcases world.agent.set_cases device oid value community with kept | ⟨record, target, held, new⟩
    · rw [kept]
      exact builtin
    · rw [new]
      exact builtin.update ((record.write_rwCommunity target value).trans
        (builtin device record held)) world.sessions

theorem Builtin.authorised_iff_guarded (event : Event) :
    world.Authorised event ↔ world.Guarded event := by
  cases event with
  | configure | community | noCommunity | register | restore => exact Iff.rfl
  | set device oid value community =>
    have same : world.step (.set device oid value community) = world ↔
        (world.agent.set device oid value community).1 = world.agent := by
      constructor
      · exact congrArg agent
      · exact congrArg (World.mk world.sessions)
    change community ∈ world.rwConfigured device ∨ _ ↔ (community = "private" → _)
    rw [same, SnmpAgent.set_eq_self_iff]
    constructor
    · rintro (configured | kept) rfl record registered overwrites
      · exact configured
      · exact absurd overwrites (kept record registered (builtin device record registered).symm)
    · intro guarded
      by_cases configured : community ∈ world.rwConfigured device
      · exact .inl configured
      · refine .inr fun record registered own overwrites => configured ?_
        rw [builtin device record registered] at own
        subst own
        exact guarded rfl record registered overwrites

end

/-- In a history of configurations, registrations and requests, only communities that are
configured for writing change anything if and only if the built-in community overwrites
something only where it is configured for writing. -/
theorem authorised_iff (sessions : String → Option Session) (events : List Event) :
    Along step Authorised (start sessions) events ↔ Along step Guarded (start sessions) events := by
  have unguarded : Along step (fun _ _ => True) (start sessions) events :=
    along_of_forall (fun _ _ => trivial) _ _
  exact along_congr (fun world event builtin => builtin.step event)
    (fun world event builtin _ => builtin.authorised_iff_guarded event) (builtin_start sessions)
    unguarded

def readOnlyRouter : Session := ⟨"cisco", "R1", "", "", [⟨"s3cret", .ro⟩]⟩

/-- Anyone renames the router with the built-in community. -/
theorem builtin_community_writes : ¬ Along step Authorised (start fun _ => some readOnlyRouter)
      [.register "R1", .set "R1" "1.3.6.1.2.1.1.5.0" "owned" "private"] := by
  rintro ⟨-, configured | kept, -⟩
  · revert configured
    decide +kernel
  · have name := congrArg (fun world => (world.agent.devices "R1").map Record.hostname) kept
    revert name
    decide +kernel

end World

end NetLab.Snmp
