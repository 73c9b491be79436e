import NetLab.Junos.Isolation

/-!
# Configurations of statements

What a configuration is for: statements that are set and deleted in a draft, which a commit makes
active, and what is in effect is a function of the active ones.
-/

namespace NetLab.Junos

open NetLab.Library NetLab.Cli List Statement

/-! ## Drafts -/

/-- What a statement is about. A device has one statement about a subject. -/
inductive Subject where
  | address (port unit : String)
  | disabled (port : String)
  | hostName
  | ssh
  | netconfSsh
deriving DecidableEq

namespace Statement

def subject : Statement → Subject
  | address port unit _ _ => .address port unit
  | disable port => .disabled port
  | hostName _ => .hostName
  | ssh => .ssh
  | netconfSsh => .netconfSsh

def addressed : Statement → Option String
  | address port _ _ _ => some port
  | _ => none

def addressOn (port : String) : Statement → Option (String × String)
  | address named _ ip length => if named = port then some (ip, length) else none
  | _ => none

def namesHost : Statement → Option String
  | hostName name => some name
  | _ => none

end Statement

def put (statement : Statement) (config : List Statement) : List Statement :=
  (config.filter fun other => other.subject ≠ statement.subject) ++ [statement]

def remove (path : List String) (config : List Statement) : List Statement :=
  config.filter fun statement => ¬ path <+: statement.words

/-- Two configurations: the active one and a draft. -/
structure Reference where
  editing : Bool := false
  active : List Statement := []
  draft : List Statement := []

/-- What a command should do. -/
def Reference.step (letters : Letters) (reference : Reference) (cmd : String) : Reference :=
  if IsConfigure letters cmd then { reference with editing := true }
  else if IsLeave letters cmd then { reference with editing := false }
  else if reference.editing = false then reference
  else if IsCommit letters cmd then
    { reference with
      active := reference.draft, editing := commandText letters cmd = "commit" }
  else if IsRollback letters cmd then { reference with draft := reference.active }
  else
    match readSet letters (commandText letters cmd), readDelete (commandText letters cmd) with
    | some statement, _ => { reference with draft := put statement reference.draft }
    | none, some path => { reference with draft := remove (words path) reference.draft }
    | none, none => reference

/-! ## What is in effect -/

def portState (letters : Letters) (old : Interface) (port : String) (config : List Statement) :
    Interface :=
  let address := (config.filterMap (addressOn port)).getLast?
  { ip := (address.map Prod.fst).getD old.ip
    prefixLength :=
      (address.map fun address => numberOf letters address.2.toList).getD old.prefixLength
    status :=
      if disable port ∈ config then "admin-down"
      else if address.isSome then "up" else old.status }

/-- What is in effect is what a configuration makes of a device without one. -/
structure Effective (letters : Letters) (base device : JunosDevice) (config : List Statement) :
    Prop where
  interfaces : ∀ port, device.interfaces.lookup port =
    (base.interfaces.lookup port).map fun old => portState letters old port config
  hostname : device.hostname = (config.filterMap namesHost).getLast?.getD base.hostname
  sshRsaKey : device.sshRsaKey = (base.sshRsaKey || decide (.ssh ∈ config))
  netconfEnabled : device.netconfEnabled = (base.netconfEnabled || decide (.netconfSsh ∈ config))

/-! ## Setting statements -/

variable {statement : Statement}

theorem mem_put {other : Statement} {config : List Statement} : other ∈ put statement config ↔
      other ∈ config ∧ other.subject ≠ statement.subject ∨ other = statement := by
  simp [put]

/-- What a statement says is the last thing that is said. -/
theorem getLast?_put {Value : Type} {read : Statement → Option Value} {value : Value}
    (tells : read statement = some value) (config : List Statement) :
    ((put statement config).filterMap read).getLast? = some value := by
  rw [put, filterMap_append, filterMap_cons_some tells, filterMap_nil, getLast?_concat]

/-- A statement about something else says nothing. -/
theorem filterMap_put {Value : Type} {read : Statement → Option Value}
    (silent : ∀ other, other.subject = statement.subject → read other = none)
    (config : List Statement) : (put statement config).filterMap read = config.filterMap read := by
  have kept : (config.filter fun other => other.subject ≠ statement.subject).filterMap read =
      config.filterMap read := by
    induction config with
    | nil => rfl
    | cons first rest ih =>
      by_cases same : first.subject = statement.subject
      · rw [filter_cons_of_neg (by simpa using same), ih, filterMap_cons_none (silent first same)]
      · rw [filter_cons_of_pos (by simpa using same), filterMap_cons, ih, filterMap_cons]
  rw [put, filterMap_append, kept, filterMap_cons_none (silent statement rfl),
    filterMap_nil, append_nil]

section PortStates

variable (letters : Letters) (old : Interface) (port : String) (config : List Statement)

theorem portState_congr {left right : List Statement} (addresses : left.filterMap (addressOn port) =
      right.filterMap (addressOn port))
    (disabled : disable port ∈ left ↔ disable port ∈ right) :
    portState letters old port left = portState letters old port right := by
  unfold portState
  dsimp only
  rw [addresses, if_congr disabled rfl rfl]

theorem portState_put_address {unit ip length : String} (enabled : .disable port ∉ config) :
    portState letters old port (put (.address port unit ip length) config) =
      ⟨ip, numberOf letters length.toList, "up"⟩ := by
  have tells : addressOn port (.address port unit ip length) = some (ip, length) :=
    if_pos rfl
  have still : disable port ∉ put (.address port unit ip length) config := by
    rw [mem_put]
    rintro (⟨disabled, -⟩ | same)
    · exact enabled disabled
    · cases same
  unfold portState
  dsimp only
  rw [getLast?_put tells, if_neg still]
  rfl

theorem portState_put_disable : portState letters old port (put (.disable port) config) =
    { portState letters old port config with status := "admin-down" } := by
  have silent : ∀ other : Statement, other.subject = (disable port).subject →
      other.addressOn port = none := by
    intro other same
    cases other with
    | address => cases same
    | _ => rfl
  unfold portState
  dsimp only
  rw [filterMap_put silent, if_pos (mem_put.mpr (.inr rfl))]

theorem portState_put_other (address : statement.addressed ≠ some port)
    (disable : statement ≠ .disable port) :
    portState letters old port (put statement config) = portState letters old port config := by
  refine portState_congr letters old port (filterMap_put ?_ config) ?_
  · intro other same
    cases other with
    | address named =>
      cases statement with
      | address named' =>
        obtain ⟨rfl, -⟩ := Subject.address.inj same
        exact if_neg fun here => address (congrArg some here)
      | _ => cases same
    | _ => rfl
  · rw [mem_put]
    constructor
    · rintro (⟨inside, -⟩ | rfl)
      · exact inside
      · exact absurd rfl disable
    · intro inside
      refine .inl ⟨inside, fun same => disable ?_⟩
      cases statement with
      | disable named =>
        obtain rfl := Subject.disabled.inj same
        rfl
      | _ => cases same

end PortStates

theorem decide_put_flag {flag : Statement} (config : List Statement)
    (only : statement.subject = flag.subject → statement = flag) :
    decide (flag ∈ put statement config) = (decide (flag ∈ config) || decide (statement = flag)) := by
  rw [← Bool.decide_or, decide_eq_decide, mem_put]
  constructor
  · rintro (⟨inside, -⟩ | rfl)
    · exact .inl inside
    · exact .inr rfl
  · rintro (inside | rfl)
    · by_cases same : flag.subject = statement.subject
      · exact .inr (only same.symm).symm
      · exact .inl ⟨inside, same⟩
    · exact .inr rfl

end NetLab.Junos
