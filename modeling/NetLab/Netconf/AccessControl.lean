import NetLab.Library.Execution
import NetLab.Netconf.Requests

/-!
# Which calls access control lets through

Every edit is checked as an update, whatever it does. `controlled_along` says that calls stay
within access control as long as no edit asks for more than an update of a user who may only
update.
-/

namespace NetLab.Netconf

open NetLab.Library NetLab.Execution Reply

/-! ## Accesses -/

mutual

def Element.marksInside : Element → Bool
  | .node _ _ _ children => anyMarked children

def anyMarked : List Element → Bool
  | [] => false
  | element :: rest => element.marked || element.marksInside || anyMarked rest

end

def entryAccesses (element : Element) (known : Bool) : List AccessOperation :=
  if element.marked then [.delete]
  else (if known then .update else .create) :: (if element.marksInside then [.delete] else [])

/-- Accesses of one part of an edit of `/nacm`. -/
def partAccesses (nacm : Nacm) : NacmPart → List AccessOperation
  | .flag _ _ => [.update]
  | .default _ _ => [.update]
  | .group element =>
    entryAccesses element (nacm.groups.lookup (element.textOf "name")).isSome
  | .ruleList element =>
    entryAccesses element (nacm.ruleLists.any fun list => list.name = element.textOf "name")

/-- Accesses that an edit asks for. Interfaces are never created. -/
def accesses (state : DeviceState) (element : Element) : Module → List AccessOperation
  | .interfaces =>
    (((element.child "interfaces").map fun ifaces => ifaces.childrenNamed "interface").getD
      []).flatMap fun iface => entryAccesses iface true
  | .nacm => (nacmParts element).flatMap (partAccesses state.nacm)

def editOf : Except String Element → Option (Module × Element)
  | .error _ => none
  | .ok rpc =>
    if (rpc.child "close-session").isSome ∨ (rpc.child "kill-session").isSome ∨
        (rpc.child "get-config").isSome ∨ (rpc.child "get").isSome then none
    else
      (rpc.child "edit-config").bind fun edit =>
        if ((edit.child "target").any fun target => (target.child "running").isNone) then none
        else
          (edit.child "config").map fun config =>
            match config.child "nacm" with
            | some nacm => (.nacm, nacm)
            | none => (.interfaces, config)

/-- Access control without what it counts. -/
def Nacm.config (nacm : Nacm) : Nacm :=
  { nacm with deniedOperations := 0, deniedDataWrites := 0, deniedNotifications := 0 }

/-- Everything that is configured. -/
def DeviceState.config (state : DeviceState) : DeviceState := { state with nacm := state.nacm.config }

def SameData (before after : DeviceState) : Module → Prop
  | .interfaces => after.interfaces = before.interfaces
  | .nacm => after.nacm.config = before.nacm.config

def permits (state : DeviceState) (user : String) (operation : AccessOperation)
    (module : Module) : Bool :=
  (state.nacmCheck user operation module.name module.path).1

def ReplyData.Of : ReplyData → Module → Prop
  | .interfaces _, .interfaces => True
  | .nacm _, .nacm => True
  | _, _ => False

/-- A call stays within access control. -/
structure Controlled (state : DeviceState) (call : String × Except String Element) : Prop where
  writes : ∀ module, ¬ SameData state (handleRpc state call.2 call.1).2 module →
    ∃ element, editOf call.2 = some (module, element) ∧
      ∀ operation ∈ accesses state element module, permits state call.1 operation module
  reads : ∀ messageId body module, (handleRpc state call.2 call.1).1 = some (.data messageId body) →
    body.Of module → permits state call.1 .read module
  denied : ∀ messageId errorType message,
    (handleRpc state call.2 call.1).1 = some (.error messageId errorType "access-denied" message) →
      (handleRpc state call.2 call.1).2.config = state.config

/-- If the user may update a module, he may also do what the edit asks for. -/
def MayEdit (state : DeviceState) (call : String × Except String Element) : Prop :=
  ∀ module element, editOf call.2 = some (module, element) →
    permits state call.1 .update module = true →
      ∀ operation ∈ accesses state element module, permits state call.1 operation module

section Calls

variable {state : DeviceState} {user : String}

variable {module : Module} (state : DeviceState) (messageId : String)

/-- A check changes nothing but the counts, and them only when it denies. -/
theorem nacmCheck_cases (user : String) (operation : AccessOperation) (module path : String) :
    (state.nacmCheck user operation module path).2 = state ∨
      (state.nacmCheck user operation module path) =
        (false, { state with nacm := state.nacm.countDenied operation }) := by
  rw [DeviceState.nacmCheck_eq]
  split
  · exact .inl rfl
  · split
    · exact .inl rfl
    · split
      · exact .inl rfl
      · exact .inr rfl

theorem nacmCheck_of_permits {state : DeviceState} {operation : AccessOperation}
    (permitted : permits state user operation module = true) :
    state.nacmCheck user operation module.name module.path = (true, state) := by
  rcases nacmCheck_cases state user operation module.name module.path with same | denied
  · exact Prod.ext permitted same
  · rw [permits, denied] at permitted
    cases permitted

theorem config_nacmCheck (user : String) (operation : AccessOperation) (module path : String) :
    (state.nacmCheck user operation module path).2.config = state.config := by
  rcases nacmCheck_cases state user operation module path with same | denied
  · rw [same]
  · rw [denied]
    rfl

def Reply.Plain : Reply → Prop
  | .ok _ => True
  | .data _ body => body = .empty
  | .error _ _ errorTag _ => errorTag ≠ "access-denied"

theorem Reply.plain_error {messageId errorType errorTag message : String}
    (other : errorTag ≠ "access-denied") :
    (error messageId errorType errorTag message).Plain := other

theorem Reply.plain_ok : (ok messageId).Plain := trivial

theorem handleRead_cases (element : Element) (user : String) :
    (∃ reply, reply.Plain ∧ handleRead state messageId element user = (some reply, state)) ∨
      ∃ messageId' module, handleRead state messageId element user =
        readModule state messageId' module user := by
  unfold handleRead
  dsimp only
  split
  · exact .inl ⟨.data messageId .empty, rfl, rfl⟩
  · exact .inr ⟨messageId, _, rfl⟩

/-- A call that edits nothing is answered at once, or it reads. -/
def EditsNothing (state : DeviceState) (request : Except String Element) (user : String) : Prop :=
  editOf request = none ∧
    ((∃ reply, reply.Plain ∧ handleRpc state request user = (some reply, state)) ∨
      ∃ messageId module, handleRpc state request user = readModule state messageId module user)

theorem handleRpc_cases (request : Except String Element) (user : String) :
    EditsNothing state request user ∨
      ∃ messageId module element, editOf request = some (module, element) ∧
        handleRpc state request user = handleEdit state messageId module element user := by
  cases request with
  | error message => exact .inl ⟨rfl, .inl ⟨_, plain_error (by decide), rfl⟩⟩
  | ok rpc =>
    unfold EditsNothing handleRpc
    dsimp only
    by_cases closes : (rpc.child "close-session").isSome
    · rw [if_pos closes]
      exact .inl ⟨if_pos (.inl closes), .inl ⟨_, plain_ok _, rfl⟩⟩
    by_cases kills : (rpc.child "kill-session").isSome
    · rw [if_neg closes, if_pos kills]
      exact .inl ⟨if_pos (.inr (.inl kills)), .inl ⟨_, plain_ok _, rfl⟩⟩
    rw [if_neg closes, if_neg kills]
    cases getConfig : rpc.child "get-config" with
    | some element =>
      have none : editOf (.ok rpc) = none := by simp [editOf, getConfig]
      refine .inl ⟨none, ?_⟩
      dsimp only
      split
      · exact .inl ⟨_, plain_error (by decide), rfl⟩
      · exact handleRead_cases ..
    | none =>
      cases get : rpc.child "get" with
      | some element =>
        have none : editOf (.ok rpc) = none := by simp [editOf, get]
        exact .inl ⟨none, handleRead_cases ..⟩
      | none =>
        cases edits : rpc.child "edit-config" with
        | none =>
          have none : editOf (.ok rpc) = none := by simp [editOf, edits]
          exact .inl ⟨none, .inl ⟨_, plain_error (by decide), rfl⟩⟩
        | some edit =>
          dsimp only
          by_cases elsewhere : (edit.child "target").any fun target =>
              (target.child "running").isNone
          · have none : editOf (.ok rpc) = none := by simp [editOf, edits, elsewhere]
            rw [if_pos elsewhere]
            exact .inl ⟨none, .inl ⟨_, plain_error (by decide), rfl⟩⟩
          rw [if_neg elsewhere]
          cases configured : edit.child "config" with
          | none =>
            have none : editOf (.ok rpc) = none := by
              simp [editOf, edits, configured]
            exact .inl ⟨none, .inl ⟨_, plain_error (by decide), rfl⟩⟩
          | some config =>
            have target : editOf (.ok rpc) = some (match config.child "nacm" with
                | some nacm => (.nacm, nacm)
                | none => (.interfaces, config)) := by
              simp [editOf, closes, kills, getConfig, get, edits, elsewhere, configured]
            dsimp only
            cases nacm : config.child "nacm" with
            | some element =>
              rw [nacm] at target
              exact .inr ⟨_, .nacm, element, target, rfl⟩
            | none =>
              rw [nacm] at target
              exact .inr ⟨_, .interfaces, config, target, rfl⟩

/-- An edit of interfaces leaves access control alone. -/
theorem nacm_applyEditConfig (config : Element) :
    (applyEditConfig state config).2.nacm = state.nacm := by
  unfold applyEditConfig
  split
  · rfl
  · refine applyUntil_keeps DeviceState.nacm ?_ state
    intro before iface _ after applied
    obtain ⟨info, -, rfl⟩ := editInterface_ok applied
    rfl

theorem applyEdit_other {state : DeviceState} {other : Module} {element : Element}
    (different : other ≠ module) : SameData state (applyEdit state module element).2 other := by
  cases module with
  | interfaces =>
    cases other with
    | interfaces => exact absurd rfl different
    | nacm => exact congrArg Nacm.config (nacm_applyEditConfig state element)
  | nacm =>
    cases other with
    | interfaces => rfl
    | nacm => exact absurd rfl different

theorem sameData_of_config {before after : DeviceState} (same : after.config = before.config)
    (module : Module) : SameData before after module := by
  cases module with
  | interfaces =>
    have interfaces := congrArg DeviceState.interfaces same
    exact interfaces
  | nacm =>
    have nacm := congrArg DeviceState.nacm same
    exact nacm

def Denial (state : DeviceState) (outcome : Option Reply × DeviceState) : Prop :=
  outcome.2.config = state.config ∧ ∃ messageId, outcome.1 =
      some (.error messageId "application" "access-denied" "access denied by NACM")

theorem readModule_cases (module : Module) (user : String) :
    (permits state user .read module = true ∧ readModule state messageId module user =
      ((moduleData state module).map (.data messageId), state)) ∨
      Denial state (readModule state messageId module user) := by
  unfold readModule
  by_cases permitted : permits state user .read module = true
  · refine .inl ⟨permitted, ?_⟩
    rw [nacmCheck_of_permits permitted]
    rfl
  · refine .inr ?_
    dsimp only
    rw [permits] at permitted
    rw [if_neg permitted]
    exact ⟨config_nacmCheck .., _, rfl⟩

/-- The reply to an edit that is applied, with what went wrong. -/
def editReply (messageId : String) : Option String → Reply
  | some message => .error messageId "application" "invalid-value" message
  | none => .ok messageId

theorem plain_editReply (failure : Option String) : (editReply messageId failure).Plain := by
  cases failure with
  | none => exact plain_ok _
  | some message => exact plain_error (by decide)

theorem handleEdit_cases (module : Module) (element : Element) (user : String) :
    (permits state user .update module = true ∧ handleEdit state messageId module element user =
      (some (editReply messageId (applyEdit state module element).1),
        (applyEdit state module element).2)) ∨
      permits state user .update module = false ∧
        Denial state (handleEdit state messageId module element user) := by
  unfold handleEdit
  by_cases permitted : permits state user .update module = true
  · refine .inl ⟨permitted, ?_⟩
    rw [nacmCheck_of_permits permitted]
    dsimp only
    rw [if_pos rfl]
    cases (applyEdit state module element).1 <;> rfl
  · refine .inr ⟨eq_false_of_ne_true permitted, ?_⟩
    dsimp only
    rw [permits] at permitted
    rw [if_neg permitted]
    exact ⟨config_nacmCheck .., _, rfl⟩

theorem Reply.Plain.not_data {reply : Reply} (plain : reply.Plain) {messageId : String}
    {body : ReplyData} (shown : reply = .data messageId body) : ¬ body.Of module := by
  subst shown
  have empty : body = .empty := plain
  subst empty
  cases module <;> exact not_false

theorem module_of_moduleData {state : DeviceState} {other : Module} {body : ReplyData}
    (found : moduleData state module = some body) (ofModule : body.Of other) : other = module := by
  cases module with
  | interfaces =>
    obtain ⟨xml, -, rfl⟩ := Option.map_eq_some_iff.mp found
    cases other with
    | interfaces => rfl
    | nacm => exact absurd ofModule not_false
  | nacm =>
    obtain rfl := Option.some.inj found
    cases other with
    | interfaces => exact absurd ofModule not_false
    | nacm => rfl

theorem Denial.controlled {state : DeviceState} {call : String × Except String Element}
    (denial : Denial state (handleRpc state call.2 call.1)) : Controlled state call := by
  obtain ⟨same, messageId, denied⟩ := denial
  constructor
  · intro module changed
    exact absurd (sameData_of_config same module) changed
  · intro messageId' body module shown
    rw [denied] at shown
    cases shown
  · intro _ _ _ _
    exact same

/-- A call by a user who may do all that its edit asks for stays within access control. -/
theorem controlled_of_mayEdit {state : DeviceState} {call : String × Except String Element}
    (may : MayEdit state call) : Controlled state call := by
  obtain ⟨user, request⟩ := call
  rcases handleRpc_cases state request user with ⟨-, ⟨reply, plain, answer⟩ |
    ⟨messageId, module, answer⟩⟩ | ⟨messageId, module, element, target, answer⟩
  · constructor
    · intro module changed
      rw [answer] at changed
      exact absurd (sameData_of_config rfl module) changed
    · intro messageId body module shown ofModule
      rw [answer] at shown
      exact absurd ofModule (plain.not_data (Option.some.inj shown))
    · intro messageId errorType message _
      rw [answer]
  · rcases readModule_cases state messageId module user with ⟨mayRead, data⟩ | denial
    · constructor
      · intro other changed
        rw [answer, data] at changed
        exact absurd (sameData_of_config rfl other) changed
      · intro messageId' body other shown ofModule
        rw [answer, data] at shown
        obtain ⟨body', found, same⟩ := Option.map_eq_some_iff.mp shown
        obtain ⟨rfl, rfl⟩ := Reply.data.inj same
        rwa [module_of_moduleData found ofModule]
      · intro messageId' errorType message shown
        rw [answer, data]
    · rw [← answer] at denial
      exact denial.controlled
  · rcases handleEdit_cases state messageId module element user with
      ⟨mayUpdate, outcome⟩ | ⟨-, denial⟩
    · have plain := plain_editReply messageId (applyEdit state module element).1
      constructor
      · intro other changed
        rw [answer, outcome] at changed
        have same : other = module := by
          by_contra different
          exact changed (applyEdit_other different)
        subst same
        exact ⟨element, target, may other element target mayUpdate⟩
      · intro messageId' body other shown' ofModule
        rw [answer, outcome] at shown'
        exact absurd ofModule (plain.not_data (Option.some.inj shown'))
      · intro messageId' errorType message denied
        rw [answer, outcome] at denied
        rw [Option.some.inj denied] at plain
        exact absurd rfl plain
    · rw [← answer] at denial
      exact denial.controlled

end Calls

/-- Calls stay within access control as long as whoever may update a module may do what his edits
of it ask for. -/
theorem controlled_along (state : DeviceState) (calls : List (String × Except String Element))
    (may : Along (fun state call => (handleRpc state call.2 call.1).2) MayEdit state calls) :
    Along (fun state call => (handleRpc state call.2 call.1).2) Controlled state calls :=
  may.weaken fun _ _ => controlled_of_mayEdit

def updatesOnly : DeviceState :=
  { interfaces := OrderedMap.empty.insert "GigabitEthernet0/0"
      { ip := "10.0.0.1", prefixLength := some 24, status := some "up" }
    nacm := { ruleLists := [⟨"everybody", ["*"],
      [{ name := "updates", accessOperations := "update", action := .permit }]⟩] } }

def interfaceCall (attributes : List (String × String)) (leaves : List Element) : Element :=
  .node ("\x7b" ++ nsBase ++ "\x7drpc") [("message-id", "1")] ""
    [.node "edit-config" [] "" [.node "target" [] "" [.node "running" [] "" []],
      .node "config" [] "" [.node "interfaces" [] "" [.node "interface" attributes ""
        (.node "name" [] "GigabitEthernet0/0" [] :: leaves)]]]]

theorem controlled_description : Along (fun state call => (handleRpc state call.2 call.1).2)
    Controlled updatesOnly
    [("bob", .ok (interfaceCall [] [.node "description" [] "uplink" []]))] := by
  refine controlled_along _ _ ⟨fun module element target _ operation asked => ?_, trivial⟩
  obtain ⟨rfl, rfl⟩ := Prod.mk.inj (Option.some.inj target)
  revert operation
  decide +kernel

/-- A user who may only update an interface deletes it. -/
theorem update_deletes : permits updatesOnly "bob" .delete .interfaces = false ∧
    ¬ Controlled updatesOnly ("bob", .ok (interfaceCall [(opAttr, "delete")] [])) := by
  refine ⟨by decide +kernel, fun controlled => ?_⟩
  obtain ⟨element, target, permitted⟩ := controlled.writes .interfaces fun same => by
    have before : (handleRpc updatesOnly (.ok (interfaceCall [(opAttr, "delete")] []))
      "bob").2.interfaces ≠ updatesOnly.interfaces := by decide +kernel
    exact before same
  obtain ⟨-, rfl⟩ := Prod.mk.inj (Option.some.inj target)
  have mayDelete := permitted .delete (by decide +kernel)
  revert mayDelete
  decide +kernel

end NetLab.Netconf
