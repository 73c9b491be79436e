import NetLab.Library.Blanks
import NetLab.Library.OrderedMap
import Mathlib.Data.List.Infix

/-!
# Access control of the management protocols

A request is decided by the first rule that covers it, in the lists given to a group of its user.
Rules cover requests by their texts, so more than they name; `nacmCheck_eq_iff` says when the
decision is the one of the standard.
-/

namespace NetLab.Netconf

open List

open NetLab.Library

variable {operation : AccessOperation}

inductive NacmAction where
  | permit
  | deny
deriving DecidableEq

inductive AccessOperation where
  | read
  | create
  | update
  | delete
  | exec
deriving DecidableEq

def AccessOperation.name : AccessOperation → String
  | .read => "read"
  | .create => "create"
  | .update => "update"
  | .delete => "delete"
  | .exec => "exec"

/-- The operation changes data. -/
def AccessOperation.writes : AccessOperation → Bool
  | .create | .update | .delete => true
  | .read | .exec => false

structure NacmRule where
  name : String
  moduleName : String := "*"
  rpcName : String := ""
  path : String := ""
  accessOperations : String := "*"
  action : NacmAction
  comment : String := ""
deriving DecidableEq

structure NacmRuleList where
  name : String
  groups : List String
  rules : List NacmRule
deriving DecidableEq

/-- The `/nacm` subtree. -/
structure Nacm where
  enableNacm : Bool := true
  readDefault : NacmAction := .permit
  writeDefault : NacmAction := .deny
  execDefault : NacmAction := .permit
  enableExternalGroups : Bool := true
  groups : OrderedMap String (List String) := OrderedMap.empty
  ruleLists : List NacmRuleList := []
  deniedOperations : Nat := 0
  deniedDataWrites : Nat := 0
  deniedNotifications : Nat := 0
deriving DecidableEq

structure LocalUser where
  name : String
  privilege : Nat := 1
deriving DecidableEq

/-- Data of one interface; a key that is missing is `none`. -/
structure IfaceInfo where
  ip : String := ""
  prefixLength : Option Nat := none
  status : Option String := none
  desc : Option String := none
  description : Option String := none
deriving DecidableEq

/-- What the management protocols read and write of a device. `/nacm` is made with its defaults when
it is first read. -/
structure DeviceState where
  hostname : String := ""
  interfaces : OrderedMap String IfaceInfo := OrderedMap.empty
  users : List LocalUser := []
  nacm : Nacm := {}
deriving DecidableEq

def nacmRecoveryGroups : List String := ["ndm-admin", "PRIV15"]

def nacmRecoveryUsers : List String := ["admin"]

namespace DeviceState

/-- `_user_groups`. -/
def userGroups (state : DeviceState) (user : String) : List String :=
  (state.nacm.groups.entries.filter fun entry => user ∈ entry.2).map Prod.fst

/-- `_is_recovery`. -/
def isRecovery (state : DeviceState) (user : String) : Bool :=
  if user = "" then false
  else if (state.userGroups user).any fun group => group ∈ nacmRecoveryGroups then true
  else if state.users ≠ [] then
    state.users.any fun account => account.name = user ∧ 15 ≤ account.privilege
  else user ∈ nacmRecoveryUsers

end DeviceState

/-- The rule takes a request, as the texts of both say. An empty path is no path. -/
def NacmRule.Covers (rule : NacmRule) (operation : AccessOperation) (module path : String) : Prop :=
  (rule.moduleName = "*" ∨ module = "*" ∨ rule.moduleName = module) ∧
    (rule.accessOperations = "*" ∨ operation.name ∈ words rule.accessOperations) ∧
    (rule.path = "" ∨ path = "" ∨ rule.path.toList <:+: path.toList) ∧
    (rule.rpcName = "" ∨ operation = .exec)

instance (rule : NacmRule) (operation : AccessOperation) (module path : String) :
    Decidable (rule.Covers operation module path) :=
  inferInstanceAs (Decidable (_ ∧ _ ∧ _ ∧ _))

def NacmRuleList.appliesTo (list : NacmRuleList) (groups : List String) : Bool :=
  "*" ∈ list.groups || list.groups.any fun group => group ∈ groups

/-- What is done with a request that no rule takes. -/
def Nacm.defaultAction (nacm : Nacm) : AccessOperation → NacmAction
  | .read => nacm.readDefault
  | .exec => nacm.execDefault
  | _ => nacm.writeDefault

def Nacm.countDenied (nacm : Nacm) (operation : AccessOperation) : Nacm :=
  { nacm with
    deniedOperations := nacm.deniedOperations + 1
    deniedDataWrites :=
      if operation.writes then nacm.deniedDataWrites + 1 else nacm.deniedDataWrites }

namespace DeviceState

def listsFor (state : DeviceState) (user : String) : List NacmRuleList :=
  state.nacm.ruleLists.filter fun list => list.appliesTo (state.userGroups user)

/-- `nacm_check`. -/
def nacmCheck (state : DeviceState) (user : String) (operation : AccessOperation)
    (module path : String) : Bool × DeviceState :=
  if state.nacm.enableNacm = false then (true, state)
  else if state.isRecovery user then (true, state)
  else
    match (state.listsFor user).findSome? fun list =>
      list.rules.find? fun rule => rule.Covers operation module path with
    | some rule => (rule.action = .permit, state)
    | none =>
      if state.nacm.defaultAction operation = .permit then (true, state)
      else (false, { state with nacm := state.nacm.countDenied operation })

end DeviceState

/-- The path is that of a node or of one of its descendants. The node `/` is the whole datastore. -/
def AtOrBelow (node path : String) : Prop :=
  path = node ∨ (node = "/" ∧ "/".toList <+: path.toList) ∨ (node ++ "/").toList <+: path.toList

instance (node path : String) : Decidable (AtOrBelow node path) :=
  inferInstanceAs (Decidable (_ ∨ _ ∨ _))

/-- The rule is about a request, by the standard. -/
def NacmRule.Names (rule : NacmRule) (operation : AccessOperation) (module path : String) : Prop :=
  (rule.moduleName = "*" ∨ rule.moduleName = module) ∧
    (rule.accessOperations = "*" ∨ operation.name ∈ words rule.accessOperations) ∧
    (rule.path = "" ∨ AtOrBelow rule.path path) ∧
    (rule.rpcName = "" ∨ operation = .exec)

instance (rule : NacmRule) (operation : AccessOperation) (module path : String) :
    Decidable (rule.Names operation module path) :=
  inferInstanceAs (Decidable (_ ∧ _ ∧ _ ∧ _))

variable {path module : String}

theorem AtOrBelow.infix {node : String} (below : AtOrBelow node path) :
    node.toList <:+: path.toList := by
  rcases below with rfl | ⟨rfl, absolute⟩ | descendant
  · exact infix_rfl
  · exact absolute.isInfix
  · rw [String.toList_append] at descendant
    exact ((prefix_append _ _).trans descendant).isInfix

theorem NacmRule.Names.covers {rule : NacmRule} (names : rule.Names operation module path) :
    rule.Covers operation module path := by
  obtain ⟨inModule, inOperations, atPath, inRpc⟩ := names
  refine ⟨inModule.imp_right .inr, inOperations, ?_, inRpc⟩
  exact atPath.imp_right fun below => .inr below.infix

/-- What the standard does with a request: as the first of some rules that is about it says, and
else as the default says. -/
def Nacm.ruling (nacm : Nacm) (operation : AccessOperation) (module path : String)
    (rules : List NacmRule) : NacmAction :=
  match rules.find? fun rule => rule.Names operation module path with
  | some rule => rule.action
  | none => nacm.defaultAction operation

namespace DeviceState

/-- Rules for a user, in the order of the lists and in their order in each. -/
def rulesFor (state : DeviceState) (user : String) : List NacmRule :=
  (state.listsFor user).flatMap NacmRuleList.rules

/-- The session is not subject to access control. -/
def Exempt (state : DeviceState) (user : String) : Prop :=
  state.nacm.enableNacm = false ∨ state.isRecovery user = true

instance (state : DeviceState) (user : String) : Decidable (state.Exempt user) :=
  inferInstanceAs (Decidable (_ ∨ _))

def standardCheck (state : DeviceState) (user : String) (operation : AccessOperation)
    (module path : String) : Bool × DeviceState :=
  if state.Exempt user ∨
      state.nacm.ruling operation module path (state.rulesFor user) = .permit then (true, state)
  else (false, { state with nacm := state.nacm.countDenied operation })

theorem nacmCheck_eq (state : DeviceState) (user : String) (operation : AccessOperation)
    (module path : String) :
    state.nacmCheck user operation module path = if state.Exempt user then (true, state)
      else match (state.rulesFor user).find? fun rule => rule.Covers operation module path with
        | some rule => (rule.action = .permit, state)
        | none =>
          if state.nacm.defaultAction operation = .permit then (true, state)
          else (false, { state with nacm := state.nacm.countDenied operation }) := by
  rw [nacmCheck, rulesFor, find?_flatMap]
  by_cases disabled : state.nacm.enableNacm = false
  · rw [if_pos disabled, if_pos (.inl disabled)]
  · by_cases recovery : state.isRecovery user = true
    · rw [if_neg disabled, if_pos recovery, if_pos (.inr recovery)]
    · have subject : ¬ state.Exempt user := not_or.mpr ⟨disabled, recovery⟩
      rw [if_neg disabled, if_neg recovery, if_neg subject]

theorem ruling_append {nacm : Nacm} {before rest : List NacmRule}
    (passed : ∀ earlier ∈ before, ¬ earlier.Covers operation module path) :
    nacm.ruling operation module path (before ++ rest) =
      nacm.ruling operation module path rest := by
  have noMatch : before.find? (fun rule => rule.Names operation module path) = none := by
    refine find?_eq_none.mpr fun earlier inBefore named => ?_
    exact passed earlier inBefore (of_decide_eq_true named).covers
  rw [Nacm.ruling, Nacm.ruling, find?_append, noMatch, Option.none_or]

theorem ruling_cons {nacm : Nacm} {rule : NacmRule} {after : List NacmRule}
    (permits : rule.action = .permit) :
    nacm.ruling operation module path (rule :: after) = .permit ↔
      rule.Names operation module path ∨ nacm.ruling operation module path after = .permit := by
  by_cases named : rule.Names operation module path
  · simp [Nacm.ruling, named, permits]
  · simp [Nacm.ruling, named]

theorem countDenied_ne (nacm : Nacm) (operation : AccessOperation) :
    nacm.countDenied operation ≠ nacm := fun same =>
  absurd (congrArg Nacm.deniedOperations same) (Nat.succ_ne_self _)

/-- A decision is that of the standard exactly if the session is exempt, or no rule takes the
request, or the first rule that does permits it and is about it or the standard permits it by what
follows. -/
theorem nacmCheck_eq_iff (state : DeviceState) (user : String) (operation : AccessOperation)
    (module path : String) :
    state.nacmCheck user operation module path = state.standardCheck user operation module path ↔
      state.Exempt user ∨ (∀ rule ∈ state.rulesFor user, ¬ rule.Covers operation module path) ∨
        ∃ before rule after, state.rulesFor user = before ++ rule :: after ∧
          (∀ earlier ∈ before, ¬ earlier.Covers operation module path) ∧
          rule.Covers operation module path ∧ rule.action = .permit ∧
          (rule.Names operation module path ∨
            state.nacm.ruling operation module path after = .permit) := by
  rw [nacmCheck_eq, standardCheck]
  by_cases exempt : state.Exempt user
  · simp [exempt]
  · simp only [exempt, if_false, false_or]
    cases found : (state.rulesFor user).find? fun rule => rule.Covers operation module path with
    | none =>
      have passed : ∀ rule ∈ state.rulesFor user, ¬ rule.Covers operation module path := by
        simpa using found
      have byDefault : state.nacm.ruling operation module path (state.rulesFor user) =
          state.nacm.defaultAction operation := by
        rw [← append_nil (state.rulesFor user), ruling_append passed]
        rfl
      refine iff_of_true ?_ (.inl passed)
      rw [byDefault]
    | some rule =>
      obtain ⟨covers, before, after, split, passed⟩ := find?_eq_some_iff_append.mp found
      have passed' : ∀ earlier ∈ before, ¬ earlier.Covers operation module path := by
        simpa using passed
      have takes : rule.Covers operation module path := of_decide_eq_true covers
      rw [split, ruling_append passed']
      constructor
      · intro same
        refine .inr ⟨before, rule, after, rfl, passed', takes, ?_⟩
        by_cases ruled : state.nacm.ruling operation module path (rule :: after) = .permit
        · rw [if_pos ruled] at same
          have permits : rule.action = .permit := by simpa using congrArg Prod.fst same
          exact ⟨permits, (ruling_cons permits).mp ruled⟩
        · rw [if_neg ruled] at same
          have uncounted := congrArg (fun outcome => outcome.2.nacm) same
          exact absurd uncounted.symm (countDenied_ne _ _)
      · rintro (none | ⟨before', rule', after', split', passed'', takes', permits, ruled⟩)
        · exact absurd takes (none rule (by simp))
        · have first : (before ++ rule :: after).find?
              (fun rule => rule.Covers operation module path) = some rule' :=
            find?_eq_some_iff_append.mpr
              ⟨decide_eq_true takes', before', after', split', by simpa using passed''⟩
          have same : rule' = rule := by
            rw [split] at found
            exact Option.some.inj (first.symm.trans found)
          subst same
          have ruled' := (ruling_cons permits).mpr ruled
          rw [← ruling_append passed'', ← split', ruling_append passed'] at ruled'
          simp [ruled', permits]

def withRule (rule : NacmRule) : DeviceState :=
  { nacm := { ruleLists := [⟨"everybody", ["*"], [rule]⟩] } }

/-- A denial by a rule is not counted, and a rule for the path `/interface` opens `/interfaces`. -/
theorem nacmCheck_differs :
    ((withRule { name := "closed", action := .deny }).nacmCheck "bob" .update "ietf-interfaces"
        "/interfaces" =
      (false, withRule { name := "closed", action := .deny }) ∧
      (withRule { name := "closed", action := .deny }).standardCheck "bob" .update
        "ietf-interfaces" "/interfaces" ≠
      (false, withRule { name := "closed", action := .deny })) ∧
    ((withRule { name := "open", path := "/interface", action := .permit }).nacmCheck "bob"
        .update "ietf-interfaces" "/interfaces").1 = true ∧
      ((withRule { name := "open", path := "/interface", action := .permit }).standardCheck "bob"
        .update "ietf-interfaces" "/interfaces").1 = false := by
  decide +kernel

end DeviceState

end NetLab.Netconf
