import NetLab.Alb.Device
import NetLab.Library.Execution

/-!
# Running listeners

A proxy is started for each listener of the store and keeps the object that the store has then. It
selects a target group by the rules of its object, in the order of their priorities.
-/

namespace NetLab.Alb

open NetLab.Library NetLab.Cli NetLab.Execution Pattern

/-! ## Rules -/

def Condition.holds (letters : Letters) (path host : String) (condition : Condition) : Bool :=
  if condition.field = "path-pattern" then
    condition.values.any fun value => Glob.fnmatch (if path = "" then "/" else path) value
  else if condition.field = "host-header" then
    condition.values.any fun value => Glob.fnmatch (letters.lower host) (letters.lower value)
  else false

/-- `rule_matches`. -/
def ruleMatches (letters : Letters) (conditions : List Condition) (path host : String) : Bool :=
  !conditions.isEmpty && conditions.all fun condition => condition.holds letters path host

/-! ## Proxies -/

/-- A proxy of a listener, with the object that it keeps. -/
structure ListenerProxy where
  vip : String
  port : Int
  object : Nat
deriving DecidableEq

namespace AlbDevice

variable (device : AlbDevice)

def priority (ruleArn : String) : Int :=
  ((device.rules.lookup ruleArn).map Rule.priority).getD 999999

/-- The target group of a rule that matches. -/
def applied (letters : Letters) (path host ruleArn : String) : Option (Option String) :=
  match device.rules.lookup ruleArn with
  | none => none
  | some rule => if ruleMatches letters rule.conditions path host then some rule.tgArn else none

/-- `select_tg` of a proxy. -/
def selectTg (letters : Letters) (proxy : ListenerProxy) (path host : String) : Option String :=
  match device.objects[proxy.object]? with
  | none => none
  | some listener =>
    let ruleArns := listener.rules.mergeSort fun left right =>
      device.priority left ≤ device.priority right
    (ruleArns.findSome? (device.applied letters path host)).getD listener.defaultTgArn

/-- `ensure_alb_listener_proxy`. A proxy that has the right address is kept. -/
def ensureProxy (binds : Bool) (proxies : OrderedMap String ListenerProxy) (arn : String) :
    OrderedMap String ListenerProxy :=
  match device.listeners.lookup arn, device.listener arn with
  | some object, some listener =>
    match device.loadBalancers.lookup listener.lbArn with
    | none => proxies
    | some balancer =>
      if balancer.vip = "" ∨ listener.port = 0 then proxies
      else
        let started := fun proxies : OrderedMap String ListenerProxy =>
          if binds then proxies.insert arn ⟨balancer.vip, listener.port, object⟩ else proxies
        match proxies.lookup arn with
        | none => started proxies
        | some existing =>
          if existing.vip = balancer.vip ∧ existing.port = listener.port then proxies
          else started (proxies.erase arn)
  | _, _ => proxies

end AlbDevice

/-! ## What clients have entered -/

def enteredValues (spec : String) : OrderedMap String (List String) :=
  ((specParts spec).foldl (fun state part =>
    match keyValue part, state.2 with
    | some (key, value), _ => (state.1.insert key [value], some key)
    | none, some key => (state.1.modify key fun values => values ++ [String.ofList part], some key)
    | none, none => state)
    ((.empty, none) : OrderedMap String (List String) × Option String)).1

def enteredCondition (spec : String) : Option Condition :=
  let pairs := enteredValues spec
  let field := ((pairs.lookup "Field").getD []).headD ""
  let values := (pairs.lookup "Values").getD []
  if field = "" then none else some ⟨field, if values = [""] then [] else values.map strip⟩

/-! ## Histories -/

/-- A command, and whether the addresses of listeners are free when proxies are started after it. -/
structure Event where
  command : String
  binds : String → Bool

/-- A load balancer with its running proxies, and the conditions that were entered for its rules. -/
structure System where
  device : AlbDevice
  proxies : OrderedMap String ListenerProxy := .empty
  entered : OrderedMap String (List Condition) := .empty

section Steps

variable (texts : Texts)

/-- The subcommand that a command asks for, and its arguments. -/
def asked (cmd : String) : Option (String × Arguments) :=
  let body := strip cmd
  if body = "" ∨ texts.letters.lower body ∈ ["exit", "quit"] then none
  else
    match AlbDevice.readCommand texts body with
    | some (sub, .ok arguments) => some (sub, arguments)
    | _ => none

def enteredRule (device : AlbDevice) (cmd : String) : Option (String × List Condition) :=
  match asked texts cmd with
  | none => none
  | some (sub, arguments) =>
    if sub = "create-rule" then
      match device.newRule texts arguments with
      | .error _ => none
      | .ok (arn, _) => some (arn, (arguments.all "conditions").filterMap enteredCondition)
    else none

/-- Commands after which the proxies are looked after. -/
def startsProxies (cmd : String) : Bool :=
  let word := wordAs texts.letters.alike
  occursIn (seq [word "aws", blanks, word "elbv2", blanks,
    oneOf [word "create-listener", word "create-rule", word "register-targets",
      word "deregister-targets", word "create-target-group"]]) cmd

/-- One command, and what the application does after it. -/
def System.step (system : System) (event : Event) : System :=
  let result := system.device.albProcess texts event.command
  { device := result.2
    proxies :=
      if result.1 ≠ .raised ∧ startsProxies texts event.command = true then
        result.2.listeners.keys.foldl (fun proxies arn =>
          result.2.ensureProxy (event.binds arn) proxies arn) system.proxies
      else system.proxies
    entered :=
      match enteredRule texts system.device event.command with
      | none => system.entered
      | some (arn, conditions) => system.entered.insert arn conditions }

/-- A load balancer without any resources. -/
def newSystem (hostname vip : String) : System where
  device := { hostname := hostname, vip := vip }

end Steps

/-! ## What routing should be -/

section Routing

variable (texts : Texts) (system : System)

/-- A rule of a listener all of whose entered conditions have a matching value. -/
structure Applies (arn path host ruleArn : String) (rule : Rule) : Prop where
  listed : system.device.rules.lookup ruleArn = some rule
  listener : rule.listenerArn = arn
  holds : ∀ condition ∈ (system.entered.lookup ruleArn).getD [],
    condition.holds texts.letters path host = true

/-- The target group of the rule with the lowest number that applies, or the default of the
listener. -/
def Routed (arn path host : String) (target : Option String) : Prop :=
  (∃ ruleArn rule, Applies texts system arn path host ruleArn rule ∧
    (∀ ruleArn other, Applies texts system arn path host ruleArn other →
      rule.priority ≤ other.priority) ∧ target = rule.tgArn) ∨
  (∀ ruleArn rule, ¬ Applies texts system arn path host ruleArn rule) ∧
    ∃ listener, system.device.listener arn = some listener ∧ target = listener.defaultTgArn

/-- Proxies follow the current configuration, and listeners list exactly their rules. -/
structure Follows : Prop where
  routes : ∀ arn proxy, system.proxies.lookup arn = some proxy → ∀ path host,
    Routed texts system arn path host (system.device.selectTg texts.letters proxy path host)
  lists : ∀ arn listener, system.device.listener arn = some listener →
    listener.rules.Nodup ∧ ∀ ruleArn, ruleArn ∈ listener.rules ↔
      ∃ rule, system.device.rules.lookup ruleArn = some rule ∧ rule.listenerArn = arn

/-- The listener of a command gets a name that no proxy and no rule has. -/
def FreeListener (arguments : Arguments) : Prop :=
  ∀ created ∈ (system.device.newListener texts arguments).toOption,
    system.proxies.lookup created.1 = none ∧
      ∀ rule ∈ system.device.rules.values, rule.listenerArn ≠ created.1

/-- The rule of a command has some condition, each of one value, and not the name of a rule of
another listener. -/
def WholeRule (arguments : Arguments) : Prop :=
  ∀ created ∈ (system.device.newRule texts arguments).toOption,
    created.2.conditions ≠ [] ∧
      (∀ spec ∈ arguments.all "conditions", ∀ part ∈ specParts spec, keyValue part ≠ none) ∧
      ∀ old ∈ system.device.rules.lookup created.1, old.listenerArn = created.2.listenerArn

/-- A listener is created under a free name, and a rule without losses. -/
def Sound (event : Event) : Prop :=
  ∀ request ∈ asked texts event.command,
    (request.1 = "create-listener" → FreeListener texts system request.2) ∧
      (request.1 = "create-rule" → WholeRule texts system request.2)

instance (arguments : Arguments) : Decidable (FreeListener texts system arguments) :=
  inferInstanceAs (Decidable (∀ created ∈ (system.device.newListener texts arguments).toOption, _))

instance (arguments : Arguments) : Decidable (WholeRule texts system arguments) :=
  inferInstanceAs (Decidable (∀ created ∈ (system.device.newRule texts arguments).toOption, _))

instance (event : Event) : Decidable (Sound texts system event) :=
  inferInstanceAs (Decidable (∀ request ∈ asked texts event.command, _))

end Routing

end NetLab.Alb
