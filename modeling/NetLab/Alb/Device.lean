import NetLab.Cli.Abbreviations
import NetLab.Library.Glob
import NetLab.Library.Integers
import NetLab.Library.OrderedMap
import NetLab.Library.Pattern
import NetLab.Library.Shell

/-!
# Application load balancers

The stores of a load balancer and the commands that fill them. A listener is an object that may be
held by others when the store gets a new one under its name.
-/

namespace NetLab.Alb

open NetLab.Library NetLab.Cli Pattern

structure Condition where
  field : String
  values : List String
deriving DecidableEq

structure Rule where
  listenerArn : String
  priority : Int
  conditions : List Condition
  tgArn : Option String
deriving DecidableEq

structure Listener where
  lbArn : String
  protocol : String
  port : Int
  defaultTgArn : Option String
  rules : List String := []
deriving DecidableEq

structure LoadBalancer where
  name : String
  scheme : String
  type : String
  dnsName : String
  vip : String
  listeners : List String := []

structure HealthCheck where
  protocol : String
  path : String
  interval : Int
  healthyThreshold : Int
  unhealthyThreshold : Int

structure Member where
  ip : String
  port : Int
  adminDown : Bool := false
deriving DecidableEq

structure Stickiness where
  enabled : Bool := false
  type : String := "lb_cookie"
  duration : Int := 86400
deriving DecidableEq

structure TargetGroup where
  name : String
  protocol : String
  port : Int
  targetType : String
  healthCheck : HealthCheck
  members : List Member := []
  stickiness : Stickiness := {}

/-- A load balancer with its stores. The listeners are objects, and the store of listeners has their
numbers. -/
structure AlbDevice where
  hostname : String
  vip : String
  loadBalancers : OrderedMap String LoadBalancer := .empty
  targetGroups : OrderedMap String TargetGroup := .empty
  objects : List Listener := []
  listeners : OrderedMap String Nat := .empty
  rules : OrderedMap String Rule := .empty

/-- The listener that the store has under a name. -/
def AlbDevice.listener (device : AlbDevice) (arn : String) : Option Listener :=
  (device.listeners.lookup arn).bind fun object => device.objects[object]?

/-! ## Arguments -/

/-- Values of the options of a command. -/
abbrev Arguments := OrderedMap String (List String)

def readOptions : List String → Arguments → Arguments
  | [], arguments => arguments
  | word :: rest, arguments =>
    if startsWith word "--" then
      let values := rest.takeWhile fun value => !startsWith value "--"
      readOptions rest (arguments.insert (String.ofList (word.toList.drop 2)) values)
    else readOptions rest arguments

/-- `_alb_parse_args`. -/
def parseArgs (rest : String) : Except String Arguments :=
  if strip rest = "" then .ok .empty
  else (Shell.split rest).map fun words => readOptions words .empty

def Arguments.first (arguments : Arguments) (option default : String) : String :=
  (((arguments.lookup option).getD []).head?).getD default

/-- All values of an option. -/
def Arguments.all (arguments : Arguments) (option : String) : List String :=
  (arguments.lookup option).getD []

def specParts (spec : String) : List (List Char) := spec.toList.splitOn ','

def keyValue (part : List Char) : Option (String × String) :=
  match part.dropWhile fun char => char ≠ '=' with
  | [] => none
  | _ :: value => some (String.ofList (part.takeWhile fun char => char ≠ '='), String.ofList value)

/-- `_alb_kv`. A part that has no key is lost. -/
def albKv (spec : String) : OrderedMap String String :=
  (specParts spec).foldl (fun pairs part =>
    match keyValue part with
    | some (key, value) => pairs.insert key value
    | none => pairs) .empty

/-! ## Names -/

/-- What the names of resources are made with: hexadecimal digests of texts. -/
abbrev Digest := String → String

def AlbDevice.arn (digest : Digest) (device : AlbDevice) (kind path name : String) : String :=
  "arn:aws:elasticloadbalancing:us-east-1:123456789012:" ++ path ++ "/" ++ name ++ "/" ++
    String.ofList ((digest (device.hostname ++ ":" ++ kind ++ ":" ++ name)).toList.take 16)

def lastEight (text : String) : String := String.ofList (text.toList.drop (text.length - 8))

/-- `_alb_resolve`: a full name, or that of a resource. -/
def resolve {Resource : Type} (store : OrderedMap String Resource) (name : Resource → String)
    (ref : String) : Option String :=
  if ref ∈ store.keys then some ref
  else
    (store.entries.find? fun entry =>
      name entry.2 = ref || (entry.1.toList.splitOn '/').reverse[1]? = some ref.toList).map Prod.fst

/-! ## Commands -/

/-- What the program knows of texts: letters in either case, digits and digests. -/
structure Texts where
  letters : Letters
  upper : String → String
  digits : Digits
  digest : Digest

def plainTexts (digest : Digest) : Texts where
  letters := plainLetters
  upper text := String.ofList (text.toList.map Char.toUpper)
  digits := plainDigits
  digest := digest

/-- What a command prints, or the error that it raises. -/
inductive Reply where
  | nothing
  | help (invalid : Option String)
  | error (message : String)
  | raised
  | loadBalancer (arn : String)
  | targetGroup (arn : String)
  | listener (arn : String)
  | rule (arn : String)
  | attributes (stickiness : Stickiness)
  | rules (entries : List (String × Rule)) (defaults : List (String × Option String))
  | display
deriving DecidableEq

namespace AlbDevice

variable (texts : Texts) (device : AlbDevice)

/-- `int()` of the first value of an option. -/
def number (arguments : Arguments) (option default : String) : Option Int :=
  readInt texts.digits (arguments.first option default).toList

def resolveTargetGroup (ref : String) : Option String :=
  resolve device.targetGroups TargetGroup.name ref

def resolveLoadBalancer (ref : String) : Option String :=
  resolve device.loadBalancers LoadBalancer.name ref

def forwardTarget (actions : List String) : Option String :=
  actions.foldl (fun target spec =>
    let pairs := albKv spec
    if pairs.lookup "Type" = some "forward" then
      device.resolveTargetGroup ((pairs.lookup "TargetGroupArn").getD "")
    else target) none

def notFound (kind operation resource ref : String) : Reply :=
  .error ("\nAn error occurred (" ++ kind ++ ") when calling the " ++ operation ++ " operation: " ++
    resource ++ " '" ++ ref ++ "' not found")

/-- `_alb_create_lb`. -/
def createLoadBalancer (arguments : Arguments) : Reply × AlbDevice :=
  let name := arguments.first "name" ""
  let arn := device.arn texts.digest "loadbalancer" "loadbalancer/app" name
  (.loadBalancer arn, { device with
    loadBalancers := device.loadBalancers.insert arn {
      name := name
      scheme := arguments.first "scheme" "internet-facing"
      type := arguments.first "type" "application"
      dnsName := name ++ "-" ++ lastEight arn ++ "." ++ texts.letters.lower device.hostname ++
        ".elb.amazonaws.com"
      vip := device.vip } })

/-- `_alb_create_tg`. -/
def createTargetGroup (arguments : Arguments) : Reply × AlbDevice :=
  let name := arguments.first "name" ""
  let protocol := texts.upper (arguments.first "protocol" "HTTP")
  let created := do
    let port ← number texts arguments "port" "80"
    let interval ← number texts arguments "health-check-interval-seconds" "30"
    let healthy ← number texts arguments "healthy-threshold-count" "3"
    let unhealthy ← number texts arguments "unhealthy-threshold-count" "3"
    pure ({ name := name, protocol := protocol, port := port
            targetType := arguments.first "target-type" "ip"
            healthCheck := {
              protocol := texts.upper (arguments.first "health-check-protocol" protocol)
              path := arguments.first "health-check-path" "/"
              interval := interval, healthyThreshold := healthy
              unhealthyThreshold := unhealthy } } : TargetGroup)
  match created with
  | none => (.raised, device)
  | some group =>
    let arn := device.arn texts.digest "targetgroup" "targetgroup" name
    (.targetGroup arn, { device with targetGroups := device.targetGroups.insert arn group })

def modifyGroup (arn : String) (update : TargetGroup → TargetGroup) : AlbDevice :=
  { device with targetGroups := device.targetGroups.modify arn update }

def TargetGroup.register (group : TargetGroup) (ip : String) (port : Int) : TargetGroup :=
  if group.members.any fun known => known.ip = ip && known.port = port then group
  else { group with members := group.members ++ [{ ip := ip, port := port }] }

def registerAll (group : TargetGroup) : List String → Bool × TargetGroup
  | [] => (true, group)
  | spec :: later =>
    let pairs := albKv spec
    match (pairs.lookup "Port").map (fun port => readInt texts.digits port.toList) with
    | some none => (false, group)
    | some (some port) =>
      registerAll (TargetGroup.register group ((pairs.lookup "Id").getD "") port) later
    | none => registerAll (TargetGroup.register group ((pairs.lookup "Id").getD "") group.port) later

/-- `_alb_register_targets`. -/
def registerTargets (arguments : Arguments) : Reply × AlbDevice :=
  let ref := arguments.first "target-group-arn" ""
  match device.resolveTargetGroup ref with
  | none =>
    (notFound "TargetGroupNotFoundException" "RegisterTargets" "Target group" ref, device)
  | some arn =>
    match device.targetGroups.lookup arn with
    | none => (.nothing, device)
    | some group =>
      let registered := registerAll texts group (arguments.all "targets")
      (if registered.1 then .nothing else .raised, device.modifyGroup arn fun _ => registered.2)

/-- Targets to take out, each with its port or with any. -/
def removals (specs : List String) : Option (List (String × Option Int)) :=
  specs.mapM fun spec =>
    let pairs := albKv spec
    match pairs.lookup "Port" with
    | none => some ((pairs.lookup "Id").getD "", none)
    | some port =>
      (readInt texts.digits port.toList).map fun port => ((pairs.lookup "Id").getD "", some port)

/-- `_alb_deregister_targets`. -/
def deregisterTargets (arguments : Arguments) : Reply × AlbDevice :=
  let ref := arguments.first "target-group-arn" ""
  match device.resolveTargetGroup ref with
  | none =>
    (notFound "TargetGroupNotFoundException" "DeregisterTargets" "Target group" ref, device)
  | some arn =>
    match removals texts (arguments.all "targets") with
    | none => (.raised, device)
    | some removed =>
      (.nothing, device.modifyGroup arn fun group => { group with
        members := group.members.filter fun known =>
          !removed.any fun target => target.1 = known.ip &&
            (target.2 = none || target.2 = some known.port) })

def setAttributes (stickiness : Stickiness) : List String → Bool × Stickiness
  | [] => (true, stickiness)
  | spec :: later =>
    let pairs := albKv spec
    let key := (pairs.lookup "Key").getD ""
    let value := (pairs.lookup "Value").getD ""
    if key = "stickiness.enabled" then
      setAttributes { stickiness with enabled := texts.letters.lower value = "true" } later
    else if key = "stickiness.type" then setAttributes { stickiness with type := value } later
    else if key = "stickiness.lb_cookie.duration_seconds" then
      match readInt texts.digits value.toList with
      | none => (false, stickiness)
      | some duration => setAttributes { stickiness with duration := duration } later
    else setAttributes stickiness later

/-- `_alb_modify_tg_attributes`. -/
def modifyAttributes (arguments : Arguments) : Reply × AlbDevice :=
  let ref := arguments.first "target-group-arn" ""
  match device.resolveTargetGroup ref with
  | none =>
    (notFound "TargetGroupNotFoundException" "ModifyTargetGroupAttributes" "Target group" ref,
      device)
  | some arn =>
    match device.targetGroups.lookup arn with
    | none => (.nothing, device)
    | some group =>
      let set := setAttributes texts group.stickiness (arguments.all "attributes")
      (if set.1 then .attributes set.2 else .raised,
        device.modifyGroup arn fun group => { group with stickiness := set.2 })

/-! ## Listeners and rules -/

/-- The listener that a command asks for, with its name. -/
def newListener (arguments : Arguments) : Except Reply (String × Listener) :=
  let ref := arguments.first "load-balancer-arn" ""
  match device.resolveLoadBalancer ref with
  | none =>
    .error (notFound "LoadBalancerNotFoundException" "CreateListener" "Load balancer" ref)
  | some lbArn =>
    match number texts arguments "port" "80" with
    | none => .error .raised
    | some port =>
      let name := ((device.loadBalancers.lookup lbArn).map LoadBalancer.name).getD ""
      .ok (device.arn texts.digest "listener" "listener/app"
          (name ++ "-" ++ String.ofList (writeInt port)),
        { lbArn := lbArn, protocol := texts.upper (arguments.first "protocol" "HTTP"), port := port
          defaultTgArn := device.forwardTarget (arguments.all "default-actions") })

/-- `_alb_create_listener`. The name gets a new object. -/
def createListener (arguments : Arguments) : Reply × AlbDevice :=
  match device.newListener texts arguments with
  | .error reply => (reply, device)
  | .ok (arn, listener) =>
    (.listener arn, { device with
      objects := device.objects ++ [listener]
      listeners := device.listeners.insert arn device.objects.length
      loadBalancers := device.loadBalancers.modify listener.lbArn fun balancer =>
        { balancer with listeners := balancer.listeners ++ [arn] } })

def readCondition (spec : String) : Option Condition :=
  let pairs := albKv spec
  match pairs.lookup "Field" with
  | none => none
  | some field =>
    if field = "" then none
    else
      let values := (pairs.lookup "Values").getD ""
      some ⟨field, if values = "" then [] else
        (values.toList.splitOn ',').map fun value => strip (String.ofList value)⟩

/-- The rule that a command asks for, with its name. -/
def newRule (arguments : Arguments) : Except Reply (String × Rule) :=
  let ref := arguments.first "listener-arn" ""
  if ref ∉ device.listeners.keys then
    .error (notFound "ListenerNotFoundException" "CreateRule" "Listener" ref)
  else
    match number texts arguments "priority" "1" with
    | none => .error .raised
    | some priority =>
      .ok (device.arn texts.digest "rule" "listener-rule/app"
          ("rule-" ++ lastEight ref ++ "-" ++ String.ofList (writeInt priority)),
        { listenerArn := ref, priority := priority
          conditions := (arguments.all "conditions").filterMap readCondition
          tgArn := device.forwardTarget (arguments.all "actions") })

def Listener.list (listener : Listener) (arn : String) : Listener :=
  if arn ∈ listener.rules then listener else { listener with rules := listener.rules ++ [arn] }

/-- `_alb_create_rule`. -/
def createRule (arguments : Arguments) : Reply × AlbDevice :=
  match device.newRule texts arguments with
  | .error reply => (reply, device)
  | .ok (arn, rule) =>
    (.rule arn, { device with
      rules := device.rules.insert arn rule
      objects :=
        match device.listeners.lookup rule.listenerArn with
        | none => device.objects
        | some object => device.objects.modify object fun listener => Listener.list listener arn })

/-- `_alb_describe_rules`: rules in the order of their priorities, and the defaults of listeners. -/
def describeRules (arguments : Arguments) : Reply :=
  let ref := arguments.first "listener-arn" ""
  let rules := device.rules.entries.filter fun entry => ref = "" || entry.2.listenerArn = ref
  let listeners := if ref = "" then device.listeners.keys else [ref]
  .rules (rules.mergeSort fun left right => left.2.priority ≤ right.2.priority)
    (listeners.filterMap fun arn => (device.listener arn).map fun listener =>
      (arn, listener.defaultTgArn))

def readCommand (body : String) : Option (String × Except String Arguments) :=
  let start := seq [wordAs texts.letters.alike "aws", blanks, wordAs texts.letters.alike "elbv2",
    blanks]
  (start ⟨none, body.toList⟩).head?.bind fun place =>
    let sub := place.rest.takeWhile fun char => !isSpace char
    let rest := (place.rest.drop sub.length).dropWhile isSpace
    if sub = [] then none
    else some (texts.letters.lower (String.ofList sub), parseArgs (String.ofList rest))

/-- Subcommands that only display something. -/
def displays : List String :=
  ["describe-load-balancers", "describe-target-groups", "describe-target-health",
    "describe-listeners"]

/-- The handler of a subcommand. -/
def handle (sub : String) (arguments : Arguments) : Reply × AlbDevice :=
  if sub = "create-load-balancer" then device.createLoadBalancer texts arguments
  else if sub = "create-target-group" then device.createTargetGroup texts arguments
  else if sub = "register-targets" then device.registerTargets texts arguments
  else if sub = "deregister-targets" then device.deregisterTargets texts arguments
  else if sub = "create-listener" then device.createListener texts arguments
  else if sub = "create-rule" then device.createRule texts arguments
  else if sub = "describe-rules" then (device.describeRules arguments, device)
  else if sub = "modify-target-group-attributes" then device.modifyAttributes texts arguments
  else if sub ∈ displays then (.display, device)
  else (.help (some sub), device)

/-- `_alb_process`. -/
def albProcess (cmd : String) : Reply × AlbDevice :=
  let body := strip cmd
  if body = "" ∨ texts.letters.lower body ∈ ["exit", "quit"] then (.nothing, device)
  else
    match readCommand texts body with
    | none => (.help none, device)
    | some (_, .error message) => (.error ("Error parsing parameter: " ++ message), device)
    | some (sub, .ok arguments) => device.handle texts sub arguments

end AlbDevice

end NetLab.Alb
