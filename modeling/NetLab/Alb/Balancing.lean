import NetLab.Alb.Listeners
import NetLab.Alb.Request
import NetLab.Library.Threads

/-!
# Connections of a listener

A running listener answers every client in a thread of its own. A thread reads the request, has a
target group selected, takes a member of it and relays. All threads share the positions of the
target groups in their rounds. The lock is held while a position is read and moved on.
-/

namespace NetLab.Alb

open NetLab.Library NetLab.Cli NetLab.Execution

/-- Address and port of a target. -/
abbrev Address := String × Int

/-- What health checks find while a request is served. Nothing answers at a port that is none. -/
structure Probe where
  /-- `target_is_healthy`. -/
  passes : (protocol ip : String) → (port : Int) → (path : String) → Bool
  port : ∀ protocol ip port path, passes protocol ip port path = true → 0 ≤ port ∧ port ≤ 65535

namespace AlbDevice

variable (device : AlbDevice)

/-- The target group of a name that is not empty. -/
def group (tgArn : String) : Option TargetGroup :=
  if tgArn = "" then none else device.targetGroups.lookup tgArn

/-- `get_healthy_members`. -/
def getHealthyMembers (probe : Probe) (tgArn : String) : List Address :=
  match device.group tgArn with
  | none => []
  | some group =>
    (group.members.filter fun member => !member.adminDown &&
      probe.passes group.healthCheck.protocol member.ip member.port group.healthCheck.path).map
        fun member => (member.ip, member.port)

/-- `get_stickiness`. -/
def getStickiness (tgArn : String) : Option Stickiness :=
  (device.group tgArn).map TargetGroup.stickiness

end AlbDevice

/-- What the threads of a listener share: the stores, and the last position in each target group. -/
structure Balancer where
  device : AlbDevice
  rrIndex : OrderedMap String Nat := .empty

/-- The position behind the last one of a target group. -/
def Balancer.nextIndex (balancer : Balancer) (tgArn : String) (count : Nat) : Nat :=
  ((balancer.rrIndex.lookup tgArn).map Nat.succ).getD 0 % count

/-- `_select_member`. -/
def Balancer.selectMember (balancer : Balancer) (probe : Probe) (tgArn : String) :
    Balancer × Option Address :=
  let members := balancer.device.getHealthyMembers probe tgArn
  if members = [] then (balancer, none)
  else
    let index := balancer.nextIndex tgArn members.length
    ({ balancer with rrIndex := balancer.rrIndex.insert tgArn index }, members[index]?)

/-! ## Threads -/

/-- How far a thread of `_handle` has come. -/
inductive Stage where
  | reading
  | ready
  | routed (tgArn : Option String)
  | selected (duration : Option Int)
  /-- The response is read up to its header block. -/
  | collecting (duration : Int)
  | pumping
  /-- The response has ended. -/
  | done
  /-- The connection was closed without a backend. -/
  | refused
deriving DecidableEq

/-- A client's connection and the thread that handles it. -/
structure Visit where
  probe : Probe
  /-- Sent by the client and not yet read. -/
  waiting : Bytes := []
  /-- The client sends no more. -/
  finished : Bool := false
  buf : Bytes := []
  stage : Stage := .reading
  member : Option Address := none
  /-- Read from the backend. -/
  response : Bytes := []
  /-- Sent to the client. -/
  output : Bytes := []

/-- What happens to a thread. -/
inductive Action where
  | send (bytes : Bytes)
  | finish
  | receive (size : Nat)
  | fail
  | route
  | choose
  | connect (accepted : Bool)
  | reply (chunk : Bytes)
  /-- The response ends, or reading it fails. -/
  | silence

/-- How many bytes of a message are read for its header block. -/
def headerLimit : Nat := 65536

/-- Reading stops with some bytes: they hold a blank line, or they are many. -/
def Enough (bytes : Bytes) : Prop := cutAt blankLine bytes ≠ none ∨ headerLimit ≤ bytes.length

instance (bytes : Bytes) : Decidable (Enough bytes) := inferInstanceAs (Decidable (_ ∨ _))

def serviceUnavailable : Bytes :=
  Utf8.encode "HTTP/1.1 503 Service Unavailable\r\nContent-Length: 0\r\nConnection: close\r\n\r\n"

def badGateway : Bytes :=
  Utf8.encode "HTTP/1.1 502 Bad Gateway\r\nContent-Length: 0\r\nConnection: close\r\n\r\n"

/-- The header line that names a member to the client. -/
def cookieLine (token : String) (duration : Int) : Bytes :=
  Utf8.encode ("Set-Cookie: AWSALB=" ++ token ++ "; Max-Age=" ++
    String.ofList (writeInt duration) ++ "; Path=/")

/-- What a client gets of the bytes up to the header block of a response. -/
def injectCookie (address : Address) (duration : Int) (response : Bytes) : Bytes :=
  match cutAt blankLine response with
  | none => response
  | some (head, rest) =>
    head ++ lineEnd ++ cookieLine (encodeMember address) duration ++ blankLine ++ rest

namespace Visit

variable (texts : Texts) (proxy : ListenerProxy) (balancer : Balancer) (visit : Visit)

/-- One read of at most 4096 bytes. -/
def receive (size : Nat) : Visit :=
  if visit.waiting = [] then
    if visit.finished then
      if visit.buf = [] then { visit with stage := .refused } else { visit with stage := .ready }
    else visit
  else
    let count := max 1 (min size 4096)
    let buf := visit.buf ++ visit.waiting.take count
    { visit with
      buf := buf
      waiting := visit.waiting.drop count
      stage := if Enough buf then .ready else .reading }

/-- The member that the cookie of the request names, if it is one to choose. -/
def pinned (tgArn : String) : Option Address :=
  match ((parseRequest visit.buf).cookies.lookup "AWSALB").bind (decodeMember texts.digits) with
  | none => none
  | some candidate =>
    if candidate ∈ balancer.device.getHealthyMembers visit.probe tgArn then some candidate
    else none

def choose (tgArn : String) : Balancer × Visit :=
  let stickiness := balancer.device.getStickiness tgArn
  let duration := (stickiness.filter Stickiness.enabled).map Stickiness.duration
  let pin := if duration = none then none else visit.pinned texts balancer tgArn
  match pin with
  | some address => (balancer, { visit with stage := .selected duration, member := some address })
  | none =>
    let next := balancer.selectMember visit.probe tgArn
    match next.2 with
    | some address => (next.1, { visit with stage := .selected duration, member := some address })
    | none => (next.1, { visit with stage := .refused, output := serviceUnavailable })

/-- What reading a response up to its header block leads to. -/
def flush (duration : Int) : Visit :=
  { visit with
    stage := .pumping
    output := match visit.member with
      | none => visit.response
      | some address => injectCookie address duration visit.response }

/-- One step of a thread. -/
def act : Action → Balancer × Visit
  | .send bytes =>
    (balancer, if visit.finished then visit else { visit with waiting := visit.waiting ++ bytes })
  | .finish => (balancer, { visit with finished := true })
  | .receive size =>
    (balancer, if visit.stage = .reading then visit.receive size else visit)
  | .fail =>
    (balancer, if visit.stage = .reading then { visit with stage := .refused } else visit)
  | .route =>
    let request := parseRequest visit.buf
    let tgArn := balancer.device.selectTg texts.letters proxy request.path request.host
    (balancer, if visit.stage = .ready then { visit with stage := .routed tgArn } else visit)
  | .choose =>
    match visit.stage with
    | .routed (some tgArn) => visit.choose texts balancer tgArn
    | .routed none => (balancer, { visit with stage := .refused, output := serviceUnavailable })
    | _ => (balancer, visit)
  | .connect accepted =>
    (balancer, match visit.stage, accepted with
    | .selected (some duration), true => { visit with stage := .collecting duration }
    | .selected none, true => { visit with stage := .pumping }
    | .selected _, false => { visit with stage := .refused, output := badGateway }
    | _, _ => visit)
  | .reply chunk =>
    (balancer, match visit.stage with
    | .collecting duration =>
      let read := { visit with response := visit.response ++ chunk }
      if Enough read.response then read.flush duration else read
    | .pumping =>
      { visit with response := visit.response ++ chunk, output := visit.output ++ chunk }
    | _ => visit)
  | .silence =>
    (balancer, match visit.stage with
    | .collecting duration => visit.flush duration
    | .pumping => { visit with stage := .done }
    | _ => visit)

end Visit

/-! ## Interleavings -/

/-- A client comes, the stores change, or a thread takes a step. -/
inductive Occurrence where
  | accept (probe : Probe)
  | configure (device : AlbDevice)
  | act (id : Nat) (action : Action)

/-- A running listener. -/
abbrev Frontend := Threads Balancer Visit

def Frontend.step (texts : Texts) (proxy : ListenerProxy) (frontend : Frontend) :
    Occurrence → Frontend
  | .accept probe => frontend.spawn { probe := probe }
  | .configure device => { frontend with shared := { frontend.shared with device := device } }
  | .act id action =>
    Threads.step (fun balancer visit => visit.act texts proxy balancer action) id frontend

/-- A listener that was just started. -/
def startFrontend (device : AlbDevice) : Frontend := ⟨{ device := device }, []⟩

end NetLab.Alb
