import NetLab.Library.Execution
import Mathlib.Data.List.Infix

/-!
# Scans and their control

A worker assesses the devices of a scan one after the other, and clients pause, resume and stop it.
They share two flags and the status, and every read and write of one of them is a step of its own.
-/

namespace NetLab.Nexpose

open NetLab.Execution

inductive ScanStatus where
  | running
  | paused
  | stopped
  | finished
deriving DecidableEq

def ScanStatus.name : ScanStatus → String
  | .running => "running"
  | .paused => "paused"
  | .stopped => "stopped"
  | .finished => "finished"

/-- What a client asks for. -/
inductive Request where
  | pause
  | resume
  | stop
deriving DecidableEq

namespace Request

def parse (text : String) : Option Request :=
  if text = "pause" then some .pause
  else if text = "resume" then some .resume
  else if text = "stop" then some .stop
  else none

/-- Statuses in which a request is allowed, in the order of their names. -/
def allowed : Request → List ScanStatus
  | .pause => [.running]
  | .resume => [.paused]
  | .stop => [.paused, .running]

def status : Request → ScanStatus
  | .pause => .paused
  | .resume => .running
  | .stop => .stopped

end Request

/-- Where `start_scan` is, and the worker that it starts. A worker knows the device it is at and
those that are left. -/
inductive Worker (Device : Type) where
  | absent
  | recorded
  | controlled
  | top (left : List Device)
  | waiting (device : Device) (left : List Device)
  | sleeping (device : Device) (left : List Device)
  | second (device : Device) (left : List Device)
  | assessing (device : Device) (left : List Device)
  | finishing (stopped : Bool)
  | closing
  | done
deriving DecidableEq

/-- Where a call of `set_scan_status` is: its request has been accepted, it has looked for the flags,
it has set the flag of a stop, or it is about to write the status. -/
inductive Call where
  | accepted (request : Request)
  | holding (request : Request) (control : Bool)
  | clearing
  | writing (request : Request)
deriving DecidableEq

def Call.request : Call → Request
  | .accepted request => request
  | .holding request _ => request
  | .clearing => .stop
  | .writing request => request

/-- One scan, with the calls that are in progress. -/
structure Scan (Device : Type) where
  id : Nat
  targets : List Device
  worker : Worker Device := .absent
  status : ScanStatus := .running
  pauseSet : Bool := false
  stopSet : Bool := false
  found : List Device := []
  calls : List Call := []
deriving DecidableEq

inductive Event where
  | start
  | worker
  | call (status : String)
  | client (index : Nat)
deriving DecidableEq

variable {Device : Type}

/-- The flags of a scan can be found by its number. -/
def Worker.hasControl : Worker Device → Bool
  | .absent => false
  | .recorded => false
  | .done => false
  | _ => true

namespace Scan

variable (scan : Scan Device)

/-- The checks of `set_scan_status`. -/
def answer (text : String) : Except String Request :=
  match scan.worker with
  | .absent => .error ("scan " ++ toString scan.id ++ " not found")
  | _ =>
    match Request.parse text with
    | none => .error ("unsupported status: " ++ text)
    | some request =>
      if scan.status ∈ request.allowed then .ok request
      else
        .error ("cannot " ++ text ++ " a scan in state \"" ++ scan.status.name ++
          "\" (expected one of: " ++ ", ".intercalate (request.allowed.map ScanStatus.name) ++ ")")

/-- A step of `start_scan`: the record, the flags, the worker. -/
def advanceStart : Scan Device :=
  match scan.worker with
  | .absent => { scan with worker := .recorded }
  | .recorded => { scan with worker := .controlled }
  | .controlled => { scan with worker := .top scan.targets }
  | _ => scan

/-- A step of `_run_scan`. -/
def advanceWorker : Scan Device :=
  match scan.worker with
  | .top [] => { scan with worker := .finishing false }
  | .top (device :: left) =>
    { scan with worker := if scan.stopSet then .finishing true else .waiting device left }
  | .waiting device left =>
    { scan with worker := if scan.pauseSet then .sleeping device left else .second device left }
  | .sleeping device left =>
    { scan with worker := if scan.stopSet then .finishing true else .waiting device left }
  | .second device left =>
    { scan with worker := if scan.stopSet then .finishing true else .assessing device left }
  | .assessing device left =>
    { scan with found := scan.found ++ [device], worker := .top left }
  | .finishing stopped =>
    { scan with status := if stopped then .stopped else .finished, worker := .closing }
  | .closing => { scan with worker := .done }
  | _ => scan

/-- A call of `set_scan_status` begins. -/
def beginCall (text : String) : Scan Device :=
  match scan.answer text with
  | .error _ => scan
  | .ok request => { scan with calls := scan.calls ++ [.accepted request] }

/-- A step of a call. -/
def advanceCall (index : Nat) : Scan Device :=
  match scan.calls[index]? with
  | none => scan
  | some (.accepted request) =>
    { scan with calls := scan.calls.set index (.holding request scan.worker.hasControl) }
  | some (.holding request false) => { scan with calls := scan.calls.set index (.writing request) }
  | some (.holding .pause true) =>
    { scan with pauseSet := true, calls := scan.calls.set index (.writing .pause) }
  | some (.holding .resume true) =>
    { scan with pauseSet := false, calls := scan.calls.set index (.writing .resume) }
  | some (.holding .stop true) =>
    { scan with stopSet := true, calls := scan.calls.set index .clearing }
  | some .clearing =>
    { scan with pauseSet := false, calls := scan.calls.set index (.writing .stop) }
  | some (.writing request) =>
    { scan with status := request.status, calls := scan.calls.eraseIdx index }

def step (scan : Scan Device) : Event → Scan Device
  | .start => scan.advanceStart
  | .worker => scan.advanceWorker
  | .call status => scan.beginCall status
  | .client index => scan.advanceCall index

/-- A scan that is not started yet. -/
def fresh (id : Nat) (targets : List Device) : Scan Device := { id := id, targets := targets }

end Scan

end NetLab.Nexpose
