import NetLab.Nexpose.ScanControl

/-!
# Requests that a scan heeds

The worker writes its last status whatever the clients have asked for since it looked at the flags.
`control_honoured` says that requests are honoured if calls come one at a time and the worker looks
at the flags once more after each of them.
-/

namespace NetLab.Nexpose

open List

open NetLab.Execution

variable {Device : Type} {request : Request}

/-! ## Claims about runs -/

def Moves (before after : ScanStatus) : Prop :=
  before = after ∨ (before, after) ∈
    [(.running, .paused), (.paused, .running), (.running, .stopped), (.paused, .stopped),
      (.running, .finished)]

instance (before after : ScanStatus) : Decidable (Moves before after) :=
  inferInstanceAs (Decidable (_ ∨ _))

namespace Scan

variable (scan : Scan Device)

/-- The device that is being assessed. Without a request to stop, also the one that the worker is
about to assess, for which it has looked whether to pause. -/
def current : List Device :=
  match scan.worker with
  | .assessing device _ => [device]
  | .second device _ => if scan.stopSet then [] else [device]
  | _ => []

def limit : List Device := scan.found ++ scan.current

/-- A call returns, and its request has been accepted. -/
def Accepts (request : Request) : Event → Prop
  | .client index => scan.calls[index]? = some (.writing request)
  | _ => False

def Resumes : Event → Prop
  | .call text => scan.answer text = .ok .resume
  | _ => False

end Scan

/-- Requests are honoured in a run. -/
structure Honours (scan : Scan Device) (events : List Event) : Prop where
  moves : Along Scan.step (fun scan event => Moves scan.status (scan.step event).status) scan events
  stops : ∀ front event back, events = front ++ event :: back →
    (runFrom Scan.step scan front).Accepts .stop event →
      (runFrom Scan.step scan events).status = .stopped
  rests : ∀ front event middle back, events = front ++ event :: (middle ++ back) →
    ((runFrom Scan.step scan front).Accepts .pause event ∨
      (runFrom Scan.step scan front).Accepts .stop event) →
    Along Scan.step (fun scan event => ¬ scan.Resumes event)
      (runFrom Scan.step scan (front ++ [event])) middle →
    (runFrom Scan.step scan (front ++ event :: middle)).found <+:
      (runFrom Scan.step scan (front ++ [event])).limit

/-! ## The condition -/

namespace Scan

variable (scan : Scan Device)

/-- The worker looks once more at the flag of a request before it assesses another device than the
current one, and before it finishes. -/
def looks (request : Request) : Bool :=
  match scan.worker with
  | .controlled => !scan.targets.isEmpty
  | .top left => !left.isEmpty
  | .waiting _ _ => true
  | .sleeping _ _ => true
  | .second _ left => request = .stop || !left.isEmpty
  | .assessing _ left => !left.isEmpty
  | _ => false

/-- A call begins when no other one is in progress and the flags are there, the flag of a pause or a
stop is set when the worker looks at it again, and the worker does not finish during a call. -/
def Heeds : Event → Prop
  | .start => True
  | .call text =>
    (scan.answer text).isOk = true → scan.calls = [] ∧ scan.worker.hasControl = true
  | .client index => ∀ request, scan.calls[index]? = some (.holding request true) →
      request ≠ .resume → scan.looks request = true
  | .worker => scan.worker = .finishing false → scan.calls = []

instance [DecidableEq Device] : DecidablePred scan.Heeds
  | .start => isTrue trivial
  | .call text => inferInstanceAs
      (Decidable ((scan.answer text).isOk = true → scan.calls = [] ∧ scan.worker.hasControl = true))
  | .client index =>
    match known : scan.calls[index]? with
    | some (.holding request true) =>
      decidable_of_iff (request ≠ .resume → scan.looks request = true) ⟨fun looks other same => by
          rw [known] at same
          cases same
          exact looks,
        fun heeds => heeds request known⟩
    | some (.holding _ false) => isTrue fun _ same => by rw [known] at same; cases same
    | some (.accepted _) => isTrue fun _ same => by rw [known] at same; cases same
    | some .clearing => isTrue fun _ same => by rw [known] at same; cases same
    | some (.writing _) => isTrue fun _ same => by rw [known] at same; cases same
    | none => isTrue fun _ same => by rw [known] at same; cases same
  | .worker => inferInstanceAs (Decidable (scan.worker = .finishing false → scan.calls = []))

/-! ## What is true between the steps -/

/-- The worker is on its way to the end of the list. -/
def Goes : Prop := scan.worker ∉ [.finishing true, .closing, .done]

/-- The worker has seen a request to stop, or will see it. -/
def Ends : Prop := scan.looks .stop = true ∨ scan.worker ∈ [.finishing true, .closing, .done]

/-- Flags and worker between calls. -/
def Settled : Prop :=
  match scan.status with
  | .running => scan.pauseSet = false ∧ scan.stopSet = false ∧ scan.Goes
  | .paused => scan.pauseSet = true ∧ scan.stopSet = false ∧ scan.looks .pause = true
  | .stopped => scan.pauseSet = false ∧ scan.stopSet = true ∧ scan.Ends
  | .finished =>
    scan.pauseSet = false ∧ scan.stopSet = false ∧ scan.worker ∈ [.closing, .done]

/-- Flags and worker during a call. -/
def Handling : Call → Prop
  | .accepted request =>
    scan.Settled ∧ scan.status ∈ request.allowed ∧ scan.worker.hasControl = true
  | .holding request control => control = true ∧ scan.Settled ∧ scan.status ∈ request.allowed
  | .writing .pause => scan.status = .running ∧ scan.pauseSet = true ∧ scan.stopSet = false ∧
      scan.looks .pause = true
  | .writing .resume => scan.status = .paused ∧ scan.pauseSet = false ∧ scan.stopSet = false ∧
      scan.Goes
  | .clearing => scan.status ≠ .finished ∧ scan.stopSet = true ∧ scan.Ends
  | .writing .stop => scan.status ≠ .finished ∧ scan.pauseSet = false ∧ scan.stopSet = true ∧
      scan.Ends

/-- What is true of a scan whose requests have been heeded. -/
def Consistent : Prop :=
  match scan.calls with
  | [] => scan.Settled
  | [call] => scan.Handling call
  | _ => False

end Scan

/-! ## The worker -/

section WorkerSteps

variable {scan : Scan Device}

theorem status_advanceWorker (scan : Scan Device) : scan.advanceWorker.status = scan.status ∨
      ∃ stopped, scan.worker = .finishing stopped ∧
        scan.advanceWorker.status = if stopped then .stopped else .finished := by
  unfold Scan.advanceWorker
  split <;> first | exact .inl rfl | skip
  exact .inr ⟨_, ‹_›, rfl⟩

@[simp] theorem pauseSet_advanceWorker (scan : Scan Device) :
    scan.advanceWorker.pauseSet = scan.pauseSet := by
  unfold Scan.advanceWorker
  split <;> rfl

@[simp] theorem stopSet_advanceWorker (scan : Scan Device) :
    scan.advanceWorker.stopSet = scan.stopSet := by
  unfold Scan.advanceWorker
  split <;> rfl

@[simp] theorem calls_advanceWorker (scan : Scan Device) :
    scan.advanceWorker.calls = scan.calls := by
  unfold Scan.advanceWorker
  split <;> rfl

theorem goes_advanceWorker (goes : scan.Goes) (free : scan.stopSet = false)
    (unfinished : scan.worker ≠ .finishing false) : scan.advanceWorker.Goes := by
  obtain ⟨id, targets, worker, status, pauseSet, stopSet, found, calls⟩ := scan
  obtain rfl : stopSet = false := free
  cases worker with
  | top left => cases left <;> simp [Scan.Goes, Scan.advanceWorker]
  | waiting device left => cases pauseSet <;> simp [Scan.Goes, Scan.advanceWorker]
  | finishing stopped => cases stopped <;> simp_all [Scan.Goes]
  | _ => simp_all [Scan.Goes, Scan.advanceWorker]

theorem hasControl_advanceWorker (control : scan.worker.hasControl = true)
    (goes : scan.Goes) (free : scan.stopSet = false) :
    scan.advanceWorker.worker.hasControl = true := by
  obtain ⟨id, targets, worker, status, pauseSet, stopSet, found, calls⟩ := scan
  obtain rfl : stopSet = false := free
  cases worker with
  | top left => cases left <;> simp [Worker.hasControl, Scan.advanceWorker]
  | waiting device left => cases pauseSet <;> simp [Worker.hasControl, Scan.advanceWorker]
  | _ => simp_all [Worker.hasControl, Scan.Goes, Scan.advanceWorker]

theorem looks_advanceWorker (looks : scan.looks .pause = true) (paused : scan.pauseSet = true)
    (free : scan.stopSet = false) : scan.advanceWorker.looks .pause = true := by
  obtain ⟨id, targets, worker, status, pauseSet, stopSet, found, calls⟩ := scan
  obtain rfl : stopSet = false := free
  obtain rfl : pauseSet = true := paused
  cases worker with
  | top left => cases left <;> simp_all [Scan.looks, Scan.advanceWorker]
  | _ => simp_all [Scan.looks, Scan.advanceWorker]

theorem ends_advanceWorker (ends : scan.Ends) (stopping : scan.stopSet = true) :
    scan.advanceWorker.Ends := by
  obtain ⟨id, targets, worker, status, pauseSet, stopSet, found, calls⟩ := scan
  obtain rfl : stopSet = true := stopping
  cases worker with
  | top left => cases left <;> simp_all [Scan.Ends, Scan.looks, Scan.advanceWorker]
  | waiting device left => cases pauseSet <;> simp [Scan.Ends, Scan.looks, Scan.advanceWorker]
  | finishing stopped => cases stopped <;> simp_all [Scan.Ends, Scan.looks, Scan.advanceWorker]
  | _ => simp_all [Scan.Ends, Scan.looks, Scan.advanceWorker]

theorem closed_advanceWorker (closed : scan.worker ∈ [.closing, .done]) :
    scan.advanceWorker.worker ∈ [.closing, .done] ∧ scan.advanceWorker.status = scan.status := by
  obtain ⟨id, targets, worker, status, pauseSet, stopSet, found, calls⟩ := scan
  rcases mem_pair.mp closed with same | same
  all_goals
    obtain rfl : worker = _ := same
    simp [Scan.advanceWorker]

theorem not_finishing_of_looks (looks : scan.looks request = true) :
    ∀ stopped, scan.worker ≠ .finishing stopped := by
  intro stopped same
  rw [Scan.looks, same] at looks
  exact Bool.false_ne_true looks

end WorkerSteps

/-! ## Steps that keep the status -/

/-- A step that leaves status, flags and calls as they are, and the worker on its way. -/
structure Keeps (scan next : Scan Device) : Prop where
  status : next.status = scan.status
  pauseSet : next.pauseSet = scan.pauseSet
  stopSet : next.stopSet = scan.stopSet
  calls : next.calls = scan.calls
  goes : scan.stopSet = false → scan.Goes → next.Goes
  control : scan.stopSet = false → scan.Goes → scan.worker.hasControl = true →
    next.worker.hasControl = true
  looks : scan.pauseSet = true → scan.stopSet = false → scan.looks .pause = true →
    next.looks .pause = true
  ends : scan.stopSet = true → scan.Ends → next.Ends
  closed : scan.worker ∈ [.closing, .done] → next.worker ∈ [.closing, .done]

section Keeping

variable {scan next : Scan Device}

theorem Keeps.settled (keeps : Keeps scan next) (settled : scan.Settled) : next.Settled := by
  unfold Scan.Settled at settled ⊢
  rw [keeps.status, keeps.pauseSet, keeps.stopSet]
  cases known : scan.status with
  | running =>
    rw [known] at settled
    exact ⟨settled.1, settled.2.1, keeps.goes settled.2.1 settled.2.2⟩
  | paused =>
    rw [known] at settled
    exact ⟨settled.1, settled.2.1, keeps.looks settled.1 settled.2.1 settled.2.2⟩
  | stopped =>
    rw [known] at settled
    exact ⟨settled.1, settled.2.1, keeps.ends settled.2.1 settled.2.2⟩
  | finished =>
    rw [known] at settled
    exact ⟨settled.1, settled.2.1, keeps.closed settled.2.2⟩

/-- A worker that looks at the flag of a pause is on its way. -/
theorem goes_of_looks (looks : scan.looks request = true) : scan.Goes := by
  unfold Scan.looks at looks
  unfold Scan.Goes
  split at looks <;> simp_all

theorem ends_of_looks (looks : scan.looks request = true) : scan.Ends := by
  left
  unfold Scan.looks at looks ⊢
  split at looks <;> simp_all

/-- Where a request is allowed, nobody has asked to stop and the worker is on its way. -/
theorem open_of_allowed (settled : scan.Settled) (allowed : scan.status ∈ request.allowed) :
    scan.stopSet = false ∧ scan.Goes := by
  unfold Scan.Settled at settled
  cases known : scan.status with
  | running =>
    rw [known] at settled
    exact ⟨settled.2.1, settled.2.2⟩
  | paused =>
    rw [known] at settled
    exact ⟨settled.2.1, goes_of_looks settled.2.2⟩
  | stopped =>
    rw [known] at allowed
    cases request <;> exact absurd allowed (by decide)
  | finished =>
    rw [known] at allowed
    cases request <;> exact absurd allowed (by decide)

theorem Keeps.handling (keeps : Keeps scan next) {call : Call} (handling : scan.Handling call) :
    next.Handling call := by
  cases call with
  | accepted request =>
    obtain ⟨settled, allowed, control⟩ := handling
    obtain ⟨free, goes⟩ := open_of_allowed settled allowed
    exact ⟨keeps.settled settled, keeps.status ▸ allowed, keeps.control free goes control⟩
  | holding request control =>
    obtain ⟨held, settled, allowed⟩ := handling
    exact ⟨held, keeps.settled settled, keeps.status ▸ allowed⟩
  | clearing =>
    obtain ⟨unfinished, stopping, ends⟩ := handling
    exact ⟨keeps.status ▸ unfinished, keeps.stopSet.trans stopping, keeps.ends stopping ends⟩
  | writing request =>
    cases request with
    | pause =>
      obtain ⟨running, paused, free, looks⟩ := handling
      exact ⟨keeps.status.trans running, keeps.pauseSet.trans paused,
        keeps.stopSet.trans free, keeps.looks paused free looks⟩
    | resume =>
      obtain ⟨paused, cleared, free, goes⟩ := handling
      exact ⟨keeps.status.trans paused, keeps.pauseSet.trans cleared,
        keeps.stopSet.trans free, keeps.goes free goes⟩
    | stop =>
      obtain ⟨unfinished, cleared, stopping, ends⟩ := handling
      exact ⟨keeps.status ▸ unfinished, keeps.pauseSet.trans cleared,
        keeps.stopSet.trans stopping, keeps.ends stopping ends⟩

theorem Keeps.consistent (keeps : Keeps scan next) (consistent : scan.Consistent) :
    next.Consistent := by
  unfold Scan.Consistent at consistent ⊢
  rw [keeps.calls]
  match known : scan.calls with
  | [] =>
    rw [known] at consistent
    exact keeps.settled consistent
  | [call] =>
    rw [known] at consistent
    exact keeps.handling consistent
  | _ :: _ :: _ => rwa [known] at consistent

theorem Keeps.moves (keeps : Keeps scan next) : Moves scan.status next.status :=
  .inl keeps.status.symm

theorem keeps_advanceWorker (unfinished : ∀ stopped, scan.worker ≠ .finishing stopped) :
    Keeps scan scan.advanceWorker where
  status := by
    rcases status_advanceWorker scan with same | ⟨stopped, finishing, -⟩
    · exact same
    · exact absurd finishing (unfinished stopped)
  pauseSet := pauseSet_advanceWorker scan
  stopSet := stopSet_advanceWorker scan
  calls := calls_advanceWorker scan
  goes free goes := goes_advanceWorker goes free (unfinished false)
  control free goes control := hasControl_advanceWorker control goes free
  looks paused free looks := looks_advanceWorker looks paused free
  ends stopping ends := ends_advanceWorker ends stopping
  closed closed := (closed_advanceWorker closed).1

theorem keeps_advanceStart (scan : Scan Device) : Keeps scan scan.advanceStart := by
  obtain ⟨id, targets, worker, status, pauseSet, stopSet, found, calls⟩ := scan
  cases worker with
  | controlled =>
    constructor <;> simp [Scan.advanceStart, Scan.Goes, Scan.Ends, Scan.looks, Worker.hasControl]
  | _ =>
    constructor <;> simp_all [Scan.advanceStart, Scan.Goes, Scan.Ends, Scan.looks,
      Worker.hasControl]

end Keeping

/-! ## Other steps -/

section Steps

variable {scan : Scan Device}

theorem Scan.Consistent.settled (consistent : scan.Consistent) (idle : scan.calls = []) :
    scan.Settled := by
  unfold Scan.Consistent at consistent
  rwa [idle] at consistent

theorem Scan.Consistent.handling (consistent : scan.Consistent) {call : Call}
    (busy : scan.calls = [call]) : scan.Handling call := by
  unfold Scan.Consistent at consistent
  rwa [busy] at consistent

theorem consistent_of_settled (idle : scan.calls = []) (settled : scan.Settled) :
    scan.Consistent := by
  unfold Scan.Consistent
  rwa [idle]

theorem consistent_of_handling {call : Call} (busy : scan.calls = [call])
    (handling : scan.Handling call) : scan.Consistent := by
  unfold Scan.Consistent
  rwa [busy]

theorem advanceWorker_of_finishing {stopped : Bool} (finishing : scan.worker = .finishing stopped) :
    scan.advanceWorker =
      { scan with status := if stopped then .stopped else .finished, worker := .closing } := by
  rw [Scan.advanceWorker, finishing]

theorem finish_settled (finishing : scan.worker = .finishing false) (settled : scan.Settled) :
    scan.advanceWorker.Settled ∧ Moves scan.status scan.advanceWorker.status := by
  unfold Scan.Settled at settled
  cases known : scan.status with
  | running =>
    rw [known] at settled
    rw [advanceWorker_of_finishing finishing]
    have finishes : Moves .running .finished := by decide
    exact ⟨⟨settled.1, settled.2.1, mem_cons_self⟩, finishes⟩
  | paused =>
    rw [known] at settled
    exact absurd finishing (not_finishing_of_looks settled.2.2 false)
  | stopped =>
    rw [known] at settled
    have ends := settled.2.2
    simp [Scan.Ends, Scan.looks, finishing] at ends
  | finished =>
    rw [known, finishing] at settled
    simp at settled

theorem stop_consistent (finishing : scan.worker = .finishing true) (consistent : scan.Consistent) :
    scan.advanceWorker.Consistent ∧ Moves scan.status scan.advanceWorker.status := by
  have other : ScanStatus.stopped ≠ .finished := by decide
  have lost : ¬ scan.Goes := fun goes => goes (finishing ▸ mem_cons_self)
  have blind : ∀ request, scan.looks request = false := by
    intro request
    rw [Scan.looks, finishing]
  have idle : scan.Settled → scan.status = .stopped ∧ scan.pauseSet = false ∧
      scan.stopSet = true := by
    intro settled
    unfold Scan.Settled at settled
    cases known : scan.status with
    | running => rw [known] at settled; exact absurd settled.2.2 lost
    | paused => rw [known, blind] at settled; exact absurd settled.2.2 Bool.false_ne_true
    | stopped => rw [known] at settled; exact ⟨rfl, settled.1, settled.2.1⟩
    | finished => rw [known, finishing] at settled; simp at settled
  have stops : scan.status ≠ .finished → Moves scan.status .stopped := by
    intro unfinished
    cases known : scan.status with
    | finished => exact absurd known unfinished
    | _ => decide
  rw [advanceWorker_of_finishing finishing]
  unfold Scan.Consistent at consistent
  match known : scan.calls with
  | [] =>
    rw [known] at consistent
    obtain ⟨stopped, cleared, stopping⟩ := idle consistent
    refine ⟨consistent_of_settled rfl ?_, .inl stopped⟩
    exact ⟨cleared, stopping, .inr (mem_cons_of_mem _ mem_cons_self)⟩
  | [.accepted request] =>
    rw [known] at consistent
    exact absurd (open_of_allowed consistent.1 consistent.2.1).2 lost
  | [.holding request control] =>
    rw [known] at consistent
    exact absurd (open_of_allowed consistent.2.1 consistent.2.2).2 lost
  | [.clearing] =>
    rw [known] at consistent
    obtain ⟨unfinished, stopping, -⟩ := consistent
    refine ⟨consistent_of_handling rfl ?_, stops unfinished⟩
    exact ⟨other, stopping, .inr (mem_cons_of_mem _ mem_cons_self)⟩
  | [.writing .pause] =>
    rw [known] at consistent
    exact absurd (consistent.2.2.2.symm.trans (blind _)) (by decide)
  | [.writing .resume] =>
    rw [known] at consistent
    exact absurd consistent.2.2.2 lost
  | [.writing .stop] =>
    rw [known] at consistent
    obtain ⟨unfinished, cleared, stopping, -⟩ := consistent
    refine ⟨consistent_of_handling rfl ?_, stops unfinished⟩
    exact ⟨other, cleared, stopping, .inr (mem_cons_of_mem _ mem_cons_self)⟩
  | _ :: _ :: _ => rw [known] at consistent; exact consistent.elim

theorem consistent_advanceWorker (consistent : scan.Consistent) (heeds : scan.Heeds .worker) :
    scan.advanceWorker.Consistent ∧ Moves scan.status scan.advanceWorker.status := by
  by_cases finishing : ∃ stopped, scan.worker = .finishing stopped
  · obtain ⟨stopped, finishing⟩ := finishing
    cases stopped with
    | true => exact stop_consistent finishing consistent
    | false =>
      have idle := heeds finishing
      have next := finish_settled finishing (consistent.settled idle)
      exact ⟨consistent_of_settled ((calls_advanceWorker scan).trans idle) next.1, next.2⟩
  · have keeps := keeps_advanceWorker fun stopped same => finishing ⟨stopped, same⟩
    exact ⟨keeps.consistent consistent, keeps.moves⟩

theorem allowed_of_answer {text : String} (answer : scan.answer text = .ok request) :
    scan.status ∈ request.allowed := by
  unfold Scan.answer at answer
  split at answer
  · cases answer
  · split at answer
    · cases answer
    · split at answer
      · obtain rfl := Except.ok.inj answer
        assumption
      · cases answer

theorem consistent_beginCall {text : String} (consistent : scan.Consistent)
    (heeds : scan.Heeds (.call text)) :
    (scan.beginCall text).Consistent ∧ (scan.beginCall text).status = scan.status := by
  unfold Scan.beginCall
  cases answer : scan.answer text with
  | error message => exact ⟨consistent, rfl⟩
  | ok request =>
    obtain ⟨idle, control⟩ := heeds (by rw [answer]; rfl)
    have busy : scan.calls ++ [.accepted request] = [.accepted request] := by
      rw [idle, nil_append]
    refine ⟨consistent_of_handling busy ?_, rfl⟩
    exact ⟨consistent.settled idle, allowed_of_answer answer, control⟩

/-- What a call leaves when its flags are found and set. -/
theorem handling_advance (settled : scan.Settled) (allowed : scan.status ∈ request.allowed)
    (looks : request ≠ .resume → scan.looks request = true) :
    match request with
    | .pause => Scan.Handling { scan with pauseSet := true, calls := [.writing .pause] }
        (.writing .pause)
    | .resume => Scan.Handling { scan with pauseSet := false, calls := [.writing .resume] }
        (.writing .resume)
    | .stop => Scan.Handling { scan with stopSet := true, calls := [.clearing] } .clearing := by
  obtain ⟨free, goes⟩ := open_of_allowed settled allowed
  cases request with
  | pause =>
    exact ⟨mem_singleton.mp allowed, rfl, free, looks (by decide)⟩
  | resume =>
    exact ⟨mem_singleton.mp allowed, rfl, free, goes⟩
  | stop =>
    refine ⟨?_, rfl, ends_of_looks (looks (by decide))⟩
    rcases mem_pair.mp allowed with paused | running
    · rw [paused]
      decide
    · rw [running]
      decide

/-- A call that returns leaves the flags that its status goes with. -/
theorem settled_written (handling : scan.Handling (.writing request)) :
    Scan.Settled { scan with status := request.status, calls := [] } ∧
      Moves scan.status request.status := by
  cases request with
  | pause =>
    obtain ⟨running, paused, free, looks⟩ := handling
    rw [running]
    exact ⟨⟨paused, free, looks⟩, by decide⟩
  | resume =>
    obtain ⟨paused, cleared, free, goes⟩ := handling
    rw [paused]
    exact ⟨⟨cleared, free, goes⟩, by decide⟩
  | stop =>
    obtain ⟨unfinished, cleared, stopping, ends⟩ := handling
    refine ⟨⟨cleared, stopping, ends⟩, ?_⟩
    cases known : scan.status with
    | finished => exact absurd known unfinished
    | _ => decide

/-- A consistent scan has one call at most to go on with. -/
theorem Scan.Consistent.current (consistent : scan.Consistent) (index : Nat) :
    scan.advanceCall index = scan ∨ ∃ call, scan.calls = [call] ∧ index = 0 := by
  have stays : scan.calls[index]? = none → scan.advanceCall index = scan := by
    intro none
    rw [Scan.advanceCall, none]
  match known : scan.calls, index with
  | [], _ => exact .inl (stays (by rw [known]; rfl))
  | [_], _ + 1 => exact .inl (stays (by rw [known]; rfl))
  | _ :: _ :: _, _ => exact absurd consistent (by rw [Scan.Consistent, known]; exact not_false)
  | [call], 0 => exact .inr ⟨call, rfl, rfl⟩

theorem consistent_advanceCall {index : Nat} (consistent : scan.Consistent)
    (heeds : scan.Heeds (.client index)) :
    (scan.advanceCall index).Consistent ∧ Moves scan.status (scan.advanceCall index).status := by
  rcases Scan.Consistent.current consistent index with same | ⟨call, known, rfl⟩
  · rw [same]
    exact ⟨consistent, .inl rfl⟩
  · have handling := consistent.handling known
    have here : scan.calls[0]? = some call := by rw [known]; rfl
    cases call with
    | accepted request =>
      rw [Scan.advanceCall, here]
      refine ⟨consistent_of_handling (by rw [known]; rfl) ?_, .inl rfl⟩
      exact ⟨handling.2.2, handling.1, handling.2.1⟩
    | holding request control =>
      obtain ⟨rfl, settled, allowed⟩ := handling
      have next := handling_advance settled allowed (heeds request here)
      rw [Scan.advanceCall, here]
      cases request with
      | pause =>
        refine ⟨consistent_of_handling (by rw [known]; rfl) ?_, .inl rfl⟩
        exact next
      | resume =>
        refine ⟨consistent_of_handling (by rw [known]; rfl) ?_, .inl rfl⟩
        exact next
      | stop =>
        refine ⟨consistent_of_handling (by rw [known]; rfl) ?_, .inl rfl⟩
        exact next
    | clearing =>
      obtain ⟨unfinished, stopping, ends⟩ := handling
      rw [Scan.advanceCall, here]
      refine ⟨consistent_of_handling (by rw [known]; rfl) ?_, .inl rfl⟩
      exact ⟨unfinished, rfl, stopping, ends⟩
    | writing request =>
      have written := settled_written handling
      rw [Scan.advanceCall, here]
      exact ⟨consistent_of_settled (by rw [known]; rfl) written.1, written.2⟩

theorem consistent_step {event : Event} (consistent : scan.Consistent) (heeds : scan.Heeds event) :
    (scan.step event).Consistent ∧ Moves scan.status (scan.step event).status := by
  cases event with
  | start =>
    have keeps := keeps_advanceStart scan
    exact ⟨keeps.consistent consistent, keeps.moves⟩
  | worker => exact consistent_advanceWorker consistent heeds
  | call text =>
    have begun := consistent_beginCall consistent heeds
    exact ⟨begun.1, .inl begun.2.symm⟩
  | client index => exact consistent_advanceCall consistent heeds

end Steps

/-! ## Devices that are still assessed -/

section Limits

variable {scan : Scan Device} {event : Event}

/-- The worker is held, and no call is about to let it go on. -/
structure Held (scan : Scan Device) : Prop where
  flag : scan.pauseSet = true ∨ scan.stopSet = true
  noResume : ∀ call ∈ scan.calls, call.request ≠ .resume

/-- A worker that is held assesses the current device at most. -/
theorem limit_advanceWorker (flag : scan.pauseSet = true ∨ scan.stopSet = true) :
    scan.advanceWorker.limit <+: scan.limit := by
  obtain ⟨id, targets, worker, status, pauseSet, stopSet, found, calls⟩ := scan
  cases worker with
  | top left => cases left <;> cases stopSet <;> simp [Scan.limit, Scan.current, Scan.advanceWorker]
  | waiting device left =>
    cases pauseSet <;> cases stopSet <;> simp_all [Scan.limit, Scan.current, Scan.advanceWorker]
  | sleeping device left => cases stopSet <;> simp [Scan.limit, Scan.current, Scan.advanceWorker]
  | second device left => cases stopSet <;> simp [Scan.limit, Scan.current, Scan.advanceWorker]
  | _ => simp [Scan.limit, Scan.current, Scan.advanceWorker]

theorem limit_advanceStart (scan : Scan Device) : scan.advanceStart.limit <+: scan.limit := by
  obtain ⟨id, targets, worker, status, pauseSet, stopSet, found, calls⟩ := scan
  cases worker <;> cases stopSet <;> simp [Scan.limit, Scan.current, Scan.advanceStart]

theorem limit_beginCall (scan : Scan Device) (text : String) :
    (scan.beginCall text).limit = scan.limit := by
  unfold Scan.beginCall
  split <;> rfl

theorem limit_advanceCall (scan : Scan Device) (index : Nat) :
    (scan.advanceCall index).limit <+: scan.limit := by
  unfold Scan.advanceCall
  split <;> try exact prefix_rfl
  obtain ⟨id, targets, worker, status, pauseSet, stopSet, found, calls⟩ := scan
  cases worker <;> cases stopSet <;> simp [Scan.limit, Scan.current]

theorem limit_step (held : Held scan) (event : Event) : (scan.step event).limit <+: scan.limit := by
  cases event with
  | start => exact limit_advanceStart scan
  | worker => exact limit_advanceWorker held.flag
  | call text =>
    rw [Scan.step, limit_beginCall]
  | client index => exact limit_advanceCall scan index

theorem held_advanceCall (consistent : scan.Consistent) (held : Held scan) (index : Nat) :
    Held (scan.advanceCall index) := by
  rcases Scan.Consistent.current consistent index with same | ⟨call, known, rfl⟩
  · rw [same]
    exact held
  · have handling := consistent.handling known
    have here : scan.calls[0]? = some call := by rw [known]; rfl
    have other : call.request ≠ .resume := held.noResume call (known ▸ mem_cons_self)
    have alone : ∀ next : Call, next.request = call.request →
        ∀ call ∈ scan.calls.set 0 next, call.request ≠ .resume := by
      intro next same later inside
      rw [known] at inside
      rw [mem_singleton.mp inside, same]
      exact other
    cases call with
    | accepted request =>
      rw [Scan.advanceCall, here]
      exact ⟨held.flag, alone _ rfl⟩
    | holding request control =>
      obtain ⟨rfl, -, -⟩ := handling
      rw [Scan.advanceCall, here]
      cases request with
      | pause => exact ⟨.inl rfl, alone _ rfl⟩
      | resume => exact absurd rfl other
      | stop => exact ⟨.inr rfl, alone _ rfl⟩
    | clearing =>
      rw [Scan.advanceCall, here]
      exact ⟨.inr handling.2.1, alone _ rfl⟩
    | writing request =>
      rw [Scan.advanceCall, here]
      refine ⟨held.flag, fun call inside => absurd inside ?_⟩
      rw [known]
      exact not_mem_nil

theorem held_step (consistent : scan.Consistent) (held : Held scan) (stays : ¬ scan.Resumes event) :
    Held (scan.step event) := by
  obtain ⟨flag, noResume⟩ := held
  cases event with
  | start =>
    have keeps := keeps_advanceStart scan
    exact ⟨by rwa [Scan.step, keeps.pauseSet, keeps.stopSet], by rwa [Scan.step, keeps.calls]⟩
  | worker =>
    exact ⟨by rwa [Scan.step, pauseSet_advanceWorker, stopSet_advanceWorker],
      by rwa [Scan.step, calls_advanceWorker]⟩
  | call text =>
    rw [Scan.step, Scan.beginCall]
    cases answer : scan.answer text with
    | error message => exact ⟨flag, noResume⟩
    | ok request =>
      refine ⟨flag, fun call inside => ?_⟩
      rcases mem_append.mp inside with before | last
      · exact noResume call before
      · rw [mem_singleton.mp last]
        rintro rfl
        exact stays answer
  | client index => exact held_advanceCall consistent ⟨flag, noResume⟩ index

theorem held_of_accepts (consistent : scan.Consistent) (other : request ≠ .resume)
    (accepts : scan.Accepts request event) : Held (scan.step event) := by
  cases event with
  | client index =>
    have here : scan.calls[index]? = some (.writing request) := accepts
    match known : scan.calls, index with
    | [], _ => rw [known] at here; cases here
    | [_], _ + 1 => rw [known] at here; cases here
    | _ :: _ :: _, _ => exact absurd consistent (by rw [Scan.Consistent, known]; exact id)
    | [call], 0 =>
      obtain rfl : call = .writing request := by rw [known] at here; exact Option.some.inj here
      have handling := consistent.handling known
      rw [Scan.step, Scan.advanceCall, here]
      refine ⟨?_, fun call inside => absurd inside (by rw [known]; exact not_mem_nil)⟩
      cases request with
      | pause => exact .inl handling.2.1
      | resume => exact absurd rfl other
      | stop => exact .inr handling.2.2.1
  | start => exact accepts.elim
  | worker => exact accepts.elim
  | call text => exact accepts.elim

theorem status_of_accepts (accepts : scan.Accepts request event) :
    (scan.step event).status = request.status := by
  cases event with
  | client index =>
    have here : scan.calls[index]? = some (.writing request) := accepts
    rw [Scan.step, Scan.advanceCall, here]
  | start => exact accepts.elim
  | worker => exact accepts.elim
  | call text => exact accepts.elim

end Limits

/-! ## Runs -/

theorem consistent_fresh (id : Nat) (targets : List Device) :
    (Scan.fresh id targets).Consistent := by
  refine consistent_of_settled rfl ⟨rfl, rfl, fun inside => ?_⟩
  simp [Scan.fresh] at inside

section

variable {scan : Scan Device} {events : List Event} (consistent : scan.Consistent)
include consistent

theorem consistent_run (heeds : Along Scan.step Scan.Heeds scan events) :
    (runFrom Scan.step scan events).Consistent := by
  have preserved : ∀ (scan : Scan Device) event, scan.Consistent → scan.Heeds event →
      (scan.step event).Consistent :=
    fun _ _ consistent heeds => (consistent_step consistent heeds).1
  exact invariant_along preserved consistent heeds

theorem stopped_run (heeds : Along Scan.step Scan.Heeds scan events)
    (stopped : scan.status = .stopped) : (runFrom Scan.step scan events).status = .stopped := by
  induction events generalizing scan with
  | nil => exact stopped
  | cons event rest ih =>
    obtain ⟨next, moves⟩ := consistent_step consistent heeds.1
    refine ih next heeds.2 ?_
    rw [stopped] at moves
    rcases moves with same | listed
    · exact same.symm
    · simp at listed

theorem limit_run (held : Held scan) (heeds : Along Scan.step Scan.Heeds scan events)
    (stays : Along Scan.step (fun scan event => ¬ scan.Resumes event) scan events) :
    (runFrom Scan.step scan events).found <+: scan.limit := by
  induction events generalizing scan with
  | nil => exact prefix_append _ _
  | cons event rest ih =>
    have next := (consistent_step consistent heeds.1).1
    exact (ih next (held_step consistent held stays.1) heeds.2 stays.2).trans (limit_step held event)

end

/-- Requests are honoured if calls come one at a time while the flags are there, the worker looks
again at the flag that a pause or a stop sets, and it does not finish during a call. -/
theorem control_honoured (id : Nat) (targets : List Device) (events : List Event)
    (heeds : Along Scan.step Scan.Heeds (Scan.fresh id targets) events) :
    Honours (Scan.fresh id targets) events := by
  have fresh := consistent_fresh id targets
  constructor
  · exact heeds.derive (fun _ _ consistent heeds => (consistent_step consistent heeds).1)
      (fun _ _ consistent heeds => (consistent_step consistent heeds).2) fresh
  · rintro front event back rfl accepts
    obtain ⟨before, here, after⟩ := along_append.mp heeds
    have consistent := consistent_run fresh before
    rw [runFrom_append, runFrom_cons]
    exact stopped_run (consistent_step consistent here).1 after (status_of_accepts accepts)
  · rintro front event middle back rfl accepts stays
    obtain ⟨before, here, after⟩ := along_append.mp heeds
    have consistent := consistent_run fresh before
    have held : Held ((runFrom Scan.step (Scan.fresh id targets) front).step event) := by
      rcases accepts with pause | stop
      · exact held_of_accepts consistent (by decide) pause
      · exact held_of_accepts consistent (by decide) stop
    rw [runFrom_append] at stays ⊢
    rw [runFrom_append]
    exact limit_run (consistent_step consistent here).1 held (along_append.mp after).1 stays

/-- Two devices, the first of which is being assessed when the client asks to stop. -/
def stoppedRun : List Event :=
  [.start, .start, .start, .worker, .worker, .worker, .call "stop", .client 0, .client 0, .client 0,
    .client 0, .worker, .worker, .worker, .worker]

theorem stoppedRun_honoured : Honours (Scan.fresh 1 ["R1", "R2"]) stoppedRun :=
  control_honoured 1 ["R1", "R2"] stoppedRun (by decide)

/-- The last device is being assessed when a stop is accepted, and the scan finishes. -/
theorem stop_lost : ¬ Honours (Scan.fresh 1 ["R1"])
    [.start, .start, .start, .worker, .worker, .worker, .call "stop", .client 0, .client 0,
      .client 0, .client 0, .worker, .worker, .worker] := by
  intro honours
  have stopped := honours.stops [.start, .start, .start, .worker, .worker, .worker, .call "stop",
    .client 0, .client 0, .client 0] (.client 0) [.worker, .worker, .worker] rfl
    (by show _ = _; decide)
  revert stopped
  decide

end NetLab.Nexpose
