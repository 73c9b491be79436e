import NetLab.Library.Execution
import Mathlib.Order.Basic

/-!
# Timers that advance when somebody looks

A machine is changed by calls, and by looks that bring overdue timers up to date. Its reports
do not depend on the looks before them exactly if no call meets an overdue timer that it would
treat differently; `observationFree_iff` derives this from what holds of one call and of one
look.
-/

namespace NetLab.Library.Polling

open NetLab.Execution

variable {Time State Call Look Report : Type}

/-- Calls and looks at given times, and what is reported at a time. -/
structure Machine (Time State Call Look Report : Type) where
  call : Time → Call → State → State
  look : Time → Look → State → State
  report : Time → State → Report

/-- What can happen to a machine. -/
inductive Act (Call Look : Type) where
  | call (call : Call)
  | look (look : Look)

def calls (history : List (Time × Act Call Look)) : List (Time × Call) :=
  history.filterMap fun event =>
    match event.2 with
    | .call call => some (event.1, call)
    | .look _ => none

def InOrder [Preorder Time] {Event : Type} : Time → List (Time × Event) → Time → Prop
  | start, [], stop => start ≤ stop
  | start, (time, _) :: rest, stop => start ≤ time ∧ InOrder time rest stop

instance decidableInOrder [Preorder Time] [DecidableLE Time] {Event : Type} :
    ∀ (start : Time) (events : List (Time × Event)) (stop : Time),
      Decidable (InOrder start events stop)
  | start, [], stop => inferInstanceAs (Decidable (start ≤ stop))
  | start, (time, _) :: rest, stop =>
    have := decidableInOrder time rest stop
    inferInstanceAs (Decidable (start ≤ time ∧ InOrder time rest stop))

namespace Machine

variable (machine : Machine Time State Call Look Report)

def callAt (state : State) (event : Time × Call) : State := machine.call event.1 event.2 state

def step (state : State) (event : Time × Act Call Look) : State :=
  match event.2 with
  | .call call => machine.call event.1 call state
  | .look look => machine.look event.1 look state

variable [Preorder Time]

/-- Whatever part of a schedule has been carried out, all histories with these calls report the
same at any time. -/
def ObservationFree (start : Time) (state : State) (schedule : List (Time × Call)) : Prop :=
  ∀ now, ∀ first second : List (Time × Act Call Look), calls first <+: schedule →
    calls second = calls first → InOrder start first now → InOrder start second now →
    machine.report now (runFrom machine.step state first) =
      machine.report now (runFrom machine.step state second)

/-- How looks act. The second of two states is `ahead` of the first if it differs in timers
that are overdue in the first; a call is `quiet` if it treats them alike. -/
structure Settles (ahead : Time → State → State → Prop) (quiet : Time → Call → State → Prop) :
    Prop where
  refl : ∀ now state, ahead now state state
  later : ∀ {now next state other}, now ≤ next → ahead now state other → ahead next state other
  look : ∀ {now look state other}, ahead now state other →
    ahead now state (machine.look now look other)
  call : ∀ {now call state other}, ahead now state other → quiet now call state →
    ahead now (machine.call now call state) (machine.call now call other)
  report : ∀ {now state other}, ahead now state other →
    machine.report now state = machine.report now other
  loud : ∀ {now call state}, ¬ quiet now call state → ∃ look,
    machine.report now (machine.call now call state) ≠
      machine.report now (machine.call now call (machine.look now look state))

variable {machine} {ahead : Time → State → State → Prop} {quiet : Time → Call → State → Prop}

theorem Settles.run (settles : machine.Settles ahead quiet)
    {history : List (Time × Act Call Look)} {start now : Time} {state other : State}
    (ordered : InOrder start history now) (apart : ahead start state other)
    (quietCalls : Along machine.callAt (fun state event => quiet event.1 event.2 state) state
      (calls history)) :
    ahead now (runFrom machine.callAt state (calls history))
      (runFrom machine.step other history) := by
  induction history generalizing start state other with
  | nil => exact settles.later ordered apart
  | cons event rest ih =>
    obtain ⟨time, act⟩ := event
    obtain ⟨later, ordered⟩ := ordered
    have apart := settles.later later apart
    cases act with
    | look look => exact ih ordered (settles.look apart) quietCalls
    | call call => exact ih ordered (settles.call apart quietCalls.1) quietCalls.2

section

variable {schedule : List (Time × Call)} {start stop : Time} {state : State}
  (settles : machine.Settles ahead quiet) (ordered : InOrder start schedule stop)
include settles ordered

theorem Settles.heard (free : machine.ObservationFree start state schedule) :
    Along machine.callAt (fun state event => quiet event.1 event.2 state) state schedule := by
  induction schedule generalizing start state with
  | nil => trivial
  | cons event rest ih =>
    obtain ⟨time, call⟩ := event
    obtain ⟨later, ordered⟩ := ordered
    refine ⟨?_, ih ordered ?_⟩
    · by_contra loud
      obtain ⟨look, differs⟩ := settles.loud loud
      exact differs (free time [(time, .call call)] [(time, .look look), (time, .call call)]
        ⟨rest, rfl⟩ rfl ⟨later, le_refl _⟩ ⟨later, le_refl _, le_refl _⟩)
    · intro now first second done same firstOrder secondOrder
      exact free now ((time, .call call) :: first) ((time, .call call) :: second)
        (List.cons_prefix_cons.mpr ⟨rfl, done⟩) (congrArg ((time, call) :: ·) same)
        ⟨later, firstOrder⟩ ⟨later, secondOrder⟩

/-- Looks go unnoticed exactly if every call is quiet when nobody looks. -/
theorem Settles.observationFree_iff :
    machine.ObservationFree start state schedule ↔
      Along machine.callAt (fun state event => quiet event.1 event.2 state) state schedule := by
  refine ⟨settles.heard ordered, fun quietCalls => ?_⟩
  intro now first second done same firstOrder secondOrder
  obtain ⟨todo, rfl⟩ := done
  have quietCalls := (along_append.mp quietCalls).1
  have firstAhead := settles.run firstOrder (settles.refl start state) quietCalls
  have secondAhead := settles.run secondOrder (settles.refl start state) (same ▸ quietCalls)
  rw [same] at secondAhead
  exact (settles.report firstAhead).symm.trans (settles.report secondAhead)

end

end Machine

end NetLab.Library.Polling
