/-!
# Runs of an event-driven machine

A machine is a total step function over events, so a run is determined by its
event list. `Along` records that every step of a run meets a condition on the
state before it; `invariant_along` is the induction rule that turns a step lemma
into a statement about every state a run reaches.
-/

namespace NetLab.Execution

universe u v w

variable {State : Type u} {Event : Type v}

/-- The state reached by handling `events` in order. -/
def runFrom (step : State → Event → State) : State → List Event → State
  | state, [] => state
  | state, event :: rest => runFrom step (step state event) rest

/-- Every step of the run meets `condition` in the state it starts from. -/
def Along (step : State → Event → State) (condition : State → Event → Prop) :
    State → List Event → Prop
  | _, [] => True
  | state, event :: rest =>
    condition state event ∧ Along step condition (step state event) rest

/-- A run whose steps all meet a decidable condition can be recognised. -/
instance decidableAlong (step : State → Event → State) (condition : State → Event → Prop)
    [∀ state event, Decidable (condition state event)] :
    ∀ (state : State) (events : List Event), Decidable (Along step condition state events)
  | _, [] => isTrue trivial
  | state, event :: rest =>
    match decidableAlong step condition (step state event) rest with
    | isTrue tail =>
      if head : condition state event then isTrue ⟨head, tail⟩
      else isFalse fun along => head along.1
    | isFalse tail => isFalse fun along => tail along.2

variable {step : State → Event → State} {condition : State → Event → Prop}

@[simp] theorem runFrom_nil (state : State) : runFrom step state [] = state := rfl

@[simp] theorem runFrom_cons (state : State) (event : Event) (rest : List Event) :
    runFrom step state (event :: rest) = runFrom step (step state event) rest := rfl

/-- Handling a concatenation is handling its parts in turn. -/
theorem runFrom_append (state : State) (first second : List Event) :
    runFrom step state (first ++ second) = runFrom step (runFrom step state first) second := by
  induction first generalizing state with
  | nil => rfl
  | cons event rest ih => exact ih (step state event)

variable {state : State}

theorem along_append {first second : List Event} : Along step condition state (first ++ second) ↔
      Along step condition state first ∧ Along step condition (runFrom step state first) second := by
  induction first generalizing state with
  | nil => exact ⟨fun along => ⟨trivial, along⟩, fun along => along.2⟩
  | cons event rest ih =>
    exact ⟨fun along => ⟨⟨along.1, (ih.mp along.2).1⟩, (ih.mp along.2).2⟩,
      fun along => ⟨along.1.1, ih.mpr ⟨along.1.2, along.2⟩⟩⟩

variable {events : List Event}

theorem Along.take (along : Along step condition state events) (count : Nat) :
    Along step condition state (events.take count) := by
  induction events generalizing state count with
  | nil => simp [Along]
  | cons event rest ih =>
    cases count with
    | zero => simp [Along]
    | succ count => exact ⟨along.1, ih along.2 count⟩

theorem along_of_forall (holds : ∀ state event, condition state event) (state : State)
    (events : List Event) : Along step condition state events := by
  induction events generalizing state with
  | nil => trivial
  | cons event rest ih => exact ⟨holds state event, ih (step state event)⟩

theorem Along.weaken {weaker : State → Event → Prop} (along : Along step condition state events)
    (implies : ∀ state event, condition state event → weaker state event) :
    Along step weaker state events := by
  induction events generalizing state with
  | nil => trivial
  | cons event rest ih => exact ⟨implies _ _ along.1, ih along.2⟩

theorem Along.and {second : State → Event → Prop} (along : Along step condition state events)
    (along' : Along step second state events) :
    Along step (fun state event => condition state event ∧ second state event) state events := by
  induction events generalizing state with
  | nil => trivial
  | cons event rest ih => exact ⟨⟨along.1, along'.1⟩, ih along.2 along'.2⟩

theorem along_congr {invariant : State → Prop} {guard second : State → Event → Prop}
    (preserved : ∀ state event, invariant state → invariant (step state event))
    (same : ∀ state event, invariant state → guard state event →
      (condition state event ↔ second state event)) (holds : invariant state)
    (guarded : Along step guard state events) :
    Along step condition state events ↔ Along step second state events := by
  induction events generalizing state with
  | nil => exact Iff.rfl
  | cons event rest ih =>
    exact and_congr (same state event holds guarded.1) (ih (preserved state event holds) guarded.2)

section

variable {invariant : State → Prop}
  (preserved : ∀ state event, invariant state → condition state event → invariant (step state event))
include preserved

/-- Conditions that an invariant makes equivalent hold along the same runs, if one of them keeps
the invariant. -/
theorem along_congr_of_kept {second : State → Event → Prop}
    (same : ∀ state event, invariant state → (condition state event ↔ second state event))
    (holds : invariant state) (events : List Event) :
    Along step condition state events ↔ Along step second state events := by
  induction events generalizing state with
  | nil => exact Iff.rfl
  | cons event rest ih =>
    exact (and_congr_right fun met => ih (preserved state event holds met)).trans
      (and_congr_left fun _ => same state event holds)

/-- An invariant preserved by each step that meets the condition holds at the end
of every run whose steps meet it. -/
theorem invariant_along (holds : invariant state) (along : Along step condition state events) :
    invariant (runFrom step state events) := by
  induction events generalizing state with
  | nil => exact holds
  | cons event rest ih => exact ih (preserved state event holds along.1) along.2

/-- What the condition says of each step in a state with the invariant holds along every run
whose steps meet the condition. -/
theorem Along.derive {derived : State → Event → Prop}
    (implies : ∀ state event, invariant state → condition state event → derived state event)
    (holds : invariant state) (along : Along step condition state events) :
    Along step derived state events := by
  induction events generalizing state with
  | nil => trivial
  | cons event rest ih =>
    exact ⟨implies state event holds along.1, ih (preserved state event holds along.1) along.2⟩

end

theorem invariant_of_step {invariant : State → Prop}
    (preserved : ∀ state event, invariant state → invariant (step state event))
    (holds : invariant state) (events : List Event) : invariant (runFrom step state events) := by
  induction events generalizing state with
  | nil => exact holds
  | cons event rest ih => exact ih (preserved state event holds)

/-- Every state the run passes through, its first and its last included, has the
property. -/
def Throughout (step : State → Event → State) (property : State → Prop) : State → List Event → Prop
  | state, [] => property state
  | state, event :: rest => property state ∧ Throughout step property (step state event) rest

section

variable {property : State → Prop} (holds : Throughout step property state events)
include holds

theorem Throughout.start : property state := by
  cases events with
  | nil => exact holds
  | cons event rest => exact holds.1

theorem Throughout.finish : property (runFrom step state events) := by
  induction events generalizing state with
  | nil => exact holds
  | cons event rest ih => exact ih holds.2

theorem Throughout.weaken {weaker : State → Prop}
    (implies : ∀ state, property state → weaker state) : Throughout step weaker state events := by
  induction events generalizing state with
  | nil => exact implies _ holds
  | cons event rest ih => exact ⟨implies _ holds.1, ih holds.2⟩

end

/-- A property preserved by each step that meets the condition holds throughout every
run whose steps meet it. -/
theorem throughout_of_along {property : State → Prop}
    (preserved : ∀ state event, property state → condition state event →
      property (step state event)) (holds : property state)
    (along : Along step condition state events) : Throughout step property state events := by
  induction events generalizing state with
  | nil => exact holds
  | cons event rest ih => exact ⟨holds, ih (preserved state event holds along.1) along.2⟩

/-- When the condition is exactly what one step needs to keep the property, the
property holds throughout a run if and only if the condition holds along it. -/
theorem throughout_iff_along {invariant property : State → Prop}
    (preserved : ∀ state event, invariant state → invariant (step state event))
    (exactStep : ∀ state event, invariant state → property state →
      (property (step state event) ↔ condition state event)) (invariantHolds : invariant state)
    (propertyHolds : property state) (events : List Event) :
    Throughout step property state events ↔ Along step condition state events := by
  induction events generalizing state with
  | nil => exact ⟨fun _ => trivial, fun _ => propertyHolds⟩
  | cons event rest ih =>
    have exactHere := exactStep state event invariantHolds propertyHolds
    constructor
    · rintro ⟨_, later⟩
      have kept : property (step state event) := later.start
      exact ⟨exactHere.mp kept, (ih (preserved state event invariantHolds) kept).mp later⟩
    · rintro ⟨here, later⟩
      have kept : property (step state event) := exactHere.mpr here
      exact ⟨propertyHolds, (ih (preserved state event invariantHolds) kept).mpr later⟩

/-- A machine follows an abstract one through every prefix of a run if and only if
each step of the run meets the condition under which one step is followed. -/
theorem follows_iff_along {Abstract : Type w} {abstraction : State → Abstract}
    {abstractStep : Abstract → Event → Abstract}
    (exactStep : ∀ state event,
      abstraction (step state event) = abstractStep (abstraction state) event ↔
        condition state event)
    (state : State) (events : List Event) :
    (∀ count, abstraction (runFrom step state (events.take count)) =
        runFrom abstractStep (abstraction state) (events.take count)) ↔
      Along step condition state events := by
  induction events generalizing state with
  | nil => simp [Along]
  | cons event rest ih =>
    constructor
    · intro follows
      have first : abstraction (step state event) = abstractStep (abstraction state) event := by
        simpa using follows 1
      refine ⟨(exactStep state event).mp first, (ih (step state event)).mp fun count => ?_⟩
      simpa [first] using follows (count + 1)
    · rintro ⟨here, later⟩ count
      have first := (exactStep state event).mpr here
      cases count with
      | zero => rfl
      | succ count => simpa [first] using (ih (step state event)).mpr later count

section LastWrite

variable {Value : Type w} {write : State → Event → Option Value}

def LastWrite (step : State → Event → State) (write : State → Event → Option Value)
    (state : State) (events : List Event) (value : Value) : Prop :=
  ∃ front event back, events = front ++ event :: back ∧
    write (runFrom step state front) event = some value ∧
    Along step (fun state event => write state event = none)
      (runFrom step state (front ++ [event])) back

/-- The last write is in the rest of a run, or it is the first event and nothing is
written after it. -/
theorem lastWrite_cons {event : Event} {rest : List Event} {value : Value} :
    LastWrite step write state (event :: rest) value ↔
      LastWrite step write (step state event) rest value ∨ (write state event = some value ∧
          Along step (fun state event => write state event = none) (step state event) rest) := by
  constructor
  · rintro ⟨front, last, back, shape, written, silent⟩
    cases front with
    | nil =>
      obtain ⟨rfl, rfl⟩ := List.cons.inj shape
      exact .inr ⟨written, silent⟩
    | cons first front =>
      obtain ⟨rfl, rfl⟩ := List.cons.inj shape
      exact .inl ⟨front, last, back, rfl, written, silent⟩
  · rintro (⟨front, last, back, rfl, written, silent⟩ | ⟨written, silent⟩)
    · exact ⟨event :: front, last, back, rfl, written, silent⟩
    · exact ⟨[], event, rest, rfl, written, silent⟩

/-- If every step shows what its event writes, or else what was shown before, then a run
shows what was written last, or else what was shown at its start. -/
theorem view_runFrom_iff (view : State → Option Value)
    (shows : ∀ state event, view (step state event) = (write state event).or (view state))
    {value : Value} :
    view (runFrom step state events) = some value ↔ LastWrite step write state events value ∨
        (view state = some value ∧
          Along step (fun state event => write state event = none) state events) := by
  induction events generalizing state with
  | nil =>
    have never : ¬ LastWrite step write state [] value := by
      rintro ⟨front, event, back, shape, -⟩
      simp at shape
    simp [never, Along]
  | cons event rest ih =>
    rw [runFrom_cons, ih, lastWrite_cons, shows, or_assoc]
    refine or_congr_right ?_
    cases written : write state event with
    | none => simp [Along, written]
    | some value' => simp [Along, written]

end LastWrite

end NetLab.Execution
