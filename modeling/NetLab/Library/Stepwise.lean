import Mathlib.Data.List.Basic

/-!
# Requests applied item by item

A request is a list of items that change a state one after the other. The first item that fails
ends it, and what has been done stays. `Writes.unchanged_iff` says when this leaves the state as it
was: at every place, what is done there comes to nothing.
-/

namespace NetLab.Library

variable {State Item Error Place Value : Type}

def runUntil (apply : State → Item → Option Error × State) :
    State → List Item → Option Error × State
  | state, [] => (none, state)
  | state, item :: rest =>
    match apply state item with
    | (some error, after) => (some error, after)
    | (none, after) => runUntil apply after rest

/-- Apply an item, which changes nothing if it is refused. -/
def attempt (apply : State → Item → Except Error State) (state : State) (item : Item) :
    Option Error × State :=
  match apply state item with
  | .error error => (some error, state)
  | .ok next => (none, next)

theorem attempt_ok {apply : State → Item → Except Error State} {state next : State} {item : Item}
    (applied : apply state item = .ok next) : attempt apply state item = (none, next) := by
  rw [attempt, applied]

theorem attempt_error {apply : State → Item → Except Error State} {state : State} {item : Item}
    {error : Error} (refused : apply state item = .error error) :
    attempt apply state item = (some error, state) := by
  rw [attempt, refused]

def applyUntil (apply : State → Item → Except Error State) :
    State → List Item → Option Error × State :=
  runUntil (attempt apply)

/-- What no item changes is not changed by a request. -/
theorem applyUntil_keeps (view : State → Value)
    {apply : State → Item → Except Error State} {items : List Item}
    (keeps : ∀ state, ∀ item ∈ items, ∀ next, apply state item = .ok next → view next = view state)
    (state : State) : view (applyUntil apply state items).2 = view state := by
  unfold applyUntil
  induction items generalizing state with
  | nil => rfl
  | cons item rest ih =>
    unfold runUntil attempt
    cases applied : apply state item with
    | error error => rfl
    | ok next =>
      refine (ih (fun state item inRest => keeps state item (List.mem_cons_of_mem _ inRest))
        next).trans ?_
      exact keeps state item List.mem_cons_self next applied

/-- Items up to the first that fails, and that one. -/
def reached (accepts : Item → Bool) : List Item → List Item
  | [] => []
  | item :: rest => if accepts item then item :: reached accepts rest else [item]

/-- Where every item is applied: it is known beforehand whether an item is accepted and what it does
at each place, in all states with an invariant. -/
structure Writes (apply : State → Item → Option Error × State) (invariant : State → Prop)
    (accepts : Item → Bool) (view : State → Place → Value)
    (effect : Item → Place → Value → Value) : Prop where
  keeps : ∀ state item, invariant state → invariant (apply state item).2
  accepted : ∀ state item, invariant state → ((apply state item).1 = none ↔ accepts item = true)
  effect : ∀ state item place, invariant state →
    view (apply state item).2 place = effect item place (view state place)
  ext : ∀ state other, invariant state → invariant other →
    (∀ place, view state place = view other place) → state = other

namespace Writes

variable {apply : State → Item → Option Error × State} {invariant : State → Prop}
  {accepts : Item → Bool} {view : State → Place → Value}
  {effect : Item → Place → Value → Value}

section

variable {state : State} (writes : Writes apply invariant accepts view effect)
  (holds : invariant state) (items : List Item)
include writes holds items

theorem invariant_runUntil : invariant (runUntil apply state items).2 := by
  induction items generalizing state with
  | nil => exact holds
  | cons item rest ih =>
    have kept := writes.keeps state item holds
    unfold runUntil
    cases applied : apply state item with
    | mk failure after =>
      rw [applied] at kept
      cases failure with
      | none => exact ih kept
      | some error => exact kept

theorem runUntil_eq_none_iff :
    (runUntil apply state items).1 = none ↔ ∀ item ∈ items, accepts item = true := by
  induction items generalizing state with
  | nil => simp [runUntil]
  | cons item rest ih =>
    have kept := writes.keeps state item holds
    have accepted := writes.accepted state item holds
    rw [List.forall_mem_cons, ← accepted]
    unfold runUntil
    cases applied : apply state item with
    | mk failure after =>
      rw [applied] at kept
      cases failure with
      | none => simpa using ih kept
      | some error => simp

theorem view_runUntil (place : Place) : view (runUntil apply state items).2 place =
      (reached accepts items).foldl (fun value item => effect item place value)
        (view state place) := by
  induction items generalizing state with
  | nil => rfl
  | cons item rest ih =>
    have kept := writes.keeps state item holds
    have accepted := writes.accepted state item holds
    have effect := writes.effect state item place holds
    unfold runUntil reached
    cases applied : apply state item with
    | mk failure after =>
      rw [applied] at kept accepted effect
      cases failure with
      | none =>
        rw [if_pos (accepted.mp rfl), List.foldl_cons, ← effect]
        exact ih kept
      | some error =>
        have refused : ¬ accepts item = true := fun accepts =>
          Option.some_ne_none _ (accepted.mpr accepts)
        rw [if_neg refused]
        exact effect

/-- A request leaves the state as it was if what it does at each place comes to nothing. -/
theorem unchanged_iff : (runUntil apply state items).2 = state ↔ ∀ place,
      (reached accepts items).foldl (fun value item => effect item place value)
        (view state place) = view state place := by
  constructor
  · intro same place
    rw [← writes.view_runUntil holds, same]
  · intro restored
    refine writes.ext _ _ (writes.invariant_runUntil holds items) holds fun place => ?_
    rw [writes.view_runUntil holds, restored]

end

end Writes

def lastWrite (write : Item → Place → Option Value) (items : List Item) (place : Place) :
    Option Value :=
  items.foldl (fun last item => (write item place).or last) none

theorem foldl_write (write : Item → Place → Option Value) (items : List Item) (place : Place)
    (value : Value) :
    items.foldl (fun value item => (write item place).getD value) value =
      (lastWrite write items place).getD value := by
  have general : ∀ last : Option Value,
      items.foldl (fun value item => (write item place).getD value) (last.getD value) =
        (items.foldl (fun last item => (write item place).or last) last).getD value := by
    induction items with
    | nil => exact fun last => rfl
    | cons item rest ih =>
      intro last
      rw [List.foldl_cons, List.foldl_cons, ← ih]
      cases write item place <;> rfl
  exact general none

theorem foldl_write_eq_iff (write : Item → Place → Option Value) (items : List Item)
    (place : Place) (value : Value) :
    items.foldl (fun value item => (write item place).getD value) value = value ↔
      ∀ written, lastWrite write items place = some written → written = value := by
  rw [foldl_write]
  cases lastWrite write items place with
  | none => simp
  | some written => simp

end NetLab.Library
