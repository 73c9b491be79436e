import Mathlib.Data.List.Induction
import Mathlib.Algebra.GroupWithZero.Nat

/-!
# Passes over a list

A pass handles the items of a list one after the other. `foldl_done` is for work that
each item calls for: the step of an item does its work, and later steps leave it done.
`foldl_measure_le` bounds what a pass adds to a measure by what its items add.
-/

namespace NetLab.Library

open List

universe u v

variable {State : Type u} {Item : Type v} {step : State → Item → State}

theorem foldl_done (Good : State → Prop) (Done : State → Item → Prop) {items : List Item}
    (keeps : ∀ {state item}, item ∈ items → Good state → Good (step state item))
    (does : ∀ {state item}, item ∈ items → Good state → Done (step state item) item)
    (stays : ∀ {state item other}, item ∈ items → Good state → Done state other →
      Done (step state item) other) {state : State} (good : Good state) :
    Good (items.foldl step state) ∧ ∀ item ∈ items, Done (items.foldl step state) item := by
  induction items using List.reverseRecOn with
  | nil => exact ⟨good, fun _ member => nomatch member⟩
  | append_singleton items last ih =>
    have early : ∀ {item}, item ∈ items → item ∈ items ++ [last] := fun member =>
      mem_append_left _ member
    have final : last ∈ items ++ [last] := mem_append_right _ mem_cons_self
    obtain ⟨kept, done⟩ := ih (fun member => keeps (early member))
      (fun member => does (early member)) (fun member => stays (early member))
    rw [foldl_append, foldl_cons, foldl_nil]
    refine ⟨keeps final kept, fun item member => ?_⟩
    rcases mem_append.mp member with before | here
    · exact stays final kept (done item before)
    · rw [mem_singleton.mp here]
      exact does final kept

theorem foldl_measure_le (measure : State → Nat) (weight : Item → Nat)
    (adds : ∀ state item, measure (step state item) ≤ measure state + weight item)
    (items : List Item) (state : State) :
    measure (items.foldl step state) ≤ measure state + (items.map weight).sum := by
  induction items generalizing state with
  | nil => exact Nat.le_refl _
  | cons item rest ih =>
    have head := adds state item
    have tail := ih (step state item)
    rw [foldl_cons, map_cons, sum_cons]
    omega

end NetLab.Library
