import Mathlib.Data.Finset.Card
import Mathlib.Data.List.Nodup

/-!
# Exploration with a queue

A queue of items is worked off: the neighbours of its first item that were not visited yet
are found, and those of them that let through are put into the queue. The search ends, finds
each item once, and finds what is reached from the queue through items that let through
without entering what was visited before.
-/

namespace NetLab.Library

open List

universe u

variable {α : Type u} [DecidableEq α] (neighbors : α → List α) (through : α → Bool)

def unvisited (visited : List α) (item : α) : List α :=
  (neighbors item).filter fun peer => decide (peer ∉ visited)

/-- The search, and what it finds. -/
inductive Explores : (visited queue found : List α) → Prop
  | done {visited : List α} : Explores visited [] []
  | take {visited queue found : List α} {item : α}
      (rest : Explores (visited ++ unvisited neighbors visited item)
        (queue ++ (unvisited neighbors visited item).filter through) found) :
      Explores visited (item :: queue) (unvisited neighbors visited item ++ found)

/-- The search, for so many items of the queue at most. -/
def explore : (fuel : Nat) → (visited queue : List α) → List α
  | 0, _, _ => []
  | _ + 1, _, [] => []
  | fuel + 1, visited, item :: queue =>
    let fresh := unvisited neighbors visited item
    fresh ++ explore fuel (visited ++ fresh) (queue ++ fresh.filter through)

/-- Reached from the queue through items that let through, outside what was visited. -/
inductive ReachedFrom (visited queue : List α) : α → Prop
  | start {item peer : α} (queued : item ∈ queue) (near : peer ∈ neighbors item)
      (new : peer ∉ visited) : ReachedFrom visited queue peer
  | pass {item peer : α} (reached : ReachedFrom visited queue item)
      (open_ : through item = true) (near : peer ∈ neighbors item) (new : peer ∉ visited) :
      ReachedFrom visited queue peer

variable {neighbors through} {visited queue found : List α}

theorem mem_unvisited {item peer : α} :
    peer ∈ unvisited neighbors visited item ↔ peer ∈ neighbors item ∧ peer ∉ visited := by
  simp [unvisited]

omit [DecidableEq α] in
theorem ReachedFrom.not_mem {peer : α} (reached : ReachedFrom neighbors through visited queue peer) :
    peer ∉ visited := by
  cases reached with
  | start _ _ new => exact new
  | pass _ _ _ new => exact new

/-- What is reached is reached after one more item of the queue, or it is a neighbour of that
item. -/
theorem reachedFrom_cons {item peer : α} :
    ReachedFrom neighbors through visited (item :: queue) peer ↔
      peer ∈ unvisited neighbors visited item ∨
        ReachedFrom neighbors through (visited ++ unvisited neighbors visited item)
          (queue ++ (unvisited neighbors visited item).filter through) peer := by
  constructor
  · intro reached
    induction reached with
    | @start origin peer queued near new =>
      by_cases here : peer ∈ unvisited neighbors visited item
      · exact .inl here
      have outside : peer ∉ visited ++ unvisited neighbors visited item := by
        simp [new, here]
      rcases mem_cons.mp queued with rfl | later
      · exact absurd (mem_unvisited.mpr ⟨near, new⟩) here
      · exact .inr (.start (mem_append_left _ later) near outside)
    | @pass origin peer reached open_ near new ih =>
      by_cases here : peer ∈ unvisited neighbors visited item
      · exact .inl here
      have outside : peer ∉ visited ++ unvisited neighbors visited item := by
        simp [new, here]
      rcases ih with fresh | later
      · have queued := mem_filter.mpr ⟨fresh, open_⟩
        exact .inr (.start (mem_append_right _ queued) near outside)
      · exact .inr (.pass later open_ near outside)
  · rintro (here | reached)
    · obtain ⟨near, new⟩ := mem_unvisited.mp here
      exact .start mem_cons_self near new
    · induction reached with
      | @start origin peer queued near new =>
        have outside : peer ∉ visited := fun member => new (mem_append_left _ member)
        rcases mem_append.mp queued with old | fresh
        · exact .start (mem_cons_of_mem _ old) near outside
        · obtain ⟨member, open_⟩ := mem_filter.mp fresh
          obtain ⟨nearItem, newItem⟩ := mem_unvisited.mp member
          exact .pass (.start mem_cons_self nearItem newItem) open_ near outside
      | @pass origin peer _ open_ near new ih =>
        exact .pass ih open_ near fun member => new (mem_append_left _ member)

namespace Explores

theorem mem_iff (explores : Explores neighbors through visited queue found) (peer : α) :
    peer ∈ found ↔ ReachedFrom neighbors through visited queue peer := by
  induction explores with
  | done =>
    refine iff_of_false (by simp) fun reached => ?_
    induction reached with
    | start queued => cases queued
    | pass _ _ _ _ ih => exact ih
  | take _ ih => rw [mem_append, ih, reachedFrom_cons]

/-- The search finds each item once. -/
theorem nodup (explores : Explores neighbors through visited queue found)
    (distinct : ∀ item, (neighbors item).Nodup) : found.Nodup := by
  induction explores with
  | done => exact .nil
  | take rest ih =>
    refine nodup_append'.mpr ⟨(distinct _).filter _, ih, fun peer fresh later => ?_⟩
    exact ((rest.mem_iff peer).mp later).not_mem (mem_append_right _ fresh)

end Explores

theorem explores_explore {space : Finset α} (distinct : ∀ item, (neighbors item).Nodup)
    (inside : ∀ item, ∀ peer ∈ neighbors item, peer ∈ space) {fuel : Nat}
    (enough : (space \ visited.toFinset).card + queue.length ≤ fuel) :
    Explores neighbors through visited queue (explore neighbors through fuel visited queue) := by
  induction fuel generalizing visited queue with
  | zero =>
    obtain rfl : queue = [] := length_eq_zero_iff.mp (by omega)
    exact .done
  | succ fuel ih =>
    cases queue with
    | nil => exact .done
    | cons item queue =>
      refine .take (ih ?_)
      have fresh : (unvisited neighbors visited item).toFinset ⊆ space \ visited.toFinset := by
        intro peer member
        obtain ⟨near, new⟩ := mem_unvisited.mp (mem_toFinset.mp member)
        exact Finset.mem_sdiff.mpr ⟨inside item peer near, by simpa using new⟩
      have count : (unvisited neighbors visited item).toFinset.card =
          (unvisited neighbors visited item).length :=
        toFinset_card_of_nodup ((distinct item).filter _)
      have shrinks := Finset.card_sdiff_add_card_eq_card fresh
      have parts : space \ (visited ++ unvisited neighbors visited item).toFinset =
          (space \ visited.toFinset) \ (unvisited neighbors visited item).toFinset := by
        rw [toFinset_append, sdiff_sdiff_left]
        rfl
      have queued := length_filter_le through (unvisited neighbors visited item)
      rw [parts, length_append]
      rw [length_cons] at enough
      omega

end NetLab.Library
