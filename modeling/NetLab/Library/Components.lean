import Mathlib.Logic.Relation
import Mathlib.Data.List.Nodup
import Mathlib.Data.List.Perm.Subperm

/-!
# Connected components by stack search

A search takes vertices from a stack and pushes the neighbours it has not seen.
Started outside a union of components it collects exactly the component of its
start, and adds exactly that component to what is seen.
-/

namespace NetLab.Library.Components

open List

variable {V : Type} [DecidableEq V]

/-- The search: the head of `stack` is its top. The result is the component in the
order in which its vertices were taken, and everything seen so far. -/
def collect (neighbours : V → List V) : (fuel : Nat) → (stack seen comp : List V) → List V × List V
  | 0, _, seen, comp => (comp, seen)
  | _ + 1, [], seen, comp => (comp, seen)
  | fuel + 1, vertex :: stack, seen, comp =>
    let fresh := (neighbours vertex).filter fun next => decide (next ∉ seen)
    collect neighbours fuel (fresh.reverse ++ stack) (seen ++ fresh) (comp ++ [vertex])

/-- A vertex is reached along neighbours. -/
def Joined (neighbours : V → List V) : V → V → Prop :=
  Relation.ReflTransGen fun vertex next => next ∈ neighbours vertex

/-- What holds during a search from `start` when `before` was seen at its beginning. -/
structure Invariant (neighbours : V → List V) (before : List V) (start : V)
    (stack seen comp : List V) : Prop where
  seen_iff : ∀ vertex, vertex ∈ seen ↔ vertex ∈ before ∨ vertex ∈ stack ∨ vertex ∈ comp
  distinct : (comp ++ stack).Nodup
  apart : ∀ vertex, vertex ∈ stack ∨ vertex ∈ comp → vertex ∉ before
  reached : ∀ vertex, vertex ∈ stack ∨ vertex ∈ comp → Joined neighbours start vertex
  closed : ∀ vertex ∈ comp, ∀ next ∈ neighbours vertex, next ∈ seen
  contains : start ∈ stack ∨ start ∈ comp

variable {neighbours : V → List V} {before : List V} {start : V}

theorem Invariant.take {vertex : V} {stack seen comp : List V}
    (invariant : Invariant neighbours before start (vertex :: stack) seen comp)
    (simple : ∀ other, (neighbours other).Nodup) :
    Invariant neighbours before start
      (((neighbours vertex).filter fun next => decide (next ∉ seen)).reverse ++ stack)
      (seen ++ (neighbours vertex).filter fun next => decide (next ∉ seen))
      (comp ++ [vertex]) where
  seen_iff := by
    intro other
    have old := invariant.seen_iff other
    simp only [mem_append, mem_reverse, mem_cons, not_mem_nil, or_false] at old ⊢
    rw [old]
    tauto
  distinct := by
    have fresh : ∀ other ∈ (neighbours vertex).filter fun next => decide (next ∉ seen),
        other ∉ comp ++ vertex :: stack := by
      intro other isFresh member
      have unseen : other ∉ seen := by simpa using (mem_filter.mp isFresh).2
      apply unseen
      rw [invariant.seen_iff]
      rw [mem_append] at member
      exact .inr member.symm
    have arranged : (comp ++ vertex :: stack ++
        (neighbours vertex).filter fun next => decide (next ∉ seen)).Nodup := by
      rw [nodup_append']
      exact ⟨invariant.distinct, (simple vertex).filter _, fun other old new => fresh other new old⟩
    refine arranged.perm ?_
    rw [append_assoc, append_assoc, singleton_append, cons_append]
    refine List.Perm.append_left comp (List.Perm.cons vertex ?_)
    exact (perm_append_comm).trans ((reverse_perm _).symm.append_right stack)
  apart := by
    intro other member old
    simp only [mem_append, mem_reverse, mem_filter, mem_singleton, decide_eq_true_eq] at member
    have isSeen : other ∈ seen := (invariant.seen_iff other).mpr (.inl old)
    rcases member with (⟨_, unseen⟩ | waiting) | done | same
    · exact unseen isSeen
    · exact invariant.apart other (.inl (mem_cons_of_mem _ waiting)) old
    · exact invariant.apart other (.inr done) old
    · exact invariant.apart other (.inl (same ▸ mem_cons_self)) old
  reached := by
    intro other member
    simp only [mem_append, mem_reverse, mem_filter, mem_singleton] at member
    rcases member with (⟨isNext, _⟩ | waiting) | done | same
    · exact (invariant.reached vertex (.inl mem_cons_self)).tail isNext
    · exact invariant.reached other (.inl (mem_cons_of_mem _ waiting))
    · exact invariant.reached other (.inr done)
    · exact invariant.reached other (.inl (same ▸ mem_cons_self))
  closed := by
    intro other member next isNext
    rw [mem_append]
    rcases mem_append.mp member with done | same
    · exact .inl (invariant.closed other done next isNext)
    · rw [mem_singleton] at same
      subst same
      by_cases isSeen : next ∈ seen
      · exact .inl isSeen
      · exact .inr (mem_filter.mpr ⟨isNext, by simpa using isSeen⟩)
  contains := by
    simp only [mem_append, mem_singleton]
    rcases invariant.contains with waiting | done
    · rcases mem_cons.mp waiting with same | later
      · exact .inr (.inr same)
      · exact .inl (.inr later)
    · exact .inr (.inl done)

theorem invariant_collect {vertices : List V} (simple : ∀ other, (neighbours other).Nodup)
    (inside : ∀ vertex, Joined neighbours start vertex → vertex ∈ vertices) (fuel : Nat) :
    ∀ {stack seen comp : List V}, Invariant neighbours before start stack seen comp →
      vertices.length < fuel + comp.length →
      Invariant neighbours before start [] (collect neighbours fuel stack seen comp).2
        (collect neighbours fuel stack seen comp).1 := by
  induction fuel with
  | zero =>
    intro stack seen comp invariant bound
    have few : comp.length ≤ vertices.length := by
      refine List.Subperm.length_le (subperm_of_subset ?_ ?_)
      · exact invariant.distinct.of_append_left
      · exact fun vertex member => inside vertex (invariant.reached vertex (.inr member))
    omega
  | succ fuel ih =>
    intro stack seen comp invariant bound
    cases stack with
    | nil => exact invariant
    | cons vertex stack =>
      refine ih (invariant.take simple) ?_
      rw [length_append, length_singleton]
      omega

theorem mem_collect {vertices : List V} (simple : ∀ other, (neighbours other).Nodup)
    (symmetric : ∀ vertex next, next ∈ neighbours vertex → vertex ∈ neighbours next)
    (inside : ∀ vertex, Joined neighbours start vertex → vertex ∈ vertices)
    (unseen : start ∉ before)
    (separate : ∀ vertex ∈ before, ∀ next ∈ neighbours vertex, next ∈ before)
    {fuel : Nat} (enough : vertices.length < fuel) :
    let found := collect neighbours fuel [start] (before ++ [start]) []
    (∀ vertex, vertex ∈ found.1 ↔ Joined neighbours start vertex) ∧ found.1.Nodup ∧
      ∀ vertex, vertex ∈ found.2 ↔ vertex ∈ before ∨ Joined neighbours start vertex := by
  have initially : Invariant neighbours before start [start] (before ++ [start]) [] := by
    refine ⟨fun vertex => by simp, by simp, ?_, ?_, by simp, by simp⟩
    · intro vertex member
      have same : vertex = start := by simpa using member
      exact same ▸ unseen
    · intro vertex member
      have same : vertex = start := by simpa using member
      exact same ▸ .refl
  have final := invariant_collect simple inside fuel initially (by simpa using enough)
  have closed : ∀ vertex ∈ (collect neighbours fuel [start] (before ++ [start]) []).1,
      ∀ next ∈ neighbours vertex,
        next ∈ (collect neighbours fuel [start] (before ++ [start]) []).1 := by
    intro vertex member next isNext
    have isSeen := (final.seen_iff next).mp (final.closed vertex member next isNext)
    rcases isSeen with old | waiting | done
    · have back := separate next old vertex (symmetric vertex next isNext)
      exact absurd back (final.apart vertex (.inr member))
    · cases waiting
    · exact done
  have component : ∀ vertex, vertex ∈ (collect neighbours fuel [start] (before ++ [start]) []).1 ↔
      Joined neighbours start vertex := by
    intro vertex
    constructor
    · exact fun member => final.reached vertex (.inr member)
    · intro joined
      induction joined with
      | refl => exact final.contains.resolve_left not_mem_nil
      | tail _ isNext ih => exact closed _ ih _ isNext
  refine ⟨component, by simpa using final.distinct, fun vertex => ?_⟩
  rw [final.seen_iff, component]
  simp

end NetLab.Library.Components
