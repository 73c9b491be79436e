import Mathlib.Data.List.Basic

/-!
# Threads over shared memory

Threads share one state and take atomic steps in any order; each keeps a local state of its
own. A shared counter that every step changes by what the moving thread then counts for tells
how many threads count (`counter_step`).
-/

namespace NetLab.Library

open List

/-- Shared memory, and the local states of the threads in the order they were started. -/
structure Threads (Shared Local : Type) where
  shared : Shared
  locals : List Local
deriving DecidableEq

namespace Threads

variable {Shared Local : Type}

/-- Start a thread. -/
def spawn (fresh : Local) (threads : Threads Shared Local) : Threads Shared Local :=
  { threads with locals := threads.locals ++ [fresh] }

/-- One atomic step of a thread. A thread that was never started takes none. -/
def step (move : Shared → Local → Shared × Local) (id : Nat) (threads : Threads Shared Local) :
    Threads Shared Local :=
  match threads.locals[id]? with
  | none => threads
  | some here =>
    let moved := move threads.shared here
    ⟨moved.1, threads.locals.set id moved.2⟩

/-- How many threads pass a test. -/
def count (test : Local → Bool) (threads : Threads Shared Local) : Nat :=
  threads.locals.countP test

variable {move : Shared → Local → Shared × Local} {threads : Threads Shared Local} {id : Nat}

theorem step_of_none (absent : threads.locals[id]? = none) : threads.step move id = threads := by
  simp only [step, absent]

section

variable {here : Local} (found : threads.locals[id]? = some here)
include found

theorem shared_step : (threads.step move id).shared = (move threads.shared here).1 := by
  simp only [step, found]

theorem locals_step :
    (threads.step move id).locals = threads.locals.set id (move threads.shared here).2 := by
  simp only [step, found]

theorem getElem?_step : (threads.step move id).locals[id]? = some (move threads.shared here).2 := by
  have inRange : id < threads.locals.length := (List.getElem?_eq_some_iff.mp found).1
  rw [locals_step found, getElem?_set_self inRange]

end

theorem getElem?_step_of_ne {other : Nat} (different : other ≠ id) :
    (threads.step move id).locals[other]? = threads.locals[other]? := by
  cases found : threads.locals[id]? with
  | none => rw [step_of_none found]
  | some here => rw [locals_step found, getElem?_set_ne different.symm]

theorem forall_step {kept : Local → Prop}
    (keeps : ∀ shared here, kept here → kept (move shared here).2)
    (all : ∀ here ∈ threads.locals, kept here) : ∀ here ∈ (threads.step move id).locals, kept here := by
  cases found : threads.locals[id]? with
  | none => rwa [step_of_none found]
  | some here =>
    rw [locals_step found]
    intro after inside
    rcases mem_or_eq_of_mem_set inside with old | rfl
    · exact all after old
    · exact keeps _ here (all here (mem_of_getElem? found))

theorem count_spawn (test : Local → Bool) (fresh : Local) :
    (threads.spawn fresh).count test = threads.count test + (test fresh).toNat := by
  cases passes : test fresh <;> simp [count, spawn, passes]

theorem count_step (test : Local → Bool) {here : Local}
    (found : threads.locals[id]? = some here) :
    (threads.step move id).count test + (test here).toNat =
      threads.count test + (test (move threads.shared here).2).toNat := by
  obtain ⟨inRange, at_id⟩ := List.getElem?_eq_some_iff.mp found
  have before : threads.locals = threads.locals.take id ++ here :: threads.locals.drop (id + 1) := by
    rw [← at_id, getElem_cons_drop, take_append_drop]
  have countBefore := congrArg (List.countP test) before
  simp only [count, locals_step found, set_eq_take_append_cons_drop, if_pos inRange,
    countP_append, countP_cons] at countBefore ⊢
  rw [countBefore]
  cases test here <;> cases test (move threads.shared here).2 <;> simp <;> omega

/-- A shared counter tells how many threads pass a test after a step if it did so before, and the
step changes it as the moving thread starts or stops to pass. -/
theorem counter_step (counter : Shared → Int) {test : Local → Bool}
    (pays : ∀ shared here, counter (move shared here).1 + (test here).toNat =
      counter shared + (test (move shared here).2).toNat)
    (agrees : counter threads.shared = threads.count test) :
    counter (threads.step move id).shared = (threads.step move id).count test := by
  cases found : threads.locals[id]? with
  | none => rwa [step_of_none found]
  | some here =>
    have paid := pays threads.shared here
    have counted : (threads.step move id).count test + (test here).toNat =
        threads.count test + (test (move threads.shared here).2).toNat := count_step test found
    rw [shared_step found]
    omega

theorem count_congr {test test' : Local → Bool}
    (same : ∀ here ∈ threads.locals, test here = test' here) :
    threads.count test = threads.count test' :=
  countP_congr fun here member => by rw [same here member]

end Threads

end NetLab.Library
