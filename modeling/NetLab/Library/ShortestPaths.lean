import Mathlib.Algebra.Order.BigOperators.Group.List
import Mathlib.Algebra.Order.Ring.Nat
import Mathlib.Data.Prod.Lex
import NetLab.Library.OrderedMap
import NetLab.Library.WeightedGraph

/-!
# Shortest paths with a priority queue

Dijkstra's algorithm with lazy deletion, for distances below a limit. Entries of the
queue are never removed when a shorter distance turns up; an entry that is out of
date is skipped when it is taken. A distance only decreases, which bounds the number
of rounds, and when the queue is empty every edge is relaxed, so the table holds the
distances below the limit and nothing else.
-/

namespace NetLab.Library.ShortestPaths

open OrderedMap List

open NetLab.Library

variable {V : Type} [LinearOrder V] {cost : Nat}

/-- Distances found so far. -/
abbrev Distances (V : Type) := OrderedMap V Nat

def distance (limit : Nat) (dist : Distances V) (vertex : V) : Nat :=
  (dist.lookup vertex).getD limit

/-- The least entry of a queue, by distance and then by vertex. -/
def leastEntry (best : Nat × V) : List (Nat × V) → Nat × V
  | [] => best
  | entry :: rest =>
    if toLex entry < toLex best then leastEntry entry rest else leastEntry best rest

/-- Relax one edge out of a vertex at distance `cost`. -/
def relaxEdge (limit cost : Nat) (progress : Distances V × List (Nat × V)) (edge : V × Nat) :
    Distances V × List (Nat × V) :=
  if cost + edge.2 < distance limit progress.1 edge.1 then
    (progress.1.insert edge.1 (cost + edge.2), (cost + edge.2, edge.1) :: progress.2)
  else progress

/-- One round: take the least entry, skip it when it is out of date, else relax the
edges out of its vertex. -/
def round (limit : Nat) (edges : V → OrderedMap V Nat) (dist : Distances V) (entry : Nat × V)
    (rest : List (Nat × V)) : Distances V × List (Nat × V) :=
  let least := leastEntry entry rest
  let queue := (entry :: rest).erase least
  if distance limit dist least.2 < least.1 then (dist, queue)
  else (edges least.2).entries.foldl (relaxEdge limit least.1) (dist, queue)

/-- The loop over the queue, for at most `fuel` rounds. -/
def loop (limit : Nat) (edges : V → OrderedMap V Nat) :
    (fuel : Nat) → Distances V → List (Nat × V) → Distances V
  | 0, dist, _ => dist
  | _ + 1, dist, [] => dist
  | fuel + 1, dist, entry :: rest =>
    let progress := round limit edges dist entry rest
    loop limit edges fuel progress.1 progress.2

/-- Distances below the limit from a root, in a graph with the given number of
vertices. -/
def distancesFrom (limit : Nat) (edges : V → OrderedMap V Nat) (size : Nat) (root : V) :
    Distances V :=
  loop limit edges (2 * (size * limit) + 1) (OrderedMap.empty.insert root 0) [(0, root)]

def graphOf (edges : V → OrderedMap V Nat) : WeightedGraph V := fun start finish =>
  (edges start).lookup finish

/-! ## The queue -/

theorem leastEntry_mem (best : Nat × V) (rest : List (Nat × V)) :
    leastEntry best rest ∈ best :: rest := by
  induction rest generalizing best with
  | nil => simp [leastEntry]
  | cons entry rest ih =>
    unfold leastEntry
    split
    · exact mem_cons_of_mem _ (ih entry)
    · rcases mem_cons.mp (ih best) with same | member
      · rw [same]
        exact mem_cons_self
      · exact mem_cons_of_mem _ (mem_cons_of_mem _ member)

/-! ## Invariant of the loop -/

variable {limit : Nat} {edges : V → OrderedMap V Nat} {root : V}

/-- What holds of the table and the queue. Edges that are waived may still be
unrelaxed although their start is not queued. -/
structure Invariant (limit : Nat) (edges : V → OrderedMap V Nat) (root : V)
    (waived : V → V × Nat → Prop) (dist : Distances V) (queue : List (Nat × V)) : Prop where
  sound : ∀ vertex cost, dist.lookup vertex = some cost →
    (graphOf edges).Walk root vertex cost ∧ cost < limit
  start : dist.lookup root = some 0
  settled : ∀ vertex cost, dist.lookup vertex = some cost → (cost, vertex) ∈ queue ∨
    ∀ edge ∈ (edges vertex).entries, waived vertex edge ∨ distance limit dist edge.1 ≤ cost + edge.2
  queued : ∀ entry ∈ queue, ∃ cost, dist.lookup entry.2 = some cost ∧ cost ≤ entry.1

/-- No edge is waived. -/
abbrev Settled (limit : Nat) (edges : V → OrderedMap V Nat) (root : V) (dist : Distances V)
    (queue : List (Nat × V)) : Prop :=
  Invariant limit edges root (fun _ _ => False) dist queue

variable {dist : Distances V}

theorem Invariant.distance_le {waived : V → V × Nat → Prop} {queue : List (Nat × V)}
    (invariant : Invariant limit edges root waived dist queue) (vertex : V) :
    distance limit dist vertex ≤ limit := by
  unfold distance
  cases found : dist.lookup vertex with
  | none => exact le_rfl
  | some cost => exact (invariant.sound vertex cost found).2.le

variable {vertex : V}

theorem distance_insert_le (shorter : cost < distance limit dist vertex) (other : V) :
    distance limit (dist.insert vertex cost) other ≤ distance limit dist other := by
  unfold distance at shorter ⊢
  rw [lookup_insert]
  split_ifs with same
  · subst same
    exact shorter.le
  · exact le_rfl

theorem distance_of_lookup (found : dist.lookup vertex = some cost) :
    distance limit dist vertex = cost := by
  simp [distance, found]

section

variable {queue : List (Nat × V)} {edge : V × Nat} {pending : List (V × Nat)}
  (invariant : Invariant limit edges root (fun other e => other = vertex ∧ e ∈ edge :: pending) dist queue)
  (current : dist.lookup vertex = some cost)
include invariant current

theorem Invariant.skip_edge (needless : distance limit dist edge.1 ≤ cost + edge.2) :
    Invariant limit edges root (fun other e => other = vertex ∧ e ∈ pending) dist queue where
  sound := invariant.sound
  start := invariant.start
  queued := invariant.queued
  settled := by
    intro other found stored
    refine (invariant.settled other found stored).imp_right fun relaxed e member => ?_
    rcases relaxed e member with ⟨rfl, isPending⟩ | done
    · rcases mem_cons.mp isPending with rfl | later
      · cases current.symm.trans stored
        exact .inr needless
      · exact .inl ⟨rfl, later⟩
    · exact .inr done

theorem Invariant.improve_edge (isEdge : edge ∈ (edges vertex).entries)
    (shorter : cost + edge.2 < distance limit dist edge.1) :
    Invariant limit edges root (fun other e => other = vertex ∧ e ∈ pending)
      (dist.insert edge.1 (cost + edge.2)) ((cost + edge.2, edge.1) :: queue) where
  sound := by
    intro other found stored
    rw [lookup_insert] at stored
    split_ifs at stored with same
    · cases stored
      subst same
      have step : graphOf edges vertex edge.1 = some edge.2 := mem_entries_iff.mp isEdge
      exact ⟨(invariant.sound vertex cost current).1.snoc step,
        shorter.trans_le (invariant.distance_le edge.1)⟩
    · exact invariant.sound other found stored
  start := by
    rw [lookup_insert]
    split_ifs with same
    · have zero : distance limit dist edge.1 = 0 := same ▸ distance_of_lookup invariant.start
      omega
    · exact invariant.start
  settled := by
    intro other found stored
    rw [lookup_insert] at stored
    split_ifs at stored with same
    · cases stored
      exact .inl (same ▸ mem_cons_self)
    · refine (invariant.settled other found stored).imp (mem_cons_of_mem _)
        fun relaxed e member => ?_
      rcases relaxed e member with ⟨rfl, isPending⟩ | done
      · rcases mem_cons.mp isPending with rfl | later
        · cases current.symm.trans stored
          exact .inr (distance_of_lookup (lookup_insert_self _ _ _)).le
        · exact .inl ⟨rfl, later⟩
      · exact .inr ((distance_insert_le shorter e.1).trans done)
  queued := by
    intro entry member
    rcases mem_cons.mp member with rfl | old
    · exact ⟨_, lookup_insert_self _ _ _, le_rfl⟩
    · obtain ⟨found, stored, bound⟩ := invariant.queued entry old
      rw [lookup_insert]
      split_ifs with same
      · have before : distance limit dist edge.1 = found := same ▸ distance_of_lookup stored
        exact ⟨_, rfl, by omega⟩
      · exact ⟨found, stored, bound⟩

end

theorem Invariant.relax_all (pending : List (V × Nat)) :
    ∀ {progress : Distances V × List (Nat × V)}, (∀ edge ∈ pending, edge ∈ (edges vertex).entries) →
      Invariant limit edges root (fun other e => other = vertex ∧ e ∈ pending)
        progress.1 progress.2 →
      progress.1.lookup vertex = some cost →
      Settled limit edges root (pending.foldl (relaxEdge limit cost) progress).1
        (pending.foldl (relaxEdge limit cost) progress).2 := by
  induction pending with
  | nil =>
    intro progress _ invariant _
    refine ⟨invariant.sound, invariant.start, ?_, invariant.queued⟩
    intro other found stored
    refine (invariant.settled other found stored).imp_right fun relaxed e member => ?_
    exact .inr ((relaxed e member).resolve_left fun waived => not_mem_nil waived.2)
  | cons edge pending ih =>
    intro progress areEdges invariant current
    have isEdge := areEdges edge mem_cons_self
    have later : ∀ e ∈ pending, e ∈ (edges vertex).entries := fun e member =>
      areEdges e (mem_cons_of_mem _ member)
    rw [foldl_cons]
    unfold relaxEdge
    split_ifs with shorter
    · refine ih later (invariant.improve_edge current isEdge shorter) ?_
      rw [lookup_insert]
      split_ifs with same
      · have own : distance limit progress.1 edge.1 = cost := same ▸ distance_of_lookup current
        omega
      · exact current
    · exact ih later (invariant.skip_edge current (Nat.le_of_not_lt shorter)) current

theorem Invariant.round {entry : Nat × V} {rest : List (Nat × V)}
    (invariant : Settled limit edges root dist (entry :: rest)) :
    Settled limit edges root (round limit edges dist entry rest).1
      (round limit edges dist entry rest).2 := by
  unfold ShortestPaths.round
  set least := leastEntry entry rest with isLeast
  have taken : least ∈ entry :: rest := leastEntry_mem entry rest
  obtain ⟨cost, stored, bound⟩ := invariant.queued least taken
  have kept : ∀ other ∈ (entry :: rest).erase least, other ∈ entry :: rest := fun other member =>
    mem_of_mem_erase member
  have elsewhere : ∀ other ∈ entry :: rest, other ≠ least →
      other ∈ (entry :: rest).erase least := fun other member different =>
    (mem_erase_of_ne different).mpr member
  dsimp only
  split_ifs with stale
  · refine ⟨invariant.sound, invariant.start, ?_, fun e member => invariant.queued e (kept e member)⟩
    intro other found held
    refine (invariant.settled other found held).imp_left fun member => elsewhere _ member ?_
    intro equal
    have same : distance limit dist other = found := distance_of_lookup held
    rw [← equal] at stale
    exact absurd stale (by simp [same])
  · have own : distance limit dist least.2 = cost := distance_of_lookup stored
    have fresh : dist.lookup least.2 = some least.1 := by
      rw [stored]
      congr 1
      omega
    refine Invariant.relax_all _ (fun _ member => member) ?_ fresh
    refine ⟨invariant.sound, invariant.start, ?_, fun e member => invariant.queued e (kept e member)⟩
    intro other found held
    by_cases same : other = least.2
    · exact .inr fun e member => .inl ⟨same, same ▸ member⟩
    · refine (invariant.settled other found held).imp (fun member => elsewhere _ member ?_)
        fun relaxed e member => .inr ((relaxed e member).resolve_left id)
      intro equal
      exact same (congrArg Prod.snd equal)

/-! ## Termination -/

/-- Distances and queue length together decrease in every round. -/
def potential (limit : Nat) (vertices : List V) (dist : Distances V) (queue : List (Nat × V)) :
    Nat :=
  2 * (vertices.map (distance limit dist)).sum + queue.length

variable {vertices : List V}

theorem sum_distance_insert (member : vertex ∈ vertices)
    (shorter : cost < distance limit dist vertex) :
    (vertices.map (distance limit (dist.insert vertex cost))).sum <
      (vertices.map (distance limit dist)).sum := by
  refine sum_lt_sum _ _ (fun other _ => distance_insert_le shorter other) ⟨vertex, member, ?_⟩
  rwa [distance_of_lookup (lookup_insert_self _ _ _)]

theorem potential_relax_all (cost : Nat) (pending : List (V × Nat)) :
    ∀ {progress : Distances V × List (Nat × V)}, (∀ edge ∈ pending, edge.1 ∈ vertices) →
      potential limit vertices (pending.foldl (relaxEdge limit cost) progress).1
        (pending.foldl (relaxEdge limit cost) progress).2 ≤
      potential limit vertices progress.1 progress.2 := by
  induction pending with
  | nil => intro progress _; exact le_rfl
  | cons edge pending ih =>
    intro progress inside
    have member := inside edge mem_cons_self
    have later : ∀ e ∈ pending, e.1 ∈ vertices := fun e isPending =>
      inside e (mem_cons_of_mem _ isPending)
    rw [foldl_cons]
    refine (ih later).trans ?_
    unfold relaxEdge
    split_ifs with shorter
    · have less := sum_distance_insert member shorter
      simp only [potential, length_cons]
      omega
    · exact le_rfl

theorem potential_round (closed : ∀ vertex, ∀ edge ∈ (edges vertex).entries, edge.1 ∈ vertices)
    (dist : Distances V) (entry : Nat × V) (rest : List (Nat × V)) :
    potential limit vertices (round limit edges dist entry rest).1
        (round limit edges dist entry rest).2 <
      potential limit vertices dist (entry :: rest) := by
  have taken := leastEntry_mem entry rest
  have shorter : ((entry :: rest).erase (leastEntry entry rest)).length <
      (entry :: rest).length := by
    rw [length_erase_of_mem taken, length_cons]
    omega
  have popped : potential limit vertices dist ((entry :: rest).erase (leastEntry entry rest)) <
      potential limit vertices dist (entry :: rest) := by
    unfold potential
    omega
  unfold round
  dsimp only
  split_ifs
  · exact popped
  · exact (potential_relax_all _ _ fun edge member => closed _ edge member).trans_lt popped

theorem settled_loop (closed : ∀ vertex, ∀ edge ∈ (edges vertex).entries, edge.1 ∈ vertices)
    (fuel : Nat) :
    ∀ {dist : Distances V} {queue : List (Nat × V)},
      Settled limit edges root dist queue → potential limit vertices dist queue ≤ fuel →
      Settled limit edges root (loop limit edges fuel dist queue) [] := by
  induction fuel with
  | zero =>
    intro dist queue invariant bound
    have empty : queue = [] := by
      unfold potential at bound
      exact eq_nil_of_length_eq_zero (by omega)
    subst empty
    exact invariant
  | succ fuel ih =>
    intro dist queue invariant bound
    cases queue with
    | nil => exact invariant
    | cons entry rest =>
      have less : potential limit vertices (round limit edges dist entry rest).1
          (round limit edges dist entry rest).2 < potential limit vertices dist (entry :: rest) :=
        potential_round closed dist entry rest
      exact ih invariant.round (by omega)

/-! ## Distances -/

/-- With an empty queue the table bounds the weight of every walk. -/
theorem distance_le_walk (settled : Settled limit edges root dist []) {total : Nat}
    (walk : (graphOf edges).Walk root vertex total) : distance limit dist vertex ≤ total := by
  refine WeightedGraph.Walk.snoc_induction
    (motive := fun vertex total => distance limit dist vertex ≤ total) ?_ ?_ walk
  · exact (distance_of_lookup settled.start).le
  · intro middle finish total weight walk edge bound
    by_cases far : limit ≤ total
    · exact (settled.distance_le finish).trans (by omega)
    · cases stored : dist.lookup middle with
      | none =>
        have unknown : distance limit dist middle = limit := by simp [distance, stored]
        omega
      | some cost =>
        have near : cost ≤ total := by rwa [distance_of_lookup stored] at bound
        rcases settled.settled middle cost stored with queued | relaxed
        · cases queued
        · have isEdge : (finish, weight) ∈ (edges middle).entries :=
            mem_entries_iff.mpr edge
          have step := (relaxed _ isEdge).resolve_left id
          dsimp only at step
          omega

theorem lookup_distancesFrom (positive : 0 < limit)
    (closed : ∀ vertex, ∀ edge ∈ (edges vertex).entries, edge.1 ∈ vertices)
    (inside : root ∈ vertices) (vertex : V) (cost : Nat) :
    (distancesFrom limit edges vertices.length root).lookup vertex = some cost ↔
      (graphOf edges).IsDistance root vertex cost ∧ cost < limit := by
  have initially : Settled limit edges root (OrderedMap.empty.insert root 0) [(0, root)] := by
    refine ⟨?_, lookup_insert_self _ _ _, ?_, ?_⟩
    · intro other found stored
      rw [lookup_insert, lookup_empty] at stored
      split_ifs at stored with same
      cases stored
      subst same
      exact ⟨.nil _, positive⟩
    · intro other found stored
      rw [lookup_insert, lookup_empty] at stored
      split_ifs at stored with same
      cases stored
      exact .inl (same ▸ mem_cons_self)
    · intro entry member
      rw [mem_singleton] at member
      subst member
      exact ⟨0, lookup_insert_self _ _ _, le_rfl⟩
  have bounded : potential limit vertices (OrderedMap.empty.insert root 0) [(0, root)] ≤
      2 * (vertices.length * limit) + 1 := by
    have each : (vertices.map (distance limit (OrderedMap.empty.insert root 0))).sum ≤
        vertices.length * limit := by
      have bound := sum_le_card_nsmul
        (vertices.map (distance limit (OrderedMap.empty.insert root 0))) limit fun total member => by
          obtain ⟨other, _, rfl⟩ := mem_map.mp member
          exact initially.distance_le other
      simpa using bound
    simp only [potential, length_singleton]
    omega
  have settled := settled_loop closed _ initially bounded
  change (loop limit edges (2 * (vertices.length * limit) + 1) _ _).lookup vertex = some cost ↔ _
  constructor
  · intro stored
    obtain ⟨walk, near⟩ := settled.sound vertex cost stored
    refine ⟨⟨walk, fun total other => ?_⟩, near⟩
    have near : distance limit _ vertex = cost := distance_of_lookup stored
    rw [← near]
    exact distance_le_walk settled other
  · rintro ⟨isDistance, near⟩
    have bound := distance_le_walk settled isDistance.walk
    cases stored : (loop limit edges (2 * (vertices.length * limit) + 1)
        (OrderedMap.empty.insert root 0) [(0, root)]).lookup vertex with
    | none =>
      have unknown : distance limit (loop limit edges (2 * (vertices.length * limit) + 1)
          (OrderedMap.empty.insert root 0) [(0, root)]) vertex = limit := by
        simp [distance, stored]
      omega
    | some found =>
      rw [distance_of_lookup stored] at bound
      have least := isDistance.le (settled.sound vertex found stored).1
      congr 1
      omega

end NetLab.Library.ShortestPaths
