import Mathlib.Data.List.MinMax
import NetLab.Stp.Recompute

/-!
# Distances to the root

The distance of a bridge from the root of its component is a notion of the bridge
graph with port costs as weights. A bridge hangs on the nearest of the neighbours
through which its distance is attained. The recomputation computes both, as long as
the distance is below the constant that stands for an unknown one.
-/

namespace NetLab.Stp

open NetLab.Library NetLab.Library.ShortestPaths NetLab.Network StpState
open OrderedMap List

variable {Device : Type} [LinearOrder Device]

/-- Costs of the links, as seen from the first end. -/
def StpState.weights (state : StpState Device) : WeightedGraph Device := graphOf state.adj.of

def StpState.PositiveCosts (state : StpState Device) : Prop :=
  ∀ device node, state.enabledNodes.lookup device = some node →
    ∀ port ∈ node.ports.values, 0 < port.cost

/-- The distance of a bridge from the root of its component. -/
noncomputable def StpState.rootDistance (state : StpState Device) (device : Device) : Nat :=
  sInf {total | ∃ root, state.IsRootOf device root ∧ state.weights.Walk root device total}

/-- Neighbours through which the distance of a bridge is attained, when it is below the
constant for an unknown distance. -/
noncomputable def StpState.shortestNeighbours (state : StpState Device) (device : Device) :
    List Device :=
  ((state.adj.of device).entries.filter fun edge =>
    decide (state.rootDistance device < farDistance ∧
      state.rootDistance device = state.rootDistance edge.1 + edge.2)).map Prod.fst

/-- The bridge that a bridge hangs on: the first nearest of these neighbours. -/
noncomputable def StpState.parent (state : StpState Device) (device : Device) : Option Device :=
  (state.shortestNeighbours device).argmin state.rootDistance

/-! ## Weights -/

theorem foldl_insert_source (test : Port Device → Bool) (ports : List (Port Device)) :
    ∀ {initial : OrderedMap Device Nat} {peer : Device} {cost : Nat},
      (ports.foldl (fun neighbours port =>
        if test port then neighbours.insert port.connectedTo port.cost else neighbours)
          initial).lookup peer = some cost →
      initial.lookup peer = some cost ∨
        ∃ port ∈ ports, port.connectedTo = peer ∧ port.cost = cost := by
  induction ports with
  | nil => intro initial peer cost found; exact .inl found
  | cons port ports ih =>
    intro initial peer cost found
    rw [foldl_cons] at found
    rcases ih found with before | ⟨other, member, towards, same⟩
    · split_ifs at before
      · rw [lookup_insert] at before
        split_ifs at before with isPeer
        · exact .inr ⟨port, mem_cons_self, isPeer.symm, Option.some.inj before⟩
        · exact .inl before
      · exact .inl before
    · exact .inr ⟨other, mem_cons_of_mem _ member, towards, same⟩

variable {state : StpState Device} {left right : Device}

theorem port_of_weights {weight : Nat} (edge : state.weights left right = some weight) :
    ∃ node, state.enabledNodes.lookup left = some node ∧
      ∃ port ∈ node.ports.values, port.connectedTo = right ∧ port.cost = weight := by
  unfold weights graphOf adj at edge
  rw [adjacency_of] at edge
  cases found : state.enabledNodes.lookup left with
  | none => simp [found] at edge
  | some node =>
    rw [found] at edge
    have source := (foldl_insert_source _ node.ports.values edge).resolve_left (by simp)
    exact ⟨node, rfl, source⟩

theorem weights_pos (positive : state.PositiveCosts) {weight : Nat}
    (edge : state.weights left right = some weight) : 0 < weight := by
  obtain ⟨node, found, port, member, _, rfl⟩ := port_of_weights edge
  exact positive left node found port member

theorem weights_eq_some_iff :
    (∃ weight, state.weights left right = some weight) ↔ Linked state.enabledNodes left right := by
  rw [← mem_neighbours_iff, mem_keys_iff]
  rfl

theorem connected_of_reachable (reachable : state.bridgeGraph.Reachable left right) :
    state.weights.Connected left right := by
  obtain ⟨walk⟩ := reachable
  induction walk with
  | nil => exact .refl _
  | cons step _ ih =>
    obtain ⟨weight, edge⟩ := weights_eq_some_iff.mpr step.2
    exact WeightedGraph.Connected.trans ⟨weight, .single edge⟩ ih

/-! ## Distances -/

variable {device root : Device}

section

variable (distinct : state.DistinctIds)
include distinct

theorem isDistance_rootDistance (isRoot : state.IsRootOf device root) :
    state.weights.IsDistance root device (state.rootDistance device) := by
  have reached : state.bridgeGraph.Reachable device root := isRoot.choose_spec.2.1
  have same : {total | ∃ root, state.IsRootOf device root ∧ state.weights.Walk root device total} =
      {total | state.weights.Walk root device total} := by
    ext total
    constructor
    · rintro ⟨other, isOther, walk⟩
      exact isRootOf_unique distinct isOther isRoot ▸ walk
    · exact fun walk => ⟨root, isRoot, walk⟩
  obtain ⟨total, walk⟩ := connected_of_reachable reached.symm
  unfold rootDistance
  rw [same]
  exact ⟨Nat.sInf_mem ⟨total, walk⟩, fun weight other => Nat.sInf_le other⟩

theorem rootDistance_root {root : Device} (isRoot : state.IsRootOf root root) :
    state.rootDistance root = 0 :=
  (isDistance_rootDistance distinct isRoot).unique (.refl root)

theorem rootDistance_pos (positive : state.PositiveCosts) (isRoot : state.IsRootOf device root)
    (different : device ≠ root) : 0 < state.rootDistance device := by
  have walk := (isDistance_rootDistance distinct isRoot).walk
  cases measured : state.rootDistance device with
  | succ total => exact Nat.succ_pos total
  | zero =>
    rw [measured] at walk
    exfalso
    generalize zero : 0 = total at walk
    cases walk with
    | nil => exact different rfl
    | cons edge _ =>
      have := weights_pos positive edge
      omega

theorem lookup_distancesFromRoot (isRoot : state.IsRootOf device root) :
    (distancesFromRoot state.adj root).lookup device =
      if state.rootDistance device < farDistance then some (state.rootDistance device) else none := by
  have closed : ∀ vertex, ∀ edge ∈ (state.adj.of vertex).entries, edge.1 ∈ state.adj.keys := by
    intro vertex edge member
    have isKey : edge.1 ∈ (state.adj.of vertex).keys := mem_map.mpr ⟨edge, member, rfl⟩
    obtain ⟨_, node, _, found, _⟩ := (mem_neighbours_iff.mp isKey)
    exact mem_enabled_keys.mpr ⟨node, found⟩
  have inside : root ∈ state.adj.keys :=
    mem_enabled_keys.mpr ⟨isRoot.choose, isRoot.choose_spec.1⟩
  have positive : 0 < farDistance := by decide
  have table := lookup_distancesFrom positive closed inside device
  have isDistance := isDistance_rootDistance distinct isRoot
  split_ifs with near
  · exact (table _).mpr ⟨isDistance, near⟩
  · rw [Option.eq_none_iff_forall_ne_some]
    intro cost found
    obtain ⟨other, near'⟩ := (table cost).mp found
    exact near (isDistance.unique other ▸ near')

/-- A distance read from the table is cut off at the constant. -/
theorem distanceTo_eq (isRoot : state.IsRootOf device root) :
    distanceTo (distancesFromRoot state.adj root) device =
      min (state.rootDistance device) farDistance := by
  unfold distanceTo distance
  rw [lookup_distancesFromRoot distinct isRoot]
  split_ifs with near
  · simpa using near.le
  · simpa using near

end

/-! ## Parents -/

/-- The cut off distance and the true one give the same links on shortest paths. -/
theorem tight_iff {own far weight : Nat} :
    (if own < farDistance then some own else none) = some (min far farDistance + weight) ↔
      own < farDistance ∧ own = far + weight := by
  split_ifs with near
  · simp only [Option.some.injEq]
    omega
  · simp [near]

/-- The search for the neighbour towards the root is the choice of the first nearest
among the neighbours on shortest paths. -/
theorem foldl_considerToward (distinct : state.DistinctIds) (isRoot : state.IsRootOf device root)
    (edges : List (Device × Nat)) :
    (∀ edge ∈ edges, state.bridgeGraph.Reachable device edge.1) →
    ∀ best : Option Device, (∀ other ∈ best, state.rootDistance other < farDistance) →
      (edges.foldl (considerToward (distancesFromRoot state.adj root) device)
          (best.map fun other => (other, state.rootDistance other))).map Prod.fst =
        ((edges.filter fun edge => decide (state.rootDistance device < farDistance ∧
            state.rootDistance device = state.rootDistance edge.1 + edge.2)).map Prod.fst).foldl
          (List.argAux fun left right => state.rootDistance left < state.rootDistance right)
          best := by
  induction edges with
  | nil => intro _ best _; cases best <;> rfl
  | cons edge edges ih =>
    intro reached best near
    have later : ∀ other ∈ edges, state.bridgeGraph.Reachable device other.1 :=
      fun other member => reached other (mem_cons_of_mem _ member)
    have isRootThere := isRootOf_of_reachable isRoot (reached edge mem_cons_self)
    rw [foldl_cons]
    simp only [considerToward, distanceTo_eq distinct isRootThere,
      lookup_distancesFromRoot distinct isRoot]
    by_cases tight : state.rootDistance device < farDistance ∧
        state.rootDistance device = state.rootDistance edge.1 + edge.2
    · have matched := tight_iff.mpr tight
      have below : state.rootDistance edge.1 < farDistance := by omega
      rw [matched, filter_cons_of_pos (by simpa using tight), map_cons, foldl_cons, ← ih later]
      · congr 1
        congr 1
        cases best with
        | none => simp [List.argAux, min_eq_left below.le]
        | some other =>
          by_cases less : state.rootDistance edge.1 < state.rootDistance other
          · simp [List.argAux, less, min_eq_left below.le]
          · simp [List.argAux, less, min_eq_left below.le]
      · intro other member
        cases best with
        | none =>
          have same : edge.1 = other := by simpa [List.argAux] using member
          exact same ▸ below
        | some held =>
          by_cases less : state.rootDistance edge.1 < state.rootDistance held
          · have same : edge.1 = other := by simpa [List.argAux, less] using member
            exact same ▸ below
          · have same : held = other := by simpa [List.argAux, less] using member
            exact near other (by simp [same])
    · have unmatched := mt tight_iff.mp tight
      rw [filter_cons_of_neg (by simpa using tight), ← ih later best near]
      congr 2
      simp [unmatched]

theorem toward_eq_parent (distinct : state.DistinctIds) (isRoot : state.IsRootOf device root) :
    toward state.adj (distancesFromRoot state.adj root) device = state.parent device := by
  have reached : ∀ edge ∈ (state.adj.of device).entries,
      state.bridgeGraph.Reachable device edge.1 := by
    intro edge member
    exact joined_iff.mp (.single (mem_map.mpr ⟨edge, member, rfl⟩))
  exact foldl_considerToward distinct isRoot _ reached none (by simp)

variable {device next : Device}

theorem mem_shortestNeighbours :
    next ∈ state.shortestNeighbours device ↔ state.rootDistance device < farDistance ∧
      ∃ weight, state.weights device next = some weight ∧
        state.rootDistance device = state.rootDistance next + weight := by
  unfold shortestNeighbours
  rw [mem_map]
  constructor
  · rintro ⟨edge, kept, rfl⟩
    obtain ⟨isEdge, tight⟩ := mem_filter.mp kept
    obtain ⟨near, attained⟩ : state.rootDistance device < farDistance ∧
        state.rootDistance device = state.rootDistance edge.1 + edge.2 := by simpa using tight
    exact ⟨near, edge.2, mem_entries_iff.mp isEdge, attained⟩
  · rintro ⟨near, weight, edge, attained⟩
    refine ⟨(next, weight), mem_filter.mpr ⟨mem_entries_iff.mpr edge, ?_⟩, rfl⟩
    simpa using ⟨near, attained⟩

theorem parent_spec (isParent : state.parent device = some next) :
    Linked state.enabledNodes device next ∧ state.rootDistance device < farDistance ∧
      ∃ weight, state.weights device next = some weight ∧
        state.rootDistance device = state.rootDistance next + weight := by
  obtain ⟨near, weight, edge, attained⟩ := mem_shortestNeighbours.mp (argmin_mem isParent)
  exact ⟨weights_eq_some_iff.mp ⟨_, edge⟩, near, weight, edge, attained⟩

theorem rootDistance_parent (positive : state.PositiveCosts)
    (isParent : state.parent device = some next) :
    state.rootDistance next < state.rootDistance device := by
  obtain ⟨_, _, weight, edge, attained⟩ := parent_spec isParent
  have := weights_pos positive edge
  omega

/-- A bridge hangs on no parent when no neighbour is on a shortest path. -/
theorem parent_eq_none_iff :
    state.parent device = none ↔ ∀ next weight, state.weights device next = some weight →
      ¬ (state.rootDistance device < farDistance ∧
        state.rootDistance device = state.rootDistance next + weight) := by
  unfold parent
  rw [argmin_eq_none]
  unfold shortestNeighbours
  rw [map_eq_nil_iff, filter_eq_nil_iff]
  constructor
  · intro none next weight edge tight
    exact none (next, weight) (mem_entries_iff.mpr edge) (by simpa using tight)
  · intro none edge member tight
    exact none edge.1 edge.2 (mem_entries_iff.mp member) (by simpa using tight)

end NetLab.Stp
