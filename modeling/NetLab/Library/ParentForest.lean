import Mathlib.Combinatorics.SimpleGraph.Acyclic

/-!
# Forests from parent pointers

When every vertex has at most one parent and parents have lower rank, the edges
between vertices and their parents form a forest, and every tree of it has exactly
one vertex without parent.
-/

namespace NetLab.Library.ParentForest

variable {V : Type*} {parent : V → Option V} {rank : V → Nat}

/-- The edges between vertices and their parents. -/
def graph (parent : V → Option V) : SimpleGraph V where
  Adj left right := left ≠ right ∧ (parent left = some right ∨ parent right = some left)
  symm := ⟨fun _ _ adjacent => ⟨adjacent.1.symm, adjacent.2.symm⟩⟩
  loopless := ⟨fun _ adjacent => adjacent.1 rfl⟩

def LeadsTo (parent : V → Option V) : V → V → Prop :=
  Relation.ReflTransGen fun vertex next => parent vertex = some next

theorem LeadsTo.rank_le (decreasing : ∀ vertex next, parent vertex = some next →
    rank next < rank vertex) {vertex ancestor : V} (leads : LeadsTo parent vertex ancestor) :
    rank ancestor ≤ rank vertex := by
  induction leads with
  | refl => exact le_rfl
  | tail _ step ih => exact (decreasing _ _ step).le.trans ih

theorem LeadsTo.through {vertex next ancestor : V} (leads : LeadsTo parent vertex ancestor)
    (isParent : parent vertex = some next) : vertex = ancestor ∨ LeadsTo parent next ancestor := by
  rcases Relation.ReflTransGen.cases_head leads with same | ⟨middle, step, rest⟩
  · exact .inl same
  · have equal : next = middle := Option.some.inj (isParent.symm.trans step)
    exact .inr (equal ▸ rest)

theorem isAcyclic (decreasing : ∀ vertex next, parent vertex = some next →
    rank next < rank vertex) : (graph parent).IsAcyclic := by
  rw [SimpleGraph.isAcyclic_iff_forall_adj_isBridge]
  -- The edge from a vertex to its parent separates the descendants of the vertex.
  have bridge : ∀ {child next : V}, parent child = some next →
      (graph parent).IsBridge s(child, next) := by
    intro child next isParent
    rw [SimpleGraph.isBridge_iff]
    intro reachable
    have descends : LeadsTo parent next child := by
      obtain ⟨walk⟩ := reachable
      have general : ∀ {left right : V},
          ((graph parent).deleteEdges {s(child, next)}).Walk left right →
          LeadsTo parent left child → LeadsTo parent right child := by
        intro left right walk
        induction walk with
        | nil => exact id
        | @cons left middle right step rest ih =>
          intro leads
          refine ih ?_
          rw [SimpleGraph.deleteEdges_adj] at step
          rcases step.1.2 with up | down
          · rcases leads.through up with same | above
            · subst same
              have equal : middle = next := Option.some.inj (up.symm.trans isParent)
              exact absurd (by rw [equal]; exact Set.mem_singleton _) step.2
            · exact above
          · exact Relation.ReflTransGen.head down leads
      exact general walk .refl
    have lower := decreasing child next isParent
    have notLower := LeadsTo.rank_le decreasing descends
    omega
  intro left right adjacent
  rcases adjacent.2 with up | down
  · exact bridge up
  · rw [Sym2.eq_swap]
    exact bridge down

theorem exists_top (decreasing : ∀ vertex next, parent vertex = some next →
    rank next < rank vertex) (vertex : V) :
    ∃ top, LeadsTo parent vertex top ∧ parent top = none := by
  induction measured : rank vertex using Nat.strong_induction_on generalizing vertex with
  | _ bound ih =>
    cases isParent : parent vertex with
    | none => exact ⟨vertex, .refl, isParent⟩
    | some next =>
      obtain ⟨top, leads, isTop⟩ :=
        ih (rank next) (measured ▸ decreasing vertex next isParent) next rfl
      exact ⟨top, .head isParent leads, isTop⟩

theorem top_unique {vertex first second : V} (left : LeadsTo parent vertex first)
    (leftTop : parent first = none) (right : LeadsTo parent vertex second)
    (rightTop : parent second = none) : first = second := by
  induction left using Relation.ReflTransGen.head_induction_on with
  | refl =>
    rcases Relation.ReflTransGen.cases_head right with same | ⟨middle, step, _⟩
    · exact same
    · simp [leftTop] at step
  | head step _ ih =>
    rcases right.through step with same | above
    · subst same
      simp [rightTop] at step
    · exact ih above

/-- Vertices joined in the forest lead to the same vertex without parent. -/
theorem top_of_reachable {left right top : V} (reachable : (graph parent).Reachable left right)
    (leads : LeadsTo parent left top) (isTop : parent top = none) : LeadsTo parent right top := by
  obtain ⟨walk⟩ := reachable
  induction walk with
  | nil => exact leads
  | cons step rest ih =>
    refine ih ?_
    rcases step.2 with up | down
    · rcases leads.through up with same | above
      · subst same
        simp [isTop] at up
      · exact above
    · exact .head down leads

/-- A path along parents stays in one tree. -/
theorem reachable_of_leadsTo {vertex ancestor : V} (leads : LeadsTo parent vertex ancestor) :
    (graph parent).Reachable vertex ancestor := by
  induction leads with
  | refl => exact .refl _
  | @tail middle next _ step ih =>
    by_cases same : middle = next
    · exact same ▸ ih
    · exact ih.trans (SimpleGraph.Adj.reachable (show (graph parent).Adj middle next from
        ⟨same, .inl step⟩))

/-- Two vertices without parent in one tree are the same. -/
theorem eq_of_reachable {left right : V} (reachable : (graph parent).Reachable left right)
    (leftTop : parent left = none) (rightTop : parent right = none) : left = right :=
  (top_unique .refl rightTop (top_of_reachable reachable .refl leftTop) leftTop).symm

end NetLab.Library.ParentForest
