import Mathlib.Order.Bounds.Basic
import Mathlib.Order.ConditionallyCompleteLattice.Basic
import Mathlib.Order.Lattice.Nat

/-!
# Walks in weighted graphs

A weighted graph is a partial weight on ordered pairs of vertices. `Walk` is the
relation between two vertices and the total weight of a walk joining them;
`IsDistance` says that a weight is the least one. Nothing here is finite or
decidable: algorithms are compared with these notions elsewhere.
-/

namespace NetLab.Library

universe u

/-- A directed graph with natural edge weights. -/
abbrev WeightedGraph (V : Type u) := V → V → Option Nat

namespace WeightedGraph

variable {V : Type u} {graph : WeightedGraph V}

/-- A walk from the first vertex to the second with the given total weight. -/
inductive Walk (graph : WeightedGraph V) : V → V → Nat → Prop where
  | nil (vertex : V) : Walk graph vertex vertex 0
  | cons {start next finish : V} {weight total : Nat}
      (edge : graph start next = some weight) (rest : Walk graph next finish total) :
      Walk graph start finish (weight + total)

/-- Two vertices are connected when some walk joins them. -/
def Connected (graph : WeightedGraph V) (start finish : V) : Prop :=
  ∃ total, Walk graph start finish total

def IsDistance (graph : WeightedGraph V) (start finish : V) (total : Nat) : Prop :=
  IsLeast {weight | Walk graph start finish weight} total

namespace Walk

variable {finish start : V} {total : Nat}

theorem single {weight : Nat} (edge : graph start finish = some weight) :
    Walk graph start finish weight := by
  simpa using Walk.cons edge (.nil finish)

/-- Walks compose, adding their weights. -/
theorem append {middle : V} {first second : Nat} (front : Walk graph start middle first)
    (back : Walk graph middle finish second) : Walk graph start finish (first + second) := by
  induction front with
  | nil => simpa using back
  | cons edge _ ih =>
    rw [Nat.add_assoc]
    exact .cons edge (ih back)

theorem snoc {middle : V} {weight : Nat} (front : Walk graph start middle total)
    (edge : graph middle finish = some weight) : Walk graph start finish (total + weight) :=
  front.append (single edge)

theorem snoc_induction {motive : V → Nat → Prop} (base : motive start 0)
    (step : ∀ {middle finish total weight}, Walk graph start middle total →
      graph middle finish = some weight → motive middle total → motive finish (total + weight))
    (walk : Walk graph start finish total) : motive finish total := by
  have general : ∀ {middle finish : V} {done total : Nat}, Walk graph start middle done →
      motive middle done → Walk graph middle finish total → motive finish (done + total) := by
    intro middle finish done total front holds back
    induction back generalizing done with
    | nil => simpa using holds
    | cons edge _ ih =>
      rw [← Nat.add_assoc]
      exact ih (front.snoc edge) (step front edge holds)
  simpa using general (.nil start) base walk

theorem reverse (symmetric : ∀ {left right}, graph left right = graph right left)
    (walk : Walk graph start finish total) : Walk graph finish start total := by
  induction walk with
  | nil => exact .nil _
  | cons edge _ ih =>
    rw [Nat.add_comm]
    exact ih.snoc (symmetric.trans edge)

end Walk

variable {finish start : V} (vertex : V)

theorem Connected.refl : Connected graph vertex vertex := ⟨0, .nil vertex⟩

theorem Connected.trans {middle : V} (front : Connected graph start middle)
    (back : Connected graph middle finish) : Connected graph start finish :=
  ⟨_, front.choose_spec.append back.choose_spec⟩

theorem IsDistance.walk {total : Nat} (distance : IsDistance graph start finish total) :
    Walk graph start finish total :=
  distance.1

theorem IsDistance.le {total weight : Nat} (distance : IsDistance graph start finish total)
    (walk : Walk graph start finish weight) : total ≤ weight :=
  distance.2 walk

theorem IsDistance.unique {first second : Nat} (left : IsDistance graph start finish first)
    (right : IsDistance graph start finish second) : first = second :=
  IsLeast.unique left right

theorem IsDistance.refl : IsDistance graph vertex vertex 0 :=
  ⟨.nil vertex, fun _ _ => Nat.zero_le _⟩

theorem IsDistance.edge_le {middle : V} {first second weight : Nat}
    (near : IsDistance graph start middle first) (edge : graph middle finish = some weight)
    (far : IsDistance graph start finish second) : second ≤ first + weight :=
  far.le (near.walk.snoc edge)

end WeightedGraph

end NetLab.Library
