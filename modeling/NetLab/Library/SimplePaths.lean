import Mathlib.Data.List.Basic

/-!
# Simple paths in weighted multigraphs

A `SimplePath` starts at a fixed source, visits no vertex twice and records the
vertices behind the source in order, so that its first hop can be read off. Several
links of different weight may join the same two vertices. `SimplePath.exists_le` is
the certificate of shortest paths: a table that holds the source at weight zero and
is closed under the links bounds the weight of every path.
-/

namespace NetLab.Library

universe u

/-- Weighted links; any number of them may join two vertices. -/
abbrev Links (V : Type u) := V → V → Nat → Prop

variable {V : Type u} {links : Links V} {source : V}

/-- A path without repetition: the vertices behind the source, the vertex reached and
the total weight. -/
inductive SimplePath (links : Links V) (source : V) : List V → V → Nat → Prop where
  | here : SimplePath links source [] source 0
  | step {behind : List V} {middle next : V} {total weight : Nat}
      (front : SimplePath links source behind middle total) (link : links middle next weight)
      (new : next ∉ source :: behind) :
      SimplePath links source (behind ++ [next]) next (total + weight)

namespace SimplePath

variable {behind : List V} {target : V} {total : Nat}

theorem eq_source (path : SimplePath links source [] target total) : target = source := by
  generalize shape : ([] : List V) = behind at path
  cases path with
  | here => rfl
  | step front link new => exact absurd shape.symm (by simp)

theorem mem_behind (path : SimplePath links source behind target total) {vertex : V}
    (member : vertex ∈ behind) : vertex = target ∨ vertex ∈ behind.dropLast := by
  cases path with
  | here => cases member
  | step front link new =>
    rw [List.dropLast_concat]
    rcases List.mem_append.mp member with passed | last
    · exact .inr passed
    · exact .inl (List.mem_singleton.mp last)

theorem exists_le (table : V → Nat → Prop) (start : table source 0)
    (closed : ∀ {middle cost next weight}, table middle cost → links middle next weight →
      ∃ found ≤ cost + weight, table next found)
    (path : SimplePath links source behind target total) : ∃ found ≤ total, table target found := by
  induction path with
  | here => exact ⟨0, Nat.le_refl 0, start⟩
  | step front link new ih =>
    obtain ⟨cost, bound, held⟩ := ih
    obtain ⟨found, short, stored⟩ := closed held link
    exact ⟨found, by omega, stored⟩

end SimplePath

end NetLab.Library
