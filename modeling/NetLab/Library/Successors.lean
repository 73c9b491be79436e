import Mathlib.Data.List.Nodup
import Mathlib.Order.Basic
import Mathlib.Order.Lattice

/-!
# Enumeration by search for a successor

A table is asked again and again for its first item with a key above the last one. What this
finds are the items above all items before them; it is the whole table exactly when the keys
of the table increase. For a table that was sorted by another key, `pairwise_mergeSort_iff`
says what that means for the items before they were sorted.
-/

namespace NetLab.Library

open List

universe u v

variable {α : Type u}

/-- A relation holds along a list that was sorted stably if and only if, before it was sorted,
it holds for any two items the way round in which they are sorted. -/
theorem pairwise_mergeSort_iff {le : α → α → Bool}
    (transitive : ∀ first second third, le first second = true → le second third = true →
      le first third = true)
    (total : ∀ first second, (le first second || le second first) = true)
    {relation : α → α → Prop} (items : List α) :
    (items.mergeSort le).Pairwise relation ↔ items.Pairwise fun first second =>
      if le first second = true then relation first second else relation second first := by
  induction items with
  | nil => simp
  | cons item items ih =>
    obtain ⟨front, back, sorted, others, above⟩ :=
      mergeSort_cons transitive total item items
    have ordered := pairwise_mergeSort transitive total (item :: items)
    rw [sorted, pairwise_append, pairwise_cons] at ordered
    have below := ordered.2.1.1
    have member : ∀ other, other ∈ items ↔ other ∈ front ∨ other ∈ back := fun other => by
      rw [← (mergeSort_perm items le).mem_iff, others, mem_append]
    -- the item stands behind exactly those of the others that are not above it
    have beside : (∀ other ∈ items, if le item other = true then relation item other
        else relation other item) ↔
          (∀ other ∈ front, relation other item) ∧ ∀ other ∈ back, relation item other := by
      simp only [member, or_imp, forall_and]
      refine and_congr (forall₂_congr fun other inFront => ?_)
        (forall₂_congr fun other inBack => ?_)
      · rw [if_neg (by simpa using above other inFront)]
      · rw [if_pos (below other inBack)]
    rw [sorted, pairwise_cons, ← ih, others, beside]
    simp only [pairwise_append, pairwise_cons, mem_cons, forall_eq_or_imp, forall_and]
    tauto

section Climb

variable {β : Type v} [LinearOrder β] (key : α → β)

/-- From each key on, the first item with a key above it, until there is none. -/
inductive Climbs (items : List α) : β → List α → Prop
  | done {current : β} {test : α → Bool} (above : ∀ item, test item = true ↔ current < key item)
      (none : items.find? test = none) : Climbs items current []
  | next {current : β} {test : α → Bool} {item : α} {rest : List α}
      (above : ∀ item, test item = true ↔ current < key item)
      (found : items.find? test = some item) (later : Climbs items (key item) rest) :
      Climbs items current (item :: rest)

/-- The items above all items before them and above a key. -/
def climb : β → List α → List α
  | _, [] => []
  | current, item :: rest =>
    if current < key item then item :: climb (key item) rest else climb current rest

variable {key}

variable {current : β} {items : List α}

/-- The search never goes back. -/
theorem climbs_append {front back : List α} (passed : ∀ item ∈ front, key item ≤ current) :
    Climbs key (front ++ back) current (climb key current back) := by
  induction back generalizing front current with
  | nil =>
    refine .done (fun item => decide_eq_true_iff) (find?_eq_none.mpr fun item member => ?_)
    rw [append_nil] at member
    simpa using passed item member
  | cons item back ih =>
    have step : ∀ {bound : β}, (∀ item ∈ front, key item ≤ bound) → key item ≤ bound →
        Climbs key (front ++ item :: back) bound (climb key bound back) := by
      intro bound before here
      have passed' : ∀ other ∈ front ++ [item], key other ≤ bound := by
        simpa [or_imp, forall_and] using ⟨before, here⟩
      simpa using ih passed'
    unfold climb
    split
    case isTrue above =>
        refine .next (fun item => decide_eq_true_iff) ?_
          (step (fun other member => (passed other member).trans above.le) le_rfl)
        have none := find?_eq_none.mpr fun other (member : other ∈ front) =>
          show ¬ decide (current < key other) = true by simpa using passed other member
        rw [find?_append, none]
        simp [above]
    case isFalse below => exact step passed (not_lt.mp below)

theorem Climbs.unique {left right : List α} (climbs : Climbs key items current left)
    (climbs' : Climbs key items current right) : left = right := by
  have same : ∀ {current : β} {test test' : α → Bool},
      (∀ item, test item = true ↔ current < key item) →
      (∀ item, test' item = true ↔ current < key item) → test' = test := fun above above' =>
    funext fun item => Bool.eq_iff_iff.mpr ((above' item).trans (above item).symm)
  induction climbs generalizing right with
  | done above none =>
    cases climbs' with
    | done => rfl
    | next above' found =>
      rw [same above above', none] at found
      cases found
  | next above found _ ih =>
    cases climbs' with
    | done above' none =>
      rw [same above above', found] at none
      cases none
    | next above' found' later =>
      rw [same above above', found] at found'
      obtain rfl := Option.some.inj found'
      rw [ih later]

/-- What repeated search finds. -/
theorem climbs_iff {visited : List α} :
    Climbs key items current visited ↔ visited = climb key current items := by
  have found : Climbs key ([] ++ items) current (climb key current items) :=
    climbs_append (by simp)
  exact ⟨fun climbs => climbs.unique found, fun same => same ▸ found⟩

theorem climb_sublist (current : β) (items : List α) : (climb key current items).Sublist items := by
  induction items generalizing current with
  | nil => exact .slnil
  | cons item items ih =>
    unfold climb
    split
    · exact (ih (key item)).cons_cons item
    · exact (ih current).cons item

theorem lt_of_mem_climb {item : α} (member : item ∈ climb key current items) :
    current < key item := by
  induction items generalizing current with
  | nil => cases member
  | cons first items ih =>
    unfold climb at member
    split at member
    case isTrue above =>
        rcases mem_cons.mp member with rfl | later
        · exact above
        · exact above.trans (ih later)
    case isFalse => exact ih member

/-- What the search finds increases. -/
theorem pairwise_climb (current : β) (items : List α) :
    (climb key current items).Pairwise fun first second => key first < key second := by
  induction items generalizing current with
  | nil => exact .nil
  | cons item items ih =>
    unfold climb
    split
    · exact .cons (fun _ member => lt_of_mem_climb member) (ih (key item))
    · exact ih current

/-- The search finds everything if and only if the table increases. -/
theorem climb_eq_self_iff (above : ∀ item ∈ items, current < key item) :
    climb key current items = items ↔ items.Pairwise fun first second => key first < key second := by
  constructor
  · intro all
    rw [← all]
    exact pairwise_climb current items
  · intro increasing
    induction increasing generalizing current with
    | nil => rfl
    | cons first _ ih =>
      obtain ⟨here, _⟩ := forall_mem_cons.mp above
      rw [climb, if_pos here, ih first]

end Climb

end NetLab.Library
