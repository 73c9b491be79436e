import NetLab.Redundancy.TrackObjects

/-!
# Refreshing track objects again

A list that was defined before its members needs more than one refresh. With readings that stay as
they are, every refresh settles at least one more object that has only settled ones for members, so
there are no more rounds than objects.
-/

namespace NetLab.Redundancy.TrackObjects

open NetLab.Library Finset

variable (objects : TrackObjects) (readings : TrackReadings)

/-- The objects after a number of refreshes. -/
def refreshTimes : Nat → TrackObjects
  | 0 => objects
  | rounds + 1 => (refreshTimes rounds).refresh readings

/-- The state of an object after a number of refreshes. -/
def stateAfter (rounds num : Nat) : TrackState :=
  ((objects.refreshTimes readings rounds).stateOf num).getD .down

/-- From `rounds` on the state of an object is the same. -/
def Steady (rounds num : Nat) : Prop :=
  ∀ later ≥ rounds, objects.stateAfter readings later num = objects.stateAfter readings rounds num

variable {objects readings} {rounds num : Nat}

theorem lookup_refreshTimes : (objects.refreshTimes readings rounds).lookup num =
    (objects.lookup num).map fun object =>
      ⟨object.definition, objects.stateAfter readings rounds num⟩ := by
  induction rounds with
  | zero =>
    unfold stateAfter refreshTimes stateOf
    cases objects.lookup num <;> rfl
  | succ rounds ih =>
    rw [refreshTimes, lookup_refresh, ih, Option.map_map]
    rfl

theorem stateAfter_read {object : TrackObject} (present : objects.lookup num = some object)
    (read : object.isList = false) :
    objects.stateAfter readings (rounds + 1) num = readings.reread object := by
  have here := @lookup_refreshTimes objects readings rounds num
  rw [present] at here
  refine (refreshed_read here read).trans ?_
  obtain ⟨definition, state⟩ := object
  cases definition with
  | interface => rfl
  | route => rfl
  | list => cases read

/-- Once its members are steady, a list combines their states at every refresh. -/
theorem stateAfter_list {op : BooleanOp} {members : List Nat} {state : TrackState}
    (present : objects.lookup num = some ⟨.list op members, state⟩)
    (steady : ∀ member ∈ members, member ∈ objects.keys → objects.Steady readings rounds member)
    {later : Nat} (after : rounds ≤ later) : objects.stateAfter readings (later + 1) num =
      listState op (members.filterMap (objects.given (objects.stateAfter readings rounds))) := by
  have here := @lookup_refreshTimes objects readings later num
  rw [present] at here
  refine (refreshed_list here).trans (congrArg (listState op)
    (List.filterMap_congr fun member inside => ?_))
  rw [found, lookup_refreshTimes, Option.map_map, given]
  refine Option.map_congr fun object known => ?_
  have same := steady member inside (mem_keys_of_lookup known)
  dsimp only [Function.comp]
  split
  · exact same later after
  · exact same (later + 1) (by omega)

theorem Steady.later (steady : objects.Steady readings rounds num) {more : Nat}
    (after : rounds ≤ more) : objects.Steady readings more num := fun later reached =>
  (steady later (after.trans reached)).trans (steady more after).symm

/-- One more refresh makes an object steady whose members are. -/
theorem steady_succ (known : num ∈ objects.keys) (members : ∀ member, objects.Refers member num →
    member ∈ objects.keys → objects.Steady readings rounds member) :
    objects.Steady readings (rounds + 1) num := by
  obtain ⟨⟨definition, state⟩, present⟩ := OrderedMap.mem_keys_iff.mp known
  intro later reached
  obtain ⟨later, rfl⟩ := Nat.exists_eq_add_of_le' (show 1 ≤ later by omega)
  cases definition with
  | interface => rw [stateAfter_read present rfl, stateAfter_read present rfl]
  | route => rw [stateAfter_read present rfl, stateAfter_read present rfl]
  | list op inner =>
    have steady : ∀ member ∈ inner, member ∈ objects.keys → objects.Steady readings rounds member :=
      fun member inside => members member ⟨op, inner, state, present, inside⟩
    rw [stateAfter_list present steady (by omega), stateAfter_list present steady le_rfl]

open Classical in
/-- The objects that are not steady yet become fewer with every refresh. -/
theorem card_unsteady (acyclic : objects.Acyclic) (rounds : Nat) :
    (objects.keys.toFinset.filter (¬objects.Steady readings rounds ·)).card ≤
      objects.keys.length - rounds := by
  induction rounds with
  | zero => exact (card_filter_le _ _).trans (List.toFinset_card_le _)
  | succ rounds ih =>
    have fewer : objects.keys.toFinset.filter (¬objects.Steady readings (rounds + 1) ·) ⊆
        objects.keys.toFinset.filter (¬objects.Steady readings rounds ·) :=
      monotone_filter_right _ fun num _ unsteady steady =>
        unsteady (steady.later (Nat.le_succ _))
    by_cases all : objects.keys.toFinset.filter (¬objects.Steady readings rounds ·) = ∅
    · rw [all] at fewer
      rw [subset_empty.mp fewer]
      exact Nat.zero_le _
    · -- An unsteady object without an unsteady member is steady after the next refresh.
      obtain ⟨num, unsteady, least⟩ := WellFounded.has_min ⟨acc_refers acyclic⟩
        {num | num ∈ objects.keys ∧ ¬objects.Steady readings rounds num}
        ((nonempty_iff_ne_empty.mpr all).imp fun num inside => by simpa using inside)
      have settled : objects.Steady readings (rounds + 1) num :=
        steady_succ unsteady.1 fun member refers known => by
          by_contra moving
          exact least member ⟨known, moving⟩ refers
      have strict := card_lt_card ((ssubset_iff_of_subset fewer).mpr
        ⟨num, by simpa using unsteady, by simp [settled]⟩)
      omega

theorem trueStates_of_steady (steady : ∀ num ∈ objects.keys, objects.Steady readings rounds num) :
    objects.TrueStates readings (objects.stateAfter readings rounds) := by
  intro num object present
  rw [← steady num (mem_keys_of_lookup present) (rounds + 1) (Nat.le_succ _)]
  obtain ⟨definition, state⟩ := object
  cases definition with
  | interface => exact stateAfter_read present rfl
  | route => exact stateAfter_read present rfl
  | list op members => exact stateAfter_list present (fun member _ => steady member) le_rfl

/-- However objects refer to each other without a cycle, and whatever states they had: after as many
refreshes as there are objects, and after any more, their states are the only ones in which every
list combines its members. -/
theorem refreshTimes_settles (acyclic : objects.Acyclic) (readings : TrackReadings) :
    ∃ states, objects.TrueStates readings states ∧
      (∀ others, objects.TrueStates readings others → ∀ num ∈ objects.keys,
        others num = states num) ∧
      ∀ rounds ≥ objects.keys.length, ∀ num ∈ objects.keys,
        (objects.refreshTimes readings rounds).stateOf num = some (states num) := by
  classical
  have steady : ∀ num ∈ objects.keys, objects.Steady readings objects.keys.length num := by
    have none_left := @card_unsteady objects readings acyclic objects.keys.length
    rw [Nat.sub_self, Nat.le_zero, card_eq_zero] at none_left
    intro num known
    by_contra unsteady
    exact (Finset.ext_iff.mp none_left num).mp (by simp [known, unsteady]) |> notMem_empty _
  have isTrue := trueStates_of_steady steady
  refine ⟨_, isTrue, fun others also => trueStates_unique acyclic also isTrue,
    fun rounds reached num known => ?_⟩
  obtain ⟨object, present⟩ := OrderedMap.mem_keys_iff.mp known
  rw [stateOf, lookup_refreshTimes, present, Option.map_some, Option.map_some,
    steady num known rounds reached]

theorem outOfOrder_settles : ∃ states, outOfOrder.TrueStates allUp states ∧
    ∀ num ∈ outOfOrder.keys, (outOfOrder.refreshTimes allUp 3).stateOf num = some (states num) := by
  have lower : ∀ member num, outOfOrder.Refers member num → num < member := by
    rintro member num ⟨op, members, state, present, inside⟩
    have found := OrderedMap.mem_entries_iff.mpr present
    simp only [outOfOrder, List.mem_cons, Prod.mk.injEq, TrackObject.mk.injEq,
      TrackDefinition.list.injEq, List.not_mem_nil, or_false, reduceCtorEq, false_and,
      and_false] at found
    obtain ⟨rfl, ⟨-, rfl⟩, -⟩ | ⟨rfl, ⟨-, rfl⟩, -⟩ := found <;>
      · rw [List.mem_singleton.mp inside]
        decide
  have descends : ∀ member num, Relation.TransGen outOfOrder.Refers member num →
      num < member := by
    intro member num path
    induction path with
    | single refers => exact lower _ _ refers
    | tail _ refers ih => exact (lower _ _ refers).trans ih
  have acyclic : outOfOrder.Acyclic := fun num cycle => Nat.lt_irrefl num (descends _ _ cycle)
  obtain ⟨states, isTrue, -, settled⟩ := refreshTimes_settles acyclic allUp
  exact ⟨states, isTrue, settled 3 le_rfl⟩

/-- Lists that were defined after their members. -/
def inOrder : TrackObjects :=
  ⟨[(1, ⟨.interface "Gi0/1" "line-protocol", .down⟩), (2, ⟨.list .or [1], .down⟩),
    (3, ⟨.list .and [2, 1], .down⟩)], by decide⟩

theorem inOrder_settles : inOrder.Settles allUp := by
  refine settles_of_inOrder fun num op members state present member inside object _ _ => ?_
  have entry := OrderedMap.mem_entries_iff.mpr present
  simp only [inOrder, List.mem_cons, Prod.mk.injEq, TrackObject.mk.injEq,
    TrackDefinition.list.injEq, List.not_mem_nil, or_false, reduceCtorEq, false_and,
    and_false, false_or] at entry
  obtain ⟨rfl, ⟨-, rfl⟩, -⟩ | ⟨rfl, ⟨-, rfl⟩, -⟩ := entry
  · exact (show ∀ member ∈ [1], member ∈ inOrder.before 2 by decide) member inside
  · exact (show ∀ member ∈ [2, 1], member ∈ inOrder.before 3 by decide) member inside

end NetLab.Redundancy.TrackObjects
