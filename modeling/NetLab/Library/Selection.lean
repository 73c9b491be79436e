import NetLab.Library.OrderedMap
import Mathlib.Data.List.MinMax

/-!
# Selecting an item for each key

`leastPerKey` goes through a list once and keeps, for each key, the first of the
items of least score. What it keeps under a key is `List.argmin` of the items with
that key; `argmin_eq_some_iff` describes that item by what stands before and behind
it.
-/

namespace NetLab.Library

open NetLab.Library.OrderedMap List Function

universe u

variable {Item Key : Type} {Score : Type u} [LinearOrder Score]

variable {items : List Item} {item : Item}

/-- The item of least score that comes first: those before it have a greater score, and
those behind it none smaller. -/
theorem argmin_eq_some_iff {score : Item → Score} {least : Item} : items.argmin score = some least ↔
      ∃ front back, items = front ++ least :: back ∧
        (∀ item ∈ front, score least < score item) ∧ ∀ item ∈ back, score least ≤ score item := by
  induction items using List.reverseRecOn generalizing least with
  | nil => simp
  | append_singleton items last ih =>
    rw [argmin_concat]
    cases found : items.argmin score with
    | none =>
      obtain rfl := argmin_eq_none.mp found
      constructor
      · rintro ⟨⟩
        exact ⟨[], [], rfl, by simp, by simp⟩
      · rintro ⟨front, back, shape, -, -⟩
        have length := congrArg List.length shape
        simp only [length_append, length_cons, length_nil] at length
        obtain rfl : front = [] := eq_nil_of_length_eq_zero (by omega)
        obtain ⟨same, -⟩ := List.cons.inj shape
        exact congrArg some same
    | some current =>
      obtain ⟨front, back, shape, before, behind⟩ := ih.mp found
      dsimp only
      split
      case isTrue smaller =>
          constructor
          · rintro ⟨⟩
            refine ⟨items, [], rfl, fun item member => ?_, by simp⟩
            exact smaller.trans_le (le_of_mem_argmin member found)
          · rintro ⟨front', back', shape', -, behind'⟩
            rcases eq_nil_or_concat back' with rfl | ⟨rest, final, rfl⟩
            · obtain ⟨-, same⟩ := append_inj' shape' rfl
              exact congrArg some (List.cons.inj same).1
            · rw [concat_eq_append, ← cons_append, ← append_assoc] at shape'
              obtain ⟨inside, same⟩ := append_inj' shape' rfl
              obtain rfl := (List.cons.inj same).1
              have member : least ∈ items := inside ▸ by simp
              have atLeast := le_of_mem_argmin member found
              have atMost := behind' last (by simp)
              exact absurd (atLeast.trans atMost) (not_le.mpr smaller)
      case isFalse notSmaller =>
          constructor
          · rintro ⟨⟩
            refine ⟨front, back ++ [last], by simp [shape], before, fun item member => ?_⟩
            rcases mem_append.mp member with old | new
            · exact behind item old
            · obtain rfl := mem_singleton.mp new
              exact not_lt.mp notSmaller
          · rintro ⟨front', back', shape', before', behind'⟩
            rcases eq_nil_or_concat back' with rfl | ⟨rest, final, rfl⟩
            · obtain ⟨inside, same⟩ := append_inj' shape' rfl
              obtain rfl := (List.cons.inj same).1
              have member : current ∈ items := argmin_mem found
              exact absurd (before' current (inside ▸ member)) notSmaller
            · rw [concat_eq_append, ← cons_append, ← append_assoc] at shape'
              obtain ⟨inside, same⟩ := append_inj' shape' rfl
              have again : items.argmin score = some least :=
                ih.mpr ⟨front', rest, inside, before', fun item member =>
                  behind' item (by simp [member])⟩
              exact found.symm.trans again

variable [DecidableEq Key]

/-- Enter an item under its key if it is the first there, or of smaller score than the
one found so far. -/
def chooseLeast (key : Item → Key) (score : Item → Score) (chosen : OrderedMap Key Item)
    (item : Item) : OrderedMap Key Item :=
  match chosen.lookup (key item) with
  | none => chosen.insert (key item) item
  | some current => if score item < score current then chosen.insert (key item) item else chosen

def leastPerKey (key : Item → Key) (score : Item → Score) (items : List Item) :
    OrderedMap Key Item :=
  items.foldl (chooseLeast key score) .empty

theorem lookup_leastPerKey (key : Item → Key) (score : Item → Score) (items : List Item)
    (wanted : Key) :
    (leastPerKey key score items).lookup wanted =
      (items.filter fun item => decide (key item = wanted)).argmin score := by
  unfold leastPerKey
  induction items using List.reverseRecOn with
  | nil => rfl
  | append_singleton items last ih =>
    rw [foldl_append, foldl_cons, foldl_nil, filter_append]
    generalize items.foldl (chooseLeast key score) .empty = chosen at ih
    unfold chooseLeast
    by_cases here : key last = wanted
    · subst here
      rw [filter_singleton, decide_eq_true rfl, cond_true, argmin_concat, ← ih]
      cases found : chosen.lookup (key last) with
      | none => simp
      | some current =>
        dsimp only
        split
        · simp
        · exact found
    · rw [filter_singleton, decide_eq_false here, cond_false, append_nil, ← ih]
      have apart : wanted ≠ key last := fun same => here same.symm
      cases chosen.lookup (key last) with
      | none => simp [lookup_insert, apart]
      | some current =>
        dsimp only
        split
        · simp [lookup_insert, apart]
        · rfl

theorem key_of_lookup_leastPerKey {key : Item → Key} {score : Item → Score} {wanted : Key}
    (kept : (leastPerKey key score items).lookup wanted = some item) :
    item ∈ items ∧ key item = wanted := by
  rw [lookup_leastPerKey] at kept
  obtain ⟨member, same⟩ := mem_filter.mp (argmin_mem kept)
  exact ⟨member, of_decide_eq_true same⟩

theorem map_values_leastPerKey (key : Item → Key) (score : Item → Score) (items : List Item) :
    (leastPerKey key score items).values.map key = (leastPerKey key score items).keys := by
  unfold OrderedMap.values OrderedMap.keys
  rw [map_map]
  refine map_congr_left fun entry member => ?_
  exact (key_of_lookup_leastPerKey (mem_entries_iff.mp member)).2

theorem le_of_mem_leastPerKey {key : Item → Key} {score : Item → Score} {kept : Item}
    (chosen : kept ∈ (leastPerKey key score items).values) (member : item ∈ items)
    (same : key item = key kept) : score kept ≤ score item := by
  obtain ⟨wanted, found⟩ := mem_values_iff.mp chosen
  obtain ⟨-, own⟩ := key_of_lookup_leastPerKey found
  rw [lookup_leastPerKey] at found
  exact le_of_mem_argmin (mem_filter.mpr ⟨member, decide_eq_true (same.trans own)⟩) found

theorem exists_mem_leastPerKey (key : Item → Key) (score : Item → Score) (member : item ∈ items) :
    ∃ kept ∈ (leastPerKey key score items).values, key kept = key item := by
  have among : item ∈ items.filter fun other => decide (key other = key item) :=
    mem_filter.mpr ⟨member, decide_eq_true rfl⟩
  cases found : (items.filter fun other => decide (key other = key item)).argmin score with
  | none =>
    rw [argmin_eq_none.mp found] at among
    cases among
  | some kept =>
    rw [← lookup_leastPerKey] at found
    exact ⟨kept, mem_values_iff.mpr ⟨_, found⟩, (key_of_lookup_leastPerKey found).2⟩

theorem mem_values_leastPerKey_iff {key : Item → Key} {score : Item → Score} {kept : Item} :
    kept ∈ (leastPerKey key score items).values ↔ ∃ front back, items = front ++ kept :: back ∧
        (∀ item ∈ front, key item = key kept → score kept < score item) ∧
        ∀ item ∈ back, key item = key kept → score kept ≤ score item := by
  have found : kept ∈ (leastPerKey key score items).values ↔
      (items.filter fun item => decide (key item = key kept)).argmin score = some kept := by
    rw [← lookup_leastPerKey]
    constructor
    · intro chosen
      obtain ⟨wanted, stored⟩ := mem_values_iff.mp chosen
      rw [(key_of_lookup_leastPerKey stored).2]
      exact stored
    · exact fun stored => mem_values_iff.mpr ⟨_, stored⟩
  rw [found, argmin_eq_some_iff]
  constructor
  · rintro ⟨before, behind, shape, greater, notSmaller⟩
    obtain ⟨first, second, rfl, inFirst, inSecond⟩ := filter_eq_append_iff.mp shape
    obtain ⟨others, back, rfl, apart, -, inBack⟩ := filter_eq_cons_iff.mp inSecond
    refine ⟨first ++ others, back, (append_assoc ..).symm, fun item member same => ?_,
      fun item member same => notSmaller item ?_⟩
    · rcases mem_append.mp member with early | late
      · exact greater item (inFirst ▸ mem_filter.mpr ⟨early, decide_eq_true same⟩)
      · exact absurd (decide_eq_true same) (apart item late)
    · exact inBack ▸ mem_filter.mpr ⟨member, decide_eq_true same⟩
  · rintro ⟨front, back, rfl, greater, notSmaller⟩
    refine ⟨front.filter fun item => decide (key item = key kept),
      back.filter fun item => decide (key item = key kept), ?_, fun item member => ?_,
      fun item member => ?_⟩
    · rw [filter_append, filter_cons, if_pos (decide_eq_true rfl)]
    · obtain ⟨inside, same⟩ := mem_filter.mp member
      exact greater item inside (of_decide_eq_true same)
    · obtain ⟨inside, same⟩ := mem_filter.mp member
      exact notSmaller item inside (of_decide_eq_true same)

/-! ## The first of the greatest -/

section Greatest

variable {Other : Type} (score : Item → Score)

theorem argmax_append (left right : List Item) : (left ++ right).argmax score =
      match left.argmax score, right.argmax score with
      | none, second => second
      | some first, none => some first
      | some first, some second =>
        if score first < score second then some second else some first := by
  induction right using List.reverseRecOn with
  | nil =>
    rw [append_nil]
    cases left.argmax score <;> rfl
  | append_singleton right last ih =>
    rw [← append_assoc, argmax_concat, argmax_concat, ih]
    cases left.argmax score with
    | none => rfl
    | some first =>
      cases right.argmax score with
      | none => rfl
      | some second =>
        dsimp only
        by_cases later : score first < score second
        · rw [if_pos later]
          by_cases latest : score second < score last
          · simp [latest, later.trans latest]
          · simp [latest, later]
        · rw [if_neg later]
          by_cases latest : score second < score last
          · simp [latest]
          · have notGreater : ¬ score first < score last :=
              not_lt.mpr ((not_lt.mp latest).trans (not_lt.mp later))
            simp [latest, later, notGreater]

theorem argmax_map (make : Other → Item) (items : List Other) :
    (items.map make).argmax score = (items.argmax (score ∘ make)).map make := by
  induction items using List.reverseRecOn with
  | nil => rfl
  | append_singleton items last ih =>
    rw [map_append, map_singleton, argmax_concat, argmax_concat, ih]
    cases items.argmax (score ∘ make) with
    | none => rfl
    | some greatest =>
      simp only [Option.map_some, comp_apply]
      split <;> rfl

variable {score}

theorem find?_of_argmax {greatest : Item} (found : items.argmax score = some greatest) :
    (items.find? fun item => decide (score item = score greatest)) = some greatest := by
  induction items using List.reverseRecOn generalizing greatest with
  | nil => cases found
  | append_singleton items last ih =>
    rw [argmax_concat] at found
    rw [find?_append]
    cases before : items.argmax score with
    | none =>
      rw [before] at found
      obtain rfl := Option.some.inj found
      rw [argmax_eq_none.mp before]
      simp
    | some kept =>
      rw [before] at found
      dsimp only at found
      split at found
      case isTrue greater =>
          obtain rfl := Option.some.inj found
          have none : (items.find? fun item => decide (score item = score last)) = none := by
            refine find?_eq_none.mpr fun item member same => ?_
            have atMost := le_of_mem_argmax member before
            rw [of_decide_eq_true same] at atMost
            exact absurd greater (not_lt.mpr atMost)
          rw [none]
          simp
      case isFalse =>
          obtain rfl := Option.some.inj found
          rw [ih before]
          rfl

/-! ### Repeated keys -/

/-- Enter an item at the end unless one with its key is there. -/
def enterFirst (key : Item → Key) (kept : List Item) (item : Item) : List Item :=
  if kept.any fun other => decide (key other = key item) then kept else kept ++ [item]

theorem any_key_foldl_enterFirst (key : Item → Key) (items : List Item) (wanted : Key) :
    (items.foldl (enterFirst key) []).any (fun item => decide (key item = wanted)) =
      items.any fun item => decide (key item = wanted) := by
  induction items using List.reverseRecOn with
  | nil => rfl
  | append_singleton items last ih =>
    rw [foldl_append, foldl_cons, foldl_nil, any_append, ← ih]
    unfold enterFirst
    split
    case isTrue present =>
        by_cases same : key last = wanted
        · subst same
          rw [present, Bool.true_or]
        · simp [same]
    case isFalse => rw [any_append]

/-- Items with a key that was there before have no part in which is the first of the
greatest, when the score and the test look at the keys only. -/
theorem argmax_foldl_enterFirst (key : Item → Key) (test : Key → Bool) (rank : Key → Score)
    (items : List Item) :
    ((items.foldl (enterFirst key) []).filter (test ∘ key)).argmax (rank ∘ key) =
      (items.filter (test ∘ key)).argmax (rank ∘ key) := by
  induction items using List.reverseRecOn with
  | nil => rfl
  | append_singleton items last ih =>
    rw [foldl_append, foldl_cons, foldl_nil, filter_append]
    generalize entered : items.foldl (enterFirst key) [] = kept at ih
    have known := any_key_foldl_enterFirst key items (key last)
    rw [entered] at known
    unfold enterFirst
    rw [known]
    split
    case isTrue present =>
        obtain ⟨other, member, same⟩ := any_eq_true.mp present
        have equal : key other = key last := of_decide_eq_true same
        refine Eq.trans ih ?_
        cases tested : test (key last) with
        | false => simp [tested]
        | true =>
          rw [filter_singleton, comp_apply, tested, cond_true, argmax_concat]
          have among : other ∈ items.filter (test ∘ key) :=
            mem_filter.mpr ⟨member, by simp [equal, tested]⟩
          cases found : (items.filter (test ∘ key)).argmax (rank ∘ key) with
          | none =>
            rw [argmax_eq_none.mp found] at among
            cases among
          | some greatest =>
            have atMost := le_of_mem_argmax among found
            simp only [comp_apply, equal] at atMost
            simp [not_lt.mpr atMost]
    case isFalse =>
        rw [filter_append, filter_singleton, comp_apply]
        cases test (key last) with
        | false => simpa using ih
        | true =>
          rw [cond_true, argmax_concat, argmax_concat]
          exact congrArg _ ih

end Greatest

end NetLab.Library
