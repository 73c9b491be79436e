import Mathlib.Data.List.Nodup

/-!
# Insertion-ordered maps

`OrderedMap` is a finite map that remembers the order in which its keys were
first inserted, the iteration order of a scripting-language dictionary. The
absence of duplicate keys is a field, so a lookup never depends on which of two
entries comes first. Every operation is described by what a lookup finds
afterwards.
-/

namespace NetLab.Library

open List

/-- A finite map iterated in the order of first insertion. -/
structure OrderedMap (K V : Type) where
  entries : List (K × V)
  distinct : (entries.map Prod.fst).Nodup

namespace OrderedMap

variable {K V W : Type}

@[ext] theorem ext {left right : OrderedMap K V} (same : left.entries = right.entries) :
    left = right := by
  cases left
  cases right
  cases same
  rfl

instance [DecidableEq K] [DecidableEq V] : DecidableEq (OrderedMap K V) := fun left right =>
  decidable_of_iff (left.entries = right.entries) ⟨ext, fun same => same ▸ rfl⟩

/-- The map without entries. -/
def empty : OrderedMap K V := ⟨[], nodup_nil⟩

instance : Inhabited (OrderedMap K V) := ⟨empty⟩

def keys (map : OrderedMap K V) : List K := map.entries.map Prod.fst

def values (map : OrderedMap K V) : List V := map.entries.map Prod.snd

variable (map : OrderedMap K V)

theorem keys_nodup : map.keys.Nodup := map.distinct

/-- Rewrite every value, leaving keys and order alone. -/
def mapValues (update : K → V → W) (map : OrderedMap K V) : OrderedMap K W :=
  ⟨map.entries.map fun entry => (entry.1, update entry.1 entry.2), by
    simpa [map_map, Function.comp_def] using map.distinct⟩

@[simp] theorem keys_mapValues (update : K → V → W) (map : OrderedMap K V) :
    (map.mapValues update).keys = map.keys := by
  simp [keys, mapValues, Function.comp_def]

/-- Keep the entries that satisfy a test. -/
def filter (test : K → V → Bool) (map : OrderedMap K V) : OrderedMap K V :=
  ⟨map.entries.filter fun entry => test entry.1 entry.2,
    map.distinct.sublist (filter_sublist.map Prod.fst)⟩

variable [DecidableEq K]

def lookupEntries : List (K × V) → K → Option V
  | [], _ => none
  | (entryKey, value) :: rest, key =>
    if entryKey = key then some value else lookupEntries rest key

/-- Replace the value under a key, or append a new entry at the end. -/
def insertEntries : List (K × V) → K → V → List (K × V)
  | [], key, value => [(key, value)]
  | (entryKey, old) :: rest, key, value =>
    if entryKey = key then (entryKey, value) :: rest
    else (entryKey, old) :: insertEntries rest key value

/-- The value stored under a key. -/
def lookup (map : OrderedMap K V) (key : K) : Option V := lookupEntries map.entries key

variable {value : V}

theorem mem_keys_insertEntries {entries : List (K × V)} {key other : K} :
    other ∈ (insertEntries entries key value).map Prod.fst ↔
      other = key ∨ other ∈ entries.map Prod.fst := by
  induction entries with
  | nil => simp [insertEntries]
  | cons entry rest ih =>
    obtain ⟨entryKey, old⟩ := entry
    by_cases same : entryKey = key
    · subst same
      simp [insertEntries]
    · simp only [insertEntries, same, if_false, map_cons, mem_cons, ih]
      tauto

theorem nodup_keys_insertEntries {entries : List (K × V)} (key : K) (value : V)
    (distinct : (entries.map Prod.fst).Nodup) :
    ((insertEntries entries key value).map Prod.fst).Nodup := by
  induction entries with
  | nil => simp [insertEntries]
  | cons entry rest ih =>
    obtain ⟨entryKey, old⟩ := entry
    obtain ⟨fresh, restDistinct⟩ := nodup_cons.mp distinct
    by_cases same : entryKey = key
    · simpa [insertEntries, same] using distinct
    · simp only [insertEntries, same, if_false, map_cons]
      refine nodup_cons.mpr ⟨?_, ih restDistinct⟩
      rw [mem_keys_insertEntries]
      exact not_or.mpr ⟨same, fresh⟩

/-- Store a value; an existing key keeps its place in the order. -/
def insert (map : OrderedMap K V) (key : K) (value : V) : OrderedMap K V :=
  ⟨insertEntries map.entries key value, nodup_keys_insertEntries key value map.distinct⟩

/-- Remove a key. -/
def erase (map : OrderedMap K V) (key : K) : OrderedMap K V :=
  map.filter fun entryKey _ => decide (entryKey ≠ key)

def modify (map : OrderedMap K V) (key : K) (update : V → V) : OrderedMap K V :=
  map.mapValues fun entryKey value => if entryKey = key then update value else value

@[simp] theorem keys_modify (key : K) (update : V → V) :
    (map.modify key update).keys = map.keys := keys_mapValues _ _

@[simp] theorem lookup_empty (key : K) : (empty : OrderedMap K V).lookup key = none := rfl

private theorem lookupEntries_insertEntries (entries : List (K × V)) (key other : K) (value : V) :
    lookupEntries (insertEntries entries key value) other =
      if other = key then some value else lookupEntries entries other := by
  induction entries with
  | nil => simp [insertEntries, lookupEntries, eq_comm]
  | cons entry rest ih =>
    obtain ⟨entryKey, old⟩ := entry
    by_cases same : entryKey = key
    · subst same
      by_cases hit : other = entryKey
      · simp [insertEntries, lookupEntries, hit]
      · simp [insertEntries, lookupEntries, hit, Ne.symm hit]
    · by_cases hit : entryKey = other
      · subst hit
        simp [insertEntries, lookupEntries, same]
      · simp [insertEntries, lookupEntries, same, hit, ih]

theorem lookup_insert (key other : K) (value : V) :
    (map.insert key value).lookup other = if other = key then some value else map.lookup other :=
  lookupEntries_insertEntries map.entries key other value

@[simp] theorem lookup_insert_self (key : K) (value : V) :
    (map.insert key value).lookup key = some value := by
  simp [lookup_insert]

theorem lookup_insert_of_ne {key other : K} (value : V) (different : other ≠ key) :
    (map.insert key value).lookup other = map.lookup other := by
  simp [lookup_insert, different]

variable {key : K}

/-- Storing what is already there changes nothing. -/
theorem insert_of_lookup {map : OrderedMap K V} (found : map.lookup key = some value) :
    map.insert key value = map := by
  apply ext
  obtain ⟨entries, distinct⟩ := map
  change insertEntries entries key value = entries
  change lookupEntries entries key = some value at found
  clear distinct
  induction entries with
  | nil => simp [lookupEntries] at found
  | cons entry rest ih =>
    obtain ⟨entryKey, old⟩ := entry
    by_cases same : entryKey = key
    · simp [lookupEntries, same] at found
      simp [insertEntries, same, found]
    · rw [lookupEntries, if_neg same] at found
      simp [insertEntries, same, ih found]

@[simp] theorem lookup_mapValues (update : K → V → W) (key : K) :
    (map.mapValues update).lookup key = (map.lookup key).map (update key) := by
  change lookupEntries (map.entries.map fun entry => (entry.1, update entry.1 entry.2)) key =
    (lookupEntries map.entries key).map (update key)
  induction map.entries with
  | nil => rfl
  | cons entry rest ih =>
    obtain ⟨entryKey, value⟩ := entry
    by_cases hit : entryKey = key
    · subst hit
      simp [lookupEntries]
    · simpa [lookupEntries, hit] using ih

theorem lookup_modify (key other : K) (update : V → V) : (map.modify key update).lookup other =
      if other = key then (map.lookup other).map update else map.lookup other := by
  unfold modify
  rw [lookup_mapValues]
  split
  · rfl
  · simp

@[simp] theorem lookup_modify_self (key : K) (update : V → V) :
    (map.modify key update).lookup key = (map.lookup key).map update := by
  simp [lookup_modify]

theorem lookup_modify_of_ne {key other : K} (update : V → V) (different : other ≠ key) :
    (map.modify key update).lookup other = map.lookup other := by
  simp [lookup_modify, different]

theorem lookup_modify_of_found (update : V → V) (found : map.lookup key = some value) (other : K) :
    (map.modify key update).lookup other = (map.insert key (update value)).lookup other := by
  rw [lookup_modify, lookup_insert]
  by_cases same : other = key <;> simp [same, found]

theorem lookup_modify_of_missing (update : V → V) (missing : map.lookup key = none) (other : K) :
    (map.modify key update).lookup other = map.lookup other := by
  rw [lookup_modify]
  by_cases same : other = key <;> simp [same, missing]

theorem mem_entries_iff {map : OrderedMap K V} :
    (key, value) ∈ map.entries ↔ map.lookup key = some value := by
  obtain ⟨entries, distinct⟩ := map
  unfold lookup
  induction entries with
  | nil => simp [lookupEntries]
  | cons entry rest ih =>
    obtain ⟨entryKey, old⟩ := entry
    obtain ⟨fresh, restDistinct⟩ := nodup_cons.mp distinct
    by_cases hit : entryKey = key
    · subst hit
      have absent : (entryKey, value) ∉ rest := fun member =>
        fresh (mem_map.mpr ⟨_, member, rfl⟩)
      simp [lookupEntries, absent, eq_comm]
    · have tail := ih restDistinct
      simpa [lookupEntries, hit, Ne.symm hit] using tail

theorem entries_eq_filterMap : map.entries =
    map.keys.filterMap fun key => (map.lookup key).map fun value => (key, value) := by
  unfold keys
  rw [filterMap_map]
  refine (filterMap_some.symm.trans (filterMap_congr fun entry member => ?_))
  have found := mem_entries_iff.mp member
  simp [found]

theorem ext_lookup {left right : OrderedMap K V} (keys : left.keys = right.keys)
    (lookups : ∀ key, left.lookup key = right.lookup key) : left = right := by
  apply ext
  rw [entries_eq_filterMap, entries_eq_filterMap, keys]
  simp only [lookups]

theorem modify_of_fixed {map : OrderedMap K V} {update : V → V}
    (fixed : ∀ value, map.lookup key = some value → update value = value) :
    map.modify key update = map := by
  apply ext
  change map.entries.map _ = map.entries
  refine (map_congr_left fun entry member => ?_).trans (map_id _)
  obtain ⟨entryKey, value⟩ := entry
  by_cases same : entryKey = key
  · subst same
    simp [fixed value (mem_entries_iff.mp member)]
  · simp [same]

theorem mapValues_modify {map : OrderedMap K V} {update : V → V} (rewrite : K → V → W)
    (unseen : ∀ value, rewrite key (update value) = rewrite key value) :
    (map.modify key update).mapValues rewrite = map.mapValues rewrite := by
  apply ext
  change (map.entries.map _).map _ = map.entries.map _
  rw [map_map]
  refine map_congr_left fun entry _ => ?_
  by_cases same : entry.1 = key
  · simp [same, unseen]
  · simp [same]

theorem mem_keys_iff {map : OrderedMap K V} :
    key ∈ map.keys ↔ ∃ value, map.lookup key = some value := by
  simp only [keys, mem_map, Prod.exists, exists_and_right, exists_eq_right, mem_entries_iff]

theorem mem_values_iff {map : OrderedMap K V} :
    value ∈ map.values ↔ ∃ key, map.lookup key = some value := by
  simp only [values, mem_map, Prod.exists, exists_eq_right, mem_entries_iff]

/-- When every value names its key, the values that name a given key are the one
stored there. -/
theorem filter_values_of_named {map : OrderedMap K V} {name : V → K}
    (named : ∀ key value, map.lookup key = some value → name value = key)
    (found : map.lookup key = some value) :
    (map.values.filter fun other => decide (name other = key)) = [value] := by
  have held : ∀ entry ∈ map.entries, name entry.2 = entry.1 := fun entry member =>
    named entry.1 entry.2 (mem_entries_iff.mp member)
  have member : (key, value) ∈ map.entries := mem_entries_iff.mpr found
  have distinct := map.distinct
  unfold values
  revert held member distinct
  generalize map.entries = entries
  intro held member distinct
  induction entries with
  | nil => cases member
  | cons entry rest ih =>
    obtain ⟨fresh, restDistinct⟩ := nodup_cons.mp distinct
    have here := held entry (mem_cons_self ..)
    have later : ∀ other ∈ rest, name other.2 = other.1 := fun other inside =>
      held other (mem_cons_of_mem _ inside)
    rw [map_cons, filter_cons]
    rcases mem_cons.mp member with rfl | inside
    · have none : (rest.map Prod.snd).filter (fun other => decide (name other = key)) = [] := by
        refine filter_eq_nil_iff.mpr fun other inside same => ?_
        obtain ⟨pair, held, rfl⟩ := mem_map.mp inside
        have key : pair.1 = key := (later pair held).symm.trans (of_decide_eq_true same)
        exact fresh (mem_map.mpr ⟨pair, held, key⟩)
      rw [if_pos (decide_eq_true here), none]
    · have apart : entry.1 ≠ key := fun same =>
        fresh (mem_map.mpr ⟨(key, value), inside, same.symm⟩)
      rw [if_neg (by simp [here, apart])]
      exact ih later inside restDistinct

theorem lookup_eq_none_iff {map : OrderedMap K V} : map.lookup key = none ↔ key ∉ map.keys := by
  rw [mem_keys_iff, Option.eq_none_iff_forall_ne_some]
  simp

theorem lookup_filter (test : K → V → Bool) (key : K) :
    (map.filter test).lookup key = (map.lookup key).filter (test key) := by
  cases found : map.lookup key with
  | none =>
    have absent : key ∉ (map.filter test).keys := by
      intro member
      obtain ⟨entry, kept, rfl⟩ := mem_map.mp member
      exact lookup_eq_none_iff.mp found (mem_map.mpr ⟨entry, (mem_filter.mp kept).1, rfl⟩)
    simpa using lookup_eq_none_iff.mpr absent
  | some value =>
    by_cases passes : test key value = true
    · have kept : (key, value) ∈ (map.filter test).entries :=
        mem_filter.mpr ⟨mem_entries_iff.mpr found, passes⟩
      simpa [Option.filter, passes] using mem_entries_iff.mp kept
    · have absent : (map.filter test).lookup key = none := by
        rw [Option.eq_none_iff_forall_ne_some]
        intro other hit
        obtain ⟨member, accepted⟩ := mem_filter.mp (mem_entries_iff.mpr hit)
        have same : some other = some value := (mem_entries_iff.mp member).symm.trans found
        cases same
        exact passes accepted
      simpa [Option.filter, passes] using absent

theorem lookup_erase (key other : K) :
    (map.erase key).lookup other = if other = key then none else map.lookup other := by
  unfold erase
  rw [lookup_filter]
  by_cases same : other = key <;> cases map.lookup other <;> simp [same]

theorem mem_keys_insert {map : OrderedMap K V} {key other : K} :
    other ∈ (map.insert key value).keys ↔ other = key ∨ other ∈ map.keys :=
  mem_keys_insertEntries

/-- A new key is added at the end. -/
theorem keys_insert (key : K) (value : V) :
    (map.insert key value).keys = if key ∈ map.keys then map.keys else map.keys ++ [key] := by
  suffices general : ∀ entries : List (K × V), (insertEntries entries key value).map Prod.fst =
      if key ∈ entries.map Prod.fst then entries.map Prod.fst
      else entries.map Prod.fst ++ [key] from general map.entries
  intro entries
  induction entries with
  | nil => simp [insertEntries]
  | cons entry rest ih =>
    obtain ⟨entryKey, old⟩ := entry
    by_cases same : entryKey = key
    · simp [insertEntries, same]
    · simp only [insertEntries, if_neg same, map_cons, ih, mem_cons, Ne.symm same, false_or]
      split <;> rfl

/-- Store a value under a key and give it the first place in the order. -/
def insertFirst (map : OrderedMap K V) (key : K) (value : V) : OrderedMap K V :=
  ⟨(key, value) :: (map.erase key).entries, nodup_cons.mpr
    ⟨lookup_eq_none_iff.mp (by rw [lookup_erase, if_pos rfl]), (map.erase key).distinct⟩⟩

theorem lookup_insertFirst (key other : K) (value : V) : (map.insertFirst key value).lookup other =
      if other = key then some value else map.lookup other := by
  have later : lookupEntries (map.erase key).entries other = (map.erase key).lookup other := rfl
  simp only [lookup, insertFirst, lookupEntries]
  rw [later, lookup_erase]
  by_cases same : other = key
  · rw [if_pos same.symm, if_pos same]
  · rw [if_neg (Ne.symm same), if_neg same, if_neg same]
    rfl

end OrderedMap

end NetLab.Library
