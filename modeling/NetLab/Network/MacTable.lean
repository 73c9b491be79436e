import NetLab.Library.Execution
import NetLab.Library.OrderedMap
import Mathlib.Data.List.MinMax

/-!
# The MAC address table of a switch

The table is kept from growing by dropping the entry that was learned the longest time ago. Along
every run of learning and clearing it has the latest port of each address it holds, and an address
that it lost was learned no later than any of the 256 that it kept.
-/

namespace NetLab.Network

open NetLab.Library NetLab.Execution
open OrderedMap

inductive EntryType where
  | dynamic
  | static
deriving DecidableEq

structure MacEntry where
  vlan : Nat
  mac : String
  port : String
  entryType : EntryType := .dynamic
  age : Nat
deriving DecidableEq

/-- The table of one device, under `(vlan, mac)`. -/
abbrev MacTable : Type := OrderedMap (Nat × String) MacEntry

namespace MacTable

/-- The entry an address has once it is heard at `now`. -/
def renewed (table : MacTable) (now : Nat) (mac port : String) (vlan : Nat) : MacEntry :=
  match table.lookup (vlan, mac) with
  | some entry => { entry with port := port, age := now }
  | none => { vlan := vlan, mac := mac, port := port, age := now }

/-- The size of the table is looked at when the entry is already written. -/
def learn (table : MacTable) (now : Nat) (mac port : String) (vlan : Nat) : MacTable :=
  let written := table.insert (vlan, mac) (table.renewed now mac port vlan)
  if 256 < written.entries.length then
    match written.entries.argmin fun entry => entry.2.age with
    | some oldest => written.erase oldest.1
    | none => written
  else written

def clearMacDynamic (table : MacTable) : MacTable :=
  table.filter fun _ entry => decide (entry.entryType ≠ .dynamic)

section Entries

variable {table : MacTable} {now vlan : Nat} {mac port : String} {key : Nat × String}
  {entry : MacEntry}

@[simp] theorem port_renewed : (table.renewed now mac port vlan).port = port := by
  unfold renewed
  split <;> rfl

@[simp] theorem age_renewed : (table.renewed now mac port vlan).age = now := by
  unfold renewed
  split <;> rfl

theorem insertEntries_of_missing {entries : List ((Nat × String) × MacEntry)}
    (missing : key ∉ entries.map Prod.fst) :
    OrderedMap.insertEntries entries key entry = entries ++ [(key, entry)] := by
  induction entries with
  | nil => rfl
  | cons first rest ih =>
    obtain ⟨firstKey, old⟩ := first
    rw [List.map_cons, List.mem_cons, not_or] at missing
    rw [OrderedMap.insertEntries, if_neg (Ne.symm missing.1), ih missing.2, List.cons_append]

theorem length_insert_of_found {found : MacEntry} (present : table.lookup key = some found) :
    (table.insert key entry).entries.length = table.entries.length := by
  have keys := table.keys_insert key entry
  rw [if_pos (mem_keys_iff.mpr ⟨found, present⟩)] at keys
  simpa [OrderedMap.keys] using congrArg List.length keys

theorem length_erase (present : table.lookup key = some entry) :
    (table.erase key).entries.length + 1 = table.entries.length := by
  have member : key ∈ table.keys := mem_keys_iff.mpr ⟨entry, present⟩
  have erased : (table.erase key).keys = table.keys.erase key := by
    rw [table.keys_nodup.erase_eq_filter]
    simp [OrderedMap.keys, OrderedMap.erase, OrderedMap.filter, List.filter_map,
      Function.comp_def, bne, beq_eq_decide]
  have shorter := congrArg List.length erased
  rw [List.length_erase_of_mem member] at shorter
  have some_key := List.length_pos_of_mem member
  simp only [OrderedMap.keys, List.length_map] at shorter some_key
  omega

/-- The table after an address is heard: written, and in a full table without an entry that was
there before and is not younger than any other. -/
theorem learn_cases (bounded : table.entries.length ≤ 256)
    (past : ∀ key entry, table.lookup key = some entry → entry.age ≤ now) :
    let written := table.insert (vlan, mac) (table.renewed now mac port vlan)
    (table.learn now mac port vlan = written ∧ written.entries.length ≤ 256 ∧
        table.entries.length ≤ written.entries.length) ∨
      ∃ lost oldest, table.learn now mac port vlan = written.erase lost ∧
        (table.learn now mac port vlan).entries.length = 256 ∧ lost ≠ (vlan, mac) ∧
        table.lookup lost = some oldest ∧
        ∀ key entry, table.lookup key = some entry → oldest.age ≤ entry.age := by
  intro written
  cases present : table.lookup (vlan, mac) with
  | some found =>
    have same : written.entries.length = table.entries.length := length_insert_of_found present
    exact .inl ⟨if_neg (show ¬256 < written.entries.length by omega), by omega, by omega⟩
  | none =>
    have grown : written.entries =
        table.entries ++ [((vlan, mac), table.renewed now mac port vlan)] :=
      insertEntries_of_missing (lookup_eq_none_iff.mp present)
    have size : written.entries.length = table.entries.length + 1 := by
      rw [grown, List.length_append, List.length_singleton]
    by_cases full : 256 < written.entries.length
    · right
      cases least : table.entries.argmin fun entry => entry.2.age with
      | none =>
        rw [List.argmin_eq_none.mp least] at size
        simp [size] at full
      | some oldest =>
        have held : table.lookup oldest.1 = some oldest.2 :=
          mem_entries_iff.mp (List.argmin_mem least)
        -- The new entry is the last of the list and cannot be older than the rest.
        have chosen : written.entries.argmin (fun entry => entry.2.age) = some oldest := by
          rw [grown, List.argmin_concat, least]
          exact if_neg (by simpa using past _ _ held)
        have result : table.learn now mac port vlan = written.erase oldest.1 := by
          refine (if_pos full).trans ?_
          rw [chosen]
        have other : oldest.1 ≠ (vlan, mac) := by
          intro same
          rw [same, present] at held
          cases held
        have kept : written.lookup oldest.1 = some oldest.2 :=
          (table.lookup_insert_of_ne _ other).trans held
        have shorter := length_erase kept
        refine ⟨oldest.1, oldest.2, result, ?_, other, held, fun key entry found => ?_⟩
        · rw [result]
          omega
        · have least := List.le_of_mem_argmin (mem_entries_iff.mpr found) least
          exact least
    · exact .inl ⟨if_neg full, by omega, by omega⟩

theorem found_learn (bounded : table.entries.length ≤ 256)
    (past : ∀ key entry, table.lookup key = some entry → entry.age ≤ now)
    (found : (table.learn now mac port vlan).lookup key = some entry) :
    (key = (vlan, mac) ∧ entry = table.renewed now mac port vlan) ∨
      (key ≠ (vlan, mac) ∧ table.lookup key = some entry) := by
  have written : (table.insert (vlan, mac) (table.renewed now mac port vlan)).lookup key =
      some entry := by
    rcases learn_cases bounded past with ⟨result, -⟩ | ⟨lost, _, result, -⟩
    · rwa [result] at found
    · rw [result, lookup_erase] at found
      split at found
      · cases found
      · exact found
  rw [lookup_insert] at written
  split at written
  case isTrue same => exact .inl ⟨same, (Option.some.inj written).symm⟩
  case isFalse other => exact .inr ⟨other, written⟩

end Entries

end MacTable

inductive DataEvent where
  /-- An address is heard, `wait` seconds after the last one. -/
  | learn (wait : Nat) (mac port : String) (vlan : Nat)
  | clear

/-- A switch, and the time and port at which each address was heard last since the table was
cleared. -/
structure Learning where
  clock : Nat := 0
  table : MacTable := .empty
  heard : Nat × String → Option (Nat × String) := fun _ => none

namespace Learning

def step (state : Learning) : DataEvent → Learning
  | .learn wait mac port vlan =>
    { clock := state.clock + wait
      table := state.table.learn (state.clock + wait) mac port vlan
      heard := fun key =>
        if key = (vlan, mac) then some (state.clock + wait, port) else state.heard key }
  | .clear => { state with table := state.table.clearMacDynamic, heard := fun _ => none }

/-- At most 256 entries, each as it was heard last; an address that was heard and is missing was
heard no later than any of 256 that are there. -/
structure Remembers (state : Learning) : Prop where
  bounded : state.table.entries.length ≤ 256
  latest : ∀ key entry, state.table.lookup key = some entry →
    state.heard key = some (entry.age, entry.port)
  pushedOut : ∀ key time port, state.heard key = some (time, port) →
    state.table.lookup key = none → state.table.entries.length = 256 ∧
      ∀ other entry, state.table.lookup other = some entry → time ≤ entry.age

/-- What a run also keeps: nothing is heard in the future, and no entry is a static one. -/
structure Kept (state : Learning) : Prop extends Remembers state where
  past : ∀ key time port, state.heard key = some (time, port) → time ≤ state.clock
  learned : ∀ key entry, state.table.lookup key = some entry → entry.entryType = .dynamic

variable {state : Learning}

theorem Kept.age_le (kept : state.Kept) {key : Nat × String} {entry : MacEntry}
    (found : state.table.lookup key = some entry) (wait : Nat) : entry.age ≤ state.clock + wait :=
  le_trans (kept.past key entry.age entry.port (kept.latest key entry found))
    (Nat.le_add_right ..)

theorem kept_clear (kept : state.Kept) : (state.step .clear).Kept := by
  have gone (key : Nat × String) (entry : MacEntry) :
      (state.step .clear).table.lookup key ≠ some entry := by
    intro found
    rw [show (state.step .clear).table = state.table.clearMacDynamic from rfl,
      MacTable.clearMacDynamic, lookup_filter, Option.filter_eq_some_iff] at found
    simpa [kept.learned key entry found.1] using found.2
  exact {
    bounded := le_trans (List.length_filter_le _ _) kept.bounded
    latest := fun key entry found => absurd found (gone key entry)
    pushedOut := fun _ _ _ heard => by cases heard
    past := fun _ _ _ heard => by cases heard
    learned := fun key entry found => absurd found (gone key entry) }

theorem entryType_renewed (kept : state.Kept) {now vlan : Nat} {mac port : String} :
    (state.table.renewed now mac port vlan).entryType = .dynamic := by
  unfold MacTable.renewed
  split
  case h_1 entry found => exact kept.learned _ entry found
  case h_2 => rfl

theorem kept_learn (kept : state.Kept) (wait : Nat) (mac port : String) (vlan : Nat) :
    (state.step (.learn wait mac port vlan)).Kept := by
  have earlier (key : Nat × String) (time : Nat) (port : String)
      (heard : state.heard key = some (time, port)) : time ≤ state.clock + wait :=
    le_trans (kept.past key time port heard) (Nat.le_add_right _ _)
  have old (key : Nat × String) (entry : MacEntry) (found : state.table.lookup key = some entry) :
      entry.age ≤ state.clock + wait := kept.age_le found wait
  -- Who was heard before and is not in the table is older than what was in a full table.
  have behind {key : Nat × String} {time : Nat} {was : String} (other : key ≠ (vlan, mac))
      (heard : state.heard key = some (time, was))
      (older : ∀ other entry, state.table.lookup other = some entry → time ≤ entry.age)
      (third : Nat × String) (entry : MacEntry)
      (found : (state.table.learn (state.clock + wait) mac port vlan).lookup third = some entry) :
      time ≤ entry.age := by
    rcases MacTable.found_learn kept.bounded old found with ⟨-, rfl⟩ | ⟨-, before⟩
    · simpa using earlier key time was heard
    · exact older third entry before
  refine ⟨⟨?bounded, ?latest, ?pushedOut⟩, ?past, ?learned⟩
  case bounded =>
    rcases MacTable.learn_cases kept.bounded old with ⟨result, size, -⟩ | ⟨_, _, -, size, -⟩
    · rw [step, result]
      exact size
    · exact le_of_eq size
  case latest =>
    intro key entry found
    rcases MacTable.found_learn kept.bounded old found with ⟨same, rfl⟩ | ⟨other, before⟩
    · simp [step, same]
    · simpa [step, other] using kept.latest key entry before
  case past =>
    intro key time was heard
    by_cases same : key = (vlan, mac)
    · simp [step, same] at heard
      exact le_of_eq heard.1.symm
    · exact earlier key time was (by simpa [step, same] using heard)
  case learned =>
    intro key entry found
    rcases MacTable.found_learn kept.bounded old found with ⟨-, rfl⟩ | ⟨-, before⟩
    · exact entryType_renewed kept
    · exact kept.learned key entry before
  case pushedOut =>
    intro key time was heard missing
    change (state.table.learn _ _ _ _).lookup key = none at missing
    rcases MacTable.learn_cases kept.bounded old with
      ⟨result, size, larger⟩ | ⟨lost, oldest, result, size, stays, held, least⟩
    · rw [result, lookup_insert] at missing
      split at missing
      case isTrue same => cases missing
      case isFalse other =>
        have heard : state.heard key = some (time, was) := by simpa [step, other] using heard
        obtain ⟨full, older⟩ := kept.pushedOut key time was heard missing
        refine ⟨?_, behind other heard older⟩
        change (state.table.learn _ _ _ _).entries.length = 256
        rw [result]
        omega
    · have other : key ≠ (vlan, mac) := by
        rintro rfl
        rw [result, lookup_erase, if_neg stays.symm, lookup_insert_self] at missing
        cases missing
      have heard : state.heard key = some (time, was) := by simpa [step, other] using heard
      refine ⟨size, behind other heard ?_⟩
      by_cases evicted : key = lost
      · subst evicted
        have same := heard.symm.trans (kept.latest key oldest held)
        cases same
        exact least
      · rw [result, lookup_erase, if_neg evicted,
          lookup_insert_of_ne _ _ other] at missing
        exact (kept.pushedOut key time was heard missing).2

theorem kept_step (kept : state.Kept) : ∀ event, (state.step event).Kept
  | .learn wait mac port vlan => kept_learn kept wait mac port vlan
  | .clear => kept_clear kept

theorem kept_run (events : List DataEvent) : (runFrom step {} events).Kept := by
  have start : Kept {} := {
    bounded := Nat.zero_le _
    latest := fun _ _ found => by cases found
    pushedOut := fun _ _ _ heard => by cases heard
    past := fun _ _ _ heard => by cases heard
    learned := fun _ _ found => by cases found }
  exact invariant_of_step (fun (state : Learning) event (kept : state.Kept) =>
    kept_step kept event) start events

/-- After any learning and clearing, and with the address that is heard next never the one that
makes room. -/
theorem remembers_run (events : List DataEvent) : (runFrom step {} events).Remembers ∧
    ∀ wait mac port vlan, ((runFrom step {} events).step
      (.learn wait mac port vlan)).table.lookup (vlan, mac) ≠ none := by
  have kept := kept_run events
  refine ⟨kept.toRemembers, fun wait mac port vlan missing => ?_⟩
  have old (key : Nat × String) (entry : MacEntry)
      (found : (runFrom step {} events).table.lookup key = some entry) :
      entry.age ≤ (runFrom step {} events).clock + wait := kept.age_le found wait
  change ((runFrom step {} events).table.learn _ mac port vlan).lookup _ = none at missing
  rcases MacTable.learn_cases kept.bounded old with
    ⟨result, -⟩ | ⟨lost, _, result, -, stays, -⟩
  · rw [result, lookup_insert_self] at missing
    cases missing
  · rw [result, lookup_erase, if_neg stays.symm, lookup_insert_self] at missing
    cases missing

end Learning

end NetLab.Network
