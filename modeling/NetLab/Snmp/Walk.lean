import Mathlib.Data.List.Lex
import NetLab.Library.Successors
import NetLab.Snmp.Agent

/-!
# Walking the MIB

Every request builds and sorts the MIB anew, so two requests see other values but the same
object identifiers. `enumerates_iff` says for which devices and bases repeated getnext and a
walk agree with what get answers.
-/

namespace NetLab.Snmp

open List Function

open NetLab.Library

variable {arcs : List Nat} {oid : String}

/-! ## Identifiers -/

variable (numbers : List Nat) (first second ip : String)

theorem isNumeral_all_numerals : ((numbers.map numeral).filter isNumeral) = numbers.map numeral :=
  filter_eq_self.mpr fun _ member => by
    obtain ⟨value, -, rfl⟩ := mem_map.mp member
    exact isNumeral_numeral value

theorem map_value_numerals : (numbers.map numeral).map numeralValue = numbers := by
  simp [comp_def]

theorem oidNumbers_dotted (nonempty : arcs ≠ []) : oidNumbers (dotted arcs) = arcs := by
  rw [oidNumbers, dotFields_dotted nonempty, isNumeral_all_numerals, map_value_numerals]

theorem sortKey_numerals (fields : List (List Char)) : (numbers.map numeral ++ fields).map
        (fun field => if isNumeral field then numeralValue field else 0) =
      numbers ++ fields.map fun field => if isNumeral field then numeralValue field else 0 := by
  rw [map_append, map_map]
  congr 1
  simp [comp_def]

theorem sortKey_dotted (nonempty : arcs ≠ []) : sortKey (dotted arcs) = arcs := by
  have key := sortKey_numerals arcs []
  rw [sortKey, dotFields_dotted nonempty]
  simpa using key

theorem dotFields_addressOid :
    dotFields (addressOid ip) = ipAdEntAddrArcs.map numeral ++ dotFields ip := by
  rw [addressOid, dotFields_append, dotFields_dotted (by decide)]

theorem oidNumbers_addressOid : oidNumbers (addressOid ip) = ipAdEntAddrArcs ++ oidNumbers ip := by
  rw [oidNumbers, dotFields_addressOid, filter_append, isNumeral_all_numerals,
    map_append, map_value_numerals]
  rfl

theorem sortKey_addressOid : sortKey (addressOid ip) = ipAdEntAddrArcs ++ sortKey ip := by
  rw [sortKey, dotFields_addressOid, sortKey_numerals]
  rfl

theorem addressOid_injective : Function.Injective addressOid := fun left right same => by
  have fields := congrArg dotFields same
  rw [dotFields_addressOid, dotFields_addressOid, append_cancel_left_eq] at fields
  exact dotFields_injective fields

theorem isUnder_iff (base oid : String) :
    SnmpAgent.isUnder base oid = true ↔ dotFields base <+: dotFields oid := by
  rw [dotFields_prefix_iff, SnmpAgent.isUnder]
  simp

theorem stripDots_of_fields {text : String} {field : List Char} {rest : List (List Char)}
    (fields : dotFields text = field :: rest) (nonempty : field ≠ []) : stripDots text = text := by
  rw [← String.toList_inj]
  unfold stripDots
  rw [String.toList_ofList]
  cases shape : text.toList with
  | nil => rfl
  | cons char chars =>
    refine dropWhile_cons_of_neg fun dot => nonempty ?_
    rw [beq_iff_eq] at dot
    have split := splitOn_append_cons_self (a := '.') [] chars
    rw [dotFields, shape, dot] at fields
    rw [nil_append, fields] at split
    exact (List.cons.inj split).1

theorem stripDots_dotted (arcs : List Nat) : stripDots (dotted arcs) = dotted arcs := by
  cases arcs with
  | nil => decide
  | cons arc arcs =>
    have fields := dotFields_dotted (cons_ne_nil arc arcs)
    exact stripDots_of_fields fields (numeral_ne_nil arc)

theorem stripDots_addressOid : stripDots (addressOid ip) = addressOid ip :=
  stripDots_of_fields (dotFields_addressOid ip) (numeral_ne_nil 1)

/-- The text of a base, with any number of dots at its front. -/
def baseText (dots : Nat) (base : List Nat) : String :=
  String.ofList (List.replicate dots '.') ++ dotted base

theorem stripDots_baseText (dots : Nat) (base : List Nat) :
    stripDots (baseText dots base) = dotted base := by
  have plain := stripDots_dotted base
  unfold stripDots at plain ⊢
  rw [baseText, String.toList_append, String.toList_ofList,
    dropWhile_append_of_pos (by simp [mem_replicate]), plain]

/-! ## The identifiers of the MIB -/

def ifColumns : List Nat := [1, 2, 3, 5, 7, 8, 10, 16]

namespace SnmpAgent

variable (agent : SnmpAgent) (device : String) (addresses : DeviceAddresses)

/-- Arcs of the identifiers in front of the address table. -/
def fixedArcs : List (List Nat) :=
  [1, 2, 3, 4, 5, 6, 7].map (fun arc => systemArcs ++ [arc, 0]) ++
    (if ciscoMibTypes.contains (agent.deviceType device) then
      [3, 4, 7].map fun column => cpuArcs ++ [column, 1] else []) ++
    ifNumberArcs :: (List.range' 1 (interfaceRows addresses).length).flatMap fun index =>
      ifColumns.map fun column => ifEntryArcs ++ [column, index]

/-- The identifiers before they are sorted. -/
def unsortedOids : List String :=
  (agent.fixedArcs device addresses).map dotted ++ addresses.ips.keys.map addressOid

def sortedOids : List String :=
  (agent.unsortedOids device addresses).mergeSort fun first second =>
    decide (sortKey first ≤ sortKey second)

variable (readings : Readings)

theorem map_oid_interfaceTable : (agent.interfaceTable device addresses readings).map MibEntry.oid =
    (ifNumberArcs :: (List.range' 1 (interfaceRows addresses).length).flatMap fun index =>
      ifColumns.map fun column => ifEntryArcs ++ [column, index]).map dotted := by
  rw [interfaceTable, map_cons, map_cons, map_flatMap, ← zipIdx_map_snd, flatMap_map, map_flatMap]
  rfl

/-- The identifiers do not depend on what the build reads. -/
theorem map_oid_unsortedMib : (agent.unsortedMib device addresses readings).map MibEntry.oid =
    agent.unsortedOids device addresses := by
  have cpu : (agent.cpuTable device readings).map MibEntry.oid =
      (if ciscoMibTypes.contains (agent.deviceType device) then
        [3, 4, 7].map fun column => cpuArcs ++ [column, 1] else []).map dotted := by
    unfold cpuTable
    split <;> rfl
  rw [unsortedMib, unsortedOids, fixedArcs, map_append, map_append, map_append,
    map_oid_interfaceTable, cpu, map_append, map_append, addressTable, map_map]
  rfl

theorem map_oid_buildMib : (agent.buildMib device addresses readings).map MibEntry.oid =
    agent.sortedOids device addresses := by
  rw [buildMib, sortedOids, ← agent.map_oid_unsortedMib device addresses readings]
  exact map_mergeSort fun _ _ _ _ => rfl

/-! ## Their order -/

section

variable (member : arcs ∈ agent.fixedArcs device addresses)
include member

/-- What stands in front of the address table. -/
theorem fixedArcs_cases :
    (∃ arc, arcs = systemArcs ++ [arc, 0]) ∨ (∃ column, arcs = cpuArcs ++ [column, 1]) ∨
      arcs = ifNumberArcs ∨ ∃ column index, arcs = ifEntryArcs ++ [column, index] := by
  simp only [fixedArcs, mem_append, mem_map, mem_cons, mem_flatMap] at member
  rcases member with (⟨arc, -, rfl⟩ | cpu) | rfl | ⟨index, -, column, -, rfl⟩
  · exact .inl ⟨arc, rfl⟩
  · split at cpu
    · obtain ⟨column, -, rfl⟩ := mem_map.mp cpu
      exact .inr (.inl ⟨column, rfl⟩)
    · cases cpu
  · exact .inr (.inr (.inl rfl))
  · exact .inr (.inr (.inr ⟨column, index, rfl⟩))

theorem fixedArcs_ne_nil : arcs ≠ [] := by
  rcases agent.fixedArcs_cases device addresses member with
    ⟨_, rfl⟩ | ⟨_, rfl⟩ | rfl | ⟨_, _, rfl⟩ <;> simp [ifNumberArcs]

theorem fixedArcs_apart :
    (∀ index, arcs < ipAdEntAddrArcs ++ index) ∨ ∀ index, ipAdEntAddrArcs ++ index < arcs := by
  rcases agent.fixedArcs_cases device addresses member with
    ⟨_, rfl⟩ | ⟨_, rfl⟩ | rfl | ⟨_, _, rfl⟩ <;>
  simp [systemArcs, cpuArcs, ifNumberArcs, ifEntryArcs, ipAdEntAddrArcs, cons_lt_cons_iff]

end

theorem nodup_fixedArcs : (agent.fixedArcs device addresses).Nodup := by
  have system : ([1, 2, 3, 4, 5, 6, 7].map fun arc => systemArcs ++ [arc, 0]).Nodup := by decide
  have cpu : (if ciscoMibTypes.contains (agent.deviceType device) then
      [3, 4, 7].map fun column => cpuArcs ++ [column, 1] else []).Nodup := by
    split
    · decide
    · exact .nil
  have table : ((List.range' 1 (interfaceRows addresses).length).flatMap fun index =>
      ifColumns.map fun column => ifEntryArcs ++ [column, index]).Nodup := by
    refine nodup_flatMap.mpr ⟨fun index _ => ?_, ?_⟩
    · refine List.Nodup.map (fun left right same => ?_) (by decide : ifColumns.Nodup)
      simpa using same
    · refine List.Pairwise.imp (fun {left right} distinct => ?_) nodup_range'
      simp only [Function.onFun, disjoint_left, mem_map]
      rintro _ ⟨column, -, rfl⟩ ⟨column', -, same⟩
      simp only [append_cancel_left_eq, List.cons.injEq] at same
      exact distinct same.2.1.symm
  have row : ifNumberArcs ∉ (List.range' 1 (interfaceRows addresses).length).flatMap fun index =>
      ifColumns.map fun column => ifEntryArcs ++ [column, index] := by
    simp [ifNumberArcs, ifEntryArcs]
  refine nodup_append'.mpr ⟨nodup_append'.mpr ⟨system, cpu, ?_⟩, nodup_cons.mpr ⟨row, table⟩, ?_⟩
  · intro arcs inSystem inCpu
    obtain ⟨arc, -, rfl⟩ := mem_map.mp inSystem
    split at inCpu
    · simp [systemArcs, cpuArcs] at inCpu
    · cases inCpu
  · intro arcs front back
    have interfaces : ∃ tail, arcs = [1, 3, 6, 1, 2, 1, 2] ++ tail := by
      rcases mem_cons.mp back with rfl | inTable
      · exact ⟨[1, 0], rfl⟩
      · obtain ⟨index, -, inRow⟩ := mem_flatMap.mp inTable
        obtain ⟨column, -, rfl⟩ := mem_map.mp inRow
        exact ⟨[2, 1, column, index], rfl⟩
    obtain ⟨tail, rfl⟩ := interfaces
    rcases mem_append.mp front with inSystem | inCpu
    · simp [systemArcs] at inSystem
    · split at inCpu
      · simp [cpuArcs] at inCpu
      · cases inCpu

end SnmpAgent

/-- Two texts are sorted as their numbers are compared, and the numbers differ. -/
def InOrder (first second : String) : Prop :=
  if sortKey first ≤ sortKey second then oidNumbers first < oidNumbers second
  else oidNumbers second < oidNumbers first

instance (first second : String) : Decidable (InOrder first second) :=
  inferInstanceAs (Decidable (if sortKey first ≤ sortKey second
    then oidNumbers first < oidNumbers second else oidNumbers second < oidNumbers first))

/-- Identifiers that are written as numerals are in order unless they are the same. -/
theorem inOrder_dotted {left right : List Nat} (leftNonempty : left ≠ [])
    (rightNonempty : right ≠ []) : InOrder (dotted left) (dotted right) ↔ left ≠ right := by
  unfold InOrder
  rw [sortKey_dotted leftNonempty, sortKey_dotted rightNonempty, oidNumbers_dotted leftNonempty,
    oidNumbers_dotted rightNonempty]
  split
  case isTrue below => exact below.lt_iff_ne
  case isFalse above =>
      have lt := not_le.mp above
      exact ⟨fun _ => lt.ne', fun _ => lt⟩

theorem append_lt_append_iff (front first second : List Nat) :
    front ++ first < front ++ second ↔ first < second := by
  induction front with
  | nil => rfl
  | cons arc front ih => simpa using ih

theorem inOrder_addressOid :
    InOrder (addressOid first) (addressOid second) ↔ InOrder first second := by
  unfold InOrder
  simp only [sortKey_addressOid, oidNumbers_addressOid, ← not_lt, append_lt_append_iff]

namespace SnmpAgent

variable (agent : SnmpAgent) (device : String) (addresses : DeviceAddresses)

theorem inOrder_fixed_address (member : arcs ∈ agent.fixedArcs device addresses) (ip : String) :
    InOrder (dotted arcs) (addressOid ip) := by
  have nonempty := agent.fixedArcs_ne_nil device addresses member
  unfold InOrder
  rw [sortKey_dotted nonempty, sortKey_addressOid, oidNumbers_dotted nonempty,
    oidNumbers_addressOid]
  rcases agent.fixedArcs_apart device addresses member with below | above
  · rw [if_pos (below (sortKey ip)).le]
    exact below (oidNumbers ip)
  · rw [if_neg (not_le.mpr (above (sortKey ip)))]
    exact above (oidNumbers ip)

theorem pairwise_sortedOids_iff : ((agent.sortedOids device addresses).Pairwise fun first second =>
        oidNumbers first < oidNumbers second) ↔ addresses.ips.keys.Pairwise InOrder := by
  rw [sortedOids, pairwise_mergeSort_iff
    (fun first second third => by simpa using fun below => below.trans)
    (fun first second => by simpa using le_total (sortKey first) (sortKey second))]
  simp only [decide_eq_true_eq]
  change (agent.unsortedOids device addresses).Pairwise InOrder ↔ _
  have fixed : ((agent.fixedArcs device addresses).map dotted).Pairwise InOrder := by
    rw [pairwise_map]
    refine (agent.nodup_fixedArcs device addresses).imp_of_mem fun left right distinct => ?_
    exact (inOrder_dotted (agent.fixedArcs_ne_nil device addresses left)
      (agent.fixedArcs_ne_nil device addresses right)).mpr distinct
  have apart : ∀ oid ∈ (agent.fixedArcs device addresses).map dotted,
      ∀ oid' ∈ addresses.ips.keys.map addressOid, InOrder oid oid' := by
    simp only [mem_map]
    rintro _ ⟨arcs, member, rfl⟩ _ ⟨ip, -, rfl⟩
    exact agent.inOrder_fixed_address device addresses member ip
  rw [unsortedOids, pairwise_append, pairwise_map (f := addressOid)]
  simp only [inOrder_addressOid]
  tauto

theorem nodup_sortedOids : (agent.sortedOids device addresses).Nodup := by
  refine (mergeSort_perm _ _).nodup_iff.mpr (nodup_append'.mpr ⟨?_, ?_, ?_⟩)
  · refine List.Nodup.map_on (fun left inLeft right inRight same => ?_)
      (agent.nodup_fixedArcs device addresses)
    exact (dotted_inj (agent.fixedArcs_ne_nil device addresses inLeft)
      (agent.fixedArcs_ne_nil device addresses inRight)).mp same
  · exact addresses.ips.keys_nodup.map addressOid_injective
  · simp only [disjoint_left, mem_map]
    rintro _ ⟨arcs, member, rfl⟩ ⟨ip, -, same⟩
    have numbers := congrArg oidNumbers same
    rw [oidNumbers_addressOid,
      oidNumbers_dotted (agent.fixedArcs_ne_nil device addresses member)] at numbers
    rcases agent.fixedArcs_apart device addresses member with below | above
    · exact absurd numbers (below _).ne'
    · exact absurd numbers (above _).ne

theorem mem_sortedOids : oid ∈ agent.sortedOids device addresses ↔
    (∃ arcs ∈ agent.fixedArcs device addresses, dotted arcs = oid) ∨
      ∃ ip ∈ addresses.ips.keys, addressOid ip = oid := by
  simp [sortedOids, unsortedOids]

theorem root_lt_of_mem (member : oid ∈ agent.sortedOids device addresses) :
    [] < oidNumbers oid := by
  rcases (agent.mem_sortedOids device addresses).mp member with ⟨arcs, inside, rfl⟩ | ⟨ip, -, rfl⟩
  · have nonempty := agent.fixedArcs_ne_nil device addresses inside
    rw [oidNumbers_dotted nonempty]
    obtain ⟨arc, rest, rfl⟩ := exists_cons_of_ne_nil nonempty
    exact nil_lt_cons arc rest
  · rw [oidNumbers_addressOid]
    exact nil_lt_cons _ _

theorem stripDots_of_mem (member : oid ∈ agent.sortedOids device addresses) :
    stripDots oid = oid := by
  rcases (agent.mem_sortedOids device addresses).mp member with ⟨arcs, -, rfl⟩ | ⟨ip, -, rfl⟩
  · exact stripDots_dotted arcs
  · exact stripDots_addressOid ip

end SnmpAgent

/-! ## Bases -/

/-- In so far as the base reaches into the address, its arcs are the numbers of the address
exactly if they are its fields. -/
def ReadAsSpelled (base : List Nat) (ip : String) : Prop :=
  ∀ index, base = ipAdEntAddrArcs ++ index →
    (index.map numeral <+: dotFields ip ↔ index <+: oidNumbers ip)

theorem numerals_prefix_iff (base arcs : List Nat) :
    base.map numeral <+: arcs.map numeral ↔ base <+: arcs := by
  constructor
  · intro front
    simpa [comp_def] using front.map numeralValue
  · exact fun front => front.map numeral

theorem readAsSpelled_dotted (base : List Nat) {octets : List Nat} (nonempty : octets ≠ []) :
    ReadAsSpelled base (dotted octets) := by
  intro index _
  rw [dotFields_dotted nonempty, oidNumbers_dotted nonempty, numerals_prefix_iff]

theorem prefix_append_iff_of_not {α : Type} {base front : List α} (other : ¬ front <+: base)
    (back : List α) : base <+: front ++ back ↔ base <+: front := by
  refine ⟨fun inside => ?_, fun inside => prefix_append_of_prefix inside⟩
  exact ( prefix_or_prefix_of_prefix inside (prefix_append front back)).resolve_right other

theorem under_addressOid_iff (base : List Nat) (ip : String) :
    (base.map numeral <+: dotFields (addressOid ip) ↔ base <+: oidNumbers (addressOid ip)) ↔
      ReadAsSpelled base ip := by
  rw [dotFields_addressOid, oidNumbers_addressOid]
  by_cases reaches : ipAdEntAddrArcs <+: base
  case pos =>
      obtain ⟨index, rfl⟩ := reaches
      rw [map_append, prefix_append_right_inj, prefix_append_right_inj]
      refine ⟨fun same other shape => ?_, fun spelled => spelled index rfl⟩
      rw [← append_cancel_left shape]
      exact same
  case neg =>
      have reaches' : ¬ ipAdEntAddrArcs.map numeral <+: base.map numeral :=
        fun inside => reaches ((numerals_prefix_iff ipAdEntAddrArcs base).mp inside)
      rw [prefix_append_iff_of_not reaches, prefix_append_iff_of_not reaches', numerals_prefix_iff]
      refine iff_of_true Iff.rfl fun index shape => absurd ?_ reaches
      rw [shape]
      exact prefix_append ipAdEntAddrArcs index

/-- An identifier is found under a base as it should be. -/
def FoundUnder (base : List Nat) (oid : String) : Prop :=
  SnmpAgent.isUnder (dotted base) oid = true ↔ base <+: oidNumbers oid

theorem foundUnder_iff {base : List Nat} (nonempty : base ≠ []) (oid : String) :
    FoundUnder base oid ↔ (base.map numeral <+: dotFields oid ↔ base <+: oidNumbers oid) := by
  rw [FoundUnder, isUnder_iff, dotFields_dotted nonempty]

theorem foundUnder_dotted {base arcs : List Nat} (baseNonempty : base ≠ []) (nonempty : arcs ≠ []) :
    FoundUnder base (dotted arcs) := by
  rw [foundUnder_iff baseNonempty, dotFields_dotted nonempty, oidNumbers_dotted nonempty,
    numerals_prefix_iff]

theorem not_foundUnder_root (nonempty : arcs ≠ []) : ¬ FoundUnder [] (dotted arcs) := by
  intro found
  have inside := (isUnder_iff _ _).mp (found.mpr nil_prefix)
  obtain ⟨arc, rest, rfl⟩ := exists_cons_of_ne_nil nonempty
  rw [dotFields_dotted (cons_ne_nil arc rest)] at inside
  have root : dotFields (dotted []) = [[]] := by decide
  rw [root, map_cons, cons_prefix_cons] at inside
  exact numeral_ne_nil arc inside.1.symm

/-- All identifiers are found under a base as they should be if and only if the base is not
the root and the addresses are read as they are spelled. -/
theorem SnmpAgent.foundUnder_all_iff (agent : SnmpAgent) (device : String)
    (addresses : DeviceAddresses) (base : List Nat) :
    (∀ oid ∈ agent.sortedOids device addresses, FoundUnder base oid) ↔
      base ≠ [] ∧ ∀ ip ∈ addresses.ips.keys, ReadAsSpelled base ip := by
  constructor
  · intro all
    have nonempty : base ≠ [] := by
      rintro rfl
      have inside : systemArcs ++ [1, 0] ∈ agent.fixedArcs device addresses := by simp [fixedArcs]
      refine not_foundUnder_root (agent.fixedArcs_ne_nil device addresses inside) (all _ ?_)
      exact (agent.mem_sortedOids device addresses).mpr (.inl ⟨_, inside, rfl⟩)
    refine ⟨nonempty, fun ip member => ?_⟩
    rw [← under_addressOid_iff, ← foundUnder_iff nonempty]
    exact all _ ((agent.mem_sortedOids device addresses).mpr (.inr ⟨ip, member, rfl⟩))
  · rintro ⟨nonempty, spelled⟩ oid member
    rcases (agent.mem_sortedOids device addresses).mp member with ⟨arcs, inside, rfl⟩ | ⟨ip, inside, rfl⟩
    · exact foundUnder_dotted nonempty (agent.fixedArcs_ne_nil device addresses inside)
    · rw [foundUnder_iff nonempty, under_addressOid_iff]
      exact spelled ip inside

/-! ## Requests -/

namespace SnmpAgent

variable {agent : SnmpAgent} {device : String} {addresses : DeviceAddresses} {community : String}

/-- Repeated getnext from an identifier on finds these variables and then no more. -/
inductive Traverses (agent : SnmpAgent) (device : String) (addresses : DeviceAddresses)
    (community : String) : (Nat → Readings) → String → List MibEntry → Prop
  | done {readings : Nat → Readings} {oid : String}
      (none : agent.getnext device addresses (readings 0) oid (some community) = .none) :
      Traverses agent device addresses community readings oid []
  | next {readings : Nat → Readings} {oid : String} {entry : MibEntry} {rest : List MibEntry}
      (found : agent.getnext device addresses (readings 0) oid (some community) = .found entry)
      (later : Traverses agent device addresses community (fun call => readings (call + 1))
        entry.oid rest) :
      Traverses agent device addresses community readings oid (entry :: rest)

/-- The first identifier above another one is what getnext answers. -/
theorem getnext_cases (accepted : agent.auth device community = true) (readings : Readings)
    (oid : String) :
    ((agent.sortedOids device addresses).find? (fun other => oidGt other (stripDots oid)) = none ∧
      agent.getnext device addresses readings oid (some community) = .none) ∨
    ∃ entry, (agent.sortedOids device addresses).find? (fun other => oidGt other (stripDots oid)) =
        some entry.oid ∧
      agent.getnext device addresses readings oid (some community) = .found entry := by
  rw [← agent.map_oid_buildMib device addresses readings, find?_map, getnext,
    if_pos (by simpa using accepted)]
  simp only [comp_def]
  generalize (agent.buildMib device addresses readings).find?
    (fun entry => oidGt entry.oid (stripDots oid)) = search
  cases search with
  | none => exact .inl ⟨rfl, rfl⟩
  | some entry => exact .inr ⟨entry, rfl, rfl⟩

theorem oidGt_iff :
    oidGt first second = true ↔ oidNumbers second < oidNumbers first := decide_eq_true_iff

theorem exists_traverses (accepted : agent.auth device community = true) {current : List Nat}
    {visited : List String}
    (climbs : Climbs oidNumbers (agent.sortedOids device addresses) current visited)
    (from_ : oidNumbers (stripDots oid) = current) (readings : Nat → Readings) :
    ∃ entries, Traverses agent device addresses community readings oid entries ∧
      entries.map MibEntry.oid = visited := by
  have same : ∀ {test : String → Bool} (oid : String),
      (∀ other, test other = true ↔ oidNumbers (stripDots oid) < oidNumbers other) →
      test = fun other => oidGt other (stripDots oid) := fun oid above =>
    funext fun other => Bool.eq_iff_iff.mpr ((above other).trans (oidGt_iff _ _).symm)
  induction climbs generalizing oid readings with
  | done above none =>
    subst from_
    rw [same oid above] at none
    rcases getnext_cases accepted (readings 0) oid with ⟨-, ended⟩ | ⟨entry, found, -⟩
    · exact ⟨[], .done ended, rfl⟩
    · rw [none] at found
      cases found
  | @next current test item rest above found _ ih =>
    subst from_
    rw [same oid above] at found
    rcases getnext_cases accepted (readings 0) oid with ⟨none, -⟩ | ⟨entry, found', answered⟩
    · rw [none] at found
      cases found
    · rw [found] at found'
      obtain rfl := Option.some.inj found'
      have kept := stripDots_of_mem agent device addresses (mem_of_find?_eq_some found)
      obtain ⟨entries, traverses, same⟩ :=
        ih (congrArg oidNumbers kept) fun call => readings (call + 1)
      exact ⟨entry :: entries, .next answered traverses, by rw [map_cons, same]⟩

theorem Traverses.climbs (accepted : agent.auth device community = true) {readings : Nat → Readings}
    {entries : List MibEntry}
    (traverses : Traverses agent device addresses community readings oid entries) :
    Climbs oidNumbers (agent.sortedOids device addresses) (oidNumbers (stripDots oid))
      (entries.map MibEntry.oid) := by
  induction traverses with
  | @done readings oid ended =>
    rcases getnext_cases accepted (readings 0) oid with ⟨none, -⟩ | ⟨entry, -, answered⟩
    · exact .done (fun other => oidGt_iff other _) none
    · rw [ended] at answered
      cases answered
  | @next readings oid entry rest answered _ ih =>
    rcases getnext_cases accepted (readings 0) oid with ⟨-, ended⟩ | ⟨entry', found, answered'⟩
    · rw [answered] at ended
      cases ended
    · obtain rfl : entry = entry' := Reading.found.inj (answered.symm.trans answered')
      rw [stripDots_of_mem agent device addresses (mem_of_find?_eq_some found)] at ih
      exact .next (fun other => oidGt_iff other _) found ih

section

variable (registered : agent.devices device ≠ none) (accepted : agent.auth device community = true)
include registered accepted

variable (readings : Readings) (oid : String)

theorem get_eq_found_iff (entry : MibEntry) :
    agent.get device addresses readings oid community = .found entry ↔
      (agent.buildMib device addresses readings).find? (fun entry =>
        decide (entry.oid = stripDots oid)) = some entry := by
  obtain ⟨record, shown⟩ := Option.ne_none_iff_exists'.mp registered
  rw [get, shown]
  simp only [accepted, if_true]
  cases (agent.buildMib device addresses readings).find? fun entry =>
      decide (entry.oid = stripDots oid) with
  | none => simp
  | some other => simp

theorem get_answers_iff :
    (∃ type value, agent.get device addresses readings oid community = .found ⟨oid, type, value⟩) ↔
      oid ∈ agent.sortedOids device addresses := by
  simp only [get_eq_found_iff registered accepted]
  constructor
  · rintro ⟨type, value, found⟩
    rw [← agent.map_oid_buildMib device addresses readings]
    exact mem_map.mpr ⟨_, mem_of_find?_eq_some found, rfl⟩
  · intro member
    rw [stripDots_of_mem agent device addresses member]
    rw [← agent.map_oid_buildMib device addresses readings] at member
    obtain ⟨entry, inside, rfl⟩ := mem_map.mp member
    cases search : (agent.buildMib device addresses readings).find? fun other =>
        decide (other.oid = entry.oid) with
    | none => exact absurd (find?_eq_none.mp search entry inside) (by simp)
    | some other =>
      have same : other.oid = entry.oid := by simpa using find?_some search
      exact ⟨other.type, other.value, by rw [← same]⟩

theorem get_of_mem {readings : Readings} {entry : MibEntry}
    (member : entry ∈ agent.buildMib device addresses readings) :
    agent.get device addresses readings entry.oid community = .found entry := by
  have distinct := agent.nodup_sortedOids device addresses
  rw [← agent.map_oid_buildMib device addresses readings] at distinct
  have inside : entry.oid ∈ agent.sortedOids device addresses := by
    rw [← agent.map_oid_buildMib device addresses readings]
    exact mem_map_of_mem member
  rw [get_eq_found_iff registered accepted, stripDots_of_mem agent device addresses inside]
  cases search : (agent.buildMib device addresses readings).find? fun other =>
      decide (other.oid = entry.oid) with
  | none => exact absurd (find?_eq_none.mp search entry member) (by simp)
  | some other =>
    have same : other.oid = entry.oid := by simpa using find?_some search
    rw [inj_on_of_nodup_map distinct (mem_of_find?_eq_some search) member same]

theorem walk_eq_found (base : String) : agent.walk device addresses readings base community =
      .found ((agent.buildMib device addresses readings).filter fun entry =>
        isUnder (stripDots base) entry.oid) := by
  obtain ⟨record, shown⟩ := Option.ne_none_iff_exists'.mp registered
  rw [walk, shown]
  simp [accepted]

end

theorem map_oid_walk (agent : SnmpAgent) (device : String) (addresses : DeviceAddresses)
    (readings : Readings) (base : String) :
    ((agent.buildMib device addresses readings).filter fun entry =>
        isUnder base entry.oid).map MibEntry.oid =
      (agent.sortedOids device addresses).filter fun oid => isUnder base oid := by
  rw [← agent.map_oid_buildMib device addresses readings, filter_map]
  rfl

/-! ## Enumeration -/

/-- A sequence is what repeated getnext visits from the root, whatever is read in between: the
identifiers under which get answers, each once, in increasing order; and a walk finds the part
of it under a base, with the values that get answers. -/
structure Enumerates (agent : SnmpAgent) (device : String) (addresses : DeviceAddresses)
    (community : String) (base : List Nat) (sequence : List String) : Prop where
  visits : ∀ readings, ∃ entries, Traverses agent device addresses community readings "" entries ∧
      entries.map MibEntry.oid = sequence
  once : sequence.Nodup
  answered : ∀ readings oid, oid ∈ sequence ↔ ∃ type value,
    agent.get device addresses readings oid community = .found ⟨oid, type, value⟩
  increasing : sequence.Pairwise fun first second => oidNumbers first < oidNumbers second
  walked : ∀ readings dots, ∃ entries,
    agent.walk device addresses readings (baseText dots base) community = .found entries ∧
      entries.map MibEntry.oid = sequence.filter (fun oid => decide (base <+: oidNumbers oid)) ∧
      ∀ entry ∈ entries, agent.get device addresses readings entry.oid community = .found entry

section

variable {base : List Nat} {sequence : List String} (accepted : agent.auth device community = true)
  (registered : agent.devices device ≠ none) (readings : Readings)
  (enumerates : Enumerates agent device addresses community base sequence)
include accepted registered readings enumerates

/-- The only sequence that can be visited is the one that climbs the sorted identifiers. -/
theorem Enumerates.sorted : sequence = agent.sortedOids device addresses := by
  obtain ⟨entries, traverses, same⟩ := enumerates.visits fun _ => readings
  have climbs := traverses.climbs accepted
  rw [same, climbs_iff] at climbs
  have part : sequence.Sublist (agent.sortedOids device addresses) := by
    rw [climbs]
    exact climb_sublist _ _
  refine part.eq_of_length_le ?_
  refine ((agent.nodup_sortedOids device addresses).subperm fun oid member => ?_).length_le
  rw [enumerates.answered readings, get_answers_iff registered accepted]
  exact member

theorem Enumerates.found_under (member : oid ∈ agent.sortedOids device addresses) :
    FoundUnder base oid := by
  obtain rfl := enumerates.sorted accepted registered readings
  obtain ⟨entries, walked, same, -⟩ := enumerates.walked readings 0
  rw [walk_eq_found registered accepted, stripDots_baseText, Reading.found.injEq] at walked
  rw [← walked, map_oid_walk] at same
  have inside := congrArg (oid ∈ ·) same
  simpa [member, FoundUnder] using inside

end

/-- A clock that stands still and counters at zero. -/
def idleReadings : Readings := ⟨0, 0, [], fun _ => 0, fun _ => 0⟩

/-- Repeated getnext and a walk agree with get if and only if the base is not the root, the
addresses are sorted as they are compared, and the base reads them as they are spelled. -/
theorem enumerates_iff (agent : SnmpAgent) (device : String) (addresses : DeviceAddresses)
    (community : String) (registered : agent.devices device ≠ none)
    (accepted : agent.auth device community = true) (base : List Nat) :
    (∃ sequence, Enumerates agent device addresses community base sequence) ↔
      base ≠ [] ∧ addresses.ips.keys.Pairwise InOrder ∧
        ∀ ip ∈ addresses.ips.keys, ReadAsSpelled base ip := by
  have found := agent.foundUnder_all_iff device addresses base
  rw [and_left_comm, ← found, ← agent.pairwise_sortedOids_iff]
  constructor
  · rintro ⟨sequence, enumerates⟩
    have under : ∀ oid ∈ agent.sortedOids device addresses, FoundUnder base oid :=
      fun oid => enumerates.found_under accepted registered idleReadings
    obtain rfl := enumerates.sorted accepted registered idleReadings
    exact ⟨enumerates.increasing, under⟩
  · rintro ⟨increasing, under⟩
    have all : climb oidNumbers [] (agent.sortedOids device addresses) =
        agent.sortedOids device addresses :=
      (climb_eq_self_iff fun oid member => agent.root_lt_of_mem device addresses member).mpr
        increasing
    have climbs : Climbs oidNumbers (agent.sortedOids device addresses) []
        (agent.sortedOids device addresses) := climbs_iff.mpr all.symm
    refine ⟨agent.sortedOids device addresses, exists_traverses accepted climbs (by decide),
      agent.nodup_sortedOids device addresses,
      fun readings oid => (get_answers_iff registered accepted readings oid).symm, increasing,
      fun readings dots => ?_⟩
    refine ⟨_, walk_eq_found registered accepted readings _, ?_, fun entry member =>
      get_of_mem registered accepted (mem_filter.mp member).1⟩
    rw [stripDots_baseText, map_oid_walk]
    refine filter_congr fun oid member => Bool.eq_iff_iff.mpr ?_
    rw [decide_eq_true_iff]
    exact under oid member

/-! ## A router in the lab -/

/-- A router whose interfaces have these addresses. -/
def labAddresses (first second : String) : DeviceAddresses :=
  ⟨(OrderedMap.empty.insert "GigabitEthernet0/0" ⟨first, 24⟩).insert "GigabitEthernet0/1"
    ⟨second, 24⟩⟩

def labAgent : SnmpAgent :=
  SnmpAgent.register ⟨fun _ => none⟩ "R1" "cisco" "R1" "" "" "public" [] []

/-- The MIB of the router is enumerated, and a walk finds the addresses that begin with ten. -/
theorem labAgent_enumerates :
    ∃ sequence, Enumerates labAgent "R1" (labAddresses "10.0.0.1" "9.0.0.1") "public"
      (ipAdEntAddrArcs ++ [10]) sequence := by
  have spelled : ∀ ip ∈ (labAddresses "10.0.0.1" "9.0.0.1").ips.keys,
      ReadAsSpelled (ipAdEntAddrArcs ++ [10]) ip := by
    have keys : (labAddresses "10.0.0.1" "9.0.0.1").ips.keys =
        [[10, 0, 0, 1], [9, 0, 0, 1]].map dotted := by decide +kernel
    rw [keys]
    simp [readAsSpelled_dotted]
  exact (enumerates_iff labAgent "R1" (labAddresses "10.0.0.1" "9.0.0.1") "public"
    (by decide +kernel) (by decide +kernel) (ipAdEntAddrArcs ++ [10])).mpr
      ⟨by decide, by decide +kernel, spelled⟩

/-- A walk of the root finds nothing, and of two spellings of one address repeated getnext
visits only one. -/
theorem labAgent_not_enumerates :
    (¬ ∃ sequence, Enumerates labAgent "R1" (labAddresses "10.0.0.1" "9.0.0.1") "public" []
        sequence) ∧
      ¬ ∃ sequence, Enumerates labAgent "R1" (labAddresses "10.0.0.1" "10.0.0.01") "public"
        ipAdEntAddrArcs sequence := by
  have registered : labAgent.devices "R1" ≠ none := by decide +kernel
  have accepted : labAgent.auth "R1" "public" = true := by decide +kernel
  constructor
  · rintro ⟨sequence, enumerates⟩
    have under := (labAgent.foundUnder_all_iff "R1" _ []).mp fun oid =>
      enumerates.found_under accepted registered idleReadings
    exact under.1 rfl
  · rintro ⟨sequence, enumerates⟩
    obtain rfl := enumerates.sorted accepted registered idleReadings
    have inOrder := (labAgent.pairwise_sortedOids_iff "R1" _).mp enumerates.increasing
    have collision : ¬ (labAddresses "10.0.0.1" "10.0.0.01").ips.keys.Pairwise InOrder := by
      decide +kernel
    exact collision inOrder

end SnmpAgent

end NetLab.Snmp
