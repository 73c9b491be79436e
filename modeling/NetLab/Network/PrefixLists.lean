import NetLab.Library.Execution
import NetLab.Library.LeadingBits
import NetLab.Network.Addresses
import NetLab.Network.VirtualNetwork

/-!
# What prefix lists mean

Prefix lists as they are edited and tried. The entries of a list stand in the order of their
sequence numbers, and an entry is to match the subnets of its network whose length its range admits.
An entry with a range does not compare the length of a route with its own, so it also matches
shorter routes; a list means what it says exactly for the routes that no such entry takes.
-/

namespace NetLab.Network

open NetLab.Library NetLab.Execution List DeviceFilters

/-! ## Editing -/

/-- Edits of the prefix lists of a device. -/
inductive FilterEdit where
  | addPrefixList (name : String) (action : FilterAction) (network : String) (prefixLength : Nat)
      (seq ge le : Option Nat)
  | clearPrefixList (name : String)

/-- The sequence number of a new entry, five after the last one unless it is given. -/
def nextSeq (entries : List PrefixListEntry) (seq : Option Nat) : Nat :=
  seq.getD ((entries.map PrefixListEntry.seq).foldl max 0 + 5)

/-- `add_prefix_list` and `clear_prefix_list`. -/
def DeviceFilters.edit (filters : DeviceFilters) : FilterEdit → DeviceFilters
  | .addPrefixList name action network prefixLength seq ge le =>
    let entries := (filters.prefixLists.lookup name).getD []
    let entry : PrefixListEntry :=
      { seq := nextSeq entries seq, action, network, prefixLength, ge, le }
    { filters with
      prefixLists := filters.prefixLists.insert name
        ((entries ++ [entry]).insertionSort fun left right => left.seq ≤ right.seq) }
  | .clearPrefixList name => { filters with prefixLists := filters.prefixLists.erase name }

/-- Entries of a list in the order in which they were added since it was last cleared. -/
def insertionOrder (name : String) (edits : List FilterEdit) : List PrefixListEntry :=
  edits.foldl (fun entries edit =>
    match edit with
    | .addPrefixList other action network prefixLength seq ge le =>
      if other = name then
        entries ++ [{ seq := nextSeq entries seq, action, network, prefixLength, ge, le }]
      else entries
    | .clearPrefixList other => if other = name then [] else entries) []

/-! ## Meaning -/

namespace PrefixListEntry

variable (entry : PrefixListEntry) (destination : Prefix)

def SharesBits : Prop :=
  ∃ route listed, ipToInt destination.network = some route ∧ ipToInt entry.network = some listed ∧
    leadingBits 32 entry.prefixLength route = leadingBits 32 entry.prefixLength listed

/-- The length of the route is in the range of the entry. -/
def Admits : Prop :=
  (∀ bound, entry.ge = some bound → bound ≤ destination.length) ∧
    ∀ bound, entry.le = some bound → destination.length ≤ bound

def HasRange : Prop := entry.ge ≠ none ∨ entry.le ≠ none

/-- An entry is to match the subnets of its network whose length its range admits, and only its own
length without a range. -/
def Matches : Prop :=
  (entry.prefixLength ≤ destination.length ∧ entry.SharesBits destination) ∧
    entry.Admits destination ∧ (¬ entry.HasRange → destination.length = entry.prefixLength)

/-- An entry with a range takes a route that is shorter than the entry. -/
def Overreaches : Prop :=
  destination.length < entry.prefixLength ∧ entry.prefixLength ≤ 32 ∧ entry.HasRange ∧
    entry.SharesBits destination ∧ entry.Admits destination

end PrefixListEntry

/-- A list that holds what was added, in the order of the sequence numbers, whose entries match what
they are to match, and whose first matching entry decides. -/
structure DecidesInSequence (filters : DeviceFilters) (name : String)
    (added entries : List PrefixListEntry) (destination : Prefix) : Prop where
  complete : entries.Perm added
  sorted : entries.Pairwise fun left right => left.seq ≤ right.seq
  matching : ∀ entry ∈ entries,
    matchEntry entry destination.network destination.length = true ↔ entry.Matches destination
  decision : filters.checkPrefixList name destination.network destination.length = true ↔
    ∃ front entry back, entries = front ++ entry :: back ∧
      (∀ earlier ∈ front, ¬ earlier.Matches destination) ∧
      entry.Matches destination ∧ entry.action = .permit

/-! ## Lists after edits -/

theorem nextSeq_perm {left right : List PrefixListEntry} (same : left.Perm right)
    (seq : Option Nat) : nextSeq left seq = nextSeq right seq := by
  unfold nextSeq
  rw [(same.map PrefixListEntry.seq).foldl_eq 0]

/-- What edits leave of a list: the entries added since it was cleared, in sequence order. -/
def Holds (filters : DeviceFilters) (name : String) (added : List PrefixListEntry) : Prop :=
  ((filters.prefixLists.lookup name).getD []).Perm added ∧
    ((filters.prefixLists.lookup name).getD []).Pairwise fun left right => left.seq ≤ right.seq

theorem holds_after_edits (name : String) (edits : List FilterEdit) :
    Holds (runFrom edit {} edits) name (insertionOrder name edits) := by
  suffices general : ∀ (edits : List FilterEdit) (filters : DeviceFilters)
      (added : List PrefixListEntry), Holds filters name added →
      Holds (runFrom edit filters edits) name (edits.foldl (fun entries edit =>
        match edit with
        | .addPrefixList other action network prefixLength seq ge le =>
          if other = name then
            entries ++ [{ seq := nextSeq entries seq, action, network, prefixLength, ge, le }]
          else entries
        | .clearPrefixList other => if other = name then [] else entries) added) by
    exact general edits {} [] ⟨by simp, by simp⟩
  intro edits
  induction edits with
  | nil => exact fun _ _ holds => holds
  | cons edit rest ih =>
    intro filters added holds
    rw [runFrom_cons, foldl_cons]
    refine ih _ _ ?_
    obtain ⟨perm, sorted⟩ := holds
    cases edit with
    | addPrefixList other action network prefixLength seq ge le =>
      by_cases same : other = name
      · subst same
        simp only [Holds, edit, OrderedMap.lookup_insert_self, Option.getD_some, if_true]
        constructor
        · refine (perm_insertionSort _ _).trans ?_
          rw [nextSeq_perm perm]
          exact perm.append_right _
        · exact pairwise_insertionSort _ _
      · simp only [Holds, edit, if_neg same, OrderedMap.lookup_insert_of_ne _ _ (Ne.symm same)]
        exact ⟨perm, sorted⟩
    | clearPrefixList other =>
      simp only [Holds, edit, OrderedMap.lookup_erase]
      by_cases same : other = name
      · simp [same]
      · simpa [same, Ne.symm same] using ⟨perm, sorted⟩

/-! ## Matching -/

theorem prefixMask_eq (length : Nat) : prefixMask length = leadingMask 32 length := rfl

variable {entry : PrefixListEntry} {destination : Prefix}

theorem admits_iff : entry.Admits destination ↔
      entry.ge.all (fun bound => bound ≤ destination.length) = true ∧
        entry.le.all (fun bound => destination.length ≤ bound) = true := by
  unfold PrefixListEntry.Admits
  cases entry.ge <;> cases entry.le <;> simp

theorem matchEntry_iff : matchEntry entry destination.network destination.length = true ↔
      entry.prefixLength ≤ 32 ∧ entry.SharesBits destination ∧ entry.Admits destination ∧
        (¬ entry.HasRange → destination.length = entry.prefixLength) := by
  have ranged : (entry.ge.isSome || entry.le.isSome ||
      destination.length == entry.prefixLength) = true ↔
      (¬ entry.HasRange → destination.length = entry.prefixLength) := by
    unfold PrefixListEntry.HasRange
    cases entry.ge <;> cases entry.le <;> simp
  rw [← ranged, admits_iff]
  unfold matchEntry PrefixListEntry.SharesBits
  by_cases long : 32 < entry.prefixLength
  · simp [long, Nat.not_le.mpr long]
  · rw [if_neg long]
    cases ipToInt destination.network with
    | none => simp
    | some route =>
      cases ipToInt entry.network with
      | none => simp
      | some listed =>
        have masks : route &&& prefixMask entry.prefixLength =
            listed &&& prefixMask entry.prefixLength ↔
            leadingBits 32 entry.prefixLength route = leadingBits 32 entry.prefixLength listed := by
          rw [prefixMask_eq]
          exact and_leadingMask_eq_iff
        unfold prefixMask at masks
        simp only [Bool.and_eq_true, beq_iff_eq, masks, Option.some.injEq, exists_and_left,
          exists_eq_left', Nat.le_of_not_lt long, true_and, and_assoc]

theorem matchEntry_iff_matches (valid : destination.length ≤ 32) :
    (matchEntry entry destination.network destination.length = true ↔ entry.Matches destination) ↔
      ¬ entry.Overreaches destination := by
  rw [matchEntry_iff]
  constructor
  · rintro same ⟨shorter, word, range, bits, admitted⟩
    have wanted := same.mp ⟨word, bits, admitted, fun none => absurd range none⟩
    exact Nat.not_le.mpr shorter wanted.1.1
  · intro within
    constructor
    · rintro ⟨word, bits, admitted, exact'⟩
      refine ⟨⟨?_, bits⟩, admitted, exact'⟩
      by_contra longer
      have range : entry.HasRange := by
        by_contra none
        exact longer (exact' none).ge
      exact within ⟨Nat.lt_of_not_le longer, word, range, bits, admitted⟩
    · rintro ⟨⟨longer, bits⟩, admitted, exact'⟩
      exact ⟨longer.trans valid, bits, admitted, exact'⟩

theorem find?_eq_some_iff_split {Item : Type} {test : Item → Bool} {items : List Item}
    {item : Item} : items.find? test = some item ↔ ∃ front back, items = front ++ item :: back ∧
      (∀ earlier ∈ front, ¬ test earlier = true) ∧ test item = true := by
  rw [find?_eq_some_iff_append]
  constructor
  · rintro ⟨passes, front, back, rfl, fails⟩
    exact ⟨front, back, rfl, fun earlier member => by simpa using fails earlier member, passes⟩
  · rintro ⟨front, back, rfl, fails, passes⟩
    exact ⟨passes, front, back, rfl, fun earlier member => by simpa using fails earlier member⟩

theorem checkPrefixList_iff {filters : DeviceFilters} {name : String}
    {entries : List PrefixListEntry} (found : filters.prefixLists.lookup name = some entries)
    (destination : Prefix) :
    filters.checkPrefixList name destination.network destination.length = true ↔
      ∃ front entry back, entries = front ++ entry :: back ∧ (∀ earlier ∈ front,
          ¬ matchEntry earlier destination.network destination.length = true) ∧
        matchEntry entry destination.network destination.length = true ∧
        entry.action = .permit := by
  unfold checkPrefixList
  simp only [found]
  cases first : entries.find? fun entry =>
      matchEntry entry destination.network destination.length with
  | none =>
    simp only [Bool.false_eq_true, false_iff]
    rintro ⟨front, entry, back, rfl, -, passes, -⟩
    exact find?_eq_none.mp first entry (mem_append_right _ mem_cons_self) passes
  | some entry =>
    simp only [beq_iff_eq]
    constructor
    · intro permits
      obtain ⟨front, back, split, fails, passes⟩ := find?_eq_some_iff_split.mp first
      exact ⟨front, entry, back, split, fails, passes, permits⟩
    · rintro ⟨front, other, back, split, fails, passes, permits⟩
      have same := find?_eq_some_iff_split.mpr ⟨front, back, split, fails, passes⟩
      obtain rfl : other = entry := Option.some.inj (same.symm.trans first)
      exact permits

/-- After any edits a list means what its entries say for a route if and only if none of them has a
range and takes the route although it is shorter than the entry. -/
theorem decidesInSequence_iff (edits : List FilterEdit) (name : String)
    (entries : List PrefixListEntry) (destination : Prefix)
    (found : (runFrom edit {} edits).prefixLists.lookup name = some entries)
    (valid : destination.length ≤ 32) :
    DecidesInSequence (runFrom edit {} edits) name (insertionOrder name edits) entries destination ↔
      ∀ entry ∈ entries, ¬ entry.Overreaches destination := by
  have holds := holds_after_edits name edits
  simp only [Holds, found, Option.getD_some] at holds
  constructor
  · intro decides entry member
    exact (matchEntry_iff_matches valid).mp (decides.matching entry member)
  · intro within
    have matching : ∀ entry ∈ entries,
        matchEntry entry destination.network destination.length = true ↔
          entry.Matches destination :=
      fun entry member => (matchEntry_iff_matches valid).mpr (within entry member)
    refine ⟨holds.1, holds.2, matching, ?_⟩
    rw [checkPrefixList_iff found]
    constructor
    · rintro ⟨front, entry, back, rfl, fails, passes, permits⟩
      refine ⟨front, entry, back, rfl, fun earlier member => ?_, ?_, permits⟩
      · rw [← matching earlier (mem_append_left _ member)]
        exact fails earlier member
      · exact (matching entry (mem_append_right _ mem_cons_self)).mp passes
    · rintro ⟨front, entry, back, rfl, fails, passes, permits⟩
      refine ⟨front, entry, back, rfl, fun earlier member => ?_, ?_, permits⟩
      · rw [matching earlier (mem_append_left _ member)]
        exact fails earlier member
      · exact (matching entry (mem_append_right _ mem_cons_self)).mpr passes

/-- Two entries that are added against their sequence, tried with a subnet of the first one. -/
theorem sixteen_within_eight : DecidesInSequence (runFrom edit {}
        [.addPrefixList "LAN" .deny "0.0.0.0" 0 (some 10) none (some 32),
          .addPrefixList "LAN" .permit "10.0.0.0" 8 (some 5) none (some 16)])
      "LAN"
      [⟨10, .deny, "0.0.0.0", 0, none, some 32⟩, ⟨5, .permit, "10.0.0.0", 8, none, some 16⟩]
      [⟨5, .permit, "10.0.0.0", 8, none, some 16⟩, ⟨10, .deny, "0.0.0.0", 0, none, some 32⟩]
      ⟨"10.1.0.0", 16⟩ := by
  refine (decidesInSequence_iff [.addPrefixList "LAN" .deny "0.0.0.0" 0 (some 10) none (some 32),
      .addPrefixList "LAN" .permit "10.0.0.0" 8 (some 5) none (some 16)]
    "LAN" _ ⟨"10.1.0.0", 16⟩ rfl (by decide)).mpr ?_
  rintro entry member ⟨shorter, -⟩
  fin_cases member <;> simp at shorter

/-- A list for the subnets of 10.0.0.0/16 up to /24 permits 10.0.0.0/8. -/
theorem eight_passes_sixteen : ¬ DecidesInSequence (runFrom edit {}
        [.addPrefixList "LAN" .permit "10.0.0.0" 16 none none (some 24)])
      "LAN" [⟨5, .permit, "10.0.0.0", 16, none, some 24⟩]
      [⟨5, .permit, "10.0.0.0", 16, none, some 24⟩] ⟨"10.0.0.0", 8⟩ := by
  intro decides
  have address : ipToInt "10.0.0.0" = some 0x0a000000 :=
    ipToInt_of_fields (a := 10) (b := 0) (c := 0) (d := 0) 9 (by decide +kernel)
  have taken : matchEntry ⟨5, .permit, "10.0.0.0", 16, none, some 24⟩ "10.0.0.0" 8 = true := by
    simp [matchEntry, address]
  have found : (runFrom edit {}
      [.addPrefixList "LAN" .permit "10.0.0.0" 16 none none (some 24)]).prefixLists.lookup "LAN" =
      some [⟨5, .permit, "10.0.0.0", 16, none, some 24⟩] := rfl
  have permitted := (checkPrefixList_iff found ⟨"10.0.0.0", 8⟩).mpr
    ⟨[], _, [], rfl, nofun, taken, rfl⟩
  obtain ⟨front, entry, back, split, -, wanted, -⟩ := decides.decision.mp permitted
  obtain rfl : entry = ⟨5, .permit, "10.0.0.0", 16, none, some 24⟩ := by
    have member : entry ∈ front ++ entry :: back := mem_append_right _ mem_cons_self
    rw [← split] at member
    exact mem_singleton.mp member
  exact absurd wanted.1.1 (by decide)

end NetLab.Network
