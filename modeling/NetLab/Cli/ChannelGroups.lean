import NetLab.Cli.Dispatch
import NetLab.Cli.Switch
import NetLab.Library.Execution

/-!
# Channel groups of an interface

The check of a command stores a channel group before any branch takes the command, in whatever mode
the device is. An interface gets into two groups, and groups change outside the configuration of an
interface, exactly if a command that is not tidy is given.
-/

namespace NetLab.Cli

open List Option

open NetLab.Library NetLab.Config NetLab.Execution Pattern

variable {line : String} {channel : Nat × String}

/-! ## What is promised -/

section Promises

variable {Other : Type} (base : Handlers (Switch Other)) (physical : String → Bool)

def Exclusive (groups : OrderedMap Nat ChannelGroup) : Prop :=
  ∀ name, physical name = true → ∀ first firstGroup second secondGroup,
    groups.lookup first = some firstGroup → name ∈ firstGroup.members →
    groups.lookup second = some secondGroup → name ∈ secondGroup.members → first = second

/-- The reply tells of an error: it is neither empty nor that of `configure`. -/
def Reply.rejects : Reply → Prop
  | .text content =>
    content ≠ "" ∧ content ≠ "Enter configuration commands, one per line.  End with CNTL/Z."
  | .configuration _ => False

/-- The line selects an interface or moves between modes, or it is a `channel-group` command. -/
def InScope (line : String) (device : Device (Switch Other)) : Prop :=
  (device.deviceType ∈ iosTypes ∧ channelGroup base.letters (spelled base line device) ≠ none) ∨
    (device.deviceType ∉ vendorTypes ∧ transition (switchHandlers base)
      (commandOf base line device) (spelled base line device) device ≠ none)

/-- A line keeps the order of the groups. -/
structure Orderly (device : Device (Switch Other)) (line : String) : Prop where
  exclusive : Exclusive physical (give base device line).rest.channelGroups
  outside : Commands line → channelGroup base.letters (spelled base line device) ≠ none →
    device.mode ≠ "config-if" →
    (give base device line).rest.channelGroups = device.rest.channelGroups
  rejected : InScope base line device → (process (switchHandlers base) line device).1.rejects →
    (give base device line).rest.channelGroups = device.rest.channelGroups ∧
      (give base device line).rest.interfaces = device.rest.interfaces

/-! ## What it takes -/

/-- The group that the check of a line stores. -/
def joins (line : String) (device : Device (Switch Other)) : Option (Nat × String) :=
  if Commands line ∧ device.deviceType ∈ iosTypes ∧
      validateCommand base.letters device.deviceType device.mode (spelled base line device) = none
    then channelGroup base.letters (spelled base line device)
  else none

/-- The group has the mode, and the selected interface is a member. -/
def Listed (channel : Nat × String) (switch : Switch Other) : Prop :=
  ∃ group, switch.channelGroups.lookup channel.1 = some group ∧ group.mode = channel.2 ∧
    ∀ name, switch.currentIf = some name → name ≠ "" → name ∈ group.members

/-- A group is stored in the configuration of an interface only, unless it is there as it would be
stored, and the selected interface, if it is physical, is a member of no other group. -/
structure Tidy (device : Device (Switch Other)) (line : String) : Prop where
  inside : ∀ channel, joins base line device = some channel →
    device.mode = "config-if" ∨ Listed channel device.rest
  alone : ∀ channel, joins base line device = some channel → ∀ name,
    device.rest.currentIf = some name → name ≠ "" → physical name = true →
    ∀ id group, device.rest.channelGroups.lookup id = some group → name ∈ group.members →
      id = channel.1

/-- An IOS device is in a mode that the rule engine knows. -/
def Placed (device : Device (Switch Other)) : Prop :=
  device.deviceType ∈ iosTypes → device.mode ∈ "exec" :: configModes

/-- What the other branches leave alone: none of them stores a channel group or leaves the modes of
the rule engine, and the one for configuration takes `channel-group` commands without a word. -/
structure Bounded : Prop where
  vendor : ∀ command device,
    (base.vendor command device).2.rest.channelGroups = device.rest.channelGroups
  config : ∀ command device,
    (base.config command device).2.rest.channelGroups = device.rest.channelGroups
  shownBefore : ∀ command device outcome, base.shownBefore command device = some outcome →
    outcome.2.channelGroups = device.rest.channelGroups
  shownAfter : ∀ command device,
    (base.shownAfter command device).2.channelGroups = device.rest.channelGroups
  software : ∀ command device outcome, base.software command device = some outcome →
    outcome.2.channelGroups = device.rest.channelGroups
  ping : ∀ command device, (base.ping command device).2.channelGroups = device.rest.channelGroups
  traceroute : ∀ command device,
    (base.traceroute command device).2.channelGroups = device.rest.channelGroups
  clearTraffic : ∀ device, (base.clearTraffic device).channelGroups = device.rest.channelGroups
  vendorPlaced : ∀ command device, device.deviceType ∈ vendorTypes →
    Placed (base.vendor command device).2
  configPlaced : ∀ command device, Placed device → Placed (base.config command device).2
  configJoins : ∀ command device, channelGroup base.letters (comparedForm base command) ≠ none →
    (base.config command device).1 = ""

end Promises

/-! ## The branches -/

section Proofs

variable {Other : Type} {base : Handlers (Switch Other)} {physical : String → Bool}
  {device : Device (Switch Other)}

/-- The groups are the same, and the device stays in the modes of the rule engine. -/
structure Keeps (device : Device (Switch Other)) (outcome : Reply × Device (Switch Other)) :
    Prop where
  groups : outcome.2.rest.channelGroups = device.rest.channelGroups
  placed : Placed device → Placed outcome.2

/-- Besides, the interfaces are the same if the reply tells of an error. -/
structure Moves (device : Device (Switch Other)) (outcome : Reply × Device (Switch Other)) : Prop
    extends Keeps device outcome where
  interfaces : outcome.1.rejects → outcome.2.rest.interfaces = device.rest.interfaces

variable {letters : Letters} {c command : String} (text : String)

theorem keeps_kept : Keeps device (device.kept text) := ⟨rfl, id⟩

theorem keeps_told {outcome : String × Switch Other}
    (groups : outcome.2.channelGroups = device.rest.channelGroups) :
    Keeps device (device.told outcome) := ⟨groups, id⟩

theorem moves_kept : Moves device (device.kept text) :=
  ⟨keeps_kept text, fun _ => rfl⟩

theorem not_rejects_empty : ¬ (Reply.text "").rejects := fun rejects => rejects.1 rfl

theorem exitMode_placed : ∀ mode ∈ "exec" :: configModes, exitMode mode ∈ "exec" :: configModes := by
  decide +kernel

theorem moves_entered {mode : String} (known : mode ∈ "exec" :: configModes) (command : String) :
    Moves device (entered (switchHandlers base) mode command device) := by
  rw [entered]
  by_cases selects : mode = "config-if"
  · refine ⟨⟨?_, fun _ _ => known⟩, fun rejects => absurd rejects ?_⟩
    · simp [switchHandlers, selects, cmdInterface]
    · simpa [switchHandlers, selects] using not_rejects_empty
  · exact ⟨⟨by simp [switchHandlers, selects], fun _ _ => known⟩,
      fun _ => by simp [switchHandlers, selects]⟩

theorem submodeOf_known {mode : String}
    (below : submodeOf (switchHandlers base) c device = some mode) :
    mode ∈ "exec" :: configModes := by
  have listed : ∀ mode ∈ ["config-vlan", "config-bba", "config-evpn", "config-l2vpn-evpn",
      "config-vlan-config", "config-bgp-af"], mode ∈ "exec" :: configModes := by decide +kernel
  refine listed mode ?_
  simp only [submodeOf] at below
  repeat' split at below
  all_goals cases below
  all_goals simp

theorem moves_transition {outcome : Reply × Device (Switch Other)}
    (taken : transition (switchHandlers base) command c device = some outcome) :
    Moves device outcome := by
  have silent : ∀ after : Device (Switch Other), Keeps device (.text "", after) →
      Moves device (.text "", after) := fun _ keeps =>
    ⟨keeps, fun rejects => absurd rejects not_rejects_empty⟩
  rw [transition] at taken
  split at taken
  · cases taken
    exact silent _ ⟨rfl, fun _ _ => mem_cons_self⟩
  split at taken
  · cases taken
    exact silent _ ⟨rfl, fun placed types => exitMode_placed _ (placed types)⟩
  split at taken
  · cases taken
    exact silent _ ⟨rfl, id⟩
  split at taken
  · cases taken
    exact ⟨⟨rfl, fun _ _ => mem_cons_of_mem _ mem_cons_self⟩, fun rejects => absurd rfl rejects.2⟩
  split at taken
  · cases taken
    exact moves_kept _
  split at taken
  · cases taken
    exact moves_entered (by decide +kernel) command
  split at taken
  · split at taken
    · cases taken
      exact moves_kept _
    · cases taken
      exact moves_entered (by decide +kernel) command
  · obtain ⟨mode, below, rfl⟩ := map_eq_some_iff.mp taken
    exact moves_entered (submodeOf_known below) command

section

variable (bounded : Bounded base)
include bounded

theorem keeps_cmdShow (command : String) :
    Keeps device (cmdShow (switchHandlers base) command device) := by
  rw [cmdShow]
  split
  · rename_i outcome shown
    exact keeps_told (bounded.shownBefore command device outcome shown)
  split
  · exact ⟨rfl, id⟩
  · exact keeps_told (bounded.shownAfter command device)

theorem keeps_cmdDo (command : String) :
    Keeps device (cmdDo (switchHandlers base) command device) := by
  rw [cmdDo]
  split
  · exact keeps_cmdShow bounded _
  split
  · exact keeps_told (bounded.ping _ device)
  split
  · exact keeps_told (bounded.traceroute _ device)
  split
  · exact keeps_kept _
  · exact keeps_kept _

theorem keeps_display {outcome : Reply × Device (Switch Other)}
    (shown : display (switchHandlers base) command c device = some outcome) :
    Keeps device outcome := by
  rw [display] at shown
  split at shown
  · rename_i told found
    obtain rfl := Option.some.inj shown
    split at found
    · exact keeps_told (bounded.software command device told found)
    · exact absurd found (some_ne_none _).symm
  split at shown
  · obtain rfl := Option.some.inj shown
    exact keeps_cmdShow bounded command
  split at shown
  · obtain rfl := Option.some.inj shown
    exact keeps_cmdDo bounded command
  · exact absurd shown (some_ne_none _).symm

theorem keeps_config (command : String) :
    Keeps device (.text (base.config command device).1, (base.config command device).2) :=
  ⟨bounded.config command device, bounded.configPlaced command device⟩

theorem keeps_operate (command c : String) :
    Keeps device (operate (switchHandlers base) command c device) := by
  rw [operate]
  split
  · exact keeps_told (bounded.clearTraffic device)
  split
  · exact keeps_config bounded command
  split
  · rename_i outcome told
    exact keeps_told (bounded.software command device outcome told)
  split
  · exact keeps_told (bounded.ping command device)
  split
  · exact keeps_told (bounded.traceroute command device)
  repeat' split
  all_goals first
    | exact keeps_kept _
    | exact keeps_config bounded command

/-- No branch stores a group. -/
theorem keeps_runValid (command c : String) :
    Keeps device (runValid (switchHandlers base) command c device) := by
  rw [runValid]
  split
  · rename_i ownSystem
    exact ⟨bounded.vendor command device, fun _ => bounded.vendorPlaced command device ownSystem⟩
  cases moved : transition (switchHandlers base) command c device with
  | some outcome => exact (moves_transition moved).toKeeps
  | none =>
    cases shown : display (switchHandlers base) command c device with
    | some outcome => exact keeps_display bounded shown
    | none => exact keeps_operate bounded command c

end

/-! ## One line -/

theorem process_of_error (commands : Commands line) {error : CommandError}
    (invalid : validateCommand base.letters device.deviceType device.mode
      (spelled base line device) = some error) :
    ∃ text, process (switchHandlers base) line device = device.kept text := by
  have refused : validateCommand (switchHandlers base).letters device.deviceType device.mode
      (spelled (switchHandlers base) line device) = some error := invalid
  rw [process_of_commands _ commands, refused]
  exact ⟨_, rfl⟩

section

variable (commands : Commands line)
  (valid : validateCommand base.letters device.deviceType device.mode (spelled base line device) = none)
include commands valid

theorem process_of_valid : process (switchHandlers base) line device =
      runValid (switchHandlers base) (commandOf base line device) (spelled base line device)
        (groupJoined (switchHandlers base) (spelled base line device) device) := by
  have accepted : validateCommand (switchHandlers base).letters device.deviceType device.mode
      (spelled (switchHandlers base) line device) = none := valid
  rw [process_of_commands _ commands, accepted]
  rfl

theorem groupJoined_of_none (unstored : joins base line device = none) :
    groupJoined (switchHandlers base) (spelled base line device) device = device := by
  rw [groupJoined]
  split
  · rename_i channel found
    refine if_neg fun ios => ?_
    rw [joins, if_pos ⟨commands, ios, valid⟩] at unstored
    cases unstored.symm.trans found
  · rfl

end

/-- A line whose check stores no group. -/
theorem keeps_of_not_joins (bounded : Bounded base) (unstored : joins base line device = none) :
    Keeps device (process (switchHandlers base) line device) := by
  by_cases commands : Commands line
  swap
  · obtain ⟨text, kept⟩ := process_of_not_commands (switchHandlers base) commands device
    rw [kept]
    exact keeps_kept text
  cases valid : validateCommand base.letters device.deviceType device.mode
      (spelled base line device) with
  | some error =>
    obtain ⟨text, kept⟩ := process_of_error commands valid
    rw [kept]
    exact keeps_kept text
  | none =>
    rw [process_of_valid commands valid, groupJoined_of_none commands valid unstored]
    exact keeps_runValid bounded _ _

theorem groups_of_not_joins (bounded : Bounded base) (unstored : joins base line device = none) :
    (give base device line).rest.channelGroups = device.rest.channelGroups := by
  rw [give]
  exact (keeps_of_not_joins bounded unstored).groups

theorem process_of_joins (stores : joins base line device = some channel) :
    process (switchHandlers base) line device =
      runValid (switchHandlers base) (commandOf base line device) (spelled base line device)
        { device with rest := joinChannel channel device } := by
  rw [joins] at stores
  split at stores
  swap
  · cases stores
  rename_i checked
  have joined : groupJoined (switchHandlers base) (spelled base line device) device =
      { device with rest := joinChannel channel device } := by
    have found : channelGroup (switchHandlers base).letters (spelled base line device) =
        some channel := stores
    rw [groupJoined, found]
    exact if_pos checked.2.1
  rw [process_of_valid checked.1 checked.2.2, joined]

theorem groups_of_joins (bounded : Bounded base) (stores : joins base line device = some channel) :
    (give base device line).rest.channelGroups = (joinChannel channel device).channelGroups := by
  rw [give, process_of_joins stores]
  exact (keeps_runValid bounded _ _).groups

theorem placed_give (bounded : Bounded base) (placed : Placed device) (line : String) :
    Placed (give base device line) := by
  cases stores : joins base line device with
  | none => exact (keeps_of_not_joins bounded stores).placed placed
  | some channel =>
    rw [give, process_of_joins stores]
    exact (keeps_runValid bounded _ _).placed placed

/-! ## Groups -/

theorem lookup_joinChannel (channel : Nat × String) (id : Nat) :
    (joinChannel channel device).channelGroups.lookup id = if id = channel.1 then
        some (((device.rest.channelGroups.lookup channel.1).getD ⟨channel.2, []⟩).joined channel.2
          device.rest.currentIf)
      else device.rest.channelGroups.lookup id :=
  OrderedMap.lookup_insert _ _ _ _

theorem joinChannel_groups_iff (channel : Nat × String) :
    (joinChannel channel device).channelGroups = device.rest.channelGroups ↔
      Listed channel device.rest := by
  constructor
  · intro same
    have stored := @lookup_joinChannel _ device channel channel.1
    rw [same, if_pos rfl] at stored
    exact ⟨_, stored, rfl, fun name selected solid =>
      ChannelGroup.mem_joined_iff.mpr (.inr ⟨selected, solid⟩)⟩
  · rintro ⟨group, found, mode, members⟩
    have same : group.joined channel.2 device.rest.currentIf = group := by
      obtain ⟨groupMode, groupMembers⟩ := group
      subst mode
      cases selected : device.rest.currentIf with
      | none => rfl
      | some name =>
        have inside : ¬ (name ≠ "" ∧ name ∉ groupMembers) := fun both =>
          both.2 (members name selected both.1)
        simp only [ChannelGroup.joined, if_neg inside]
    have kept : (joinChannel channel device).channelGroups =
        device.rest.channelGroups.insert channel.1 group := by
      simp only [joinChannel, found, getD_some, same]
    rw [kept, OrderedMap.insert_of_lookup found]

theorem mem_joinChannel_iff {id : Nat} {name : String} :
    (∃ group, (joinChannel channel device).channelGroups.lookup id = some group ∧
        name ∈ group.members) ↔
      (∃ group, device.rest.channelGroups.lookup id = some group ∧ name ∈ group.members) ∨
        (id = channel.1 ∧ device.rest.currentIf = some name ∧ name ≠ "") := by
  rw [lookup_joinChannel]
  by_cases same : id = channel.1
  swap
  · simp [same]
  subst same
  simp only [if_true, Option.some.injEq, exists_eq_left', ChannelGroup.mem_joined_iff, true_and]
  refine or_congr_left ?_
  cases device.rest.channelGroups.lookup channel.1 with
  | none => simp
  | some group => simp

/-! ## Channel-group commands -/

theorem starts_of_channelGroup (group : channelGroup letters c ≠ none) :
    "channel-group".toList <+: c.toList := by
  have matched : isMatch (seq [exact "channel-group", blanks]) c = true := by
    refine decide_eq_true fun empty => group ?_
    rw [channelGroup, numberAfter, empty]
    rfl
  exact starts_of_isMatch matched

theorem foreign_of_channelGroup (group : channelGroup letters c ≠ none) : Foreign commandStarts c :=
  foreign_of_start (starts_of_channelGroup group) (by decide +kernel)

/-- In a configuration mode nothing is replied to a `channel-group` command. -/
theorem reply_of_starts (bounded : Bounded base)
    (group : channelGroup base.letters (comparedForm base command) ≠ none)
    (ordinary : device.deviceType ∉ vendorTypes) (configuring : device.mode ∈ configModes) :
    (runValid (switchHandlers base) command (comparedForm base command) device).1 = .text "" := by
  have foreign := foreign_of_channelGroup group
  by_cases staged : device.mode = "config-tftp-file"
  · rw [runValid, if_neg ordinary, transition_of_foreign foreign, if_pos staged]
    rfl
  · rw [runValid_of_foreign foreign command ordinary configuring staged]
    exact congrArg Reply.text (bounded.configJoins command device group)

/-- In mode `exec` the check refuses `channel-group` commands. -/
theorem validateCommand_exec {deviceType : String} (group : channelGroup letters c ≠ none)
    (ios : deviceType ∈ iosTypes) : validateCommand letters deviceType "exec" c ≠ none := by
  have starts := starts_of_channelGroup group
  have only : configOnlyCommands.any (startsWith c) = true :=
    any_eq_true.mpr ⟨"channel-group", by decide +kernel, isPrefixOf_iff_prefix.mpr starts⟩
  have letter : isSpace 'c' = false := by decide
  have visible : words c ≠ [] := words_ne_nil (starts.subset (by decide)) letter
  rw [validateCommand]
  split
  · contradiction
  dsimp only
  split
  · exact some_ne_none _
  split
  · exact some_ne_none _
  split
  · exact some_ne_none _
  rw [if_pos ⟨rfl, ios, only, (foreign_of_channelGroup group).not_mem (by decide +kernel)⟩]
  exact some_ne_none _

/-! ## Runs -/

theorem joins_iff : joins base line device = some channel ↔
      (Commands line ∧ device.deviceType ∈ iosTypes ∧ validateCommand base.letters
        device.deviceType device.mode (spelled base line device) = none) ∧
        channelGroup base.letters (spelled base line device) = some channel := by
  rw [joins]
  split
  · rename_i checked
    exact (and_iff_right checked).symm
  · rename_i unchecked
    exact iff_of_false (some_ne_none _).symm fun both => unchecked both.1

theorem not_vendor_of_ios {deviceType : String} (ios : deviceType ∈ iosTypes) :
    deviceType ∉ vendorTypes := by
  have apart : ∀ deviceType ∈ iosTypes, deviceType ∉ vendorTypes := by decide +kernel
  exact apart deviceType ios

theorem reply_of_joins (bounded : Bounded base) (placed : Placed device)
    (stores : joins base line device = some channel) :
    (process (switchHandlers base) line device).1 = .text "" := by
  obtain ⟨⟨-, ios, valid⟩, found⟩ := joins_iff.mp stores
  have group : channelGroup base.letters (comparedForm base (commandOf base line device)) ≠ none :=
    fun missing => some_ne_none _ (found.symm.trans missing)
  have configuring : device.mode ∈ configModes := by
    refine (mem_cons.mp (placed ios)).resolve_left fun exec => ?_
    rw [exec] at valid
    exact validateCommand_exec group ios valid
  rw [process_of_joins stores]
  exact reply_of_starts bounded group (not_vendor_of_ios ios) configuring

theorem unchanged_of_rejects (bounded : Bounded base) (placed : Placed device)
    (scope : InScope base line device)
    (rejects : (process (switchHandlers base) line device).1.rejects) :
    (give base device line).rest.channelGroups = device.rest.channelGroups ∧
      (give base device line).rest.interfaces = device.rest.interfaces := by
  cases stores : joins base line device with
  | some channel =>
    rw [reply_of_joins bounded placed stores] at rejects
    exact absurd rejects not_rejects_empty
  | none =>
    refine ⟨groups_of_not_joins bounded stores, ?_⟩
    rw [give]
    by_cases commands : Commands line
    swap
    · obtain ⟨text, kept⟩ := process_of_not_commands (switchHandlers base) commands device
      rw [kept]
      rfl
    cases valid : validateCommand base.letters device.deviceType device.mode
        (spelled base line device) with
    | some error =>
      obtain ⟨text, kept⟩ := process_of_error commands valid
      rw [kept]
      rfl
    | none =>
      rcases scope with ⟨ios, group⟩ | ⟨ordinary, moves⟩
      · obtain ⟨channel, found⟩ := ne_none_iff_exists'.mp group
        rw [joins_iff.mpr ⟨⟨commands, ios, valid⟩, found⟩] at stores
        cases stores
      · obtain ⟨outcome, moved⟩ := ne_none_iff_exists'.mp moves
        have taken : process (switchHandlers base) line device = outcome := by
          rw [process_of_valid commands valid, groupJoined_of_none commands valid stores,
            runValid, if_neg ordinary, moved]
          rfl
        rw [taken] at rejects ⊢
        exact (moves_transition moved).interfaces rejects

/-- Storing a group keeps the groups apart exactly if the selected interface, if it is physical, is
a member of no other group. -/
theorem exclusive_joinChannel_iff (exclusive : Exclusive physical device.rest.channelGroups) :
    Exclusive physical (joinChannel channel device).channelGroups ↔
      ∀ name, device.rest.currentIf = some name → name ≠ "" → physical name = true →
        ∀ id group, device.rest.channelGroups.lookup id = some group → name ∈ group.members →
          id = channel.1 := by
  constructor
  · intro after name selected solid isPhysical id group found member
    obtain ⟨left, leftFound, leftMember⟩ :=
      mem_joinChannel_iff.mpr (.inl ⟨group, found, member⟩ :
        _ ∨ (id = channel.1 ∧ device.rest.currentIf = some name ∧ name ≠ ""))
    obtain ⟨right, rightFound, rightMember⟩ :=
      mem_joinChannel_iff.mpr (.inr ⟨rfl, selected, solid⟩ :
        (∃ group, device.rest.channelGroups.lookup channel.1 = some group ∧
          name ∈ group.members) ∨ _)
    exact after name isPhysical id left channel.1 right leftFound leftMember rightFound rightMember
  · intro alone name isPhysical first firstGroup second secondGroup found member found' member'
    rcases mem_joinChannel_iff.mp ⟨firstGroup, found, member⟩ with
      ⟨old, oldFound, oldMember⟩ | ⟨isFirst, selected, solid⟩
    · rcases mem_joinChannel_iff.mp ⟨secondGroup, found', member'⟩ with
        ⟨other, otherFound, otherMember⟩ | ⟨isSecond, selected, solid⟩
      · exact exclusive name isPhysical first old second other oldFound oldMember otherFound
          otherMember
      · exact (alone name selected solid isPhysical first old oldFound oldMember).trans
          isSecond.symm
    · rcases mem_joinChannel_iff.mp ⟨secondGroup, found', member'⟩ with
        ⟨other, otherFound, otherMember⟩ | ⟨isSecond, -⟩
      · exact isFirst.trans
          (alone name selected solid isPhysical second other otherFound otherMember).symm
      · exact isFirst.trans isSecond.symm

/-- The state before a line: groups are apart, and the mode is one of the rule engine's. -/
structure Ordered (physical : String → Bool) (device : Device (Switch Other)) : Prop where
  exclusive : Exclusive physical device.rest.channelGroups
  placed : Placed device

theorem orderly_iff_tidy (bounded : Bounded base) (ordered : Ordered physical device)
    (line : String) : Orderly base physical device line ↔ Tidy base physical device line := by
  cases stores : joins base line device with
  | none =>
    have same := groups_of_not_joins bounded stores
    refine iff_of_true ⟨?_, fun _ _ _ => same, unchanged_of_rejects bounded ordered.placed⟩ ⟨?_, ?_⟩
    · rw [same]
      exact ordered.exclusive
    · intro channel stored
      cases stores.symm.trans stored
    · intro channel stored
      cases stores.symm.trans stored
  | some channel =>
    obtain ⟨⟨commands, -, -⟩, found⟩ := joins_iff.mp stores
    have group : channelGroup base.letters (spelled base line device) ≠ none := fun missing =>
      some_ne_none _ (found.symm.trans missing)
    have groups := groups_of_joins bounded stores
    constructor
    · intro orderly
      constructor
      · intro stored same
        cases stores.symm.trans same
        by_cases configuring : device.mode = "config-if"
        · exact .inl configuring
        · exact .inr ((joinChannel_groups_iff channel).mp
            (groups.symm.trans (orderly.outside commands group configuring)))
      · intro stored same
        cases stores.symm.trans same
        exact (exclusive_joinChannel_iff ordered.exclusive).mp (groups ▸ orderly.exclusive)
    · intro tidy
      refine ⟨?_, fun _ _ outside => ?_, unchanged_of_rejects bounded ordered.placed⟩
      · rw [groups]
        exact (exclusive_joinChannel_iff ordered.exclusive).mpr (tidy.alone channel stores)
      · exact groups.trans ((joinChannel_groups_iff channel).mpr
          ((tidy.inside channel stores).resolve_left outside))

theorem ordered_give (bounded : Bounded base) (ordered : Ordered physical device)
    (orderly : Orderly base physical device line) : Ordered physical (give base device line) :=
  ⟨orderly.exclusive, placed_give bounded ordered.placed line⟩

/-- Groups stay in order throughout a session exactly if every line is tidy. -/
theorem groups_orderly_iff (bounded : Bounded base) (placed : Placed device)
    (exclusive : Exclusive physical device.rest.channelGroups) (lines : List String) :
    Along (give base) (Orderly base physical) device lines ↔
      Along (give base) (Tidy base physical) device lines := by
  have start : Ordered physical device := ⟨exclusive, placed⟩
  refine along_congr_of_kept ?_ ?_ start lines
  · exact fun _ _ ordered orderly => ordered_give bounded ordered orderly
  · exact fun _ line ordered => orderly_iff_tidy bounded ordered line

theorem tidy_of_not_joins (unstored : joins base line device = none) :
    Tidy base physical device line := by
  constructor
  · intro channel stores
    cases unstored.symm.trans stores
  · intro channel stores
    cases unstored.symm.trans stores

end Proofs

/-! ## A switch -/

theorem silentBase_bounded : Bounded silentBase where
  vendor _ _ := rfl
  config _ _ := rfl
  shownBefore _ _ _ shown := (some_ne_none _ shown.symm).elim
  shownAfter _ _ := rfl
  software _ _ _ shown := (some_ne_none _ shown.symm).elim
  ping _ _ := rfl
  traceroute _ _ := rfl
  clearTraffic _ := rfl
  vendorPlaced _ _ ownSystem ios := absurd ownSystem (not_vendor_of_ios ios)
  configPlaced _ _ := id
  configJoins _ _ _ := rfl

def portSwitch (mode : String) (groups : OrderedMap Nat ChannelGroup)
    (currentIf : Option String) : Device (Switch Unit) :=
  ⟨mode, "catalyst", none, none,
    ⟨.insert .empty "GigabitEthernet1/0/1" (Settings.ofList [("status", .text "down")]), groups,
      currentIf, none, .empty, ()⟩⟩

def isGigabit (name : String) : Bool := startsWith name "GigabitEthernet"

theorem exclusive_empty (physical : String → Bool) : Exclusive physical .empty :=
  fun _ _ _ _ _ _ found => absurd found.symm (some_ne_none _)

theorem portSwitch_configure :
    give silentBase (portSwitch "exec" .empty none) "configure terminal" =
      portSwitch "config" .empty none := by
  decide +kernel

theorem portSwitch_select :
    give silentBase (portSwitch "config" .empty none) "interface GigabitEthernet1/0/1" =
      portSwitch "config-if" .empty "GigabitEthernet1/0/1" := by
  decide +kernel

theorem one_group_orderly :
    Along (give silentBase) (Orderly silentBase isGigabit) (portSwitch "exec" .empty none)
      ["configure terminal", "interface GigabitEthernet1/0/1", "channel-group 1 mode active"] := by
  have placed : Placed (portSwitch "exec" .empty none) := fun _ => mem_cons_self
  refine (groups_orderly_iff silentBase_bounded placed (exclusive_empty _) _).mpr ?_
  rw [Along, Along, Along, portSwitch_configure, portSwitch_select]
  refine ⟨tidy_of_not_joins (by decide +kernel), tidy_of_not_joins (by decide +kernel), ⟨?_, ?_⟩,
    trivial⟩
  · exact fun _ _ => .inl rfl
  · exact fun _ _ _ _ _ _ _ _ found => absurd found.symm (some_ne_none _)

theorem two_groups_unordered :
    ¬ Along (give silentBase) (Orderly silentBase isGigabit) (portSwitch "exec" .empty none)
      ["configure terminal", "interface GigabitEthernet1/0/1", "channel-group 1 mode active",
        "exit", "channel-group 2 mode on"] := by
  rw [Along, Along, portSwitch_configure, portSwitch_select]
  rintro ⟨-, -, -, -, orderly, -⟩
  have first := orderly.exclusive "GigabitEthernet1/0/1" (by decide +kernel) 1
    ⟨"active", ["GigabitEthernet1/0/1"]⟩ 2 ⟨"on", ["GigabitEthernet1/0/1"]⟩ (by decide +kernel)
    mem_cons_self (by decide +kernel) mem_cons_self
  exact absurd first (by decide)

end NetLab.Cli
