import NetLab.Cli.ChannelGroups

/-!
# Capture of staged files

A file is staged line by line in a mode of its own. A line gets there after it is trimmed, looked at
for a question mark, spelled out and checked, so it is captured as it is exactly if none of that
does anything to it.
-/

namespace NetLab.Cli

open NetLab.Library NetLab.Config NetLab.Execution Pattern
open OrderedMap

section StagedFiles

variable {Other : Type} (base : Handlers (Switch Other))

/-- A file is staged, which only some types of devices do. -/
structure Staging (device : Device (Switch Other)) : Prop where
  mode : device.mode = "config-tftp-file"
  deviceType : device.deviceType ∈ ["cisco", "catalyst", "srs"]

/-- Exactly the line is added to the staged file, and nothing else changes. -/
def Verbatim (device : Device (Switch Other)) (line : String) : Prop :=
  give base device line = { device with rest := captureLine line device }

/-- The group is there as a `channel-group` command would store it, and its interface is
connected. -/
structure Stored (channel : Nat × String) (switch : Switch Other) : Prop where
  listed : Listed channel switch
  connected : ∃ settings, switch.interfaces.lookup (portChannel channel.1) = some settings ∧
    settings.lookup "status" = some (.text "connected")

/-- What happens to a command before it is captured does nothing to the line. -/
structure Untouched (device : Device (Switch Other)) (line : String) : Prop where
  commands : Commands line
  spelledOut : commandOf base line device = line
  stays : comparedForm base line ∉ ["exit", "end", "quit"]
  accepted : validateCommand base.letters device.deviceType device.mode (comparedForm base line) =
    none
  stored : ∀ channel, joins base line device = some channel → Stored channel device.rest

/-! ## Groups that are stored -/

variable {base} {device : Device (Switch Other)}

theorem joinChannel_eq_iff (channel : Nat × String) :
    joinChannel channel device = device.rest ↔ Stored channel device.rest := by
  constructor
  · intro same
    refine ⟨(joinChannel_groups_iff channel).mp (congrArg Switch.channelGroups same), ?_⟩
    have interfaces := congrArg Switch.interfaces same
    cases found : device.rest.interfaces.lookup (portChannel channel.1) with
    | none =>
      have stored : (joinChannel channel device).interfaces.lookup (portChannel channel.1) ≠
          none := by
        rw [joinChannel, lookup_insert_self]
        exact Option.some_ne_none _
      rw [interfaces] at stored
      exact absurd found stored
    | some settings =>
      have stored : (joinChannel channel device).interfaces.lookup (portChannel channel.1) =
          some (settings.insert "status" (.text "connected")) := by
        rw [joinChannel, lookup_insert_self]
        simp only [found]
      rw [interfaces, found] at stored
      refine ⟨settings, rfl, ?_⟩
      rw [Option.some.inj stored, lookup_insert_self]
  · rintro ⟨listed, settings, found, connected⟩
    have groups := (joinChannel_groups_iff channel).mpr listed
    have interfaces : (joinChannel channel device).interfaces = device.rest.interfaces := by
      simp only [joinChannel, found]
      rw [insert_of_lookup connected, insert_of_lookup found]
    calc
      joinChannel channel device = { device.rest with
            channelGroups := (joinChannel channel device).channelGroups
            interfaces := (joinChannel channel device).interfaces } := rfl
      _ = device.rest := by rw [groups, interfaces]

/-! ## One line -/

theorem Staging.not_vendor (staging : Staging device) : device.deviceType ∉ vendorTypes := by
  have apart : ∀ deviceType ∈ ["cisco", "catalyst", "srs"], deviceType ∉ vendorTypes := by
    decide +kernel
  exact apart _ staging.deviceType

theorem runValid_captures (staging : Staging device) (command : String) {c : String}
    (stays : c ∉ ["exit", "end", "quit"]) :
    (runValid (switchHandlers base) command c device).2 =
      { device with rest := captureLine command device } := by
  have ends : c ≠ "end" := fun same => stays (by rw [same]; decide)
  have family : device.mode ≠ "config-bgp-af" := by
    rw [staging.mode]
    decide
  rw [runValid, if_neg staging.not_vendor, transition, if_neg fun both => ends both.1,
    if_neg fun either => either.elim stays fun both => family both.2, if_pos staging.mode]
  rfl

theorem runValid_leaves (staging : Staging device) (command : String) {c : String}
    (leaves : c ∈ ["exit", "end", "quit"]) :
    (runValid (switchHandlers base) command c device).2.mode ≠ "config-tftp-file" := by
  have parent : exitMode "config-tftp-file" = "config" := by decide +kernel
  rw [runValid, if_neg staging.not_vendor, transition]
  split
  · have other : "exec" ≠ "config-tftp-file" := by decide
    exact other
  · rw [if_pos (.inl leaves)]
    change exitMode device.mode ≠ "config-tftp-file"
    rw [staging.mode, parent]
    decide

theorem captured_eq_iff {command line : String} {switch : Switch Other}
    (files : switch.tftpFiles = device.rest.tftpFiles)
    (file : switch.tftpFile = device.rest.tftpFile) :
    captureLine command { device with rest := switch } = captureLine line device ↔
      command = line ∧ switch = device.rest := by
  constructor
  · intro same
    have stored := congrArg
      (fun after => after.tftpFiles.lookup (device.rest.tftpFile.getD "")) same
    simp only [captureLine, files, file, lookup_insert_self, Option.some.injEq,
      List.append_cancel_left_eq, List.cons.injEq, and_true] at stored
    refine ⟨stored, ?_⟩
    have interfaces := congrArg Switch.interfaces same
    have groups := congrArg Switch.channelGroups same
    have current := congrArg Switch.currentIf same
    have other := congrArg Switch.other same
    dsimp only [captureLine] at interfaces groups current other
    cases switch
    simp_all
  · rintro ⟨rfl, rfl⟩
    rfl

theorem captureLine_ne (line : String) : captureLine line device ≠ device.rest := by
  intro same
  have stored := congrArg
    (fun after => (after.tftpFiles.lookup (device.rest.tftpFile.getD "")).map List.length) same
  simp only [captureLine, lookup_insert_self] at stored
  cases found : device.rest.tftpFiles.lookup (device.rest.tftpFile.getD "") with
  | none => simp [found] at stored
  | some content => simp [found] at stored

theorem not_verbatim_of_kept {line : String} (kept : give base device line = device) :
    ¬ Verbatim base device line := by
  intro verbatim
  have rest := congrArg Device.rest (kept.symm.trans verbatim)
  exact captureLine_ne line rest.symm

/-- What a branch is given after the check: the files are the same, and the rest is the same exactly
if no group was stored anew. -/
theorem give_of_valid {line : String} (commands : Commands line)
    (valid : validateCommand base.letters device.deviceType device.mode
      (spelled base line device) = none) :
    ∃ switch : Switch Other,
      give base device line = (runValid (switchHandlers base) (commandOf base line device)
        (spelled base line device) { device with rest := switch }).2 ∧
      switch.tftpFiles = device.rest.tftpFiles ∧ switch.tftpFile = device.rest.tftpFile ∧
      (switch = device.rest ↔
        ∀ channel, joins base line device = some channel → Stored channel device.rest) := by
  cases stores : joins base line device with
  | none =>
    refine ⟨device.rest, ?_, rfl, rfl, iff_of_true rfl nofun⟩
    rw [give, process_of_valid commands valid, groupJoined_of_none commands valid stores]
  | some channel =>
    refine ⟨joinChannel channel device, ?_, rfl, rfl, ?_⟩
    · rw [give, process_of_joins stores]
    · rw [joinChannel_eq_iff]
      constructor
      · rintro stored _ same
        cases same
        exact stored
      · exact fun all => all channel rfl

/-- A line is captured as it is exactly if nothing is done to it. -/
theorem verbatim_iff (staging : Staging device) (line : String) :
    Verbatim base device line ↔ Untouched base device line := by
  by_cases commands : Commands line
  swap
  · obtain ⟨text, kept⟩ := process_of_not_commands (switchHandlers base) commands device
    refine iff_of_false (not_verbatim_of_kept ?_) fun untouched => commands untouched.commands
    rw [give, kept]
    rfl
  cases valid : validateCommand base.letters device.deviceType device.mode
      (spelled base line device) with
  | some error =>
    obtain ⟨text, kept⟩ := process_of_error commands valid
    refine iff_of_false (not_verbatim_of_kept ?_) fun untouched => ?_
    · rw [give, kept]
      rfl
    · rw [spelled, untouched.spelledOut, untouched.accepted] at valid
      cases valid
  | none =>
    obtain ⟨switch, given, files, file, unstored⟩ := give_of_valid commands valid
    have staged : Staging { device with rest := switch } := ⟨staging.mode, staging.deviceType⟩
    by_cases leaves : spelled base line device ∈ ["exit", "end", "quit"]
    · refine iff_of_false (fun verbatim => ?_) fun untouched => untouched.stays ?_
      · refine @runValid_leaves _ base _ staged (commandOf base line device) _ leaves ?_
        rw [← given, verbatim]
        exact staging.mode
      · rw [spelled, untouched.spelledOut] at leaves
        exact leaves
    · have captured : Verbatim base device line ↔
          captureLine (commandOf base line device) { device with rest := switch } =
            captureLine line device := by
        rw [Verbatim, given, runValid_captures staged _ leaves]
        exact ⟨congrArg Device.rest, fun same => by rw [same]⟩
      rw [captured, captured_eq_iff files file, unstored]
      constructor
      · rintro ⟨spelledOut, stored⟩
        rw [spelled, spelledOut] at leaves valid
        exact ⟨commands, spelledOut, leaves, valid, stored⟩
      · exact fun untouched => ⟨untouched.spelledOut, untouched.stored⟩

/-! ## Runs -/

/-- Lines are captured as they are throughout a session exactly if nothing is done to any. -/
theorem captures_iff (staging : Staging device) (lines : List String) :
    Along (give base) (Verbatim base) device lines ↔
      Along (give base) (Untouched base) device lines := by
  refine along_congr_of_kept ?_ ?_ staging lines
  · intro device line staging verbatim
    rw [verbatim]
    exact ⟨staging.mode, staging.deviceType⟩
  · exact fun device line staging => verbatim_iff staging line

end StagedFiles

/-! ## A server -/

instance {Other : Type} [DecidableEq Other] (base : Handlers (Switch Other))
    (device : Device (Switch Other)) (line : String) : Decidable (Verbatim base device line) :=
  inferInstanceAs (Decidable (_ = _))

/-- A router that stages a file. -/
def tftpServer : Device (Switch Unit) :=
  ⟨"config-tftp-file", "cisco", none, none,
    ⟨.empty, .empty, none, some "branch.cfg", .insert .empty "branch.cfg" [], ()⟩⟩

theorem tftpServer_staging : Staging tftpServer := ⟨rfl, List.mem_cons_self⟩

theorem hostname_captured : Along (give silentBase) (Verbatim silentBase) tftpServer
      ["hostname branch1", "no ip domain-lookup"] := by
  refine (captures_iff tftpServer_staging _).mpr ⟨?_, ?_, trivial⟩
  · refine ⟨by decide +kernel, by decide +kernel, by decide +kernel, by decide +kernel, ?_⟩
    have unstored : joins silentBase "hostname branch1" tftpServer = none := by decide +kernel
    rw [unstored]
    exact nofun
  · refine ⟨by decide +kernel, by decide +kernel, by decide +kernel, by decide +kernel, ?_⟩
    have unstored : joins silentBase "no ip domain-lookup"
        (give silentBase tftpServer "hostname branch1") = none := by decide +kernel
    rw [unstored]
    exact nofun

theorem indented_line_trimmed : ¬ Along (give silentBase) (Verbatim silentBase) tftpServer
      ["interface GigabitEthernet0/0/1", " description uplink", " ip address dhcp"] := by
  rintro ⟨-, verbatim, -⟩
  exact absurd verbatim (by decide +kernel)

end NetLab.Cli
