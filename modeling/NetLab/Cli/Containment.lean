import NetLab.Cli.Sessions

/-!
# Containment of sessions without privileges

A session stays in mode `exec` and does not see the configuration, exactly if none of its lines has
a spelling that is let through and that the rule engine spells out to a privileged command.
-/

namespace NetLab.Cli

open NetLab.Library NetLab.Execution NetLab.Config Pattern List Bool Session

/-! ## One command -/

section Proofs

variable {Rest : Type} {handlers : Handlers Rest} {device : Device Rest}

/-- The device speaks like an IOS router or switch and is in mode `exec`. -/
structure InExec (device : Device Rest) : Prop where
  mode : device.mode = "exec"
  deviceType : device.deviceType ∈ ["cisco", "catalyst"]

theorem InExec.not_configMode (inExec : InExec device) : device.mode ∉ configModes := by
  rw [inExec.mode]
  decide +kernel

theorem InExec.mode_ne (inExec : InExec device) {mode : String} (other : "exec" ≠ mode) :
    device.mode ≠ mode := by
  rw [inExec.mode]
  exact other

theorem InExec.type_not_mem (inExec : InExec device) {types : List String}
    (others : "cisco" ∉ types ∧ "catalyst" ∉ types) : device.deviceType ∉ types := by
  rcases mem_pair.mp inExec.deviceType with same | same
  · rw [same]
    exact others.1
  · rw [same]
    exact others.2

/-- The device keeps what matters for later commands, and the configuration is not shown. -/
structure Quiet (device : Device Rest) (outcome : Reply × Device Rest) : Prop where
  mode : outcome.2.mode = device.mode
  deviceType : outcome.2.deviceType = device.deviceType
  enableSecret : outcome.2.enableSecret = device.enableSecret
  enablePassword : outcome.2.enablePassword = device.enablePassword
  discloses : outcome.1.discloses = false

theorem quiet_kept (text : String) : Quiet device (device.kept text) := ⟨rfl, rfl, rfl, rfl, rfl⟩

theorem quiet_told (outcome : String × Rest) : Quiet device (device.told outcome) :=
  ⟨rfl, rfl, rfl, rfl, rfl⟩

/-- In mode `exec` there is no way out. -/
theorem quiet_cmdExit (exec : device.mode = "exec") : Quiet device (cmdExit handlers device) := by
  refine ⟨?_, rfl, rfl, rfl, rfl⟩
  change exitMode device.mode = device.mode
  rw [exec]
  decide +kernel

theorem submodeOf_exec (exec : device.mode = "exec") (c : String) :
    submodeOf handlers c device = none := by
  simp [submodeOf, exec]

theorem configures_eq (deviceType : device.deviceType ∈ ["cisco", "catalyst"]) (c : String) :
    configures device.deviceType c = configures "cisco" c := by
  rcases mem_pair.mp deviceType with same | same
  all_goals rw [same]
  rfl

variable {command c : String} (line : String)

/-- Branches that move between modes take no command that enters no mode, up to those that stay. -/
theorem transition_quiet (inExec : InExec device) (stays : entersConfiguration c = false)
    (command : String) {outcome : Reply × Device Rest}
    (taken : transition handlers command c device = some outcome) : Quiet device outcome := by
  simp only [entersConfiguration, or_eq_false_iff] at stays
  obtain ⟨⟨noConfigure, noInterface⟩, noRouter⟩ := stays
  rw [transition, if_neg fun both => inExec.not_configMode both.2] at taken
  split at taken
  · rw [← Option.some.inj taken]
    exact quiet_cmdExit inExec.mode
  rw [if_neg (inExec.mode_ne (by decide)), configures_eq inExec.deviceType, noConfigure, if_neg Bool.false_ne_true] at taken
  split at taken
  · rw [← Option.some.inj taken]
    exact quiet_kept _
  · rw [noInterface, noRouter, if_neg Bool.false_ne_true, if_neg Bool.false_ne_true,
      submodeOf_exec inExec.mode] at taken
    cases taken

theorem cmdShow_quiet (asks : asksConfiguration handlers (comparedForm handlers command) = false) :
    Quiet device (cmdShow handlers command device) := by
  simp only [asksConfiguration, or_eq_false_iff, decide_eq_false_iff_not] at asks
  rw [cmdShow]
  split
  · exact quiet_told _
  · rw [if_neg]
    · exact quiet_told _
    · rintro (pattern | listed)
      · exact Bool.false_ne_true (asks.1.symm.trans pattern)
      · exact asks.2 listed

theorem cmdDo_quiet (asks : startsWith (comparedForm handlers (afterDo command)) "show " = true →
      asksConfiguration handlers (comparedForm handlers (afterDo command)) = false) :
    Quiet device (cmdDo handlers command device) := by
  rw [cmdDo]
  split
  · rename_i isShow
    exact cmdShow_quiet (asks isShow)
  split
  · exact quiet_told _
  split
  · exact quiet_told _
  split
  · exact quiet_kept _
  · exact quiet_kept _

theorem display_quiet (form : comparedForm handlers command = c)
    (hides : showsConfiguration handlers command c = false) {outcome : Reply × Device Rest}
    (taken : display handlers command c device = some outcome) : Quiet device outcome := by
  rw [display] at taken
  split at taken
  · rw [← Option.some.inj taken]
    exact quiet_told _
  simp only [showsConfiguration, or_eq_false_iff] at hides
  split at taken
  · rename_i isShow
    rw [isShow, Bool.true_and] at hides
    rw [← Option.some.inj taken]
    exact cmdShow_quiet (form ▸ hides.1)
  split at taken
  · rename_i isDo
    rw [← Option.some.inj taken]
    refine cmdDo_quiet fun isShow => ?_
    have second := hides.2
    rwa [isDo.1, isShow, Bool.true_and, Bool.true_and] at second
  · cases taken

theorem operate_quiet (inExec : InExec device) (command c : String) :
    Quiet device (operate handlers command c device) := by
  rw [operate]
  split
  · exact quiet_told _
  rw [if_neg inExec.not_configMode]
  split
  · exact quiet_told _
  split
  · exact quiet_told _
  split
  · exact quiet_told _
  split
  · exact quiet_kept _
  split
  · exact quiet_kept _
  split
  · exact quiet_kept _
  split
  · exact quiet_kept _
  rw [if_neg fun both => inExec.type_not_mem (by decide) both.1]
  exact quiet_kept _

theorem runValid_quiet (inExec : InExec device) (form : comparedForm handlers command = c)
    (stays : entersConfiguration c = false)
    (hides : showsConfiguration handlers command c = false) :
    Quiet device (runValid handlers command c device) := by
  rw [runValid, if_neg (inExec.type_not_mem (by decide))]
  cases moved : transition handlers command c device with
  | some outcome => exact transition_quiet inExec stays command moved
  | none =>
    cases shown : display handlers command c device with
    | some outcome => exact display_quiet form hides shown
    | none => exact operate_quiet inExec command c

/-- Commands that leave a mode and `configure` alone enter none. -/
theorem plain_of_enters (enters : entersConfiguration c = true) :
    c ∉ ["exit", "end", "quit"] ∧ c ∉ ["configure", "conf", "config"] := by
  have none : ∀ word ∈ ["exit", "end", "quit", "configure", "conf", "config"],
      entersConfiguration word = false := by decide +kernel
  refine ⟨fun inside => ?_, fun inside => ?_⟩
  · rw [none c (mem_append_left ["configure", "conf", "config"] inside)] at enters
    cases enters
  · rw [none c (mem_append_right ["exit", "end", "quit"] inside)] at enters
    cases enters

/-- A command that enters a configuration mode leaves the mode `exec`. -/
theorem transition_enters (handlers : Handlers Rest) (inExec : InExec device)
    (enters : entersConfiguration c = true) (command : String) :
    ∃ outcome, transition handlers command c device = some outcome ∧ outcome.2.mode ≠ "exec" := by
  obtain ⟨notExit, notBare⟩ := plain_of_enters enters
  rw [transition, if_neg fun both => inExec.not_configMode both.2,
    if_neg fun leaves => leaves.elim notExit fun both => inExec.mode_ne (by decide) both.2,
    if_neg (inExec.mode_ne (by decide)), configures_eq inExec.deviceType]
  split
  · have other : "config" ≠ "exec" := by decide
    exact ⟨_, rfl, other⟩
  rename_i noConfigure
  rw [if_neg fun both => notBare both.2]
  split
  · have other : "config-if" ≠ "exec" := by decide
    exact ⟨_, rfl, other⟩
  rename_i noInterface
  have router : isMatch routerPattern c = true := by
    rw [entersConfiguration, eq_false_of_ne_true noConfigure, eq_false_of_ne_true noInterface]
      at enters
    exact enters
  have notNexus : device.deviceType ∉ ["nexus"] := inExec.type_not_mem (by decide)
  rw [if_pos router, if_neg fun both => notNexus (mem_singleton.mpr both.1)]
  have other : "config-router" ≠ "exec" := by decide
  exact ⟨_, rfl, other⟩

theorem cmdShow_discloses (lawful : handlers.Lawful)
    (asks : asksConfiguration handlers (comparedForm handlers command) = true) :
    (cmdShow handlers command device).1.discloses = true := by
  rw [cmdShow, lawful.shownBefore command device asks]
  rw [asksConfiguration, or_eq_true, decide_eq_true_eq] at asks
  dsimp only
  rw [← comparedForm, if_pos asks]
  rfl

/-- No branch that moves between modes takes a command that starts like one that shows, unless the
command enters a configuration mode. -/
theorem transition_shows (inExec : InExec device) (stays : entersConfiguration c = false)
    (shows : startsWith c "show " = true ∨ startsWith c "do " = true) (command : String) :
    transition handlers command c device = none := by
  have none : ∀ word ∈ ["exit", "end", "quit", "configure", "conf", "config"],
      startsWith word "show " = false ∧ startsWith word "do " = false := by decide +kernel
  have other : c ∉ ["exit", "end", "quit", "configure", "conf", "config"] := by
    intro inside
    obtain ⟨notShow, notDo⟩ := none c inside
    rcases shows with isShow | isDo
    · rw [notShow] at isShow
      cases isShow
    · rw [notDo] at isDo
      cases isDo
  simp only [entersConfiguration, or_eq_false_iff] at stays
  obtain ⟨⟨noConfigure, noInterface⟩, noRouter⟩ := stays
  rw [transition, if_neg fun both => inExec.not_configMode both.2, if_neg fun leaves => leaves.elim
      (fun inside => other (mem_append_left ["configure", "conf", "config"] inside))
      fun both => inExec.mode_ne (by decide) both.2,
    if_neg (inExec.mode_ne (by decide)), configures_eq inExec.deviceType, noConfigure,
    if_neg Bool.false_ne_true,
    if_neg fun both => other (mem_append_right ["exit", "end", "quit"] both.2),
    noInterface, noRouter, if_neg Bool.false_ne_true, if_neg Bool.false_ne_true,
    submodeOf_exec inExec.mode]
  rfl

theorem not_show_of_do (isDo : startsWith c "do " = true) : startsWith c "show " = false := by
  rw [startsWith, isPrefixOf_iff_prefix] at isDo
  refine eq_false_of_ne_true fun isShow => ?_
  rw [startsWith, isPrefixOf_iff_prefix] at isShow
  rcases prefix_or_prefix_of_prefix isDo isShow with first | second
  · exact absurd first (by decide)
  · exact absurd second (by decide)

theorem display_discloses (lawful : handlers.Lawful) (inExec : InExec device)
    (form : comparedForm handlers command = c)
    (shows : showsConfiguration handlers command c = true) :
    (startsWith c "show " = true ∨ startsWith c "do " = true) ∧
      ∃ outcome, display handlers command c device = some outcome ∧ outcome.1.discloses = true := by
  rw [showsConfiguration, or_eq_true, and_eq_true, and_eq_true, and_eq_true] at shows
  have noSoftware : handlers.software command device = none := by
    refine lawful.software command device ?_
    rw [form]
    exact shows.imp And.right fun both => both.1.1
  rw [display, noSoftware, ite_self]
  dsimp only
  rcases shows with ⟨isShow, asks⟩ | ⟨⟨isDo, isShow⟩, asks⟩
  · refine ⟨.inl isShow, _, if_pos isShow, cmdShow_discloses lawful ?_⟩
    rw [form]
    exact asks
  · rw [if_neg (ne_true_of_eq_false (not_show_of_do isDo)), if_pos ⟨isDo, inExec.deviceType⟩]
    refine ⟨.inr isDo, _, rfl, ?_⟩
    rw [cmdDo, ← comparedForm]
    rw [if_pos isShow]
    exact cmdShow_discloses lawful asks

/-- Commands that are not privileged leave everything as it is, others get past the mode `exec`. -/
theorem runValid_secure_iff (lawful : handlers.Lawful) (inExec : InExec device) (command : String) :
    ((runValid handlers command (comparedForm handlers command) device).2.mode = "exec" ∧
        (runValid handlers command (comparedForm handlers command) device).1.discloses = false) ↔
      (entersConfiguration (comparedForm handlers command) ||
        showsConfiguration handlers command (comparedForm handlers command)) = false := by
  have notVendor : device.deviceType ∉ vendorTypes := inExec.type_not_mem (by decide)
  rw [or_eq_false_iff]
  constructor
  · rintro ⟨exec, hidden⟩
    rw [runValid, if_neg notVendor] at exec hidden
    cases enters : entersConfiguration (comparedForm handlers command) with
    | true =>
      obtain ⟨outcome, taken, left⟩ := transition_enters handlers inExec enters command
      rw [taken] at exec
      exact absurd exec left
    | false =>
      refine ⟨rfl, eq_false_of_ne_true fun shows => ?_⟩
      obtain ⟨starts, outcome, taken, discloses⟩ :=
        display_discloses lawful inExec rfl shows
      rw [transition_shows inExec enters starts, taken] at hidden
      exact Bool.false_ne_true (hidden.symm.trans discloses)
  · rintro ⟨stays, hides⟩
    have quiet := runValid_quiet inExec rfl stays hides
    exact ⟨quiet.mode.trans inExec.mode, quiet.discloses⟩

theorem groupJoined_same (handlers : Handlers Rest) (device : Device Rest) (c : String) :
    (groupJoined handlers c device).mode = device.mode ∧
      (groupJoined handlers c device).deviceType = device.deviceType ∧
      (groupJoined handlers c device).enableSecret = device.enableSecret ∧
      (groupJoined handlers c device).enablePassword = device.enablePassword := by
  rw [groupJoined]
  split
  · split
    · exact ⟨rfl, rfl, rfl, rfl⟩
    · exact ⟨rfl, rfl, rfl, rfl⟩
  · exact ⟨rfl, rfl, rfl, rfl⟩

theorem inExec_groupJoined (handlers : Handlers Rest) (inExec : InExec device) (c : String) :
    InExec (groupJoined handlers c device) := by
  obtain ⟨mode, deviceType, -, -⟩ := groupJoined_same handlers device c
  exact ⟨mode.trans inExec.mode, deviceType ▸ inExec.deviceType⟩

/-- What a line does to a device in mode `exec`. -/
theorem process_secure_iff (lawful : handlers.Lawful) (inExec : InExec device) (line : String) :
    ((process handlers line device).2.mode = "exec" ∧
        (process handlers line device).1.discloses = false) ↔
      ¬ Privileged handlers device.deviceType line := by
  rw [process]
  dsimp only
  by_cases blank : strip line = ""
  · rw [if_pos blank]
    exact iff_of_true ⟨inExec.mode, rfl⟩ fun privileged => privileged.noHelp.1 blank
  by_cases help : '?' ∈ (strip line).toList
  · rw [if_neg blank, if_pos help]
    exact iff_of_true ⟨inExec.mode, rfl⟩ fun privileged => privileged.noHelp.2 help
  rw [if_neg blank, if_neg help, inExec.mode]
  cases valid : validateCommand handlers.letters device.deviceType "exec"
      (comparedForm handlers
        (expandAbbreviation handlers.letters (strip line) device.deviceType)) with
  | some error =>
    refine iff_of_true ⟨inExec.mode, rfl⟩ fun privileged => ?_
    have accepted := privileged.valid
    rw [valid] at accepted
    cases accepted
  | none =>
    dsimp only
    rw [runValid_secure_iff lawful (inExec_groupJoined handlers inExec _)]
    constructor
    · intro plain privileged
      exact Bool.false_ne_true (plain.symm.trans privileged.privileged)
    · intro plain
      refine eq_false_of_ne_true fun privileged => plain ⟨⟨blank, help⟩, valid, privileged⟩

theorem process_quiet (inExec : InExec device) {line : String}
    (plain : ¬ Privileged handlers device.deviceType line) :
    Quiet device (process handlers line device) := by
  rw [process]
  dsimp only
  by_cases blank : strip line = ""
  · rw [if_pos blank]
    exact quiet_kept _
  by_cases help : '?' ∈ (strip line).toList
  · rw [if_neg blank, if_pos help]
    exact quiet_kept _
  rw [if_neg blank, if_neg help, inExec.mode]
  cases valid : validateCommand handlers.letters device.deviceType "exec"
      (comparedForm handlers
        (expandAbbreviation handlers.letters (strip line) device.deviceType)) with
  | some error => exact quiet_kept _
  | none =>
    dsimp only
    have stays := eq_false_of_ne_true fun privileged =>
      plain ⟨⟨blank, help⟩, valid, privileged⟩
    rw [or_eq_false_iff] at stays
    obtain ⟨mode, deviceType, enableSecret, enablePassword, discloses⟩ :=
      runValid_quiet (inExec_groupJoined handlers inExec _) rfl stays.1 stays.2
    obtain ⟨mode', deviceType', enableSecret', enablePassword'⟩ :=
      groupJoined_same handlers device (comparedForm handlers
        (expandAbbreviation handlers.letters (strip line) device.deviceType))
    exact ⟨mode.trans mode', deviceType.trans deviceType', enableSecret.trans enableSecret',
      enablePassword.trans enablePassword', discloses⟩

/-! ## Runs -/

variable {start session : Session Rest}

/-- The session has no privileges, and its device is in mode `exec` and has the passwords that it
had at the start. -/
structure Held (start session : Session Rest) : Prop where
  mode : session.device.mode = "exec"
  deviceType : session.device.deviceType = start.device.deviceType
  enableSecret : session.device.enableSecret = start.device.enableSecret
  enablePassword : session.device.enablePassword = start.device.enablePassword
  privilege : session.privilege < 15

theorem Held.inExec (held : Held start session)
    (type : start.device.deviceType ∈ ["cisco", "catalyst"]) : InExec session.device :=
  ⟨held.mode, held.deviceType ▸ type⟩

/-- The password is not the one of the privileged mode. -/
def Wrong (device : Device Rest) (sent : Sent) : Prop :=
  ∀ password, sent.password = some password → checkEnablePassword device password ≠ some true

theorem Held.wrong (held : Held start session) {sent : Sent} (wrong : Wrong start.device sent) :
    Wrong session.device sent := by
  intro password given
  rw [checkEnablePassword, held.enableSecret, held.enablePassword]
  exact wrong password given

@[simp] theorem Session.runCommand_reply :
    (session.runCommand handlers line).1 = (process handlers line session.device).1 := rfl

@[simp] theorem Session.runCommand_device :
    (session.runCommand handlers line).2.device = (process handlers line session.device).2 := rfl

@[simp] theorem Session.runCommand_privilege :
    (session.runCommand handlers line).2.privilege = session.privilege := rfl

theorem not_ordinary {low : String} (enables : low ∉ ["enable", "en"])
    (disables : low ≠ "disable") : low ∉ ["enable", "en", "disable"] := by
  intro inside
  have either : low ∈ ["enable", "en"] ++ ["disable"] := inside
  rcases mem_append.mp either with first | second
  · exact enables first
  · exact disables (mem_singleton.mp second)

theorem dispatch_secure_iff (lawful : handlers.Lawful) (held : Held start session)
    (type : start.device.deviceType ∈ ["cisco", "catalyst"]) (sent : Sent) :
    Secure (dispatch handlers session sent) ↔
      ¬ Escapes handlers start.device.deviceType sent.line := by
  have inExec := held.inExec type
  have low : ¬ 15 ≤ session.privilege := Int.not_le.mpr held.privilege
  rw [dispatch]
  by_cases enables : handlers.letters.lower sent.line ∈ ["enable", "en"]
  · rw [if_pos enables, if_neg low]
    refine iff_of_true ?_ fun escapes =>
      escapes.ordinary (mem_append_left ["disable"] enables)
    split
    · exact ⟨held.mode, rfl⟩
    · split
      · exact ⟨held.mode, rfl⟩
      · exact ⟨held.mode, rfl⟩
      · exact ⟨held.mode, rfl⟩
  by_cases disables : handlers.letters.lower sent.line = "disable"
  · rw [if_neg enables, if_pos disables, if_pos held.mode]
    exact iff_of_true ⟨held.mode, rfl⟩ fun escapes =>
      escapes.ordinary (mem_append_right ["enable", "en"] (mem_singleton.mpr disables))
  rw [if_neg enables, if_neg disables]
  by_cases refused : isPrivilegedOnly handlers.letters sent.line = true
  · rw [if_pos ⟨held.privilege, refused⟩]
    exact iff_of_true ⟨held.mode, rfl⟩ fun escapes =>
      Bool.false_ne_true (escapes.spelling.symm.trans refused)
  · rw [if_neg fun both => refused both.2]
    have other := not_ordinary enables disables
    rw [Secure, runCommand_device, runCommand_reply,
      process_secure_iff lawful inExec, held.deviceType]
    refine not_congr ?_
    exact ⟨fun privileged => ⟨other, eq_false_of_ne_true refused, privileged⟩,
      fun escapes => escapes.privileged⟩

theorem held_dispatch (held : Held start session)
    (type : start.device.deviceType ∈ ["cisco", "catalyst"]) {sent : Sent}
    (wrong : Wrong start.device sent)
    (stays : ¬ Escapes handlers start.device.deviceType sent.line) :
    Held start (dispatch handlers session sent).2 := by
  have inExec := held.inExec type
  have low : ¬ 15 ≤ session.privilege := Int.not_le.mpr held.privilege
  rw [dispatch]
  by_cases enables : handlers.letters.lower sent.line ∈ ["enable", "en"]
  · rw [if_pos enables, if_neg low]
    split
    · exact held
    · rename_i password given
      split
      · exact held
      · rename_i right
        exact absurd right (held.wrong wrong password given)
      · exact held
  by_cases disables : handlers.letters.lower sent.line = "disable"
  · rw [if_neg enables, if_pos disables, if_pos held.mode]
    have lowest : (1 : Int) < 15 := by decide
    exact { held with privilege := lowest }
  rw [if_neg enables, if_neg disables]
  by_cases refused : isPrivilegedOnly handlers.letters sent.line = true
  · rw [if_pos ⟨held.privilege, refused⟩]
    exact held
  · rw [if_neg fun both => refused both.2]
    have plain : ¬ Privileged handlers session.device.deviceType sent.line := by
      rw [held.deviceType]
      exact fun privileged =>
        stays ⟨not_ordinary enables disables, eq_false_of_ne_true refused, privileged⟩
    have quiet := process_quiet inExec plain
    constructor
    · rw [runCommand_device, quiet.mode, held.mode]
    · rw [runCommand_device, quiet.deviceType, held.deviceType]
    · rw [runCommand_device, quiet.enableSecret, held.enableSecret]
    · rw [runCommand_device, quiet.enablePassword, held.enablePassword]
    · rw [runCommand_privilege]
      exact held.privilege

theorem contained_of_held (lawful : handlers.Lawful) (held : Held start session)
    (type : start.device.deviceType ∈ ["cisco", "catalyst"]) {sents : List Sent}
    (wrong : ∀ sent ∈ sents, Wrong start.device sent) :
    Contained handlers session sents ↔
      ∀ sent ∈ sents, ¬ Escapes handlers start.device.deviceType sent.line := by
  induction sents generalizing session with
  | nil => exact iff_of_true trivial fun _ inside => absurd inside not_mem_nil
  | cons sent rest ih =>
    have first := dispatch_secure_iff lawful held type sent
    have wrongFirst := wrong sent mem_cons_self
    have wrongRest : ∀ later ∈ rest, Wrong start.device later := fun later inside =>
      wrong later (mem_cons_of_mem _ inside)
    rw [forall_mem_cons]
    constructor
    · rintro ⟨secure, secures⟩
      have stays := first.mp secure
      exact ⟨stays, (ih (held_dispatch held type wrongFirst stays) wrongRest).mp secures⟩
    · rintro ⟨stays, stay⟩
      exact ⟨first.mpr stays, (ih (held_dispatch held type wrongFirst stays) wrongRest).mpr stay⟩

/-- A session without privileges that never sends the password is contained exactly if none of its
lines escapes. -/
theorem contained_iff (lawful : handlers.Lawful) {session : Session Rest}
    (exec : session.device.mode = "exec")
    (type : session.device.deviceType ∈ ["cisco", "catalyst"]) (low : session.privilege < 15)
    {sents : List Sent} (wrong : ∀ sent ∈ sents, Wrong session.device sent) :
    Contained handlers session sents ↔
      ∀ sent ∈ sents, ¬ Escapes handlers session.device.deviceType sent.line :=
  contained_of_held lawful ⟨exec, rfl, rfl, rfl, low⟩ type wrong

end Proofs

/-! ## A device -/

/-- Branches that print their names. -/
def namedHandlers : Handlers Unit where
  letters := plainLetters
  help _ _ := "help"
  errorText _ command _ := "% Invalid input detected at '^' marker.
  " ++ command ++ "
  ^"
  joinChannel _ _ := ()
  vendor _ device := device.kept "vendor"
  leave _ _ := ()
  capture _ _ := ()
  enter _ _ _ := ("", ())
  hasEigrp _ := true
  shownBefore _ _ := none
  shownAfter _ _ := ("show", ())
  runningConfig _ := "hostname R1
end"
  software _ _ := none
  ping _ _ := ("ping", ())
  traceroute _ _ := ("traceroute", ())
  clearTraffic _ := ()
  config _ device := ("config", device)

theorem namedHandlers_lawful : namedHandlers.Lawful where
  shownBefore _ _ _ := rfl
  software _ _ _ := rfl

/-- A session of a user without privileges. -/
def guest : Session Unit := ⟨⟨"exec", "cisco", some "secret", none, ()⟩, 1⟩

theorem guest_contained : Contained namedHandlers guest
        [⟨"show version", none⟩, ⟨"enable", some "guess"⟩, ⟨"sh run", none⟩] ↔
      ∀ sent ∈ ([⟨"show version", none⟩, ⟨"enable", some "guess"⟩, ⟨"sh run", none⟩] : List Sent),
        ¬ Escapes namedHandlers "cisco" sent.line := by
  refine contained_iff namedHandlers_lawful rfl (by decide) (by decide) ?_
  simp only [forall_mem_cons]
  refine ⟨?_, ?_, ?_, fun _ inside => absurd inside not_mem_nil⟩
  · intro password given
    cases given
  · intro password given
    cases given
    decide
  · intro password given
    cases given

theorem not_contained_of_insecure {line : String}
    (insecure : (dispatch namedHandlers guest ⟨line, none⟩).2.device.mode ≠ "exec" ∨
      (dispatch namedHandlers guest ⟨line, none⟩).1.discloses = true) :
    ¬ Contained namedHandlers guest [⟨line, none⟩] := by
  rintro ⟨⟨exec, hidden⟩, -⟩
  rcases insecure with left | disclosed
  · exact left exec
  · exact Bool.false_ne_true (hidden.symm.trans disclosed)

/-- Spellings that escape. -/
theorem escaping_lines : ¬ Contained namedHandlers guest [⟨"sh runn", none⟩] ∧
      ¬ Contained namedHandlers guest [⟨"confi t", none⟩] ∧
      ¬ Contained namedHandlers guest [⟨"router eigrp 1", none⟩] := by
  refine ⟨not_contained_of_insecure ?_, not_contained_of_insecure ?_, not_contained_of_insecure ?_⟩
  · decide +kernel
  · decide +kernel
  · decide +kernel

end NetLab.Cli
