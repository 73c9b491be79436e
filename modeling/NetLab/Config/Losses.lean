import NetLab.Config.Import
import NetLab.Library.Execution

/-!
# Lines that an import loses

Every line before `end` is given to the rule engine in the right mode or listed, except for lines of
sections that the importer does not know, indented lines that look like a header, and lines after
the engine has left the mode that the importer believes it to be in.
-/

namespace NetLab.Config

open List

open NetLab.Library NetLab.Execution

variable {before : List (List Char)} {line : List Char}

def commandOf (line : List Char) : String := strip (String.ofList (cleanLine line))

def Counts (line : List Char) : Prop :=
  match lineKind line with
  | .blank | .comment => False
  | .header => isIndented line = true
  | _ => True

/-- The line starts something at the top level. -/
def Heads (line : List Char) : Prop :=
  isIndented line = false ∧ match lineKind line with
    | .blank | .comment | .header | .finish => False
    | _ => True

/-- The error says that something was skipped. -/
def ImportError.Skips : ImportError → Prop
  | .warning _ _ => False
  | _ => True

def OnlyClosings {State : Type} (entries : List (LogEntry State)) : Prop :=
  ∀ entry ∈ entries, ∃ before, entry = .closing before

section Lines

variable {State : Type} (engine : RuleEngine State) (start : Progress State)

/-- The nearest line at the top level. -/
structure Opener (before front middle : List (List Char)) (opener : List Char) : Prop where
  split : before = front ++ opener :: middle
  heads : Heads opener
  inside : ∀ line ∈ middle, ¬ Heads line

/-- The mode is the one for a line: that of the section opened by the nearest line at the top level,
or that of the global configuration. -/
def RightMode (before : List (List Char)) (line : List Char) (mode : String) : Prop :=
  if isIndented line then
    (∃ front middle opener, Opener before front middle opener ∧
      mode = engine.mode (importLines engine start (front ++ [opener])).state) ∧
        (configSubmodes.lookup mode).isSome
  else mode = "config"

def Passed (before : List (List Char)) (line : List Char) : Prop :=
  ∃ closings state, OnlyClosings closings ∧ (importLines engine start (before ++ [line])).log =
      (importLines engine start before).log ++ closings ++ [.line (commandOf line) state] ∧
    RightMode engine start before line (engine.mode state)

def Listed (before : List (List Char)) (line : List Char) : Prop :=
  ∃ closings error, OnlyClosings closings ∧ error.Skips ∧
    (importLines engine start (before ++ [line])).log =
      (importLines engine start before).log ++ closings ∧
    (importLines engine start (before ++ [line])).errors =
      (importLines engine start before).errors ++ [error]

/-- The line is handled in exactly one of the two ways. -/
def Handled (before : List (List Char)) (line : List Char) : Prop :=
  (Passed engine start before line ∨ Listed engine start before line) ∧
    ¬ (Passed engine start before line ∧ Listed engine start before line)

/-- The nearest line at the top level opens a section, for the importer. -/
def SectionOpen (before : List (List Char)) : Prop :=
  ∃ front middle opener command, Opener before front middle opener ∧
    lineKind opener = .top command ∧ hostnameOf command = none ∧ opensSection command = true

/-- The line names the device, and the name is stored without the rule engine. -/
def Named (before : List (List Char)) (line : List Char) : Prop :=
  ∃ closings name, OnlyClosings closings ∧ hostnameOf (commandOf line) = some name ∧
    validHostname name = true ∧
    (importLines engine start (before ++ [line])).log =
      (importLines engine start before).log ++ closings ∧
    (importLines engine start (before ++ [line])).errors =
      (importLines engine start before).errors ∧
    (importLines engine start (before ++ [line])).state = engine.setHostname (String.ofList name)
        (closeSection engine (importLines engine start before)).state

def LosesNothing (text : String) : Prop :=
  ∀ before line after, splitLines text.toList = before ++ line :: after → Counts line →
    Handled engine start before line

theorem not_both (before : List (List Char)) (line : List Char) :
    ¬ (Passed engine start before line ∧ Listed engine start before line) := by
  rintro ⟨⟨closings, state, -, passed, -⟩, closings', error, only, -, listed, -⟩
  rw [passed, append_assoc, append_cancel_left_eq] at listed
  obtain ⟨before, same⟩ := only (.line (commandOf line) state) (by rw [← listed]; simp)
  cases same

/-- What the importer believes about the mode is right. -/
def Synced (progress : Progress State) : Prop :=
  match progress.context with
  | none => engine.mode progress.state = "config"
  | some _ => configSubmodes.lookup (engine.mode progress.state) = some "config"

/-- The line moves the engine as the importer believes: a line that opens a section leads to a mode
below the global configuration, and other lines leave the mode. -/
def InStep (progress : Progress State) (line : List Char) : Prop :=
  match lineKind line with
  | .subcommand _ => progress.context.isSome = true →
      engine.mode (handleLine engine progress line).state = engine.mode progress.state
  | .top command => hostnameOf command = none →
      if opensSection command then
        configSubmodes.lookup (engine.mode (handleLine engine progress line).state) = some "config"
      else engine.mode (handleLine engine progress line).state = "config"
  | _ => True

end Lines

section Proofs

variable {State : Type} {engine : RuleEngine State} {start progress : Progress State}

variable {lines : List (List Char)}

/-- Lines before `end` are handled one after the other. -/
theorem importLines_eq (goesOn : ∀ line ∈ lines, lineKind line ≠ .finish)
    (progress : Progress State) :
    importLines engine progress lines = runFrom (handleLine engine) progress lines := by
  induction lines generalizing progress with
  | nil => rfl
  | cons line rest ih =>
    rw [importLines, if_neg (goesOn line mem_cons_self), runFrom_cons]
    exact ih (fun line inRest => goesOn line (mem_cons_of_mem _ inRest)) _

theorem mode_closeSection (lawful : engine.Lawful) (synced : Synced engine progress) :
    engine.mode (closeSection engine progress).state = "config" := by
  unfold closeSection
  unfold Synced at synced
  cases context : progress.context with
  | none =>
    rw [context] at synced
    exact synced
  | some opened =>
    rw [context] at synced
    have closed := lawful.exit progress.state
    rw [exitMode, synced] at closed
    exact closed

/-- The importer stays right about the mode as long as the lines move the engine as it believes. -/
theorem synced_handleLine (lawful : engine.Lawful) (line : List Char)
    (synced : Synced engine progress) (inStep : InStep engine progress line) :
    Synced engine (handleLine engine progress line) := by
  unfold InStep at inStep
  cases kind : lineKind line with
  | subcommand command =>
    rw [kind] at inStep
    cases context : progress.context with
    | none => simpa [handleLine, kind, context] using synced
    | some opened =>
      have kept := inStep (by rw [context]; rfl)
      have same : (handleLine engine progress line).context = some opened := by
        simp [handleLine, kind, context, passLine]
      rw [Synced, context] at synced
      rw [Synced, same, kept]
      exact synced
  | top command =>
    rw [kind] at inStep
    have closed := mode_closeSection lawful synced
    have noContext : (closeSection engine progress).context = none := by
      unfold closeSection
      split
      · rfl
      · rename_i notOpen
        simpa using notOpen
    cases named : hostnameOf command with
    | some name =>
      by_cases valid : validHostname name
      · simp [Synced, handleLine, kind, topLine, named, valid, noContext, closed,
          lawful.setHostname]
      · simp [Synced, handleLine, kind, topLine, named, valid, noContext, closed]
    | none =>
      have moved := inStep named
      by_cases opens : opensSection command
      · rw [if_pos opens] at moved
        have context : (handleLine engine progress line).context = some command := by
          simp [handleLine, kind, topLine, named, opens]
        rw [Synced, context]
        exact moved
      · rw [if_neg opens] at moved
        have context : (handleLine engine progress line).context = none := by
          simp [handleLine, kind, topLine, named, opens, passLine, noContext]
        rw [Synced, context]
        exact moved
  | _ => simpa [handleLine, kind, Synced] using synced

theorem synced_along (lawful : engine.Lawful) (synced : Synced engine progress)
    (inStep : Along (handleLine engine) (InStep engine) progress lines) :
    Synced engine (runFrom (handleLine engine) progress lines) :=
  invariant_along (fun _ line => synced_handleLine lawful line) synced inStep

/-- A line that is given to the rule engine is its own command, at the top level if it is not
indented. -/
theorem lineKind_command (line : List Char) : (∀ command, lineKind line = .top command →
      command = commandOf line ∧ isIndented line = false) ∧
    ∀ command, lineKind line = .subcommand command →
      command = commandOf line ∧ isIndented line = true := by
  unfold lineKind sanitizeLine
  dsimp only
  rw [← cleanLine]
  split
  · constructor <;> intro command kind <;> cases kind
  · rename_i clean cleaned
    have same : clean = cleanLine line := by
      split at cleaned
      · exact (Option.some.inj cleaned).symm
      · cases cleaned
    subst same
    rw [← commandOf]
    -- The tests before the last give other kinds.
    by_cases blank : commandOf line = ""
    · rw [if_pos blank]
      constructor <;> intro command kind <;> cases kind
    by_cases ends : commandOf line = "end"
    · rw [if_neg blank, if_pos ends]
      constructor <;> intro command kind <;> cases kind
    rw [if_neg blank, if_neg ends]
    split
    · constructor <;> intro command kind <;> cases kind
    split
    · constructor <;> intro command kind <;> cases kind
    split
    · constructor <;> intro command kind <;> cases kind
    split
    · constructor <;> intro command kind <;> cases kind
    split
    · rename_i indented
      constructor
      · intro command kind
        cases kind
      · intro command kind
        exact ⟨(LineKind.subcommand.inj kind).symm, indented⟩
    · rename_i notIndented
      constructor
      · intro command kind
        exact ⟨(LineKind.top.inj kind).symm, eq_false_of_ne_true notIndented⟩
      · intro command kind
        cases kind

theorem unmoved_of_not_heads {opened : String} (context : progress.context = some opened)
    (inside : ¬ Heads line) (inStep : InStep engine progress line) :
    (handleLine engine progress line).context = some opened ∧
      engine.mode (handleLine engine progress line).state = engine.mode progress.state := by
  unfold InStep at inStep
  cases kind : lineKind line with
  | subcommand command =>
    rw [kind] at inStep
    exact ⟨by simp [handleLine, kind, context, passLine], inStep (by rw [context]; rfl)⟩
  | top command =>
    refine absurd ⟨((lineKind_command line).1 command kind).2, ?_⟩ inside
    rw [kind]
    trivial
  | _ => simp [handleLine, kind, context]

theorem unmoved_along {opened : String} (context : progress.context = some opened)
    (inside : ∀ line ∈ lines, ¬ Heads line)
    (inStep : Along (handleLine engine) (InStep engine) progress lines) :
    (runFrom (handleLine engine) progress lines).context = some opened ∧
      engine.mode (runFrom (handleLine engine) progress lines).state =
        engine.mode progress.state := by
  induction lines generalizing progress with
  | nil => exact ⟨context, rfl⟩
  | cons line rest ih =>
    obtain ⟨context', mode'⟩ := unmoved_of_not_heads context (inside line mem_cons_self) inStep.1
    obtain ⟨finalContext, finalMode⟩ := ih context'
      (fun line inRest => inside line (mem_cons_of_mem _ inRest)) inStep.2
    exact ⟨finalContext, finalMode.trans mode'⟩

theorem synced_beginImport (lawful : engine.Lawful) {state : State}
    (free : engine.mode state ≠ "config-tftp-file") :
    Synced engine (beginImport engine state) := by
  refine lawful.configure _ ?_
  rw [lawful.clearInterfaces]
  exact free

theorem importLines_append (engine : RuleEngine State) (start : Progress State)
    (goesOn : ∀ earlier ∈ before ++ [line], lineKind earlier ≠ .finish) :
    importLines engine start (before ++ [line]) =
      handleLine engine (importLines engine start before) line := by
  have goesOn' : ∀ earlier ∈ before, lineKind earlier ≠ .finish := fun earlier inside =>
    goesOn earlier (mem_append_left _ inside)
  rw [importLines_eq goesOn, importLines_eq goesOn', runFrom_append]
  rfl

theorem onlyClosings_closeSection (engine : RuleEngine State) (progress : Progress State) :
    ∃ closings, OnlyClosings closings ∧
      (closeSection engine progress).log = progress.log ++ closings ∧
      (closeSection engine progress).errors = progress.errors := by
  unfold closeSection
  split
  · refine ⟨[.closing progress.state], ?_, rfl, rfl⟩
    intro entry inside
    exact ⟨progress.state, mem_singleton.mp inside⟩
  · exact ⟨[], fun _ inside => absurd inside not_mem_nil, by simp⟩

/-- A line for which nothing is logged and listed is lost. -/
theorem not_handled {State : Type} {engine : RuleEngine State} {start : Progress State}
    (log : (importLines engine start (before ++ [line])).log.length =
      (importLines engine start before).log.length)
    (errors : (importLines engine start (before ++ [line])).errors.length =
      (importLines engine start before).errors.length) : ¬ Handled engine start before line := by
  rintro ⟨⟨closings, state, -, passed, -⟩ | ⟨closings, error, -, -, -, listed⟩, -⟩
  · rw [passed, length_append, length_append, length_singleton] at log
    omega
  · rw [listed, length_append, length_singleton] at errors
    omega

theorem rightMode_of_sectionOpen (lawful : engine.Lawful) (synced : Synced engine start)
    (goesOn : ∀ earlier ∈ before, lineKind earlier ≠ .finish)
    (inStep : Along (handleLine engine) (InStep engine) start before)
    (inSection : SectionOpen before) (indented : isIndented line = true) :
    (importLines engine start before).context.isSome = true ∧
      RightMode engine start before line (engine.mode (importLines engine start before).state) := by
  obtain ⟨front, middle, opener, command, nearest, kind, unnamed, opens⟩ := inSection
  have split : before = (front ++ [opener]) ++ middle := by
    rw [nearest.split, append_assoc]
    rfl
  have goesOn' : ∀ earlier ∈ front ++ [opener], lineKind earlier ≠ .finish := fun earlier inside =>
    goesOn earlier (split ▸ mem_append_left _ inside)
  have both := along_append.mp (split ▸ inStep)
  have context : (runFrom (handleLine engine) start (front ++ [opener])).context =
      some command := by
    rw [runFrom_append]
    simp [handleLine, kind, topLine, unnamed, opens]
  obtain ⟨context', mode'⟩ := unmoved_along context nearest.inside both.2
  have reached : importLines engine start before =
      runFrom (handleLine engine) (runFrom (handleLine engine) start (front ++ [opener])) middle := by
    rw [importLines_eq goesOn, ← runFrom_append, ← split]
  have below := synced_along lawful synced both.1
  rw [Synced, context] at below
  refine ⟨by rw [reached, context']; rfl, ?_⟩
  rw [RightMode, if_pos indented, reached, mode']
  exact ⟨⟨front, middle, opener, nearest, by rw [importLines_eq goesOn']⟩, by rw [below]; rfl⟩

theorem handled_of_listed (listed : Listed engine start before line) :
    Handled engine start before line :=
  ⟨.inr listed, not_both engine start before line⟩

theorem listed_of_error (error : ImportError) (skips : error.Skips)
    (next : importLines engine start (before ++ [line]) = { importLines engine start before with
        errors := (importLines engine start before).errors ++ [error] }) :
    Listed engine start before line := by
  refine ⟨[], error, fun _ inside => absurd inside not_mem_nil, skips, ?_, ?_⟩
  · rw [next, append_nil]
  · rw [next]

/-- A line at the top level is passed in the global configuration, or it names the device, or its
name is listed. -/
theorem top_handled (lawful : engine.Lawful) {command : String}
    (kind : lineKind line = .top command)
    (next : importLines engine start (before ++ [line]) =
      handleLine engine (importLines engine start before) line)
    (synced : Synced engine (importLines engine start before)) :
    Handled engine start before line ∨ Named engine start before line := by
  obtain ⟨same, notIndented⟩ := (lineKind_command line).1 command kind
  obtain ⟨closings, only, log, errors⟩ :=
    onlyClosings_closeSection engine (importLines engine start before)
  rw [handleLine, kind] at next
  dsimp only at next
  cases named : hostnameOf command with
  | some name =>
    by_cases valid : validHostname name = true
    · refine .inr ⟨closings, name, only, same ▸ named, valid, ?_, ?_, ?_⟩
      all_goals
        rw [next, topLine, named]
        dsimp only
        rw [if_pos valid]
      · exact log
      · exact errors
    · refine .inl (handled_of_listed ⟨closings, .invalidHostname name, only, trivial, ?_, ?_⟩)
      · rw [next, topLine, named]
        dsimp only
        rw [if_neg valid, log]
      · rw [next, topLine, named]
        dsimp only
        rw [if_neg valid, errors]
  | none =>
    refine .inl ⟨.inl ⟨closings, (closeSection engine (importLines engine start before)).state,
      only, ?_, ?_⟩, not_both engine start before line⟩
    · rw [next, topLine, named]
      dsimp only
      rw [← log, ← same]
      split <;> rfl
    · rw [RightMode, notIndented]
      exact mode_closeSection lawful synced

end Proofs

/-! ## An engine -/

def modesOnly : RuleEngine String where
  process command mode :=
    if command = "exit" then ("", exitMode mode)
    else if command = "configure terminal" then
      ("", if mode = "config-tftp-file" then mode else "config")
    else if command = "router rip" then ("", "config-router")
    else if command = "line vty 0 4" then ("", "config-line")
    else ("", mode)
  mode mode := mode
  clearInterfaces mode := mode
  setHostname _ mode := mode

theorem modesOnly_lawful : modesOnly.Lawful where
  configure mode free := by
    have unlike : mode ≠ "config-tftp-file" := free
    simp [modesOnly, unlike]
  exit mode := by simp [modesOnly]
  clearInterfaces mode := rfl
  setHostname name mode := rfl

end NetLab.Config
