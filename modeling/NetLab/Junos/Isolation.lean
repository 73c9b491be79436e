import NetLab.Junos.Device
import NetLab.Library.Execution

/-!
# Isolation of the candidates

Only a commit should change the committed lines and what is in effect. Every command but `delete`
keeps to that; `isolated_iff` says which deletions do.
-/

namespace NetLab.Junos

open NetLab.Library NetLab.Cli NetLab.Execution List JunosDevice

/-- The committed lines and what is in effect. -/
structure Active where
  committed : List String
  interfaces : OrderedMap String Interface
  hostname : String
  sshRsaKey : Bool
  netconfEnabled : Bool

namespace JunosDevice

variable (letters : Letters) (showLldp : JunosDevice → String) (device : JunosDevice)

def active : Active where
  committed := device.committed
  interfaces := device.interfaces
  hostname := device.hostname
  sshRsaKey := device.sshRsaKey
  netconfEnabled := device.netconfEnabled

/-- The device after a command. -/
def step (cmd : String) : JunosDevice := (device.juniperProcess letters showLldp cmd).2

end JunosDevice

section Commands

variable (letters : Letters)

/-- A command in lower case, without blanks around it. -/
def commandText (cmd : String) : String := strip (letters.lower cmd)

def IsConfigure (cmd : String) : Prop :=
  commandText letters cmd ∈ ["configure", "configure exclusive", "configure private"]

def IsLeave (cmd : String) : Prop :=
  commandText letters cmd ∈ ["exit", "exit configuration-mode"]

def IsCommit (cmd : String) : Prop := commandText letters cmd ∈ ["commit", "commit and-quit"]

def IsRollback (cmd : String) : Prop := commandText letters cmd ∈ ["rollback", "rollback 0"]

instance (cmd : String) : Decidable (IsConfigure letters cmd) := inferInstanceAs (Decidable (_ ∈ _))

instance (cmd : String) : Decidable (IsLeave letters cmd) := inferInstanceAs (Decidable (_ ∈ _))

instance (cmd : String) : Decidable (IsCommit letters cmd) := inferInstanceAs (Decidable (_ ∈ _))

instance (cmd : String) : Decidable (IsRollback letters cmd) := inferInstanceAs (Decidable (_ ∈ _))

end Commands

/-! ## What a command does -/

/-- Ways in which a command changes a device. -/
inductive Effect (letters : Letters) (device : JunosDevice) (cmd : String) : JunosDevice → Prop where
  | nothing : Effect letters device cmd device
  | enter (asked : IsConfigure letters cmd) :
      Effect letters device cmd { device with mode := "config" }
  | leave (asked : IsLeave letters cmd) : Effect letters device cmd { device with mode := "exec" }
  | commit (mode : String) (asked : IsCommit letters cmd) (editing : device.mode = "config") :
      Effect letters device cmd { device.applyCommit letters with mode := mode }
  | rollback (asked : IsRollback letters cmd) (editing : device.mode = "config") :
      Effect letters device cmd { device with candidate := [] }
  | stage (statement : Statement) (asked : readSet letters (commandText letters cmd) = some statement)
      (editing : device.mode = "config") : Effect letters device cmd (device.stage statement.text)
  | delete (path : String) (asked : readDelete (commandText letters cmd) = some path)
      (editing : device.mode = "config") : Effect letters device cmd (device.delete path)

section Effects

variable {letters : Letters} {showLldp : JunosDevice → String} {device : JunosDevice} {cmd : String}

theorem mode_commitLine (device : JunosDevice) (line : String) :
    (device.commitLine letters line).mode = device.mode := by
  unfold commitLine
  dsimp only
  split <;> rfl

theorem mode_applyCommit (device : JunosDevice) : (device.applyCommit letters).mode = device.mode := by
  have lines : ∀ (lines : List String) (device : JunosDevice),
      (lines.foldl (fun device line => device.commitLine letters line) device).mode = device.mode := by
    intro lines
    induction lines with
    | nil => exact fun _ => rfl
    | cons line later ih => exact fun device => (ih _).trans (mode_commitLine device line)
  exact lines device.candidate device

theorem effect_configure {orig : String} {result : String × JunosDevice}
    (editing : device.mode = "config")
    (handled : device.configure letters orig (commandText letters cmd) = some result) :
    Effect letters device cmd result.2 := by
  unfold configure at handled
  split at handled
  case isTrue =>
      cases handled
      exact .nothing
  case isFalse =>
      split at handled
      case isTrue commit =>
          cases handled
          have asked : IsCommit letters cmd := by rw [IsCommit, commit]; decide
          exact Effect.commit (device.applyCommit letters).mode asked editing
      case isFalse =>
          split at handled
          case isTrue quit =>
              cases handled
              have asked : IsCommit letters cmd := by rw [IsCommit, quit]; decide
              exact .commit "exec" asked editing
          case isFalse =>
              split at handled
              case isTrue asked =>
                  cases handled
                  exact .rollback asked editing
              case isFalse =>
                  split at handled
                  case h_1 statement asked =>
                      cases handled
                      exact .stage statement asked editing
                  case h_2 path _ asked =>
                      cases handled
                      exact .delete path asked editing
                  case h_3 =>
                      split at handled
                      case isTrue =>
                          cases handled
                          exact .nothing
                      case isFalse => cases handled

theorem effect_step (device : JunosDevice) (cmd : String) :
    Effect letters device cmd (device.step letters showLldp cmd) := by
  unfold step juniperProcess
  dsimp only
  split
  case isTrue asked => exact .enter asked
  case isFalse =>
      split
      case isTrue asked => exact .leave asked.1
      case isFalse =>
          split
          case isTrue => exact .nothing
          case isFalse =>
              split
              case h_1 => exact .nothing
              case h_2 =>
                  split
                  case h_1 result handled =>
                      split at handled
                      case isTrue editing => exact effect_configure editing handled
                      case isFalse => cases handled
                  case h_2 => exact .nothing

def moves : List String :=
  ["configure", "configure exclusive", "configure private", "exit", "exit configuration-mode", "quit"]

theorem step_of_configure {result : String × JunosDevice} (editing : device.mode = "config")
    (stays : commandText letters cmd ∉ moves)
    (silent : terminalReply letters (commandText letters cmd) = none)
    (handled : device.configure letters (strip cmd) (commandText letters cmd) = some result) :
    device.step letters showLldp cmd = result.2 := by
  simp only [moves, mem_cons, not_mem_nil, or_false, not_or] at stays
  unfold commandText at stays silent handled
  unfold step juniperProcess
  dsimp only
  rw [if_neg (by simp [stays]), if_neg (by simp [stays]), if_neg (by simp [stays]), silent]
  dsimp only
  rw [if_pos editing, handled]

theorem step_rollback (editing : device.mode = "config") (asked : IsRollback letters cmd) :
    device.step letters showLldp cmd = { device with candidate := [] } := by
  rcases mem_pair.mp asked with text | text
  all_goals
    refine @step_of_configure letters showLldp device cmd ("load complete", _) editing ?_ ?_ ?_
    · rw [text]
      decide
    · rw [text]
      rfl
    · rw [text]
      rfl

theorem step_commit (editing : device.mode = "config") (asked : IsCommit letters cmd) :
    device.step letters showLldp cmd = { device.applyCommit letters with
      mode := if commandText letters cmd = "commit" then "config" else "exec" } := by
  have mode := (@mode_applyCommit letters device).trans editing
  rcases mem_pair.mp asked with text | text
  · have stays : { device.applyCommit letters with mode := "config" } =
        device.applyCommit letters := by
      rw [← mode]
    rw [text, if_pos rfl, stays]
    refine @step_of_configure letters showLldp device cmd ("commit complete", _) editing ?_ ?_ ?_
    · rw [text]
      decide
    · rw [text]
      rfl
    · rw [text]
      rfl
  · rw [text, if_neg (by decide)]
    refine @step_of_configure letters showLldp device cmd
      ("commit complete", { device.applyCommit letters with mode := "exec" }) editing ?_ ?_ ?_
    · rw [text]
      decide
    · rw [text]
      rfl
    · rw [text]
      rfl

theorem step_enter (asked : IsConfigure letters cmd) :
    device.step letters showLldp cmd = { device with mode := "config" } := by
  unfold IsConfigure commandText at asked
  unfold step juniperProcess
  dsimp only
  rw [if_pos asked]

theorem step_leave (editing : device.mode = "config") (asked : IsLeave letters cmd) :
    device.step letters showLldp cmd = { device with mode := "exec" } := by
  have other : ¬ IsConfigure letters cmd := by
    rcases mem_pair.mp asked with text | text
    all_goals
      rw [IsConfigure, text]
      decide
  unfold IsConfigure commandText at other
  unfold IsLeave commandText at asked
  unfold step juniperProcess
  dsimp only
  rw [if_neg other, if_pos ⟨asked, editing⟩]

theorem step_delete {path : String} (editing : device.mode = "config")
    (asked : readDelete (commandText letters cmd) = some path) :
    device.step letters showLldp cmd = device.delete path := by
  have other : ∀ text, readDelete text = none → commandText letters cmd ≠ text := by
    rintro text none rfl
    rw [none] at asked
    cases asked
  have first : ∃ second later, words (commandText letters cmd) = "delete" :: second :: later := by
    unfold readDelete at asked
    split at asked
    case h_1 second later shape => exact ⟨second, later, shape⟩
    case h_2 => cases asked
  obtain ⟨second, later, shape⟩ := first
  have unset : readSet letters (commandText letters cmd) = none := by
    rw [readSet, shape]
    rfl
  refine @step_of_configure letters showLldp device cmd ("", _) editing ?_ ?_ ?_
  · simp only [moves, mem_cons, not_mem_nil, or_false, not_or]
    exact ⟨other _ rfl, other _ rfl, other _ rfl, other _ rfl, other _ rfl, other _ rfl⟩
  · unfold terminalReply
    split
    case h_1 width same =>
        rw [shape] at same
        exact absurd (List.cons.inj same).1 (by decide)
    case h_2 length same =>
        rw [shape] at same
        exact absurd (List.cons.inj same).1 (by decide)
    case h_3 => rw [if_neg (other _ rfl), if_neg (other _ rfl)]
  · have kept : commandText letters cmd ∉ ["rollback", "rollback 0"] := by
      simp only [mem_cons, not_mem_nil, or_false, not_or]
      exact ⟨other _ rfl, other _ rfl⟩
    rw [configure, if_neg (other _ rfl), if_neg (other _ rfl), if_neg (other _ rfl),
      if_neg kept, unset, asked]
    rfl

end Effects

/-! ## Isolation -/

section Isolation

variable (letters : Letters) (showLldp : JunosDevice → String)

/-- Only commits change what is active, and a commit after a rollback does not, without a command in
between that sets something. -/
structure Isolated (start : JunosDevice) (commands : List String) : Prop where
  kept : Along (step letters showLldp) (fun device cmd =>
    ¬ IsCommit letters cmd → (device.step letters showLldp cmd).active = device.active)
      start commands
  undone : ∀ front rollback middle commit back,
    commands = front ++ rollback :: (middle ++ commit :: back) → IsRollback letters rollback →
        (runFrom (step letters showLldp) start front).mode = "config" →
          (∀ cmd ∈ middle, readSet letters (commandText letters cmd) = none) →
            IsCommit letters commit →
              let before := runFrom (step letters showLldp) start (front ++ rollback :: middle)
              (before.step letters showLldp commit).active = before.active

def Spares (device : JunosDevice) (cmd : String) : Prop :=
  device.mode = "config" → ∀ path, readDelete (commandText letters cmd) = some path →
    ∀ line ∈ device.committed, ¬ Starts path line

end Isolation

section Proofs

variable {letters : Letters} {showLldp : JunosDevice → String} {device : JunosDevice}

theorem active_delete_iff (device : JunosDevice) (path : String) :
    (device.delete path).active = device.active ↔
      ∀ line ∈ device.committed, ¬ Starts path line := by
  have same : (device.delete path).active = device.active ↔
      (device.committed.filter fun line => ¬ Starts path line) = device.committed := by
    constructor
    · intro same
      exact congrArg Active.committed same
    · intro kept
      unfold active delete
      dsimp only
      rw [kept]
  rw [same, filter_eq_self]
  simp

theorem kept_iff (device : JunosDevice) (cmd : String) :
    (¬ IsCommit letters cmd → (device.step letters showLldp cmd).active = device.active) ↔
      Spares letters device cmd := by
  constructor
  · intro kept editing path asked
    have other : ¬ IsCommit letters cmd := by
      intro commit
      rcases mem_pair.mp commit with text | text
      all_goals
        rw [text] at asked
        cases asked
    have same := kept other
    rw [step_delete editing asked] at same
    exact (active_delete_iff device path).mp same
  · intro spares other
    have effect := @effect_step letters showLldp device cmd
    generalize device.step letters showLldp cmd = next at effect ⊢
    cases effect with
    | nothing => rfl
    | enter => rfl
    | leave => rfl
    | commit mode asked => exact absurd asked other
    | rollback => rfl
    | stage statement => rfl
    | delete path asked editing => exact (active_delete_iff device path).mpr (spares editing path asked)

theorem active_step_commit {cmd : String} (bare : device.candidate = [])
    (asked : IsCommit letters cmd) :
    (device.step letters showLldp cmd).active = device.active := by
  have read : readSet letters (commandText letters cmd) = none ∧
      readDelete (commandText letters cmd) = none := by
    rcases mem_pair.mp asked with text | text
    all_goals
      rw [text]
      exact ⟨rfl, rfl⟩
  have effect := @effect_step letters showLldp device cmd
  generalize device.step letters showLldp cmd = next at effect ⊢
  cases effect with
  | nothing => rfl
  | enter => rfl
  | leave => rfl
  | commit mode =>
    rw [applyCommit, bare]
    rfl
  | rollback => rfl
  | stage statement asked =>
    rw [read.1] at asked
    cases asked
  | delete path asked =>
    rw [read.2] at asked
    cases asked

theorem bare_run {commands : List String} (bare : device.candidate = [])
    (silent : ∀ cmd ∈ commands, readSet letters (commandText letters cmd) = none) :
    (runFrom (step letters showLldp) device commands).candidate = [] := by
  induction commands generalizing device with
  | nil => exact bare
  | cons cmd later ih =>
    refine ih ?_ fun cmd inside => silent cmd (mem_cons_of_mem _ inside)
    have unset := silent cmd mem_cons_self
    have effect := @effect_step letters showLldp device cmd
    generalize device.step letters showLldp cmd = next at effect ⊢
    cases effect with
    | nothing => exact bare
    | enter => exact bare
    | leave => exact bare
    | commit mode => rfl
    | rollback => rfl
    | stage statement asked =>
      rw [unset] at asked
      cases asked
    | delete path =>
      unfold delete
      dsimp only
      rw [bare, filter_nil]

/-- What is active is isolated exactly if no command deletes a committed line. -/
theorem isolated_iff (letters : Letters) (showLldp : JunosDevice → String) (start : JunosDevice)
    (commands : List String) :
    Isolated letters showLldp start commands ↔
      Along (step letters showLldp) (Spares letters) start commands := by
  constructor
  · intro isolated
    exact isolated.kept.weaken fun device cmd => (kept_iff device cmd).mp
  · intro spares
    refine ⟨spares.weaken fun device cmd => (kept_iff device cmd).mpr, ?_⟩
    rintro front rollback middle commit back rfl asked editing silent committing before
    refine active_step_commit ?_ committing
    have bare : ((runFrom (step letters showLldp) start front).step letters showLldp
        rollback).candidate = [] := by rw [step_rollback editing asked]
    rw [show before = _ from runFrom_append .., runFrom_cons]
    exact bare_run bare silent

end Proofs

def bareDevice : JunosDevice where
  hostname := "vsrx"
  interfaces := .empty

/-- A committed line is gone when it is deleted, before any commit. -/
theorem deleted_at_once : ¬ Isolated plainLetters (fun _ => "") bareDevice
    ["configure", "set system services ssh", "commit", "delete system"] := by
  intro isolated
  have kept := isolated.kept.2.2.2.1 (by decide)
  have lines := congrArg Active.committed kept
  revert lines
  decide

end NetLab.Junos
