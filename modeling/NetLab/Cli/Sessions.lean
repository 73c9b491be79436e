import NetLab.Cli.Process
import NetLab.Library.Execution

/-!
# Sessions

A session whose login has no privileges may only look at a device. Commands that would configure it
or show its configuration are refused by their spelling, before the rule engine spells them out.
-/

namespace NetLab.Cli

open NetLab.Library NetLab.Execution Pattern

/-! ## Sessions -/

/-- `_PRIVILEGED_ONLY_PATTERNS`. -/
def privilegedOnlyPatterns (letters : Letters) : List Pattern :=
  let word := wordAs letters.alike
  let boundary := boundaryOf letters.isWord
  let shows := seq [word "sh", opt (word "ow"), blanks]
  [seq [word "conf", opt (seq [word "ig", opt (word "ure")]),
      opt (seq [blanks, word "t", opt (seq [word "erm", opt (word "inal")])]), someBlanks, atEnd],
    seq [shows, word "run", opt (word "ning-config"), boundary],
    seq [shows, word "start", opt (word "up-config"), boundary],
    seq [word "write", boundary], seq [word "copy", boundary], seq [word "reload", boundary],
    seq [word "debug", boundary], seq [word "crypto", boundary],
    seq [word "ip", blanks, word "ssh", blanks, word "pubkey-chain", boundary]]

/-- `is_privileged_only`. -/
def isPrivilegedOnly (letters : Letters) (command : String) : Bool :=
  (privilegedOnlyPatterns letters).any fun pattern => isMatch pattern (strip command)

/-- `check_enable_password`: nothing if no password is set. -/
def checkEnablePassword {Rest : Type} (device : Device Rest) (password : String) : Option Bool :=
  if device.enableSecret.getD "" ≠ "" then some (device.enableSecret = some password)
  else if device.enablePassword.getD "" ≠ "" then some (device.enablePassword = some password)
  else none

structure Session (Rest : Type) where
  device : Device Rest
  privilege : Int

/-- A line that is sent, and the password that is sent after it if it is asked for. -/
structure Sent where
  line : String
  password : Option String

def Reply.discloses : Reply → Bool
  | .configuration _ => true
  | .text _ => false

section Sessions

variable {Rest : Type} (handlers : Handlers Rest)

/-- `SshCliServer.run_command`. -/
def Session.runCommand (session : Session Rest) (line : String) : Reply × Session Rest :=
  let outcome := process handlers line session.device
  (outcome.1, { session with device := outcome.2 })

/-- `SshCliServer._dispatch`. -/
def dispatch (session : Session Rest) (sent : Sent) : Reply × Session Rest :=
  let low := handlers.letters.lower sent.line
  if low ∈ ["enable", "en"] then
    if 15 ≤ session.privilege then session.runCommand handlers sent.line
    else
      match sent.password with
      | none => (.text "", session)
      | some password =>
        match checkEnablePassword session.device password with
        | none => (.text "% No password set.", session)
        | some true => (.text "", { session with privilege := 15 })
        | some false => (.text "% Access denied.", session)
  else if low = "disable" then
    (.text "", if session.device.mode = "exec" then { session with privilege := 1 } else session)
  else if session.privilege < 15 ∧ isPrivilegedOnly handlers.letters sent.line then
    (.text ("% Invalid input detected at '^' marker.\n  " ++ sent.line ++ "\n  ^"), session)
  else session.runCommand handlers sent.line

/-- The device stays in mode `exec`, and the configuration is not shown. -/
def Secure (outcome : Reply × Session Rest) : Prop :=
  outcome.2.device.mode = "exec" ∧ outcome.1.discloses = false

/-- Nothing that is sent gets past the mode `exec`. -/
def Contained (session : Session Rest) (sents : List Sent) : Prop :=
  Along (fun session sent => (dispatch handlers session sent).2)
    (fun session sent => Secure (dispatch handlers session sent)) session sents

/-! ## Commands that escape -/

/-- The command enters a configuration mode. -/
def entersConfiguration (c : String) : Bool :=
  configures "cisco" c || isMatch interfacePattern c || isMatch routerPattern c

/-- The command asks for the configuration, if it gets to the branches of `show`. -/
def asksConfiguration (c : String) : Bool :=
  isMatch (runningPattern handlers) c || c ∈ ["show run", "sh run", "show start", "write terminal"]

/-- The command shows the configuration, maybe after `do`. -/
def showsConfiguration (command c : String) : Bool :=
  (startsWith c "show " && asksConfiguration handlers c) ||
    (startsWith c "do " && startsWith (comparedForm handlers (afterDo command)) "show " &&
      asksConfiguration handlers (comparedForm handlers (afterDo command)))

/-- The command that the line is spelled out to is valid in mode `exec` and enters a configuration
mode or shows the configuration. -/
structure Privileged (deviceType line : String) : Prop where
  noHelp : strip line ≠ "" ∧ '?' ∉ (strip line).toList
  valid : validateCommand handlers.letters deviceType "exec"
    (comparedForm handlers (expandAbbreviation handlers.letters (strip line) deviceType)) = none
  privileged :
    let command := expandAbbreviation handlers.letters (strip line) deviceType
    (entersConfiguration (comparedForm handlers command) ||
      showsConfiguration handlers command (comparedForm handlers command)) = true

/-- The line is privileged, but not refused by its spelling. -/
structure Escapes (deviceType line : String) : Prop where
  ordinary : handlers.letters.lower line ∉ ["enable", "en", "disable"]
  spelling : isPrivilegedOnly handlers.letters line = false
  privileged : Privileged handlers deviceType line

/-- The earlier branches of `show` and those for software updates do not take commands that ask for
the configuration. -/
structure Handlers.Lawful : Prop where
  shownBefore : ∀ command device, asksConfiguration handlers (comparedForm handlers command) →
    handlers.shownBefore command device = none
  software : ∀ command device, asksConfiguration handlers (comparedForm handlers command) ∨
    startsWith (comparedForm handlers command) "do " → handlers.software command device = none

end Sessions

end NetLab.Cli
