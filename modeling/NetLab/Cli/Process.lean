import NetLab.Cli.Abbreviations
import NetLab.Config.Import

/-!
# The rule engine

A command is spelled out, checked against the mode and the ranges of its numbers, and then given to
the first branch that takes it. What a branch does beyond moving between modes is a parameter.
-/

namespace NetLab.Cli

open NetLab.Library NetLab.Config Pattern

/-! ## Checks -/

inductive CommandError where
  | ambiguous (candidates : List String)
  | incomplete
  | wrongMode
  | outOfRange (field allowed : String) (value : Nat)
  | invalid
deriving DecidableEq

/-- Types of devices that speak like Cisco IOS. -/
def iosTypes : List String := ["catalyst", "cisco", "srs", "nexus"]

/-- First words of commands, for the check of ambiguous ones. -/
def execCommands : List String :=
  ["show", "ping", "traceroute", "clear", "debug", "undebug", "configure", "enable", "disable",
    "write", "copy", "reload", "logout", "exit", "end", "interface", "router", "vlan",
    "spanning-tree", "ip", "no", "do", "clock", "feature", "vpc", "snmp-server", "logging", "ntp",
    "banner", "service", "hostname", "crypto", "aaa", "username", "line", "access-list", "standby",
    "vrrp", "channel-group"]

/-- The least number of words of a command in a mode. -/
def incompleteRules : List (String × String × Nat) :=
  [("interface", "config", 2), ("interface", "exec", 2), ("ip route", "config", 4),
    ("vlan", "config", 2), ("neighbor", "config-router", 3), ("username", "config", 3)]

def configOnlyCommands : List String :=
  ["hostname", "interface", "router ospf", "router rip", "router bgp", "spanning-tree mode", "vlan",
    "ip route", "snmp-server", "logging host", "ntp server", "banner", "service", "username",
    "line", "access-list", "crypto", "aaa", "standby", "vrrp", "channel-group", "switchport",
    "shutdown", "no shutdown", "ip address", "channel-group", "spanning-tree portfast",
    "spanning-tree bpduguard", "spanning-tree guard", "vpc domain", "feature"]

section Checks

variable (letters : Letters)

def number : Pattern := run (fun char => (letters.digit char).isSome) 1

def numberOf (digits : List Char) : Nat :=
  digits.foldl (fun value char => 10 * value + (letters.digit char).getD 0) 0

def numberAfter (start : Pattern) (c : String) : Option Nat :=
  (start ⟨none, c.toList⟩).findSome? fun place =>
    (number letters place).head?.map fun finish => numberOf letters (taken place finish)

/-- A number in a command, and the values that it may have. -/
structure RangeRule where
  field : String
  start : Pattern
  allowed : String
  within : Nat → Bool

def rangeRules : List RangeRule :=
  [⟨"VLAN ID", seq [exact "vlan", blanks], "1-4094", fun value => 1 ≤ value && value ≤ 4094⟩,
    ⟨"STP priority",
      seq [exact "spanning-tree", blanks, exact "vlan", blanks, number letters, blanks,
        exact "priority", blanks],
      "0-61440 (must be multiple of 4096)", fun value => value ≤ 61440 && value % 4096 == 0⟩,
    ⟨"OSPF priority", seq [exact "ip", blanks, exact "ospf", blanks, exact "priority", blanks],
      "0-255", fun value => value ≤ 255⟩,
    ⟨"AS number", seq [exact "router", blanks, exact "bgp", blanks], "1-4294967295",
      fun value => 1 ≤ value && value ≤ 4294967295⟩,
    ⟨"channel-group", seq [exact "channel-group", blanks], "1-48",
      fun value => 1 ≤ value && value ≤ 48⟩,
    ⟨"VRRP group", seq [exact "vrrp", blanks], "1-255", fun value => 1 ≤ value && value ≤ 255⟩,
    ⟨"HSRP group", seq [exact "standby", blanks], "0-255", fun value => value ≤ 255⟩]

/-- The number of a `channel-group` command and its mode. -/
def channelGroup (c : String) : Option (Nat × String) :=
  (numberAfter letters (seq [exact "channel-group", blanks]) c).map fun group =>
    let named := seq [exact "channel-group", blanks, number letters, blanks, exact "mode", blanks]
    (group, (((named ⟨none, c.toList⟩).head?.bind fun place =>
      (visible place).head?.map fun finish => String.ofList (taken place finish)).getD "on"))

def rangeError (c : String) : Option CommandError :=
  match (rangeRules letters).findSome? fun rule =>
      (numberAfter letters rule.start c).bind fun value =>
        if rule.within value then none
        else some (.outOfRange rule.field rule.allowed value) with
  | some error => some error
  | none =>
    (channelGroup letters c).bind fun channel =>
      if channel.2 ∈ ["active", "passive", "on"] then none else some .invalid

/-- `_validate_command`. -/
def validateCommand (deviceType mode c : String) : Option CommandError :=
  match words c with
  | [] => none
  | first :: rest =>
    let count := rest.length + 1
    let candidates := execCommands.filter fun known => startsWith known first && known ≠ first
    if deviceType ∈ iosTypes ∧ mode = "exec" ∧ 2 ≤ candidates.length ∧ first ∉ execCommands then
      some (.ambiguous candidates)
    else if incompleteRules.any fun rule =>
        startsWith c rule.1 && rule.2.1 = mode && decide (count < rule.2.2) then some .incomplete
    else if startsWith c "ip address" ∧ mode = "config-if" ∧
        ¬ isMatch (seq [exact "ip", blanks, exact "address", blanks, exact "pppoe",
          opt (seq [blanks, exact "setroute"]), someBlanks, atEnd]) c ∧
        ¬ isMatch (seq [exact "ip", blanks, exact "address", blanks,
          run (fun char => (letters.digit char).isSome || char = '.') 1, exact "/",
          number letters]) c ∧ count < 4 then some .incomplete
    else if mode = "exec" ∧ deviceType ∈ iosTypes ∧ configOnlyCommands.any (startsWith c) ∧
        c ∉ ["exit", "end", "quit"] then some .wrongMode
    else if deviceType ∈ iosTypes then rangeError letters c
    else none

end Checks

/-! ## Devices and replies -/

/-- A device: its mode, its type, the passwords of the privileged mode and the rest. -/
structure Device (Rest : Type) where
  mode : String
  deviceType : String
  enableSecret : Option String
  enablePassword : Option String
  rest : Rest

/-- What a command prints: the configuration or another text. -/
inductive Reply where
  | text (content : String)
  | configuration (content : String)
deriving DecidableEq

/-- What the branches do besides moving between modes. Only `config` and the commands of other
systems are given the whole device to change. -/
structure Handlers (Rest : Type) where
  letters : Letters
  help : String → Device Rest → String
  errorText : CommandError → String → Device Rest → String
  joinChannel : Nat × String → Device Rest → Rest
  vendor : String → Device Rest → Reply × Device Rest
  leave : (mode : String) → Device Rest → Rest
  capture : String → Device Rest → Rest
  enter : (mode command : String) → Device Rest → String × Rest
  hasEigrp : Device Rest → Bool
  shownBefore : String → Device Rest → Option (String × Rest)
  shownAfter : String → Device Rest → String × Rest
  runningConfig : Device Rest → String
  software : String → Device Rest → Option (String × Rest)
  ping : String → Device Rest → String × Rest
  traceroute : String → Device Rest → String × Rest
  clearTraffic : Device Rest → Rest
  config : String → Device Rest → String × Device Rest

section Process

variable {Rest : Type} (handlers : Handlers Rest)

/-- A text is printed and the rest of the device changes. -/
def Device.told (device : Device Rest) (outcome : String × Rest) : Reply × Device Rest :=
  (.text outcome.1, { device with rest := outcome.2 })

/-- A text is printed. -/
def Device.kept (device : Device Rest) (text : String) : Reply × Device Rest := (.text text, device)

/-! ## Moving between modes -/

/-- `CONFIG_MODES`. -/
def configModes : List String := "config" :: configSubmodes.map Prod.fst

/-- Spellings of `configure terminal`. -/
def configureWords : List String :=
  ["configure terminal", "conf t", "conf terminal", "config t", "config terminal",
    "enable configure", "en conf"]

/-- The command enters the global configuration. -/
def configures (deviceType c : String) : Bool :=
  if deviceType ∈ ["catalyst", "cisco", "srs"] then
    c ∈ configureWords || isMatch (seq [exact "conf", opt (exact "ig"), blanks, exact "te"]) c
  else
    c ∈ ["configure", "conf", "config", "configure terminal", "conf t", "config t"]

def interfacePattern : Pattern := seq [exact "interface", blanks, visible]

def routerPattern : Pattern :=
  seq [exact "router", blanks, oneOf [exact "ospf", exact "bgp", exact "eigrp", exact "rip"]]

/-- `_cmd_configure`. -/
def cmdConfigure (device : Device Rest) : Reply × Device Rest :=
  (.text "Enter configuration commands, one per line.  End with CNTL/Z.",
    { device with mode := "config" })

/-- `_cmd_exit`. -/
def cmdExit (device : Device Rest) : Reply × Device Rest :=
  (.text "",
    { device with mode := exitMode device.mode, rest := handlers.leave device.mode device })

def entered (mode command : String) (device : Device Rest) : Reply × Device Rest :=
  let outcome := handlers.enter mode command device
  (.text outcome.1, { device with mode, rest := outcome.2 })

/-- Modes below the global configuration that a command enters from one of them. -/
def submodeOf (c : String) (device : Device Rest) : Option String :=
  if device.mode = "config" then
    if isMatch (seq [exact "vlan", blanks, number handlers.letters, atEnd]) c then
      some "config-vlan"
    else if isMatch (seq [exact "bba-group", blanks, exact "pppoe", blanks, visible]) c ∧
        device.deviceType ∈ ["cisco", "catalyst", "srs"] then some "config-bba"
    else if c = "evpn" ∧ device.deviceType = "nexus" then some "config-evpn"
    else if c = "l2vpn evpn" ∧ device.deviceType = "catalyst" then some "config-l2vpn-evpn"
    else if isMatch (seq [exact "vlan", blanks, exact "configuration", blanks,
        number handlers.letters, atEnd]) c ∧ device.deviceType = "catalyst" then
      some "config-vlan-config"
    else none
  else if device.mode = "config-router" ∧ isMatch (seq [exact "address-family", blanks,
      exact "l2vpn", blanks, exact "evpn"]) c then some "config-bgp-af"
  else none

/-- The branches that move between modes. -/
def transition (command c : String) (device : Device Rest) : Option (Reply × Device Rest) :=
  if c = "end" ∧ device.mode ∈ configModes then
    some (.text "", { device with mode := "exec", rest := handlers.leave device.mode device })
  else if c ∈ ["exit", "end", "quit"] ∨ c = "exit-address-family" ∧ device.mode = "config-bgp-af"
    then some (cmdExit handlers device)
  else if device.mode = "config-tftp-file" then
    some (.text "", { device with rest := handlers.capture command device })
  else if configures device.deviceType c then some (cmdConfigure device)
  else if device.deviceType ∈ ["catalyst", "cisco", "srs"] ∧ c ∈ ["configure", "conf", "config"]
    then some (device.kept ("% Invalid input detected at '^' marker.\n  " ++ c ++ "\n  ^"))
  else if isMatch interfacePattern c then some (entered handlers "config-if" command device)
  else if isMatch routerPattern c then
    if device.deviceType = "nexus" ∧ startsWith c "router eigrp" ∧ ¬ handlers.hasEigrp device then
      some (device.kept ("% Invalid command at '^' marker.\n" ++
        "  (NX-OSでは \"feature eigrp\" が先に必要です)"))
    else some (entered handlers "config-router" command device)
  else
    (submodeOf handlers c device).map fun mode => entered handlers mode command device

/-! ## Showing -/

def runningPattern : Pattern :=
  seq [exact "show", blanks,
    oneOf [seq [exact "run", opt (exact "ning-config")], exact "candidate-config",
      seq [exact "start", opt (exact "up-config")],
      seq [exact "con", opt (exact "f"), opt (exact "ig")]],
    boundaryOf handlers.letters.isWord]

/-- `_cmd_show`. -/
def cmdShow (command : String) (device : Device Rest) : Reply × Device Rest :=
  let c := strip (handlers.letters.lower command)
  match handlers.shownBefore command device with
  | some outcome => device.told outcome
  | none =>
    if isMatch (runningPattern handlers) c ∨
        c ∈ ["show run", "sh run", "show start", "write terminal"] then
      (.configuration (handlers.runningConfig device), device)
    else device.told (handlers.shownAfter command device)

/-- `_cmd_save`. -/
def savedText (device : Device Rest) : String :=
  if device.deviceType = "sir" then "設定を保存しました。" else "Building configuration...\n[OK]"

/-- The command after `do`. -/
def afterDo (command : String) : String := strip (String.ofList (command.toList.drop 3))

/-- A command with `do` before it. -/
def cmdDo (command : String) (device : Device Rest) : Reply × Device Rest :=
  let sub := afterDo command
  let c := strip (handlers.letters.lower sub)
  if startsWith c "show " then cmdShow handlers sub device
  else if startsWith c "ping " then device.told (handlers.ping sub device)
  else if startsWith c "traceroute " then device.told (handlers.traceroute sub device)
  else if c ∈ ["write memory", "write", "copy running-config startup-config"] then
    device.kept (savedText device)
  else device.kept ("% Invalid input detected at '^' marker.\n  do " ++ sub ++ "\n      ^")

/-- The branches that show something, in every mode. -/
def display (command c : String) (device : Device Rest) : Option (Reply × Device Rest) :=
  match (if isMatch (seq [exact "show", blanks, oneOf [exact "install", exact "issu"],
        boundaryOf handlers.letters.isWord]) c ∧ device.deviceType ∈ ["catalyst", "nexus"]
      then handlers.software command device else none) with
  | some outcome => some (device.told outcome)
  | none =>
    if startsWith c "show " then some (cmdShow handlers command device)
    else if startsWith c "do " ∧ device.deviceType ∈ ["cisco", "catalyst"] then
      some (cmdDo handlers command device)
    else none

/-! ## The rest -/

def operate (command c : String) (device : Device Rest) : Reply × Device Rest :=
  if c = "clear ip traffic" ∧ device.deviceType ∈ ["cisco", "catalyst"] then
    device.told ("", handlers.clearTraffic device)
  else if device.mode ∈ configModes then
    let outcome := handlers.config command device
    (.text outcome.1, outcome.2)
  else
    match handlers.software command device with
    | some outcome => device.told outcome
    | none =>
      if startsWith c "ping " then device.told (handlers.ping command device)
      else if startsWith c "traceroute " then device.told (handlers.traceroute command device)
      else if c ∈ ["write memory", "write", "copy running-config startup-config", "save",
          "commit"] then device.kept (savedText device)
      else if c ∈ ["reload", "reset"] then
        device.kept ("Proceed with reload? [confirm] y\nSystem configuration has been modified. "
          ++ "Save? [yes/no]: \n%SYS-5-RELOAD: Reload requested.")
      else if c ∈ ["enable", "admin", "disable"] then device.kept ""
      else if c ∈ ["cls", "clear screen"] then device.kept "\x0c"
      else if device.deviceType ∈ ["sir", "srs"] ∧
          isMatch (oneOf [seq [exact "remote", blanks, number handlers.letters],
            seq [exact "ipsec", blanks], seq [exact "ike", blanks]]) c then
        let outcome := handlers.config command device
        (.text outcome.1, outcome.2)
      else device.kept (handlers.errorText .invalid command device)

/-- Types of devices with a command system of their own. -/
def vendorTypes : List String :=
  ["pc", "asa", "apresia", "bigip", "alb", "juniper", "yamaha", "bas", "fortigate"]

/-- The first branch that takes a command. -/
def runValid (command c : String) (device : Device Rest) : Reply × Device Rest :=
  if device.deviceType ∈ vendorTypes then handlers.vendor command device
  else
    (transition handlers command c device).getD
      ((display handlers command c device).getD (operate handlers command c device))

/-- The device after a `channel-group` command is checked, which already stores the group. -/
def groupJoined (c : String) (device : Device Rest) : Device Rest :=
  match channelGroup handlers.letters c with
  | some channel =>
    if device.deviceType ∈ iosTypes then
      { device with rest := handlers.joinChannel channel device }
    else device
  | none => device

def comparedForm (command : String) : String := strip (handlers.letters.lower command)

/-- `RuleEngine.process`. -/
def process (line : String) (device : Device Rest) : Reply × Device Rest :=
  let stripped := strip line
  if stripped = "" then device.kept ""
  else if '?' ∈ stripped.toList then device.kept (handlers.help stripped device)
  else
    let command := expandAbbreviation handlers.letters stripped device.deviceType
    let c := comparedForm handlers command
    match validateCommand handlers.letters device.deviceType device.mode c with
    | some error => device.kept (handlers.errorText error command device)
    | none => runValid handlers command c (groupJoined handlers c device)

/-! ## One line -/

/-- The line is a command, neither blank nor a question. -/
def Commands (line : String) : Prop := strip line ≠ "" ∧ '?' ∉ (strip line).toList

instance (line : String) : Decidable (Commands line) := inferInstanceAs (Decidable (_ ∧ _))

def commandOf (line : String) (device : Device Rest) : String :=
  expandAbbreviation handlers.letters (strip line) device.deviceType

def spelled (line : String) (device : Device Rest) : String :=
  comparedForm handlers (commandOf handlers line device)

theorem process_of_not_commands {line : String} (idle : ¬ Commands line) (device : Device Rest) :
    ∃ text, process handlers line device = device.kept text := by
  rw [process]
  dsimp only
  by_cases blank : strip line = ""
  · exact ⟨_, if_pos blank⟩
  · rw [if_neg blank, if_pos (not_not.mp fun plain => idle ⟨blank, plain⟩)]
    exact ⟨_, rfl⟩

theorem process_of_commands {line : String} (commands : Commands line) (device : Device Rest) :
    process handlers line device =
      match validateCommand handlers.letters device.deviceType device.mode
          (spelled handlers line device) with
      | some error =>
        device.kept (handlers.errorText error (commandOf handlers line device) device)
      | none =>
        runValid handlers (commandOf handlers line device) (spelled handlers line device)
          (groupJoined handlers (spelled handlers line device) device) := by
  rw [process, spelled, commandOf]
  dsimp only
  rw [if_neg commands.1, if_neg commands.2]

end Process

end NetLab.Cli
