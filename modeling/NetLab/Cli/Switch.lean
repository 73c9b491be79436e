import NetLab.Cli.Process
import NetLab.Library.OrderedMap

/-!
# Interfaces, channel groups and staged files

What the rule engine stores of interfaces that are selected, of channel groups that are joined and
of the lines of a staged file. The branches that are left are those of other handlers.
-/

namespace NetLab.Cli

open NetLab.Library Pattern

/-! ## State -/

/-- A value of an interface. -/
inductive Setting where
  | text (content : String)
  | number (value : Nat)
deriving DecidableEq

/-- The values of an interface by their names. -/
abbrev Settings := OrderedMap String Setting

def Settings.ofList (settings : List (String × Setting)) : Settings :=
  settings.foldl (fun stored setting => stored.insert setting.1 setting.2) .empty

structure ChannelGroup where
  mode : String
  members : List String
deriving DecidableEq

/-- What a device keeps of its interfaces and groups, and the files that it stages. -/
structure Switch (Other : Type) where
  interfaces : OrderedMap String Settings
  channelGroups : OrderedMap Nat ChannelGroup
  currentIf : Option String
  tftpFile : Option String
  tftpFiles : OrderedMap String (List String)
  other : Other
deriving DecidableEq

deriving instance DecidableEq for Device

section Branches

variable {Other : Type}

/-! ## Channel groups -/

def portChannel (group : Nat) : String := "Port-channel" ++ toString group

/-- The group with a mode, and with the selected interface as a member. -/
def ChannelGroup.joined (group : ChannelGroup) (mode : String) (currentIf : Option String) :
    ChannelGroup where
  mode := mode
  members :=
    match currentIf with
    | none => group.members
    | some name =>
      if name ≠ "" ∧ name ∉ group.members then group.members ++ [name] else group.members

theorem ChannelGroup.mem_joined_iff {group : ChannelGroup} {mode name : String}
    {currentIf : Option String} : name ∈ (group.joined mode currentIf).members ↔
      name ∈ group.members ∨ (currentIf = some name ∧ name ≠ "") := by
  cases currentIf with
  | none => simp [joined]
  | some selected =>
    dsimp only [joined]
    split
    · rename_i added
      rw [List.mem_append, List.mem_singleton]
      constructor
      · rintro (inside | rfl)
        · exact .inl inside
        · exact .inr ⟨rfl, added.1⟩
      · rintro (inside | ⟨same, -⟩)
        · exact .inl inside
        · exact .inr (Option.some.inj same).symm
    · rename_i listed
      refine ⟨.inl, ?_⟩
      rintro (inside | ⟨same, solid⟩)
      · exact inside
      · cases same
        exact not_not.mp fun outside => listed ⟨solid, outside⟩

/-- What `_validate_command` stores for a `channel-group` command. -/
def joinChannel (channel : Nat × String) (device : Device (Switch Other)) : Switch Other :=
  let switch := device.rest
  let group := (switch.channelGroups.lookup channel.1).getD ⟨channel.2, []⟩
  let port :=
    match switch.interfaces.lookup (portChannel channel.1) with
    | none => Settings.ofList [("ip", .text ""), ("prefix", .number 0),
        ("status", .text "connected"), ("vlan", .text "trunk"), ("speed", .text "1000"),
        ("duplex", .text "full"), ("desc", .text (portChannel channel.1))]
    | some settings => settings.insert "status" (.text "connected")
  { switch with
    channelGroups :=
      switch.channelGroups.insert channel.1 (group.joined channel.2 switch.currentIf)
    interfaces := switch.interfaces.insert (portChannel channel.1) port }

/-! ## Interfaces -/

/-- `_resolve_ifname`. -/
def resolveIfname (letters : Letters) (ifname : String) (interfaces : OrderedMap String Settings) :
    String :=
  if ifname ∈ interfaces.keys then ifname
  else
    (interfaces.keys.find? fun existing =>
      letters.lower existing = letters.lower ifname).getD ifname

/-- What follows `interface` in a command. -/
def interfaceSpec (letters : Letters) (command : String) : String :=
  ((seq [wordAs letters.alike "interface", blanks] ⟨none, command.toList⟩).head?.map fun place =>
    strip (String.ofList place.rest)).getD ""

def interfaceName (letters : Letters) (spec : String) : String :=
  let vlan := seq [wordAs letters.alike "vlan", blanks]
  let channel := seq [oneOf [wordAs letters.alike "port-channel", wordAs letters.alike "po"], blanks]
  if isMatch (seq [vlan, number letters, atEnd]) spec then
    "Vlan" ++ toString ((numberAfter letters vlan spec).getD 0)
  else if isMatch (seq [channel, number letters, atEnd]) spec then
    portChannel ((numberAfter letters channel spec).getD 0)
  else (words spec).headD ""

/-- Kinds of interfaces that come to be when they are selected: how their names start, their state
and their type, and what else they have. -/
def createdKinds : List (String × String × String × List (String × Setting)) :=
  [("loopback", "up", "Loopback", []), ("vlan", "down", "SVI", []),
    ("virtual-template", "up", "Virtual-Access",
      [("unnumbered", .text ""), ("peer_pool", .text ""), ("ppp_auth", .text "")]),
    ("nve", "up", "NVE", [])]

def selectedSettings (letters : Letters) (ifname : String) (settings : Option Settings) :
    Option Settings :=
  (createdKinds.find? fun kind => startsWith (letters.lower ifname) kind.1).bind fun kind =>
    match settings with
    | none => some (Settings.ofList ([("ip", .text ""), ("prefix", .number 0),
        ("status", .text kind.2.1), ("speed", .text ""), ("duplex", .text ""), ("desc", .text ""),
        ("type", .text kind.2.2.1)] ++ kind.2.2.2))
    | some settings =>
      if kind.2.1 = "up" then some (settings.insert "status" (.text "up")) else none

/-- `_cmd_interface`, which also enters the mode `config-if`. -/
def cmdInterface (letters : Letters) (command : String) (device : Device (Switch Other)) :
    Switch Other :=
  let switch := device.rest
  let ifname :=
    resolveIfname letters (interfaceName letters (interfaceSpec letters command)) switch.interfaces
  { switch with
    currentIf := some ifname
    interfaces :=
      match selectedSettings letters ifname (switch.interfaces.lookup ifname) with
      | some settings => switch.interfaces.insert ifname settings
      | none => switch.interfaces }

/-! ## Staged files -/

/-- A line is added to the staged file. -/
def captureLine (line : String) (device : Device (Switch Other)) : Switch Other :=
  let switch := device.rest
  let name := switch.tftpFile.getD ""
  { switch with
    tftpFiles :=
      switch.tftpFiles.insert name (((switch.tftpFiles.lookup name).getD []) ++ [line]) }

/-! ## The branches together -/

/-- Handlers that keep interfaces, groups and files as above, and do the rest as others do. -/
def switchHandlers (base : Handlers (Switch Other)) : Handlers (Switch Other) :=
  { base with
    joinChannel := joinChannel
    capture := captureLine
    leave := fun mode device =>
      { device.rest with
        tftpFile := if mode = "config-tftp-file" then none else device.rest.tftpFile
        other := (base.leave mode device).other }
    enter := fun mode command device =>
      if mode = "config-if" then ("", cmdInterface base.letters command device)
      else
        let outcome := base.enter mode command device
        (outcome.1, { device.rest with other := outcome.2.other }) }

variable (base : Handlers (Switch Other))

def give (device : Device (Switch Other)) (line : String) : Device (Switch Other) :=
  (process (switchHandlers base) line device).2

end Branches

/-! ## Handlers that do nothing else -/

/-- Branches that print nothing. -/
def silentBase : Handlers (Switch Unit) where
  letters := plainLetters
  help _ _ := "help"
  errorText _ command _ := "% Invalid input detected at '^' marker.\n  " ++ command ++ "\n  ^"
  joinChannel _ device := device.rest
  vendor _ device := device.kept ""
  leave _ device := device.rest
  capture _ device := device.rest
  enter _ _ device := ("", device.rest)
  hasEigrp _ := true
  shownBefore _ _ := none
  shownAfter _ device := ("", device.rest)
  runningConfig _ := ""
  software _ _ := none
  ping _ device := ("", device.rest)
  traceroute _ device := ("", device.rest)
  clearTraffic device := device.rest
  config _ device := ("", device)

end NetLab.Cli
