import NetLab.Cli.Process
import NetLab.Library.OrderedMap
import NetLab.Library.Words

/-!
# Junos devices

Lines of the configuration are edited in a list of candidates and move to the list of committed lines
when the client commits. A line replaces those that start with its stem, and only then takes effect.
-/

namespace NetLab.Junos

open NetLab.Library NetLab.Cli Pattern

structure Interface where
  ip : String
  prefixLength : Nat
  status : String
deriving DecidableEq

structure JunosDevice where
  mode : String := "exec"
  hostname : String
  interfaces : OrderedMap String Interface
  sshRsaKey : Bool := false
  netconfEnabled : Bool := false
  candidate : List String := []
  committed : List String := []

/-! ## Statements -/

/-- A line of the configuration. -/
inductive Statement where
  | address (port unit ip length : String)
  | disable (port : String)
  | hostName (name : String)
  | ssh
  | netconfSsh
deriving DecidableEq

namespace Statement

def words : Statement → List String
  | address port unit ip length =>
    ["interfaces", port, "unit", unit, "family", "inet", "address", ip ++ "/" ++ length]
  | disable port => ["interfaces", port, "disable"]
  | hostName name => ["system", "host-name", name]
  | ssh => ["system", "services", "ssh"]
  | netconfSsh => ["system", "services", "netconf", "ssh"]

def text (statement : Statement) : String := unwords statement.words

end Statement

section Reading

variable (letters : Letters)

def isNumeral (text : String) : Bool :=
  text ≠ "" && text.toList.all fun char => (letters.digit char).isSome

/-- An address and the length of its prefix, with a slash between them. -/
def readAddress (text : String) : Option (String × String) :=
  let ip := text.toList.takeWhile fun char => char ≠ '/'
  let length := String.ofList (text.toList.drop (ip.length + 1))
  if ip ≠ [] ∧ (ip.all fun char => (letters.digit char).isSome || char = '.') = true ∧
      ip.length < text.toList.length ∧ isNumeral letters length = true then
    some (String.ofList ip, length)
  else none

def readPath : List String → Option Statement
  | ["interfaces", port, "unit", unit, "family", "inet", "address", value] =>
    if isNumeral letters unit then
      (readAddress letters value).map fun address => .address port unit address.1 address.2
    else none
  | ["interfaces", port, "disable"] => some (.disable port)
  | ["system", "host-name", name] => some (.hostName name)
  | _ => none

def readLine (line : String) : Option Statement :=
  match readPath letters (words line) with
  | some statement => some statement
  | none =>
    if line = "system services ssh" then some .ssh
    else if line = "system services netconf ssh" then some .netconfSsh
    else none

/-- The statement of a command that sets one. -/
def readSet (c : String) : Option Statement :=
  match words c with
  | "set" :: path =>
    match readPath letters path with
    | some statement => some statement
    | none =>
      if c = "set system services ssh" then some .ssh
      else if c = "set system services netconf ssh" then some .netconfSsh
      else none
  | _ => none

def readDelete (c : String) : Option String :=
  match words c with
  | "delete" :: _ :: _ =>
    let path := strip (String.ofList (c.toList.drop "delete".length))
    if '\n' ∈ path.toList then none else some path
  | _ => none

def terminalReply (c : String) : Option String :=
  match words c with
  | ["set", "cli", "screen-width", width] =>
    if isNumeral letters width then some ("Screen width set to " ++ width) else none
  | ["set", "cli", "screen-length", length] =>
    if isNumeral letters length then some ("Screen length set to " ++ length) else none
  | _ =>
    if c = "set cli complete-on-space off" then some "Disabling complete-on-space"
    else if c = "set cli complete-on-space on" then some "Enabling complete-on-space"
    else none

end Reading

/-! ## Displays -/

/-- Part of the configuration in braces. -/
inductive Branch where
  | leaf (key : String)
  | node (key : String) (children : List Branch)

/-- Add a leaf below a path. -/
def insertBranch : (path : List String) → (leaf : String) → List Branch → List Branch
  | [], leaf, tree =>
    if tree.any fun branch => match branch with
      | .leaf key => key = leaf
      | .node _ _ => false then tree
    else tree ++ [.leaf leaf]
  | first :: rest, leaf, tree =>
    if tree.any fun branch => match branch with
      | .leaf _ => false
      | .node key _ => key = first then
      tree.map fun branch => match branch with
        | .leaf key => .leaf key
        | .node key children =>
          .node key (if key = first then insertBranch rest leaf children else children)
    else tree ++ [.node first (insertBranch rest leaf [])]

def indent (depth : Nat) : String := String.ofList (List.replicate (4 * depth) ' ')

mutual

def Branch.render (depth : Nat) : Branch → List String
  | .leaf key => [indent depth ++ key ++ ";"]
  | .node key children =>
    (indent depth ++ key ++ " \x7b") :: renderBranches (depth + 1) children ++
      [indent depth ++ "\x7d"]

def renderBranches (depth : Nat) : List Branch → List String
  | [] => []
  | branch :: later => branch.render depth ++ renderBranches depth later

end

/-- `_junos_render_hierarchy`. -/
def renderHierarchy (lines : List String) : String :=
  let tree := lines.foldl (fun tree line =>
    let path := words line
    insertBranch (path.take (path.length - 2)) (unwords (path.drop (path.length - 2))) tree) []
  "\n".intercalate (renderBranches 0 tree)

def padTo (width : Nat) (text : String) : String := String.ofList (text.toList.rightpad width ' ')

/-- One line of `show interfaces terse`. -/
def terseLine (name : String) (port : Interface) : String :=
  padTo 24 (name ++ ".0") ++ padTo 6 (if port.status ≠ "admin-down" then "up" else "down") ++
    padTo 5 (if port.status = "up" then "up" else "down") ++
    if port.ip ≠ "" then "inet     " ++ port.ip ++ "/" ++ toString port.prefixLength else ""

namespace JunosDevice

variable (device : JunosDevice)

def display (showLldp : JunosDevice → String) (orig c : String) : String :=
  if isMatch (seq [exact "show", blanks, exact "configuration", someBlanks, exact "|", someBlanks,
      exact "display", blanks, exact "set"]) c then
    "\n".intercalate (device.committed.map fun line => "set " ++ line)
  else if isMatch (seq [exact "show", blanks, exact "configuration", atEnd]) c then
    renderHierarchy device.committed
  else if isMatch (seq [exact "show", blanks, exact "version"]) c || c = "run show version" then
    "Hostname: " ++ device.hostname ++ "\nModel: vSRX\nJunos: 23.4R1.9\nJUNOS Software Release [23.4R1.9]"
  else if isMatch (seq [exact "show", blanks, exact "interfaces", blanks, exact "terse"]) c then
    "\n".intercalate ("Interface               Admin Link Proto    Local                 Remote" ::
        device.interfaces.entries.map fun entry => terseLine entry.1 entry.2)
  else if isMatch (seq [exact "show", blanks, exact "lldp", blanks, exact "neighbors"]) c then
    showLldp device
  else "\n" ++ orig ++ "\n                 ^\nsyntax error, expecting <command>."

/-! ## Commands -/

/-- `_junos_stage`. -/
def stage (line : String) : JunosDevice :=
  { device with
    candidate := (device.candidate.filter fun other => ¬ Starts (stem line) other) ++ [line] }

def commitLine (letters : Letters) (line : String) : JunosDevice :=
  let listed := { device with
    committed := (device.committed.filter fun other => ¬ Starts (stem line) other) ++ [line] }
  match readLine letters line with
  | some (.address port _ ip length) =>
    { listed with
      interfaces := listed.interfaces.modify port fun _ =>
        ⟨ip, numberOf letters length.toList, "up"⟩ }
  | some (.disable port) =>
    { listed with
      interfaces := listed.interfaces.modify port fun old => { old with status := "admin-down" } }
  | some (.hostName name) => { listed with hostname := name }
  | some .ssh => { listed with sshRsaKey := true }
  | some .netconfSsh => { listed with netconfEnabled := true }
  | none => listed

/-- `_junos_apply_commit`. -/
def applyCommit (letters : Letters) : JunosDevice :=
  { device.candidate.foldl (fun device line => device.commitLine letters line) device with
    candidate := [] }

def delete (path : String) : JunosDevice :=
  { device with
    candidate := device.candidate.filter fun line => ¬ Starts path line
    committed := device.committed.filter fun line => ¬ Starts path line }

def configure (letters : Letters) (orig c : String) : Option (String × JunosDevice) :=
  if c = "commit check" then some ("configuration check succeeds", device)
  else if c = "commit" then some ("commit complete", device.applyCommit letters)
  else if c = "commit and-quit" then
    some ("commit complete", { device.applyCommit letters with mode := "exec" })
  else if c ∈ ["rollback", "rollback 0"] then some ("load complete", { device with candidate := [] })
  else
    match readSet letters c, readDelete c with
    | some statement, _ => some ("", device.stage statement.text)
    | none, some path => some ("", device.delete path)
    | none, none =>
      if Starts "set " c then
        let rest := String.ofList (orig.toList.dropWhile fun char => !isSpace char)
        some ("syntax error: '" ++ strip rest ++ "'", device)
      else none

/-- `_juniper_process`, with its reply. -/
def juniperProcess (letters : Letters) (showLldp : JunosDevice → String) (cmd : String) :
    String × JunosDevice :=
  let orig := strip cmd
  let c := strip (letters.lower cmd)
  if c ∈ ["configure", "configure exclusive", "configure private"] then
    ("Entering configuration mode\n\n[edit]", { device with mode := "config" })
  else if c ∈ ["exit", "exit configuration-mode"] ∧ device.mode = "config" then
    ("", { device with mode := "exec" })
  else if c = "quit" ∧ device.mode = "exec" then ("", device)
  else
    match terminalReply letters c with
    | some reply => (reply, device)
    | none =>
      match if device.mode = "config" then device.configure letters orig c else none with
      | some result => result
      | none => (device.display showLldp orig c, device)

end JunosDevice

end NetLab.Junos
