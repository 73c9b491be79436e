import NetLab.Library.Pattern
import NetLab.Library.DottedText

/-!
# Import of a saved configuration

The lines of a configuration are given to the rule engine one after the other. Lines of a section
are indented; the importer notes in `context` that the section is open, and the engine is in the
mode of the section.
-/

namespace NetLab.Config

open NetLab.Library

/-! ## Kinds of lines -/

/-- Line ends: line feed, carriage return, vertical tab, form feed and the separators. -/
def endsLine (char : Char) : Bool :=
  let code := char.toNat
  (10 ≤ code && code ≤ 13) || (28 ≤ code && code ≤ 30) || code == 0x85 || code == 0x2028 ||
    code == 0x2029

/-- `splitlines`. A carriage return and the line feed after it are one line end. -/
def splitLines (text : List Char) : List (List Char) :=
  go [] text
where
  go (line : List Char) : List Char → List (List Char)
    | [] => if line = [] then [] else [line.reverse]
    | '\r' :: '\n' :: rest => line.reverse :: go [] rest
    | char :: rest => if endsLine char then line.reverse :: go [] rest else go (char :: line) rest

def isControl (char : Char) : Bool :=
  let code := char.toNat
  code ≤ 8 || (11 ≤ code && code ≤ 31) || code == 127

/-- `_sanitize_line`. -/
def sanitizeLine (line : List Char) : Option (List Char) :=
  let cleaned := line.filter fun char => !isControl char
  if cleaned.all fun char => char = '\t' || (32 ≤ char.toNat && char.toNat ≤ 126) then some cleaned
  else none

/-- `validate_config_text`: the text is not empty, has no line too many, and is plain ASCII. -/
def validConfig (text : String) : Bool :=
  let lines := splitLines text.toList
  strip text ≠ "" && lines.length ≤ 10000 &&
    lines.all fun line => line.all fun char => char.toNat < 128

section Patterns

open Pattern

/-- `_CISCO_CONTEXT_RE`. -/
def ciscoContext : Pattern :=
  oneOf [seq [word "interface", blanks, visible],
      seq [word "crypto", blanks, word "isakmp", blanks, word "policy", blanks, digits],
      seq [word "crypto", blanks, word "map", blanks, visible, blanks, digits, blanks,
        word "ipsec-isakmp"],
      seq [word "router", blanks, oneOf [word "ospf", word "bgp", word "rip", word "eigrp"],
        boundary],
      seq [word "ip", blanks, word "access-list", blanks, visible, blanks, visible],
      seq [word "vlan", blanks, char Char.isDigit]]

/-- `_CISCO_NO_SUBCTX_RE`. -/
def ciscoNoSubcontext : Pattern :=
  seq [word "crypto", blanks, word "ipsec", blanks, word "transform-set", boundary]

/-- `_CISCO_SKIP_RE`. -/
def ciscoSkip : Pattern :=
  oneOf [seq [word "Building", blanks, word "configuration"],
      seq [word "Current", blanks, word "configuration"],
      seq [word "version", blanks, char Char.isDigit],
      seq [word "boot", blanks],
      seq [word "service", blanks],
      seq [word "no", blanks, word "service", blanks],
      word "!"]

/-- `_has_masked_secret`. -/
def hasMaskedSecret (line : String) : Bool :=
  occursIn (word "***") line ||
    isMatch (seq [someBlanks, exact "crypto", blanks, exact "isakmp", blanks, exact "key", blanks,
      run (fun char => !isSpace char) 0, char (· = '*')]) line

/-- `_IP_PATTERN_RE`. -/
def ipPattern : Pattern :=
  let field := upTo Char.isDigit 3
  seq [boundary, field, word ".", field, word ".", field, word ".", field, boundary]

/-- Lines whose addresses are not looked at. -/
def secretLine : Pattern :=
  seq [someBlanks,
    oneOf [word "password", word "secret", word "key", seq [word "enable", blanks, word "secret"],
      seq [word "username", blanks, visible, blanks, oneOf [word "password", word "secret"]]]]

/-- `_is_valid_ip`, of an address with four fields of digits. -/
def isValidIp (ip : List Char) : Bool :=
  let fields := dotFields (String.ofList ip)
  fields.length = 4 && fields.all fun field => isNumeral field && numeralValue field ≤ 255

/-- `_has_invalid_ip`: the first address in a line that is none. -/
def invalidIp (line : String) : Option (List Char) :=
  if isMatch secretLine line then none
  else (findAll ipPattern (line.length + 1) ⟨none, line.toList⟩).find? fun ip => !isValidIp ip

/-- The name in a `hostname` line. -/
def hostnameOf (line : String) : Option (List Char) :=
  match seq [word "hostname", blanks] ⟨none, line.toList⟩ with
  | [] => none
  | _ => (words line)[1]?.map String.toList

/-- `_sanitize_hostname`. -/
def validHostname (name : List Char) : Bool :=
  1 ≤ name.length && name.length ≤ 63 &&
    name.all fun char => char.isAlphanum || char = '_' || char = '-' || char = '.'

def reportsError (result : String) : Bool :=
  occursIn (oneOf [word "%", word "error", word "invalid"]) result

end Patterns

def cleanLine (line : List Char) : List Char := line.filter fun char => !isControl char

/-- The line starts with a blank. -/
def isIndented (line : List Char) : Bool :=
  (cleanLine line).head? = some ' ' || (cleanLine line).head? = some '\t'

/-- What the importer takes a line for. -/
inductive LineKind where
  | invalid
  | blank
  | finish
  | comment
  | header
  | masked (line : String)
  | badIp (ip : List Char) (line : String)
  | subcommand (line : String)
  | top (line : String)
deriving DecidableEq

def lineKind (line : List Char) : LineKind :=
  match sanitizeLine line with
  | none => .invalid
  | some clean =>
    let stripped := strip (String.ofList clean)
    if stripped = "" then .blank
    else if stripped = "end" then .finish
    else if stripped.toList.head? = some '!' then .comment
    else if Pattern.isMatch ciscoSkip stripped then .header
    else if hasMaskedSecret stripped then .masked stripped
    else
      match invalidIp stripped with
      | some ip => .badIp ip stripped
      | none => if isIndented line then .subcommand stripped else .top stripped

def opensSection (line : String) : Bool :=
  Pattern.isMatch ciscoContext line && !Pattern.isMatch ciscoNoSubcontext line

/-! ## The import -/

/-- The configuration modes below others: `CONFIG_SUBMODES`. -/
def configSubmodes : List (String × String) :=
  [("config-if", "config"), ("config-line", "config"), ("config-router", "config"),
    ("config-vlan", "config"), ("config-crypto", "config"), ("config-monitor", "config"),
    ("config-cmap", "config"), ("config-pmap", "config"), ("config-pmap-c", "config-pmap"),
    ("config-vs-domain", "config"), ("config-vpc-domain", "config"), ("config-dhcp", "config"),
    ("config-tftp-file", "config"), ("config-dhcpv6", "config"), ("config-bba", "config"),
    ("config-evpn", "config"), ("config-evpn-vni", "config-evpn"), ("config-l2vpn-evpn", "config"),
    ("config-l2vpn-evpn-instance", "config-l2vpn-evpn"), ("config-vlan-config", "config"),
    ("config-nve-vni", "config-if"), ("config-bgp-af", "config-router"),
    ("config-sec-zone", "config"), ("config-sec-zone-pair", "config"), ("config-track", "config"),
    ("config-sg-tacacs", "config"), ("config-std-nacl", "config"), ("config-ext-nacl", "config"),
    ("config-mdt", "config"), ("config-applet", "config"), ("config-app-hosting", "config"),
    ("config-openflow", "config"), ("config-openflow-switch", "config-openflow"),
    ("config-ssh-pubkey", "config"), ("config-ssh-pubkey-user", "config-ssh-pubkey"),
    ("config-ssh-pubkey-key", "config-ssh-pubkey-user")]

/-- The mode that `exit` leads to. -/
def exitMode (mode : String) : String :=
  match configSubmodes.lookup mode with
  | some parent => parent
  | none => if mode = "config" then "exec" else mode

/-- The rule engine, and what else the importer does to a device. -/
structure RuleEngine (State : Type) where
  process : String → State → String × State
  mode : State → String
  clearInterfaces : State → State
  setHostname : String → State → State

/-- How the rule engine moves between modes where the importer relies on it. -/
structure RuleEngine.Lawful {State : Type} (engine : RuleEngine State) : Prop where
  configure : ∀ state, engine.mode state ≠ "config-tftp-file" →
    engine.mode (engine.process "configure terminal" (engine.process "enable" state).2).2 = "config"
  exit : ∀ state, engine.mode (engine.process "exit" state).2 = exitMode (engine.mode state)
  clearInterfaces : ∀ state, engine.mode (engine.clearInterfaces state) = engine.mode state
  setHostname : ∀ name state, engine.mode (engine.setHostname name state) = engine.mode state

inductive ImportError where
  | invalidChars (line : List Char)
  | masked (line : String)
  | badIp (ip : List Char) (line : String)
  | invalidHostname (name : List Char)
  | warning (line result : String)
deriving DecidableEq

def hexDigits (least number : Nat) : List Char := (Nat.toDigits 16 number).leftpad least '0'

/-- `unicode_escape` of a text. -/
def unicodeEscape (text : List Char) : List Char :=
  text.flatMap fun char =>
    let code := char.toNat
    if char = '\\' then ['\\', '\\']
    else if char = '\t' then ['\\', 't']
    else if char = '\n' then ['\\', 'n']
    else if char = '\r' then ['\\', 'r']
    else if 32 ≤ code ∧ code ≤ 126 then [char]
    else if code ≤ 0xff then '\\' :: 'x' :: hexDigits 2 code
    else if code ≤ 0xffff then '\\' :: 'u' :: hexDigits 4 code
    else '\\' :: 'U' :: hexDigits 8 code

def firstChars (count : Nat) (text : String) : String := String.ofList (text.toList.take count)

def ImportError.text : ImportError → String
  | .invalidChars line =>
    "SKIP invalid chars (non-ASCII): " ++ String.ofList (unicodeEscape (line.take 40))
  | .masked line => "SKIP masked secret: " ++ firstChars 60 line
  | .badIp ip line =>
    "SKIP invalid IP address '" ++ String.ofList ip ++ "': " ++ firstChars 60 line
  | .invalidHostname name => "SKIP invalid hostname: " ++ String.ofList (name.take 40)
  | .warning line result =>
    "WARN [" ++ firstChars 60 line ++ "]: " ++ firstChars 80 result

/-- A call of the rule engine, with the state before it. -/
inductive LogEntry (State : Type) where
  | closing (before : State)
  | line (command : String) (before : State)

/-- How far an import is, with the calls that it has made for lines and to close sections. -/
structure Progress (State : Type) where
  state : State
  context : Option String := none
  applied : Nat := 0
  errors : List ImportError := []
  log : List (LogEntry State) := []

section Import

variable {State : Type} (engine : RuleEngine State)

def passLine (progress : Progress State) (command : String) : Progress State :=
  let outcome := engine.process command progress.state
  { progress with
    state := outcome.2
    applied := progress.applied + 1
    errors := progress.errors ++ if reportsError outcome.1 then [.warning command outcome.1] else []
    log := progress.log ++ [.line command progress.state] }

def closeSection (progress : Progress State) : Progress State :=
  if progress.context.isSome then
    { progress with
      state := (engine.process "exit" progress.state).2
      context := none
      log := progress.log ++ [.closing progress.state] }
  else progress

def topLine (progress : Progress State) (command : String) : Progress State :=
  match hostnameOf command with
  | some name =>
    if validHostname name then
      { progress with
        state := engine.setHostname (String.ofList name) progress.state
        applied := progress.applied + 1 }
    else { progress with errors := progress.errors ++ [.invalidHostname name] }
  | none =>
    if opensSection command then { passLine engine progress command with context := some command }
    else passLine engine progress command

/-- One line of the import. -/
def handleLine (progress : Progress State) (line : List Char) : Progress State :=
  match lineKind line with
  | .invalid => { progress with errors := progress.errors ++ [.invalidChars line] }
  | .blank | .finish | .comment | .header => progress
  | .masked line => { progress with errors := progress.errors ++ [.masked line] }
  | .badIp ip line => { progress with errors := progress.errors ++ [.badIp ip line] }
  | .subcommand command =>
    if progress.context.isSome then passLine engine progress command else progress
  | .top command => topLine engine (closeSection engine progress) command

/-- The lines of an import, up to `end`. -/
def importLines : Progress State → List (List Char) → Progress State
  | progress, [] => progress
  | progress, line :: rest =>
    if lineKind line = .finish then progress else importLines (handleLine engine progress line) rest

/-- The import has begun. -/
def beginImport (state : State) : Progress State where
  state := (engine.process "configure terminal"
    (engine.process "enable" (engine.clearInterfaces state)).2).2

/-- `_parse_cisco`: how many commands were applied, the errors, and the device. -/
def parseCisco (text : String) (state : State) : Nat × List String × State :=
  let progress := closeSection engine
    (importLines engine (beginImport engine state) (splitLines text.toList))
  (progress.applied, progress.errors.map ImportError.text, (engine.process "end" progress.state).2)

end Import

end NetLab.Config
