import NetLab.Library.Pattern

/-!
# Abbreviated commands

The words of a command are spelled out one after the other. Which words a word may stand for depends
on those before it.
-/

namespace NetLab.Cli

open NetLab.Library

/-- What is known of characters beyond the plain ones: the lower case of a text, the characters of
words, the letters that a pattern takes for one another, and the digits. -/
structure Letters where
  lower : String → String
  isWord : Char → Bool
  alike : Char → Char → Bool
  digit : Char → Option Nat

def plainLetters : Letters where
  lower text := String.ofList (text.toList.map Char.toLower)
  isWord := Pattern.isWord
  alike letter char := char.toLower = letter.toLower
  digit char := if char.isDigit then some (char.toNat - '0'.toNat) else none

def startsWith (text start : String) : Bool := start.toList.isPrefixOf text.toList

/-- Words with a blank between each two. -/
def joinWords (words : List String) : String := " ".intercalate words

/-- `_ABBREV_FIRST`. -/
def firstWords : List (String × String) :=
  [("sh", "show"), ("sho", "show"), ("in", "interface"), ("int", "interface"),
   ("inte", "interface"), ("inter", "interface"), ("conf", "configure"), ("confi", "configure"),
   ("config", "configure"), ("ro", "router"), ("rou", "router"), ("rout", "router"),
   ("no", "no"), ("en", "enable"), ("ex", "exit"), ("exi", "exit"), ("end", "end"), ("do", "do"),
   ("pi", "ping"), ("pin", "ping"), ("tr", "traceroute"), ("tra", "traceroute"),
   ("trac", "traceroute"), ("wr", "write"), ("wri", "write"), ("writ", "write"), ("cop", "copy"),
   ("cl", "clear"), ("cle", "clear"), ("clea", "clear"), ("deb", "debug"), ("debu", "debug"),
   ("un", "undebug"), ("und", "undebug")]

/-- `_ABBREV_SUB`, by the words before. -/
def laterWords : List (String × List (String × String)) :=
  [("show", [("ver", "version"), ("vers", "version"), ("versi", "version"), ("versio", "version"),
       ("run", "running-config"), ("runn", "running-config"), ("runni", "running-config"),
       ("runnin", "running-config"), ("running", "running-config"), ("start", "startup-config"),
       ("star", "startup-config"), ("ip", "ip"), ("int", "interfaces"), ("inte", "interfaces"),
       ("inter", "interfaces"), ("interf", "interfaces"), ("vl", "vlan"), ("vla", "vlan"),
       ("span", "spanning-tree"), ("spann", "spanning-tree"), ("spanni", "spanning-tree"),
       ("mac", "mac"), ("log", "logging"), ("logg", "logging"), ("arp", "arp"), ("cdp", "cdp"),
       ("lldp", "lldp"), ("sp", "spanning-tree"), ("spa", "spanning-tree"),
       ("eth", "etherchannel"), ("ethe", "etherchannel"), ("ether", "etherchannel"),
       ("ethc", "etherchannel"), ("vr", "vrrp"), ("vrr", "vrrp"), ("st", "standby"),
       ("stan", "standby"), ("stand", "standby"), ("ar", "arp"), ("cl", "clock"),
       ("clo", "clock"), ("mod", "module"), ("modu", "module"), ("feat", "feature"),
       ("featu", "feature"), ("vpc", "vpc")]),
    ("show ip",
      [("ro", "route"), ("rou", "route"), ("rout", "route"), ("route", "route"), ("os", "ospf"),
       ("osp", "ospf"), ("ospf", "ospf"), ("ri", "rip"), ("rip", "rip"), ("bg", "bgp"),
       ("bgp", "bgp"), ("arp", "arp"), ("int", "interface")]),
    ("show ip ospf",
      [("ne", "neighbor"), ("nei", "neighbor"), ("neig", "neighbor"), ("neigh", "neighbor"),
       ("in", "interface"), ("int", "interface"), ("da", "database"), ("dat", "database"),
       ("data", "database"), ("datab", "database"), ("ro", "route")]),
    ("show ip rip", [("ne", "neighbor"), ("ro", "route"), ("st", "status")]),
    ("show ip bgp",
      [("su", "summary"), ("sum", "summary"), ("summ", "summary"), ("ne", "neighbor")]),
    ("show vpc", [("br", "brief"), ("bri", "brief"), ("peer", "peer-keepalive"),
       ("peer-k", "peer-keepalive"), ("peer-ke", "peer-keepalive"), ("ro", "role"),
       ("consi", "consistency-parameters"), ("consist", "consistency-parameters")]),
    ("show interfaces", [("st", "status"), ("sta", "status"), ("stat", "status"), ("tr", "trunk"),
       ("tru", "trunk"), ("trun", "trunk"), ("de", "description"), ("des", "description"),
       ("desc", "description"), ("co", "counters"), ("cou", "counters")]),
    ("configure", [("t", "terminal"), ("te", "terminal"), ("ter", "terminal"), ("term", "terminal"),
       ("terminal", "terminal")]),
    ("write", [("me", "memory"), ("mem", "memory"), ("memo", "memory"), ("memory", "memory"),
       ("ter", "terminal")]),
    ("show spanning-tree",
      [("su", "summary"), ("sum", "summary"), ("br", "brief"), ("bri", "brief"), ("vl", "vlan"),
       ("vla", "vlan")]),
    ("router", [("os", "ospf"), ("osp", "ospf"), ("ri", "rip"), ("rip", "rip"), ("bg", "bgp"),
       ("bgp", "bgp"), ("ei", "eigrp")]),
    ("interface", [("gi", "gigabitethernet"), ("Gi", "GigabitEthernet"), ("fa", "fastethernet"),
       ("Fa", "FastEthernet"), ("te", "tengigabitethernet"), ("po", "port-channel"),
       ("Po", "Port-channel"), ("lo", "loopback"), ("Lo", "Loopback"), ("vl", "vlan"),
       ("Vl", "Vlan"), ("tu", "tunnel")]),
    ("no", [("sh", "shutdown"), ("shu", "shutdown"), ("shut", "shutdown"), ("ro", "router"),
       ("in", "interface")]),
    ("copy", [("run", "running-config"), ("star", "startup-config")]),
    ("clear", [("ip", "ip"), ("arp", "arp"), ("mac", "mac"), ("span", "spanning-tree")])]

/-- Types of interfaces that are spelled out. -/
def fullPrefixes : List String :=
  ["gigabitethernet", "fastethernet", "tengigabitethernet", "port-channel", "loopback", "vlan",
    "tunnel"]

/-- The words for which a word may stand after `context`. -/
def wordsAfter (context : String) : List (String × String) := (laterWords.lookup context).getD []

def lastWord (context : String) : String :=
  if ' ' ∈ context.toList then (words context).getLast?.getD context else context

section Expansion

variable (letters : Letters)

/-- The name of an interface with its type spelled out, such as `gi1/0/1`. -/
def expandInterface (token : String) : Option String :=
  let low := letters.lower token
  if fullPrefixes.any (startsWith low) then none
  else
    ((wordsAfter "interface").find? fun entry =>
      startsWith low entry.1 && decide (entry.1.length < token.length)).map fun entry =>
        entry.2 ++ String.ofList (token.toList.drop entry.1.length)

def expandWord (context token : String) : String :=
  go token [context, lastWord context]
where
  go (expanded : String) : List String → String
    | [] => expanded
    | key :: keys =>
      match (wordsAfter key).lookup (letters.lower token) with
      | some full => full
      | none =>
        go (if key = "interface" ∨ key = "show interfaces" then
          (expandInterface letters token).getD expanded else expanded) keys

/-- `ether` is a word of its own, at the start or after `show` and `clear`. -/
def namesEther (tokens : List String) : Bool :=
  let low := tokens.map letters.lower
  decide (1 < low.length) && (low.head? = some "ether" || (low.zip low.tail).any fun pair =>
      (pair.1 = "show" || pair.1 = "clear") && pair.2 = "ether")

/-- `_expand_abbreviation`. -/
def expandAbbreviation (command deviceType : String) : String :=
  if deviceType ∈ ["apresia", "juniper", "yamaha", "fortigate", "alb"] then command
  else if deviceType ∈ ["sir", "srs"] ∧ namesEther letters (words command) then command
  else
    match words command with
    | [] => command
    | first :: rest =>
      let expanded := (firstWords.lookup (letters.lower first)).getD first
      joinWords (rest.foldl (fun result token =>
        result ++ [expandWord letters (letters.lower (joinWords result)) token]) [expanded])

example : expandAbbreviation plainLetters "in gi1/0/1" "cisco" =
    "interface gigabitethernet1/0/1" := by
  decide +kernel

end Expansion

end NetLab.Cli
