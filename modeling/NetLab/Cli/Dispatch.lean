import NetLab.Cli.Process
import NetLab.Library.Words

/-!
# Commands for the configuration

Most branches look for the start of a command. A command with another start gets to the branch for
configuration, if the device is in one of its modes.
-/

namespace NetLab.Cli

open NetLab.Library NetLab.Config Pattern List

/-- How commands start that the branches before the one for configuration look for. -/
def commandStarts : List String :=
  ["end", "exit", "quit", "conf", "enable configure", "en conf", "interface", "router", "vlan",
    "bba-group", "evpn", "l2vpn evpn", "address-family", "show", "do ", "clear ip traffic"]

/-- How commands start that are checked in the modes for configuration. -/
def checkedStarts : List String :=
  ["interface", "ip", "vlan", "neighbor", "username", "spanning-tree", "router", "channel-group",
    "vrrp", "standby"]

/-- The command has none of the starts. -/
def Foreign (starts : List String) (c : String) : Prop :=
  ∀ start ∈ starts, ¬ start.toList <+: c.toList

variable {starts : List String} {start : String}

theorem foreign_of_start {c : String} (begins : start.toList <+: c.toList)
    (apart : ∀ other ∈ starts, ¬ start.toList <+: other.toList ∧ ¬ other.toList <+: start.toList) :
    Foreign starts c := by
  intro other inside also
  rcases prefix_or_prefix_of_prefix begins also with first | second
  · exact (apart other inside).1 first
  · exact (apart other inside).2 second

theorem Foreign.isMatch {c : String} (foreign : Foreign starts c) (inside : start ∈ starts)
    (later : List Pattern) : isMatch (seq (exact start :: later)) c = false :=
  eq_false_of_ne_true fun matched => foreign start inside (starts_of_isMatch matched)

theorem Foreign.startsWith {c other : String} (foreign : Foreign starts c) (inside : start ∈ starts)
    (longer : start.toList <+: other.toList) : startsWith c other = false :=
  eq_false_of_ne_true fun begins =>
    foreign start inside (longer.trans ( isPrefixOf_iff_prefix.mp begins))

theorem Foreign.not_mem {list : List String} {c : String} (foreign : Foreign starts c)
    (known : ∀ word ∈ list, ∃ start ∈ starts, start.toList <+: word.toList) : c ∉ list := by
  intro inside
  obtain ⟨start, listed, begins⟩ := known c inside
  exact foreign start listed begins

section Dispatch

variable {Rest : Type} {handlers : Handlers Rest} {device : Device Rest} {c : String}

section

variable (foreign : Foreign commandStarts c)
include foreign

theorem configures_of_foreign (deviceType : String) : configures deviceType c = false := by
  have words : c ∉ configureWords := foreign.not_mem (by decide +kernel)
  rw [configures]
  split
  · rw [foreign.isMatch (by decide), decide_eq_false words]
    rfl
  · exact decide_eq_false (foreign.not_mem (by decide +kernel))

theorem submodeOf_of_foreign : submodeOf handlers c device = none := by
  have names : c ∉ ["evpn", "l2vpn evpn"] := foreign.not_mem (by decide +kernel)
  simp only [mem_cons, not_mem_nil, or_false, not_or] at names
  rw [submodeOf, foreign.isMatch (by decide), foreign.isMatch (by decide),
    foreign.isMatch (by decide), foreign.isMatch (by decide)]
  simp [names.1, names.2]

theorem transition_of_foreign (command : String) :
    transition handlers command c device =
      if device.mode = "config-tftp-file" then
        some (.text "", { device with rest := handlers.capture command device })
      else none := by
  have leaves : c ∉ ["exit", "end", "quit"] := foreign.not_mem (by decide +kernel)
  have bare : c ∉ ["configure", "conf", "config"] := foreign.not_mem (by decide +kernel)
  have both : c ∉ ["end", "exit-address-family"] := foreign.not_mem (by decide +kernel)
  simp only [mem_cons, not_mem_nil, or_false, not_or] at both
  rw [transition, if_neg fun isEnd => both.1 isEnd.1,
    if_neg fun either => either.elim leaves fun family => both.2 family.1]
  split
  · rfl
  rw [configures_of_foreign foreign, if_neg Bool.false_ne_true, if_neg fun named => bare named.2,
    interfacePattern, foreign.isMatch (by decide), if_neg Bool.false_ne_true, routerPattern,
    foreign.isMatch (by decide), if_neg Bool.false_ne_true, submodeOf_of_foreign foreign]
  rfl

theorem display_of_foreign (command : String) : display handlers command c device = none := by
  have isShow : startsWith c "show " = false :=
    foreign.startsWith (by decide : "show" ∈ _) (by decide)
  have isDo : startsWith c "do " = false := foreign.startsWith (by decide : "do " ∈ _) (by decide)
  rw [display, foreign.isMatch (by decide), if_neg fun both => Bool.false_ne_true both.1, isShow,
    isDo]
  rfl

theorem runValid_of_foreign (command : String) (ordinary : device.deviceType ∉ vendorTypes)
    (configuring : device.mode ∈ configModes) (unstaged : device.mode ≠ "config-tftp-file") :
    runValid handlers command c device =
      (.text (handlers.config command device).1, (handlers.config command device).2) := by
  have traffic : c ∉ ["clear ip traffic"] := foreign.not_mem (by decide +kernel)
  rw [runValid, if_neg ordinary, transition_of_foreign foreign, if_neg unstaged,
    display_of_foreign foreign, Option.getD_none, Option.getD_none, operate,
    if_neg fun both => traffic (mem_singleton.mpr both.1), if_pos configuring]

end

theorem numberAfter_of_not_match {letters : Letters} {pattern : Pattern}
    (apart : isMatch pattern c = false) : numberAfter letters pattern c = none := by
  have none : pattern ⟨none, c.toList⟩ = [] := not_not.mp (of_decide_eq_false apart)
  rw [numberAfter, none]
  rfl

theorem validateCommand_of_foreign {letters : Letters} {deviceType mode : String}
    (foreign : Foreign checkedStarts c) (configuring : mode ≠ "exec") :
    validateCommand letters deviceType mode c = none := by
  have known : ∀ rule ∈ incompleteRules,
      ∃ start ∈ checkedStarts, start.toList <+: rule.1.toList := by decide +kernel
  have incomplete : ∀ count : Nat, incompleteRules.any (fun rule =>
      startsWith c rule.1 && rule.2.1 = mode && decide (count < rule.2.2)) = false := by
    intro count
    rw [any_eq_false]
    intro rule inside
    obtain ⟨start, listed, longer⟩ := known rule inside
    rw [foreign.startsWith listed longer]
    exact Bool.false_ne_true
  have address : startsWith c "ip address" = false :=
    foreign.startsWith (by decide : "ip" ∈ _) (by decide)
  have ranges : rangeError letters c = none := by
    rw [rangeError, rangeRules]
    simp only [findSome?_cons, findSome?_nil, channelGroup,
      numberAfter_of_not_match (foreign.isMatch (by decide : "vlan" ∈ _) _),
      numberAfter_of_not_match (foreign.isMatch (by decide : "spanning-tree" ∈ _) _),
      numberAfter_of_not_match (foreign.isMatch (by decide : "ip" ∈ _) _),
      numberAfter_of_not_match (foreign.isMatch (by decide : "router" ∈ _) _),
      numberAfter_of_not_match (foreign.isMatch (by decide : "channel-group" ∈ _) _),
      numberAfter_of_not_match (foreign.isMatch (by decide : "vrrp" ∈ _) _),
      numberAfter_of_not_match (foreign.isMatch (by decide : "standby" ∈ _) _),
      Option.bind_none, Option.map_none]
  rw [validateCommand]
  split
  · rfl
  · dsimp only
    rw [if_neg fun all => configuring all.2.1,
      if_neg fun any => Bool.false_ne_true ((incomplete _).symm.trans any),
      if_neg fun all => Bool.false_ne_true (address.symm.trans all.1),
      if_neg fun all => configuring all.1, ranges, ite_self]

end Dispatch

end NetLab.Cli
