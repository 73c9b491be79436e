import NetLab.Library.Execution
import NetLab.Network.VirtualNetwork

/-!
# MAP-E rules

A rule server shares each IPv4 address of its pool among several clients, every
one with a port range of its own. Address and range together are a slot; the
server takes the slot numbered by the rules it holds. `leases_disjoint_iff`
characterises the runs in which no two clients ever share a port.
-/

namespace NetLab.Access

open NetLab.Library NetLab.Network NetLab.Execution
open OrderedMap Option Nat

/-- What a server is configured with. The pool is a range, so it has no duplicates. -/
structure MapEConfig where
  ipv4Pool : List Nat := []
  poolDistinct : ipv4Pool.Nodup := by exact List.nodup_nil
  brIpv6 : String := ""
  portsPerUser : Nat := 4096

/-- A rule handed to a client: a shared address and an inclusive port range. -/
structure MapERule (Device : Type) where
  rtxId : Device
  serverId : Device
  ipv4 : Nat
  psid : Nat
  portRange : Nat × Nat
  brIpv6 : String
deriving DecidableEq

/-- A rule server with the rules it holds, by rule id. -/
structure MapEServer (Device : Type) extends MapEConfig where
  rules : OrderedMap String (MapERule Device) := .empty

/-- The MAP-E engine. -/
structure MapEEngine (Device : Type) where
  nodes : OrderedMap Device (MapEServer Device)

/-- Why a request fails with an exception instead of an answer. -/
inductive MapEError where
  | zeroDivision
deriving DecidableEq

/-- Replace the pool by the addresses from `first` to `last`. -/
def MapEConfig.setIpv4Pool (config : MapEConfig) (first last : Nat) : MapEConfig :=
  { config with
    ipv4Pool := List.range' first (last + 1 - first)
    poolDistinct := List.nodup_range' }

/-- Port ranges that fit on one address. -/
def MapEConfig.slotsPerIp (config : MapEConfig) : Nat := 65536 / config.portsPerUser

variable {Device : Type} [DecidableEq Device]

/-- The rule in a slot; `none` beyond the end of the pool. -/
def MapEConfig.ruleInSlot (config : MapEConfig) (rtx server : Device) (slot : Nat) :
    Option (MapERule Device) :=
  config.ipv4Pool[slot / config.slotsPerIp]?.map fun ipv4 =>
    let psid := slot % config.slotsPerIp
    let portLo := psid * config.portsPerUser
    { rtxId := rtx
      serverId := server
      ipv4
      psid
      portRange := (portLo, portLo + config.portsPerUser - 1)
      brIpv6 := config.brIpv6 }

namespace MapEEngine

/-- The server that a client reaches over an interface. -/
def ruleServer (engine : MapEEngine Device) (network : VirtualNetwork Device) (rtx : Device)
    (iface : String) : Option (Device × MapEServer Device) :=
  (network.getNeighbors rtx).findSome? fun peer =>
    if network.interfaceLinks rtx peer = some iface then
      (engine.nodes.lookup peer).bind fun server =>
        if server.ipv4Pool.isEmpty || server.brIpv6 == "" then none else some (peer, server)
    else none

/-- Ask for a rule. The slot is the number of rules the server holds; the rule
replaces the one the client may hold under the same id. -/
def requestRule (engine : MapEEngine Device) (network : VirtualNetwork Device) (rtx : Device)
    (iface ruleId : String) : Except MapEError (MapEEngine Device × Option (MapERule Device)) :=
  match engine.ruleServer network rtx iface with
  | none => .ok (engine, none)
  | some (peer, server) =>
    if server.portsPerUser = 0 ∨ server.slotsPerIp = 0 then .error .zeroDivision
    else
      match server.ruleInSlot rtx peer server.rules.entries.length with
      | none => .ok (engine, none)
      | some rule =>
        let updated := { server with rules := server.rules.insert ruleId rule }
        .ok (⟨engine.nodes.insert peer updated⟩, some rule)

def releaseRule (engine : MapEEngine Device) (ruleId : String) : MapEEngine Device :=
  ⟨engine.nodes.mapValues fun _ server => { server with rules := server.rules.erase ruleId }⟩

end MapEEngine

/-- A call of a client. -/
inductive MapEEvent (Device : Type) where
  | requestRule (rtx : Device) (iface ruleId : String)
  | releaseRule (rtx : Device) (ruleId : String)

/-- One call; an exception leaves the engine as it was. -/
def MapEEngine.step (network : VirtualNetwork Device) (engine : MapEEngine Device) :
    MapEEvent Device → MapEEngine Device
  | .requestRule rtx iface ruleId =>
    match engine.requestRule network rtx iface ruleId with
    | .ok (after, _) => after
    | .error _ => engine
  | .releaseRule _ ruleId => engine.releaseRule ruleId

/-- Configured servers without rules. -/
def MapEEngine.initial (configs : OrderedMap Device MapEConfig) : MapEEngine Device :=
  ⟨configs.mapValues fun _ config => { toMapEConfig := config }⟩

/-! ## Overlap -/

/-- Two rules share a port of one address. -/
def MapERule.Overlaps (first second : MapERule Device) : Prop :=
  first.ipv4 = second.ipv4 ∧ first.portRange.1 ≤ second.portRange.2 ∧
    second.portRange.1 ≤ first.portRange.2

/-- The rules of a server with different ids do not overlap. -/
def MapEServer.Disjoint (server : MapEServer Device) : Prop :=
  ∀ first firstRule second secondRule, server.rules.lookup first = some firstRule →
    server.rules.lookup second = some secondRule → first ≠ second →
    ¬ firstRule.Overlaps secondRule

/-- No two rules of one server overlap. -/
def MapEEngine.Disjoint (engine : MapEEngine Device) : Prop :=
  ∀ device server, engine.nodes.lookup device = some server → server.Disjoint

/-- Number of the slot in which a rule sits. -/
def MapEConfig.slotOf (config : MapEConfig) (rule : MapERule Device) : Nat :=
  config.ipv4Pool.idxOf rule.ipv4 * config.slotsPerIp + rule.psid

/-- The slot that a request takes is not the slot of another rule: no rule but the
one with the requested id sits in the slot numbered by the rules held. -/
def MapEEngine.FindsSlotFree (network : VirtualNetwork Device) (engine : MapEEngine Device) :
    MapEEvent Device → Prop
  | .requestRule rtx iface ruleId =>
    ∀ peer server, engine.ruleServer network rtx iface = some (peer, server) →
      ∀ entry ∈ server.rules.entries, entry.1 ≠ ruleId →
        server.slotOf entry.2 ≠ server.rules.entries.length
  | .releaseRule _ _ => True

/-! ## Slots -/

section Slots

omit [DecidableEq Device]

variable {config : MapEConfig} {rtx server rtx' server' : Device} {slot slot' : Nat}
  {rule rule' : MapERule Device}

theorem MapEConfig.ruleInSlot_eq (inSlot : config.ruleInSlot rtx server slot = some rule) :
    config.ipv4Pool[slot / config.slotsPerIp]? = some rule.ipv4 ∧
      rule.psid = slot % config.slotsPerIp ∧
      rule.portRange = (rule.psid * config.portsPerUser,
        rule.psid * config.portsPerUser + config.portsPerUser - 1) ∧
      rule.rtxId = rtx ∧ rule.serverId = server := by
  obtain ⟨ipv4, found, rfl⟩ := map_eq_some_iff.mp inSlot
  exact ⟨found, rfl, rfl, rfl, rfl⟩

theorem MapEConfig.slotOf_ruleInSlot (inSlot : config.ruleInSlot rtx server slot = some rule) :
    config.slotOf rule = slot := by
  obtain ⟨found, psid, -⟩ := ruleInSlot_eq inSlot
  obtain ⟨bound, isIpv4⟩ := List.getElem?_eq_some_iff.mp found
  unfold slotOf
  rw [← isIpv4, config.poolDistinct.idxOf_getElem, psid]
  exact div_add_mod' slot config.slotsPerIp

theorem ranges_meet_iff {width first second : Nat} (positive : 0 < width) :
    (first * width ≤ second * width + width - 1 ∧ second * width ≤ first * width + width - 1) ↔
      first = second := by
  constructor
  · rintro ⟨below, above⟩
    have below : first * width < (second + 1) * width := by
      rw [Nat.add_mul]
      omega
    have above : second * width < (first + 1) * width := by
      rw [Nat.add_mul]
      omega
    have := Nat.lt_of_mul_lt_mul_right below
    have := Nat.lt_of_mul_lt_mul_right above
    omega
  · rintro rfl
    omega

theorem MapEConfig.overlaps_iff (positive : 0 < config.portsPerUser)
    (inSlot : config.ruleInSlot rtx server slot = some rule)
    (inSlot' : config.ruleInSlot rtx' server' slot' = some rule') :
    rule.Overlaps rule' ↔ slot = slot' := by
  constructor
  · rintro ⟨sameIp, meets⟩
    obtain ⟨-, -, range, -⟩ := ruleInSlot_eq inSlot
    obtain ⟨-, -, range', -⟩ := ruleInSlot_eq inSlot'
    rw [range, range'] at meets
    have samePsid : rule.psid = rule'.psid := (ranges_meet_iff positive).mp meets
    rw [← slotOf_ruleInSlot inSlot, ← slotOf_ruleInSlot inSlot', slotOf, slotOf, sameIp, samePsid]
  · rintro rfl
    obtain ⟨found, psid, range, -⟩ := ruleInSlot_eq inSlot
    obtain ⟨found', psid', range', -⟩ := ruleInSlot_eq inSlot'
    have sameIp : rule.ipv4 = rule'.ipv4 := Option.some.inj (found.symm.trans found')
    have samePsid : rule.psid = rule'.psid := psid.trans psid'.symm
    rw [MapERule.Overlaps, range, range', samePsid]
    exact ⟨sameIp, (ranges_meet_iff positive).mpr rfl⟩

end Slots

def MapEServer.Slotted (server : MapEServer Device) : Prop :=
  ∀ id rule, server.rules.lookup id = some rule → 0 < server.portsPerUser ∧ 0 < server.slotsPerIp ∧
      ∃ rtx peer slot, server.ruleInSlot rtx peer slot = some rule

def MapEEngine.Slotted (engine : MapEEngine Device) : Prop :=
  ∀ device server, engine.nodes.lookup device = some server → server.Slotted

omit [DecidableEq Device] in
theorem MapERule.overlaps_comm (first second : MapERule Device) :
    first.Overlaps second ↔ second.Overlaps first := by
  unfold Overlaps
  rw [eq_comm (a := first.ipv4), and_comm (a := first.portRange.1 ≤ _)]

omit [DecidableEq Device] in
/-- A new rule keeps the rules apart exactly if it overlaps none but the one it
replaces. -/
theorem MapEServer.disjoint_insert_iff {server : MapEServer Device} {ruleId : String}
    {rule : MapERule Device} (disjoint : server.Disjoint) :
    ({ server with rules := server.rules.insert ruleId rule } : MapEServer Device).Disjoint ↔
      ∀ entry ∈ server.rules.entries, entry.1 ≠ ruleId → ¬ rule.Overlaps entry.2 := by
  constructor
  · intro stays entry isEntry different
    refine stays ruleId rule entry.1 entry.2 (lookup_insert_self _ _ _) ?_ different.symm
    rw [lookup_insert_of_ne _ _ different]
    exact mem_entries_iff.mp isEntry
  · intro apart first firstRule second secondRule isFirst isSecond different
    have fresh : ∀ id held, server.rules.lookup id = some held → id ≠ ruleId →
        ¬ rule.Overlaps held := fun id held isHeld =>
      apart (id, held) (mem_entries_iff.mpr isHeld)
    by_cases isNew : first = ruleId
    · subst isNew
      rw [lookup_insert_self] at isFirst
      rw [lookup_insert_of_ne _ _ different.symm] at isSecond
      cases isFirst
      exact fresh second secondRule isSecond different.symm
    · rw [lookup_insert_of_ne _ _ isNew] at isFirst
      by_cases isNew' : second = ruleId
      · subst isNew'
        rw [lookup_insert_self] at isSecond
        cases isSecond
        rw [MapERule.overlaps_comm]
        exact fresh first firstRule isFirst isNew
      · rw [lookup_insert_of_ne _ _ isNew'] at isSecond
        exact disjoint first firstRule second secondRule isFirst isSecond different

/-! ## One call -/

namespace MapEEngine

variable {engine : MapEEngine Device} {network : VirtualNetwork Device} {server : MapEServer Device}

theorem lookup_of_ruleServer {rtx peer : Device} {iface : String}
    (answers : engine.ruleServer network rtx iface = some (peer, server)) :
    engine.nodes.lookup peer = some server := by
  obtain ⟨other, -, found⟩ := List.exists_of_findSome?_eq_some answers
  split at found
  · obtain ⟨node, isNode, rest⟩ := bind_eq_some_iff.mp found
    split at rest
    · cases rest
    · cases rest
      exact isNode
  · cases found

def issued (engine : MapEEngine Device) (network : VirtualNetwork Device) (rtx : Device)
    (iface : String) : Option (Device × MapEServer Device × MapERule Device) :=
  (engine.ruleServer network rtx iface).bind fun (peer, server) =>
    if server.portsPerUser = 0 ∨ server.slotsPerIp = 0 then none
    else (server.ruleInSlot rtx peer server.rules.entries.length).map fun rule =>
      (peer, server, rule)

theorem step_of_not_issued {rtx : Device} {iface : String}
    (refused : engine.issued network rtx iface = none) (ruleId : String) :
    engine.step network (.requestRule rtx iface ruleId) = engine := by
  cases answers : engine.ruleServer network rtx iface with
  | none => simp [step, requestRule, answers]
  | some answer =>
    obtain ⟨peer, server⟩ := answer
    by_cases fails : server.portsPerUser = 0 ∨ server.slotsPerIp = 0
    · simp [step, requestRule, answers, fails]
    · have full : server.ruleInSlot rtx peer server.rules.entries.length = none := by
        simpa [issued, answers, fails] using refused
      simp [step, requestRule, answers, fails, full]

section

variable {rtx peer : Device} {iface : String} {rule : MapERule Device}
  (isIssued : engine.issued network rtx iface = some (peer, server, rule))
include isIssued

theorem issued_eq_some : engine.ruleServer network rtx iface = some (peer, server) ∧
      0 < server.portsPerUser ∧ 0 < server.slotsPerIp ∧
      server.ruleInSlot rtx peer server.rules.entries.length = some rule := by
  obtain ⟨⟨peer', server'⟩, answers, rest⟩ := bind_eq_some_iff.mp isIssued
  by_cases divides : server'.portsPerUser = 0 ∨ server'.slotsPerIp = 0
  · simp [divides] at rest
  · simp only [divides, if_false] at rest
    obtain ⟨found, inSlot, same⟩ := map_eq_some_iff.mp rest
    cases same
    obtain ⟨positive, slots⟩ := not_or.mp divides
    exact ⟨answers, Nat.pos_of_ne_zero positive, Nat.pos_of_ne_zero slots, inSlot⟩

theorem step_of_issued (ruleId : String) : engine.step network (.requestRule rtx iface ruleId) =
      ⟨engine.nodes.insert peer { server with rules := server.rules.insert ruleId rule }⟩ := by
  obtain ⟨answers, positive, slots, inSlot⟩ := issued_eq_some isIssued
  simp [step, requestRule, answers, inSlot, Nat.pos_iff_ne_zero.mp positive,
    Nat.pos_iff_ne_zero.mp slots]

end

theorem slotted_step (slotted : engine.Slotted) (event : MapEEvent Device) :
    (engine.step network event).Slotted := by
  cases event with
  | requestRule rtx iface ruleId =>
    cases isIssued : engine.issued network rtx iface with
    | none =>
      rw [step_of_not_issued isIssued]
      exact slotted
    | some answer =>
      obtain ⟨peer, server, rule⟩ := answer
      obtain ⟨answers, positive, slots, inSlot⟩ := issued_eq_some isIssued
      rw [step_of_issued isIssued]
      intro device other found
      rw [lookup_insert] at found
      split at found
      · cases found
        intro id held isHeld
        rw [lookup_insert] at isHeld
        split at isHeld
        · cases isHeld
          exact ⟨positive, slots, rtx, peer, _, inSlot⟩
        · exact slotted peer server (lookup_of_ruleServer answers) id held isHeld
      · exact slotted device other found
  | releaseRule rtx ruleId =>
    intro device server found
    obtain ⟨before, isNode, rfl⟩ := map_eq_some_iff.mp ((lookup_mapValues _ _ _).symm.trans found)
    intro id rule held
    rw [lookup_erase] at held
    split at held
    · cases held
    · exact slotted device before isNode id rule held

/-- Among slotted servers without overlaps, a call causes no overlap exactly if it
finds its slot free. -/
theorem disjoint_step_iff (slotted : engine.Slotted) (disjoint : engine.Disjoint)
    (event : MapEEvent Device) :
    (engine.step network event).Disjoint ↔ engine.FindsSlotFree network event := by
  cases event with
  | requestRule rtx iface ruleId =>
    cases isIssued : engine.issued network rtx iface with
    | none =>
      rw [step_of_not_issued isIssued]
      refine iff_of_true disjoint fun peer server answers entry isEntry _ taken => ?_
      obtain ⟨positive, slots, rtx', peer', slot, inSlot⟩ :=
        slotted peer server (lookup_of_ruleServer answers) entry.1 entry.2
          (mem_entries_iff.mp isEntry)
      rw [MapEConfig.slotOf_ruleInSlot inSlot] at taken
      obtain ⟨inPool, -⟩ := MapEConfig.ruleInSlot_eq inSlot
      simp [issued, answers, Nat.pos_iff_ne_zero.mp positive, Nat.pos_iff_ne_zero.mp slots,
        MapEConfig.ruleInSlot, ← taken, inPool] at isIssued
    | some answer =>
      obtain ⟨peer, server, rule⟩ := answer
      obtain ⟨answers, positive, slots, inSlot⟩ := issued_eq_some isIssued
      have isNode := lookup_of_ruleServer answers
      rw [step_of_issued isIssued]
      have overlaps : ∀ entry ∈ server.rules.entries, (rule.Overlaps entry.2 ↔
          server.slotOf entry.2 = server.rules.entries.length) := by
        intro entry isEntry
        obtain ⟨-, -, rtx', peer', slot, heldSlot⟩ := slotted peer server isNode entry.1 entry.2
          (mem_entries_iff.mp isEntry)
        rw [MapEConfig.overlaps_iff positive inSlot heldSlot,
          MapEConfig.slotOf_ruleInSlot heldSlot, eq_comm]
      have stored : ({ server with rules := server.rules.insert ruleId rule } :
          MapEServer Device).Disjoint ↔ engine.FindsSlotFree network
            (.requestRule rtx iface ruleId) := by
        rw [MapEServer.disjoint_insert_iff (disjoint peer server isNode)]
        constructor
        · intro apart peer' server' answers' entry isEntry different taken
          cases answers.symm.trans answers'
          exact apart entry isEntry different ((overlaps entry isEntry).mpr taken)
        · intro free entry isEntry different meets
          exact free peer server answers entry isEntry different ((overlaps entry isEntry).mp meets)
      rw [← stored]
      constructor
      · exact fun stays => stays peer _ (lookup_insert_self _ _ _)
      · intro stays device other found
        rw [lookup_insert] at found
        split at found
        · cases found
          exact stays
        · exact disjoint device other found
  | releaseRule rtx ruleId =>
    refine iff_of_true (fun device server found => ?_) trivial
    obtain ⟨before, isNode, rfl⟩ := map_eq_some_iff.mp ((lookup_mapValues _ _ _).symm.trans found)
    intro first firstRule second secondRule isFirst isSecond different
    rw [lookup_erase] at isFirst isSecond
    split at isFirst
    · cases isFirst
    · split at isSecond
      · cases isSecond
      · exact disjoint device before isNode first firstRule second secondRule isFirst isSecond
          different

theorem lookup_initial {configs : OrderedMap Device MapEConfig} {device : Device}
    (found : (initial configs).nodes.lookup device = some server) (id : String) :
    server.rules.lookup id = none := by
  obtain ⟨config, -, rfl⟩ := map_eq_some_iff.mp ((lookup_mapValues _ _ _).symm.trans found)
  rfl

/-- No two clients ever share a port exactly if every request finds its slot free. -/
theorem leases_disjoint_iff (network : VirtualNetwork Device)
    (configs : OrderedMap Device MapEConfig) (events : List (MapEEvent Device)) :
    Throughout (step network) Disjoint (initial configs) events ↔
      Along (step network) (FindsSlotFree network) (initial configs) events := by
  refine throughout_iff_along (fun state event slotted => slotted_step slotted event)
    (fun state event slotted disjoint => disjoint_step_iff slotted disjoint event) ?_ ?_ events
  · intro device server found id rule held
    cases (lookup_initial found id).symm.trans held
  · intro device server found first firstRule second secondRule isFirst
    cases (lookup_initial found first).symm.trans isFirst

/-! ## A slot taken twice -/

/-- Clients 1, 2 and 3 on the interfaces of server 0. -/
def accessNetwork : VirtualNetwork Nat where
  links := ⟨[(1, [0]), (2, [0]), (3, [0])], by decide⟩
  interfaceLinks device peer := if device ≠ 0 ∧ peer = 0 then some "lan2" else none
  linkIfaces _ _ := []
  downInterfaces _ := []
  subifVlans _ := []
  vlanPorts _ := []
  deviceIps := .empty

/-- A server with one shared address. -/
def oneAddress : OrderedMap Nat MapEConfig :=
  OrderedMap.empty.insert 0 { MapEConfig.setIpv4Pool {} 100 100 with brIpv6 := "2001:db8::1" }

/-- Two clients get a rule, the first one gives it back, a third one asks. -/
def requestAfterRelease : List (MapEEvent Nat) :=
  [.requestRule 1 "lan2" "1", .requestRule 2 "lan2" "2", .releaseRule 1 "1",
    .requestRule 3 "lan2" "3"]

/-- The second port range of the shared address. -/
def secondRange (client : Nat) : MapERule Nat :=
  ⟨client, 0, 100, 1, (4096, 8191), "2001:db8::1"⟩

/-- The third client gets the ports of the second one. -/
theorem release_then_request_overlaps :
    ¬ (runFrom (step accessNetwork) (initial oneAddress) requestAfterRelease).Disjoint := by
  intro disjoint
  have held : (((runFrom (step accessNetwork) (initial oneAddress)
      requestAfterRelease).nodes.lookup 0).map fun server => server.rules.entries) =
      some [("2", secondRange 2), ("3", secondRange 3)] := by
    decide +kernel
  obtain ⟨server, found, rules⟩ := map_eq_some_iff.mp held
  have holds : ∀ entry ∈ [("2", secondRange 2), ("3", secondRange 3)],
      server.rules.lookup entry.1 = some entry.2 := fun entry member =>
    mem_entries_iff.mp (rules ▸ member)
  exact disjoint 0 server found "2" (secondRange 2) "3" (secondRange 3)
    (holds ("2", secondRange 2) (by decide)) (holds ("3", secondRange 3) (by decide))
    (by decide) ⟨rfl, by decide, by decide⟩

end MapEEngine

end NetLab.Access
