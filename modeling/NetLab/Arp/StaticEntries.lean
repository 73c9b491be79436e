import NetLab.Arp.Engine
import NetLab.Network.Addresses

/-!
# Static entries

What the operator has configured, beside the tables that requests write and lookups prune. A static
entry is treated as a dynamic one by both, so it lasts exactly as long as nobody writes its address
into the table of its device, and nobody looks it up there once it is four hours old.
-/

namespace NetLab.Arp

open NetLab.Library NetLab.Network NetLab.Rib NetLab.Execution Function

/-- MAC addresses that the operator has configured and not removed. -/
abbrev StaticConfig := String → String → Option String

/-- The engine with what the operator asked for. -/
structure Managed where
  arp : ArpState := {}
  config : StaticConfig := fun _ _ => none

/-- What a command leaves configured. -/
def configStep (config : StaticConfig) : ArpEvent → StaticConfig
  | .addStatic device ip mac => Function.update config device (Function.update (config device) ip mac)
  | .clear device => Function.update config device fun _ => none
  | _ => config

def managedStep (managed : Managed) (event : ArpEvent) : Managed :=
  ⟨arpStep managed.arp event, configStep managed.config event⟩

def Permanent (managed : Managed) : Prop :=
  ∀ device ip mac, managed.config device ip = some mac →
    ∃ entry, (managed.arp.tables device).lookup ip = some entry ∧ entry.entryType = .static ∧
      entry.mac = mac

/-- The entry of an address is due to be deleted when it is looked up. -/
def Stale (state : ArpState) (device ip : String) : Prop :=
  ∃ entry, (state.tables device).lookup ip = some entry ∧ arpTimeout ≤ state.now - entry.age

/-- No configured entry is looked up when it is too old, or overwritten by a request. -/
def SparesStatic (managed : Managed) : ArpEvent → Prop
  | .resolve device targetIp =>
    managed.config device targetIp ≠ none → ¬ Stale managed.arp device targetIp
  | .resolveWithPacket device targetIp _ =>
    managed.config device targetIp ≠ none → ¬ Stale managed.arp device targetIp
  | .proceed index => ∀ write rest, managed.arp.requests[index]? = some (write :: rest) →
      managed.config write.device write.ip = none
  | _ => True

section Steps

variable {tables : ArpTables} {now : Nat} {device targetIp : String}

theorem lookup_update {table : OrderedMap String ArpEntry} (other ip : String) :
    (Function.update tables device table other).lookup ip =
      if other = device then table.lookup ip else (tables other).lookup ip := by
  by_cases same : other = device
  · subst same
    simp
  · simp [same]

theorem lookup_resolve (other ip : String) :
    ((resolve tables now device targetIp).1 other).lookup ip =
      if other = device ∧ ip = targetIp then
        ((tables device).lookup targetIp).filter fun entry => now - entry.age < arpTimeout
      else (tables other).lookup ip := by
  unfold resolve
  cases found : (tables device).lookup targetIp with
  | none =>
    by_cases here : other = device ∧ ip = targetIp
    · rw [if_pos here, here.1, here.2, found]
      rfl
    · rw [if_neg here]
  | some entry =>
    by_cases young : now - entry.age < arpTimeout
    · simp only [if_pos young]
      by_cases here : other = device ∧ ip = targetIp
      · rw [if_pos here, here.1, here.2, found]
        simp [Option.filter, young]
      · rw [if_neg here]
    · simp only [if_neg young]
      rw [lookup_update, OrderedMap.lookup_erase]
      by_cases same : other = device
      · by_cases asked : ip = targetIp
        · simp [same, asked, Option.filter, young]
        · simp [same, asked]
      · simp [same]

theorem lookup_apply (write : ArpWrite) (other ip : String) :
    ((write.apply now tables) other).lookup ip =
      if other = write.device ∧ ip = write.ip then some { mac := write.mac, age := now }
      else (tables other).lookup ip := by
  unfold ArpWrite.apply
  rw [lookup_update, OrderedMap.lookup_insert]
  by_cases same : other = write.device
  · by_cases asked : ip = write.ip
    · simp [same, asked]
    · simp [same, asked]
  · simp [same]

end Steps

/-- A lookup leaves the configured entries alone if and only if the one that it asks for is not too
old. -/
theorem permanent_resolve_iff {managed : Managed} (permanent : Permanent managed)
    (device targetIp : String) {requests : List (List ArpWrite)} :
    Permanent ⟨⟨(resolve managed.arp.tables managed.arp.now device targetIp).1, managed.arp.now,
        requests⟩, managed.config⟩ ↔
      (managed.config device targetIp ≠ none → ¬ Stale managed.arp device targetIp) := by
  constructor
  · rintro kept configured ⟨entry, found, old⟩
    obtain ⟨mac, asked⟩ := Option.ne_none_iff_exists'.mp configured
    obtain ⟨left, present, -⟩ := kept device targetIp mac asked
    rw [lookup_resolve, if_pos ⟨rfl, rfl⟩, found] at present
    simp [Option.filter, Nat.not_lt.mpr old] at present
  · intro young other ip mac configured
    obtain ⟨entry, found, isStatic, same⟩ := permanent other ip mac configured
    refine ⟨entry, ?_, isStatic, same⟩
    rw [lookup_resolve]
    by_cases here : other = device ∧ ip = targetIp
    · obtain ⟨rfl, rfl⟩ := here
      have asked : managed.config other ip = some mac := configured
      have fresh : ¬ Stale managed.arp other ip := young (by simp [asked])
      have recent : managed.arp.now - entry.age < arpTimeout := by
        by_contra old
        exact fresh ⟨entry, found, Nat.le_of_not_lt old⟩
      simp [found, Option.filter, recent]
    · rw [if_neg here]
      exact found

theorem permanent_step_iff {managed : Managed} (permanent : Permanent managed) (event : ArpEvent) :
    Permanent (managedStep managed event) ↔ SparesStatic managed event := by
  cases event with
  | addStatic device ip mac =>
    refine iff_of_true ?_ trivial
    intro other address wanted configured
    simp only [managedStep, arpStep, configStep] at configured ⊢
    rw [lookup_update, OrderedMap.lookup_insert]
    by_cases same : other = device
    · subst same
      rw [update_self] at configured
      by_cases asked : address = ip
      · subst asked
        rw [update_self] at configured
        obtain rfl := Option.some.inj configured
        exact ⟨{ mac, age := managed.arp.now, entryType := .static }, by simp, rfl, rfl⟩
      · rw [update_of_ne asked] at configured
        simpa [asked] using permanent other address wanted configured
    · rw [update_of_ne same] at configured
      simpa [same] using permanent other address wanted configured
  | clear device =>
    refine iff_of_true ?_ trivial
    intro other address wanted configured
    simp only [managedStep, arpStep, configStep] at configured ⊢
    by_cases same : other = device
    · subst same
      simp at configured
    · rw [update_of_ne same] at configured
      rw [lookup_update, if_neg same]
      exact permanent other address wanted configured
  | tick seconds => exact iff_of_true permanent trivial
  | resolve device targetIp => exact permanent_resolve_iff permanent device targetIp
  | resolveWithPacket device targetIp surroundings =>
    exact permanent_resolve_iff permanent device targetIp
  | proceed index =>
    simp only [managedStep, arpStep, configStep, SparesStatic]
    cases found : managed.arp.requests[index]? with
    | none => exact iff_of_true permanent (by rintro _ _ ⟨⟩)
    | some writes =>
      cases writes with
      | nil => exact iff_of_true permanent (by rintro _ _ ⟨⟩)
      | cons write rest =>
        constructor
        · intro kept other later same
          obtain ⟨rfl, rfl⟩ := List.cons.inj (Option.some.inj same)
          cases configured : managed.config write.device write.ip with
          | none => rfl
          | some mac =>
            obtain ⟨entry, present, isStatic, -⟩ := kept _ _ mac configured
            rw [lookup_apply, if_pos ⟨rfl, rfl⟩] at present
            obtain rfl := Option.some.inj present
            cases isStatic
        · intro spared other address wanted configured
          have elsewhere : ¬ (other = write.device ∧ address = write.ip) := by
            rintro ⟨rfl, rfl⟩
            rw [spared write rest rfl] at configured
            cases configured
          simp only [lookup_apply, if_neg elsewhere]
          exact permanent other address wanted configured

/-- Through every run the configured entries stay as they are if and only if no step looks one up
when it is too old, or writes over one. -/
theorem permanent_iff (events : List ArpEvent) :
    Throughout managedStep Permanent {} events ↔ Along managedStep SparesStatic {} events := by
  have preserved : ∀ (managed : Managed) (event : ArpEvent), True → True := fun _ _ _ => trivial
  have exactStep : ∀ (managed : Managed) (event : ArpEvent), True → Permanent managed →
      (Permanent (managedStep managed event) ↔ SparesStatic managed event) :=
    fun _ event _ permanent => permanent_step_iff permanent event
  exact throughout_iff_along preserved exactStep trivial (fun _ _ _ configured => by cases configured) events

def twoRouters : Surroundings where
  emulator :=
    { network :=
        { links := .empty
          interfaceLinks := fun _ _ => none
          linkIfaces := fun _ _ => []
          downInterfaces := fun _ => []
          subifVlans := fun _ => []
          vlanPorts := fun _ => []
          deviceIps := .empty }
      deviceIps :=
        (OrderedMap.empty.insert "R1" ⟨OrderedMap.empty.insert "lan0" ⟨"10.0.0.1", 24⟩⟩).insert "R2"
          ⟨OrderedMap.empty.insert "lan0" ⟨"10.0.0.2", 24⟩⟩ }
  proxyArp := fun _ _ => none
  genMac := fun device _ => device

/-- A request of one router replaces the static entry that the other one has for it. -/
theorem request_replaces_static :
    ¬ Permanent (runFrom managedStep {}
      [.addStatic "R2" "10.0.0.1" "aa", .resolveWithPacket "R1" "10.0.0.2" twoRouters,
        .proceed 0]) := by
  intro permanent
  have asked : ipToInt "10.0.0.2" = some 0x0a000002 :=
    ipToInt_of_fields (a := 10) (b := 0) (c := 0) (d := 2) 9 (by decide +kernel)
  have own : ipToInt "10.0.0.1" = some 0x0a000001 :=
    ipToInt_of_fields (a := 10) (b := 0) (c := 0) (d := 1) 9 (by decide +kernel)
  have plan : twoRouters.plan "R1" "10.0.0.2" =
      [⟨"R2", "10.0.0.1", "R1"⟩, ⟨"R1", "10.0.0.2", "R2"⟩] := by
    have ips : (twoRouters.emulator.ipsOf "R1").entries = [("10.0.0.1", 24)] := by decide
    have near : ipInNetwork "10.0.0.2" "10.0.0.1" 24 = true := by
      simp [ipInNetwork, asked, own, prefixMask]
    have owner : twoRouters.emulator.findDeviceOwningIp "10.0.0.2" = some "R2" := by decide
    simp only [Surroundings.plan, ips, List.find?_cons, near, owner, Option.filter, bne_iff_ne]
    rfl
  obtain ⟨entry, found, isStatic, -⟩ := permanent "R2" "10.0.0.1" "aa" (by decide)
  simp [managedStep, arpStep, plan, resolve, ArpWrite.apply] at found
  subst found
  cases isStatic

end NetLab.Arp
