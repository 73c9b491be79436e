import NetLab.Library.Execution
import NetLab.Rib.Emulator

/-!
# Address translation

A router translates the sources of packets that leave it: by a static mapping, or to the
address of an outside interface with a port from one counter for all routers. A table of each
router keeps the last translations. `translations_unambiguous_iff` says in which runs no two
dynamic translations are alike and the static mappings are always honoured.
-/

namespace NetLab.Access

open List

open NetLab.Library NetLab.Network NetLab.Rib NetLab.Execution

variable (table : List NatEntry)

/-- A translation in the table. -/
structure NatEntry where
  proto : String
  insideLocal : String
  insideGlobal : String
  outsideLocal : String
  outsideGlobal : String
  inPort : Nat := 0
  globPort : Nat := 0
  isStatic : Bool := false
deriving DecidableEq

inductive IfaceRole where
  | inside
  | outside
deriving DecidableEq

/-- Sources that an access list permits are translated. -/
structure PatRule where
  acl : String
  iface : String
  overload : Bool

structure StaticMapping where
  inside : String
  outside : String
deriving DecidableEq

/-- How a router translates; the sets of interfaces are lists without repetition. -/
structure NatConfig where
  inside : List String := []
  outside : List String := []
  pat : List PatRule := []
  static : List StaticMapping := []
  naptIfaces : List String := []

structure AclEntry where
  action : FilterAction
  net : String
  prefixLength : Nat

/-- An interface with its address, as the packet engine knows it. -/
structure NatInterface where
  ip : String
  prefixLength : Nat

/-- The engine, with the interfaces it reads. -/
structure NatEngine (Device : Type) where
  cfg : Device → NatConfig
  acls : Device → String → List AclEntry
  translations : Device → List NatEntry
  portCounter : Nat
  interfaces : Device → OrderedMap String NatInterface

/-- Entries that a table holds. -/
def maxTranslations : Nat := 200

def nextPort (counter : Nat) : Nat := if 65000 < counter + 1 then 1024 else counter + 1

namespace NatConfig

variable (config : NatConfig)

def setIfaceRole (iface : String) : IfaceRole → NatConfig
  | .inside => { config with inside := config.inside.insert iface }
  | .outside => { config with outside := config.outside.insert iface }

def unsetIfaceRole (iface : String) : IfaceRole → NatConfig
  | .inside => { config with inside := config.inside.filter fun name => decide (name ≠ iface) }
  | .outside => { config with outside := config.outside.filter fun name => decide (name ≠ iface) }

def addPat (acl iface : String) (overload : Bool) : NatConfig :=
  { config with pat := config.pat ++ [⟨acl, iface, overload⟩] }

def addStatic (inside outside : String) : NatConfig :=
  { config with static := config.static ++ [⟨inside, outside⟩] }

/-- The interface counts as an outside one. -/
def enableNapt (iface : String) : NatConfig :=
  { config with
    naptIfaces := config.naptIfaces.insert iface
    outside := config.outside.insert iface }

def hasNat : Bool := !config.pat.isEmpty || !config.static.isEmpty || !config.naptIfaces.isEmpty

def mappingOf (src : String) : Option StaticMapping :=
  config.static.find? fun mapping => decide (mapping.inside = src)

end NatConfig

/-- The oldest entry of a full table makes room. -/
def evict (table : List NatEntry) : List NatEntry :=
  if maxTranslations < table.length then table.tail else table

namespace NatEngine

variable {Device : Type} [DecidableEq Device] (engine : NatEngine Device)

/-- A list without entries permits everything. -/
def aclPermits (device : Device) (acl src : String) : Bool :=
  match engine.acls device acl with
  | [] => true
  | entries =>
    match entries.find? fun entry => ipInNetwork src entry.net entry.prefixLength with
    | some entry => decide (entry.action = .permit)
    | none => false

/-- The address of an interface, if it has one. -/
def ifaceIp (device : Device) (name : String) : Option NatInterface :=
  ((engine.interfaces device).lookup name).filter fun iface => decide (iface.ip ≠ "")

section Translate

-- the order in which a set of interfaces is iterated
variable (iterate : List String → List String)

/-- The address of an outside interface: one towards the destination, else one that is not
on the side of the source, else any. -/
def outsideIfaceIp (device : Device) (src dest : String) : Option String :=
  let config := engine.cfg device
  let outside := iterate config.outside
  let candidates := if outside = [] then iterate config.naptIfaces else outside
  let towards := candidates.findSome? fun name =>
    (engine.ifaceIp device name).bind fun iface =>
      if dest ≠ "" ∧ ipInNetwork dest iface.ip iface.prefixLength = true then some iface.ip
      else none
  let away := candidates.findSome? fun name =>
    (engine.ifaceIp device name).bind fun iface =>
      if src ≠ "" ∧ ipInNetwork src iface.ip iface.prefixLength = true then none
      else some iface.ip
  let any := candidates.findSome? fun name => (engine.ifaceIp device name).map NatInterface.ip
  towards.or (away.or any)

/-- The entry of the table for a source, a destination and a protocol. -/
def recorded (device : Device) (src dest proto : String) : Option NatEntry :=
  (engine.translations device).find? fun entry =>
    decide (entry.insideLocal = src ∧ entry.outsideGlobal = dest ∧ entry.proto = proto)

/-- Keep an entry unless there is one for the same translation, however it was made. -/
def record (device : Device) (entry : NatEntry) : NatEngine Device × NatEntry :=
  match engine.recorded device entry.insideLocal entry.outsideGlobal entry.proto with
  | some found => (engine, found)
  | none =>
    ({ engine with
        translations := Function.update engine.translations device
          (evict (engine.translations device ++ [entry])) }, entry)

/-- A source that is permitted is translated to an outside address. -/
def permitted (device : Device) (src : String) : Bool :=
  let config := engine.cfg device
  !config.naptIfaces.isEmpty || config.pat.any fun rule => engine.aclPermits device rule.acl src

def staticEntry (mapping : StaticMapping) (src dest proto : String) : NatEntry :=
  { proto, insideLocal := src, insideGlobal := mapping.outside, outsideLocal := dest
    outsideGlobal := dest, isStatic := true }

def dynamicEntry (address : String) (port : Nat) (src dest proto : String) : NatEntry :=
  { proto, insideLocal := src, insideGlobal := address, outsideLocal := dest
    outsideGlobal := dest, inPort := port, globPort := port }

/-- A port is taken from the counter even if there is an entry already. -/
def translate (device : Device) (src dest proto : String) : NatEngine Device × Option NatEntry :=
  if (engine.cfg device).hasNat then
    match (engine.cfg device).mappingOf src with
    | some mapping =>
      let (engine, entry) := engine.record device (staticEntry mapping src dest proto)
      (engine, some entry)
    | none =>
      if engine.permitted device src then
        match engine.outsideIfaceIp iterate device src dest with
        | none => (engine, none)
        | some address =>
          let port := nextPort engine.portCounter
          let (engine, entry) := { engine with portCounter := port }.record device
            (dynamicEntry address port src dest proto)
          (engine, some entry)
      else (engine, none)
  else (engine, none)

end Translate

def configure (device : Device) (change : NatConfig → NatConfig) : NatEngine Device :=
  { engine with cfg := Function.update engine.cfg device (change (engine.cfg device)) }

end NatEngine

/-- What happens to the engine. -/
inductive NatEvent (Device : Type) where
  | setIfaceRole (device : Device) (iface : String) (role : IfaceRole)
  | unsetIfaceRole (device : Device) (iface : String) (role : IfaceRole)
  | addPat (device : Device) (acl iface : String) (overload : Bool)
  | addStatic (device : Device) (inside outside : String)
  | enableNapt (device : Device) (iface : String)
  | addAcl (device : Device) (name : String) (entry : AclEntry)
  | interfaces (device : Device) (interfaces : OrderedMap String NatInterface)
  | clear (device : Device)
  | translate (device : Device) (src dest proto : String)

namespace NatEngine

variable {Device : Type} [DecidableEq Device]

/-- A program start. -/
def start : NatEngine Device :=
  { cfg := fun _ => {}, acls := fun _ _ => [], translations := fun _ => [], portCounter := 1024
    interfaces := fun _ => .empty }

def step (iterate : List String → List String) (engine : NatEngine Device) :
    NatEvent Device → NatEngine Device
  | .setIfaceRole device iface role => engine.configure device fun config =>
    config.setIfaceRole iface role
  | .unsetIfaceRole device iface role => engine.configure device fun config =>
    config.unsetIfaceRole iface role
  | .addPat device acl iface overload => engine.configure device fun config =>
    config.addPat acl iface overload
  | .addStatic device inside outside => engine.configure device fun config =>
    config.addStatic inside outside
  | .enableNapt device iface => engine.configure device fun config => config.enableNapt iface
  | .addAcl device name entry =>
    { engine with
      acls := Function.update engine.acls device
        (Function.update (engine.acls device) name (engine.acls device name ++ [entry])) }
  | .interfaces device interfaces =>
    { engine with interfaces := Function.update engine.interfaces device interfaces }
  | .clear device =>
    { engine with translations := Function.update engine.translations device [] }
  | .translate device src dest proto => (engine.translate iterate device src dest proto).1

/-! ## Properties and conditions -/

section Statements

variable (iterate : List String → List String) (engine : NatEngine Device)

/-- Protocol, global address and port of the dynamic translations of a router. -/
def dynamicKeys (table : List NatEntry) : List (String × String × Nat) :=
  (table.filter fun entry => !entry.isStatic).map fun entry =>
    (entry.proto, entry.insideGlobal, entry.globPort)

/-- No two dynamic translations of a router are alike. -/
def Unambiguous : Prop := ∀ device, (dynamicKeys (engine.translations device)).Nodup

/-- A source with a static mapping is translated to the outside address of that mapping. -/
def HonoursStatic : NatEvent Device → Prop
  | .translate device src dest proto => ∀ mapping ∈ (engine.cfg device).static,
      mapping.inside = src → ∃ entry, (engine.translate iterate device src dest proto).2 =
        some entry ∧ entry.insideGlobal = mapping.outside
  | _ => True

/-- The address of a dynamic translation that is about to be entered. -/
def newAddress (device : Device) (src dest proto : String) : Option String :=
  if (engine.cfg device).hasNat = true ∧ (engine.cfg device).mappingOf src = none ∧
      engine.permitted device src = true ∧ engine.recorded device src dest proto = none then
    engine.outsideIfaceIp iterate device src dest
  else none

/-- Entries that stay when another one is entered. -/
def kept (table : List NatEntry) : List NatEntry :=
  if maxTranslations ≤ table.length then table.tail else table

/-- A dynamic translation is entered only if no dynamic entry that stays has the next port of
the counter under the same protocol and address. -/
def PortFree : NatEvent Device → Prop
  | .translate device src dest proto =>
    ∀ address, engine.newAddress iterate device src dest proto = some address →
      ∀ entry ∈ kept (engine.translations device), entry.isStatic = false →
        entry.proto = proto → entry.insideGlobal = address →
          entry.globPort ≠ nextPort engine.portCounter
  | _ => True

/-- A source with a static mapping has only mappings to that address, and the entry for the
translation, if there is one, has that address. -/
def MappingsAgree : NatEvent Device → Prop
  | .translate device src dest proto => ∀ mapping ∈ (engine.cfg device).static,
      mapping.inside = src → (∀ other ∈ (engine.cfg device).static, other.inside = src →
          other.outside = mapping.outside) ∧
        ∀ entry, engine.recorded device src dest proto = some entry →
          entry.insideGlobal = mapping.outside
  | _ => True

end Statements

/-! ## What a translation does -/

section Effects

variable {iterate : List String → List String} {engine : NatEngine Device}

variable {device : Device}

theorem record_of_recorded {entry found : NatEntry}
    (recorded : engine.recorded device entry.insideLocal entry.outsideGlobal entry.proto =
      some found) : engine.record device entry = (engine, found) := by
  rw [record, recorded]

theorem record_of_new (device : Device) (entry : NatEntry)
    (new : engine.recorded device entry.insideLocal entry.outsideGlobal entry.proto = none) :
    engine.record device entry = ({ engine with
          translations := Function.update engine.translations device
            (evict (engine.translations device ++ [entry])) }, entry) := by
  rw [record, new]

theorem evict_append (entry : NatEntry) : evict (table ++ [entry]) = kept table ++ [entry] := by
  unfold evict kept
  rw [length_append, length_singleton]
  by_cases full : maxTranslations ≤ table.length
  · have nonempty : table ≠ [] := ne_nil_of_length_pos (lt_of_lt_of_le (by decide) full)
    rw [if_pos (Nat.lt_succ_of_le full), if_pos full, tail_append_of_ne_nil nonempty]
  · rw [if_neg (by omega), if_neg full]

theorem kept_sublist : (kept table).Sublist table := by
  unfold kept
  split
  · exact table.tail_sublist
  · exact List.Sublist.refl table

theorem hasNat_of_mapping {config : NatConfig} {mapping : StaticMapping}
    (member : mapping ∈ config.static) : config.hasNat = true := by
  have nonempty : config.static.isEmpty = false := by
    rw [isEmpty_eq_false_iff]
    exact ne_nil_of_mem member
  simp [NatConfig.hasNat, nonempty]

/-- What a request to translate can do: nothing, or enter or find an entry for a static
mapping, or find an entry for a translation by address, or enter one. -/
inductive Effect (iterate : List String → List String) (engine : NatEngine Device)
    (device : Device) (src dest proto : String) : NatEngine Device × Option NatEntry → Prop
  | nothing (unmapped : (engine.cfg device).mappingOf src = none)
      (unaddressed : engine.newAddress iterate device src dest proto = none) :
      Effect iterate engine device src dest proto (engine, none)
  | static {mapping : StaticMapping}
      (mapped : (engine.cfg device).mappingOf src = some mapping)
      (unaddressed : engine.newAddress iterate device src dest proto = none) :
      Effect iterate engine device src dest proto
        ((engine.record device (staticEntry mapping src dest proto)).1,
          some (engine.record device (staticEntry mapping src dest proto)).2)
  | refresh {found : NatEntry} (unmapped : (engine.cfg device).mappingOf src = none)
      (unaddressed : engine.newAddress iterate device src dest proto = none) :
      Effect iterate engine device src dest proto
        ({ engine with portCounter := nextPort engine.portCounter }, some found)
  | new {address : String} (unmapped : (engine.cfg device).mappingOf src = none)
      (addressed : engine.newAddress iterate device src dest proto = some address) :
      Effect iterate engine device src dest proto ({ engine with
            portCounter := nextPort engine.portCounter
            translations := Function.update engine.translations device
              (kept (engine.translations device) ++
                [dynamicEntry address (nextPort engine.portCounter) src dest proto]) },
          some (dynamicEntry address (nextPort engine.portCounter) src dest proto))

theorem translate_effect (device : Device) (src dest proto : String) :
    Effect iterate engine device src dest proto
      (engine.translate iterate device src dest proto) := by
  unfold translate
  cases nat : (engine.cfg device).hasNat with
  | false =>
    have unmapped : (engine.cfg device).mappingOf src = none := by
      refine find?_eq_none.mpr fun mapping member => ?_
      rw [hasNat_of_mapping member] at nat
      cases nat
    exact .nothing unmapped (by simp [newAddress, nat])
  | true =>
    rw [if_pos rfl]
    cases mapped : (engine.cfg device).mappingOf src with
    | some mapping => exact .static mapped (by simp [newAddress, mapped])
    | none =>
      cases permitted : engine.permitted device src with
      | false => exact .nothing mapped (by simp [newAddress, permitted])
      | true =>
        rw [if_pos rfl]
        dsimp only
        cases outside : engine.outsideIfaceIp iterate device src dest with
        | none => exact .nothing mapped (by simp [newAddress, outside])
        | some address =>
          dsimp only
          cases recorded : engine.recorded device src dest proto with
          | some found =>
            rw [record_of_recorded recorded]
            exact .refresh mapped (by simp [newAddress, recorded])
          | none =>
            rw [record_of_new device _ recorded, evict_append]
            exact .new mapped (by simp [newAddress, nat, mapped, permitted, recorded, outside])

theorem translations_of_newAddress {src dest proto address : String}
    (addressed : engine.newAddress iterate device src dest proto = some address) :
    (engine.translate iterate device src dest proto).1.translations device =
      kept (engine.translations device) ++
        [dynamicEntry address (nextPort engine.portCounter) src dest proto] := by
  have effect : Effect iterate engine device src dest proto
    (engine.translate iterate device src dest proto) := translate_effect device src dest proto
  generalize engine.translate iterate device src dest proto = result at effect
  cases effect with
  | nothing _ unaddressed | static _ unaddressed | refresh _ unaddressed =>
    rw [addressed] at unaddressed
    cases unaddressed
  | new _ addressed' =>
    obtain rfl := Option.some.inj (addressed.symm.trans addressed')
    simp

omit [DecidableEq Device] in
theorem outsideIfaceIp_of_single {name : String} {iface : NatInterface}
    (single : iterate (engine.cfg device).outside = [name])
    (ip : engine.ifaceIp device name = some iface) (src dest : String) :
    engine.outsideIfaceIp iterate device src dest = some iface.ip := by
  simp only [outsideIfaceIp, single, cons_ne_nil, if_false, findSome?_cons, ip,
    Option.bind_some, Option.map_some, findSome?_nil]
  by_cases towards : dest ≠ "" ∧ ipInNetwork dest iface.ip iface.prefixLength = true
  · rw [if_pos towards]
    rfl
  · rw [if_neg towards]
    by_cases inside : src ≠ "" ∧ ipInNetwork src iface.ip iface.prefixLength = true
    · rw [if_pos inside]
      rfl
    · rw [if_neg inside]
      rfl

/-! ## Dynamic translations -/

theorem dynamicKeys_sublist {first second : List NatEntry} (part : first.Sublist second) :
    (dynamicKeys first).Sublist (dynamicKeys second) :=
  (part.filter _).map _

@[simp] theorem dynamicKeys_append_static (mapping : StaticMapping) (src dest proto : String) :
    dynamicKeys (table ++ [staticEntry mapping src dest proto]) = dynamicKeys table := by
  simp [dynamicKeys, staticEntry]

@[simp] theorem dynamicKeys_append_dynamic (address : String) (port : Nat)
    (src dest proto : String) :
    dynamicKeys (table ++ [dynamicEntry address port src dest proto]) =
      dynamicKeys table ++ [(proto, address, port)] := by
  simp [dynamicKeys, dynamicEntry]

section

variable (unambiguous : engine.Unambiguous)
include unambiguous

theorem Unambiguous.update_iff (device : Device) (table : List NatEntry) (counter : Nat) :
    Unambiguous { engine with
      portCounter := counter
      translations := Function.update engine.translations device table } ↔
        (dynamicKeys table).Nodup := by
  constructor
  · intro after
    simpa using after device
  · intro distinct other
    by_cases same : other = device
    · subst same
      simpa using distinct
    · simpa [Function.update_of_ne same] using unambiguous other

/-- A static translation adds no dynamic one. -/
theorem Unambiguous.record_static (device : Device) (mapping : StaticMapping)
    (src dest proto : String) :
    (engine.record device (staticEntry mapping src dest proto)).1.Unambiguous := by
  cases recorded : engine.recorded device src dest proto with
  | some found =>
    have same : engine.record device (staticEntry mapping src dest proto) = (engine, found) :=
      record_of_recorded recorded
    rw [same]
    exact unambiguous
  | none =>
    rw [record_of_new device (staticEntry mapping src dest proto) recorded, evict_append]
    refine (unambiguous.update_iff device _ engine.portCounter).mpr ?_
    rw [dynamicKeys_append_static]
    exact (unambiguous device).sublist (dynamicKeys_sublist (kept_sublist _))

theorem Unambiguous.translate_iff (device : Device) (src dest proto : String) :
    (engine.translate iterate device src dest proto).1.Unambiguous ↔
      engine.PortFree iterate (.translate device src dest proto) := by
  have free_of_none : engine.newAddress iterate device src dest proto = none →
      engine.PortFree iterate (.translate device src dest proto) := by
    intro unaddressed address addressed
    rw [unaddressed] at addressed
    cases addressed
  have effect : Effect iterate engine device src dest proto
    (engine.translate iterate device src dest proto) := translate_effect device src dest proto
  generalize engine.translate iterate device src dest proto = result at effect
  cases effect with
  | nothing _ unaddressed => exact iff_of_true unambiguous (free_of_none unaddressed)
  | static _ unaddressed =>
    exact iff_of_true (unambiguous.record_static device _ src dest proto) (free_of_none unaddressed)
  | refresh _ unaddressed => exact iff_of_true unambiguous (free_of_none unaddressed)
  | @new address _ addressed =>
    have staying := (unambiguous device).sublist (dynamicKeys_sublist (kept_sublist _))
    rw [unambiguous.update_iff, dynamicKeys_append_dynamic, nodup_append]
    simp only [staying, true_and, nodup_singleton, mem_singleton, forall_eq]
    unfold PortFree
    simp only [addressed, Option.some.injEq, forall_eq']
    unfold dynamicKeys
    simp only [forall_mem_map, mem_filter, Bool.not_eq_true', and_imp, ne_eq,
      Prod.mk.injEq, not_and]

theorem Unambiguous.step_iff (event : NatEvent Device) :
    (engine.step iterate event).Unambiguous ↔ engine.PortFree iterate event := by
  cases event with
  | translate device src dest proto => exact unambiguous.translate_iff device src dest proto
  | clear device =>
    refine iff_of_true ?_ trivial
    exact (unambiguous.update_iff device [] engine.portCounter).mpr nodup_nil
  | setIfaceRole | unsetIfaceRole | addPat | addStatic | enableNapt | addAcl | interfaces =>
    exact iff_of_true unambiguous trivial

end

/-! ## Static mappings -/

theorem mappingOf_cases (config : NatConfig) (src : String) :
    (config.mappingOf src = none ∧ ∀ mapping ∈ config.static, mapping.inside ≠ src) ∨
      ∃ first ∈ config.static, first.inside = src ∧ config.mappingOf src = some first := by
  cases found : config.mappingOf src with
  | none => exact .inl ⟨rfl, by simpa using find?_eq_none.mp found⟩
  | some first =>
    have same : first.inside = src := by simpa using find?_some found
    exact .inr ⟨first, mem_of_find?_eq_some found, same, rfl⟩

theorem translate_of_mapping {src dest proto : String} {first : StaticMapping}
    (member : first ∈ (engine.cfg device).static)
    (mapped : (engine.cfg device).mappingOf src = some first) :
    (engine.translate iterate device src dest proto).2 =
      some (engine.record device (staticEntry first src dest proto)).2 := by
  rw [translate, hasNat_of_mapping member, if_pos rfl, mapped]

/-- A step honours the static mappings of its source if and only if they agree with each
other and with the entry. -/
theorem honoursStatic_iff (event : NatEvent Device) :
    engine.HonoursStatic iterate event ↔ engine.MappingsAgree event := by
  cases event with
  | translate device src dest proto =>
    unfold HonoursStatic MappingsAgree
    rcases mappingOf_cases (engine.cfg device) src with ⟨-, unmapped⟩ | ⟨first, member, same, mapped⟩
    · exact iff_of_true (fun mapping inside from_ => absurd from_ (unmapped mapping inside))
        fun mapping inside from_ => absurd from_ (unmapped mapping inside)
    simp only [translate_of_mapping member mapped, Option.some.injEq, exists_eq_left']
    cases recorded : engine.recorded device src dest proto with
    | some found =>
      have kept : engine.record device (staticEntry first src dest proto) = (engine, found) :=
        record_of_recorded recorded
      rw [kept]
      constructor
      · intro honoured mapping inside from_
        refine ⟨fun other otherInside otherFrom => ?_, ?_⟩
        · exact (honoured other otherInside otherFrom).symm.trans (honoured mapping inside from_)
        · rintro entry shown
          obtain rfl := Option.some.inj shown
          exact honoured mapping inside from_
      · intro agree mapping inside from_
        exact (agree mapping inside from_).2 found rfl
    | none =>
      rw [record_of_new device (staticEntry first src dest proto) recorded]
      change (∀ mapping ∈ (engine.cfg device).static, mapping.inside = src →
        first.outside = mapping.outside) ↔ _
      constructor
      · intro honoured mapping inside from_
        refine ⟨fun other otherInside otherFrom => ?_, fun entry shown => by cases shown⟩
        exact (honoured other otherInside otherFrom).symm.trans (honoured mapping inside from_)
      · intro agree mapping inside from_
        exact (agree mapping inside from_).1 first member same
  | _ => exact Iff.rfl

end Effects

/-! ## Every run -/

/-- From a program start on, translations are unambiguous in every state and every static
mapping is honoured if and only if each step finds its port free and its mappings agreeing. -/
theorem translations_unambiguous_iff (iterate : List String → List String)
    (events : List (NatEvent Device)) :
    Throughout (step iterate) Unambiguous start events ∧
        Along (step iterate) (HonoursStatic iterate) start events ↔
      Along (step iterate) (PortFree iterate) start events ∧
        Along (step iterate) MappingsAgree start events := by
  have initially : Unambiguous (start : NatEngine Device) := fun _ => nodup_nil
  refine and_congr ?_ ⟨fun along => along.weaken fun _ event => (honoursStatic_iff event).mp,
    fun along => along.weaken fun _ event => (honoursStatic_iff event).mpr⟩
  have exactStep : ∀ (engine : NatEngine Device) event, True → engine.Unambiguous →
      ((engine.step iterate event).Unambiguous ↔ engine.PortFree iterate event) :=
    fun _ event _ unambiguous => unambiguous.step_iff event
  exact throughout_iff_along (fun _ _ _ => trivial) exactStep trivial initially events

omit [DecidableEq Device] in
/-- A router that translates everything to its outside address, and learns of a static
mapping for a source after the source was translated. -/
def lateMapping : List (NatEvent Unit) :=
  [.interfaces () (OrderedMap.empty.insert "Gi0/1" ⟨"203.0.113.1", 24⟩),
    .setIfaceRole () "Gi0/1" .outside, .addPat () "NAT" "Gi0/1" true,
    .translate () "10.0.0.1" "8.8.8.8" "icmp", .addStatic () "10.0.0.1" "203.0.113.9",
    .translate () "10.0.0.1" "8.8.8.8" "icmp"]

/-- The old entry is found again, with the address of the interface. -/
theorem lateMapping_not_honoured : ¬ (Throughout (step id) Unambiguous start lateMapping ∧
      Along (step id) (HonoursStatic id) start lateMapping) := by
  rintro ⟨-, -, -, -, -, -, honoured, -⟩
  have configured : ⟨"10.0.0.1", "203.0.113.9"⟩ ∈
      ((runFrom (step id) start (lateMapping.take 5)).cfg ()).static :=
    mem_append_right _ mem_cons_self
  have agree := (honoursStatic_iff _).mp honoured _ configured rfl
  have outside : (runFrom (step id) start (lateMapping.take 3)).outsideIfaceIp id ()
      "10.0.0.1" "8.8.8.8" = some (NatInterface.mk "203.0.113.1" 24).ip :=
    outsideIfaceIp_of_single (by rfl) (by rfl) _ _
  have addressed : (runFrom (step id) start (lateMapping.take 3)).newAddress id ()
      "10.0.0.1" "8.8.8.8" "icmp" = some "203.0.113.1" := by
    rw [newAddress, if_pos (by decide +kernel)]
    exact outside
  have entered := translations_of_newAddress addressed
  have recorded : (runFrom (step id) start (lateMapping.take 5)).recorded () "10.0.0.1" "8.8.8.8"
      "icmp" = some (dynamicEntry "203.0.113.1" 1025 "10.0.0.1" "8.8.8.8" "icmp") := by
    change List.find? _ (((runFrom (step id) start (lateMapping.take 3)).translate id ()
      "10.0.0.1" "8.8.8.8" "icmp").1.translations ()) = _
    rw [entered]
    decide +kernel
  have other := agree.2 _ recorded
  revert other
  decide

end NatEngine

end NetLab.Access
