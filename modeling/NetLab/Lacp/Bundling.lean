import NetLab.Library.Blanks
import NetLab.Library.Execution
import NetLab.Library.OrderedMap
import Mathlib.Logic.Function.Basic

/-!
# Bundled ports

Ports are bundled by a negotiation, and put back into a bundle when they come up again.
`bundled_throughout_iff` says in which runs every bundled port is up and was agreed on by both ends.
-/

namespace NetLab.Lacp

open NetLab.Library NetLab.Execution
open OrderedMap Option

inductive LacpMode where
  | active
  | passive
  | on
  deriving DecidableEq

inductive LacpProtocol where
  | static
  | lacp
  deriving DecidableEq

inductive MemberState where
  | down
  | bundled
  | independent
  deriving DecidableEq

structure EtherChannelMember where
  mode : LacpMode
  state : MemberState := .down
  adminDown : Bool := false
  deriving DecidableEq

/-- A channel, with its members by interface and the result that it remembers. -/
structure Channel where
  mode : LacpMode
  protocol : LacpProtocol
  members : OrderedMap String EtherChannelMember := .empty
  negotiated : Option Bool := none
  deriving DecidableEq

def LacpMode.protocol (mode : LacpMode) : LacpProtocol := if mode = .on then .static else .lacp

def modesCompatible (modeA modeB : LacpMode) : Bool :=
  if modeA = .on ∧ modeB = .on then true
  else if modeA = .on ∨ modeB = .on then false
  else if modeA = .passive ∧ modeB = .passive then false
  else true

/-- Prefixes in the order in which they are tried. -/
def interfacePrefixes : List String :=
  ["gigabitethernet", "tengigabitethernet", "fastethernet", "ethernet", "gi", "te", "fa", "eth",
    "et", "g"]

/-- What is left of an interface name, to compare it with others. -/
def normIf (name : String) : String :=
  let letters := name.toList.map Char.toLower
  match interfacePrefixes.find? fun pref => pref.toList.isPrefixOf letters with
  | some pref => strip (String.ofList (letters.drop pref.length))
  | none => strip (String.ofList letters)

abbrev LacpEngine (Device : Type) := Device → OrderedMap Nat Channel

variable {Device : Type} [DecidableEq Device]

namespace Channel

variable (ch : Channel)

def anyBundled : Bool := ch.members.values.any fun member => member.state = .bundled

def bundledCount : Nat := ch.members.values.countP fun member => member.state = .bundled

/-- The result of a negotiation, from which ports that are shut are left out. -/
def settle (ok : Bool) : Channel :=
  { ch with
    negotiated := some ok
    members := ch.members.mapValues fun _ member =>
      if member.adminDown then member
      else { member with state := if ok then .bundled else .independent } }

def downMember (interface : String) : Channel :=
  { ch with members := ch.members.modify interface fun member =>
      { member with adminDown := true, state := .down } }

/-- A channel that was never negotiated counts as one that was. -/
def rejoins : Bool := ch.protocol = .static || ch.anyBundled || ch.negotiated.getD true

def upMember (interface : String) : Channel :=
  { ch with members := ch.members.modify interface fun member =>
      { member with adminDown := false, state := if ch.rejoins then .bundled else .independent } }

end Channel

namespace LacpEngine

variable (engine : LacpEngine Device)

def getChannel (device : Device) (po : Nat) : Option Channel := (engine device).lookup po

def setChannel (device : Device) (po : Nat) (ch : Channel) : LacpEngine Device :=
  Function.update engine device ((engine device).insert po ch)

/-- A known port takes the mode, but its channel does not. -/
def addMember (device : Device) (po : Nat) (interface : String) (mode : LacpMode) :
    LacpEngine Device :=
  let ch := (engine.getChannel device po).getD { mode, protocol := mode.protocol }
  let member : EtherChannelMember := match ch.members.lookup interface with
    | some member => { member with mode }
    | none => { mode }
  engine.setChannel device po { ch with members := ch.members.insert interface member }

/-- The mode of a group, as the command of the switches sets it. -/
def setMode (device : Device) (po : Nat) (mode : LacpMode) : LacpEngine Device :=
  match engine.getChannel device po with
  | some ch => engine.setChannel device po { ch with mode, protocol := mode.protocol }
  | none => engine

/-- Only the members of the near end learn the result. -/
def negotiate (device : Device) (po : Nat) (peer : Device) (peerPo : Nat) :
    LacpEngine Device × Bool :=
  match engine.getChannel device po, engine.getChannel peer peerPo with
  | some ch, some peerCh =>
    let ok := modesCompatible ch.mode peerCh.mode
    (engine.setChannel device po (ch.settle ok), ok)
  | _, _ => (engine, false)

def findMember (device : Device) (interface : String) : Option (Nat × Channel × String) :=
  (engine device).entries.findSome? fun entry =>
    (entry.2.members.keys.find? fun name => normIf name = normIf interface).map fun name =>
      (entry.1, entry.2, name)

/-- The channel of the port and how many of its ports are still bundled. -/
def memberDown (device : Device) (interface : String) : LacpEngine Device × Option (Nat × Nat) :=
  match engine.findMember device interface with
  | none => (engine, none)
  | some (po, ch, name) =>
    (engine.setChannel device po (ch.downMember name), some (po, (ch.downMember name).bundledCount))

def memberUp (device : Device) (interface : String) : LacpEngine Device × Option (Nat × Nat) :=
  match engine.findMember device interface with
  | none => (engine, none)
  | some (po, ch, name) =>
    (engine.setChannel device po (ch.upMember name), some (po, (ch.upMember name).bundledCount))

variable {engine}

theorem getChannel_setChannel (device other : Device) (po otherPo : Nat) (ch : Channel) :
    (engine.setChannel device po ch).getChannel other otherPo =
      if (other, otherPo) = (device, po) then some ch else engine.getChannel other otherPo := by
  unfold setChannel getChannel
  by_cases same : other = device
  · subst same
    simp [lookup_insert]
  · simp [same]

omit [DecidableEq Device] in
theorem getChannel_of_findMember {device : Device} {interface name : String} {po : Nat}
    {ch : Channel} (found : engine.findMember device interface = some (po, ch, name)) :
    engine.getChannel device po = some ch := by
  obtain ⟨⟨number, channel⟩, listed, here⟩ := List.exists_of_findSome?_eq_some found
  obtain ⟨_, _, equal⟩ := map_eq_some_iff.mp here
  obtain ⟨rfl, rfl, rfl⟩ := Prod.mk.injEq .. ▸ equal
  exact mem_entries_iff.mp listed

omit [DecidableEq Device] in
theorem member_of_findMember {device : Device} {interface name : String} {po : Nat}
    {ch : Channel} (found : engine.findMember device interface = some (po, ch, name)) :
    name ∈ ch.members.keys := by
  obtain ⟨⟨number, channel⟩, _, here⟩ := List.exists_of_findSome?_eq_some found
  obtain ⟨_, first, equal⟩ := map_eq_some_iff.mp here
  obtain ⟨rfl, rfl, rfl⟩ := Prod.mk.injEq .. ▸ equal
  exact List.mem_of_find?_eq_some first

end LacpEngine

/-! ## What the ports were configured for -/

/-- Channels, with what was configured and agreed on beside them: the mode that a port was last
given by itself or with its channel, and how the last negotiation of a channel with any other went. -/
structure Aggregation (Device : Type) where
  engine : LacpEngine Device := fun _ => .empty
  configured : Device × Nat → String → LacpMode := fun _ _ => .active
  agreed : Device × Nat → Option Bool := fun _ => none

inductive LacpEvent (Device : Type) where
  | addMember (device : Device) (po : Nat) (interface : String) (mode : LacpMode)
  | setMode (device : Device) (po : Nat) (mode : LacpMode)
  | negotiate (device : Device) (po : Nat) (peer : Device) (peerPo : Nat)
  | memberDown (device : Device) (interface : String)
  | memberUp (device : Device) (interface : String)

namespace Aggregation

variable (lags : Aggregation Device)

/-- Two channels can be bundled: their modes are compatible, and so are those of their ports. -/
def compatible (near far : Device × Nat) : Bool :=
  match lags.engine.getChannel near.1 near.2, lags.engine.getChannel far.1 far.2 with
  | some ch, some peerCh =>
    modesCompatible ch.mode peerCh.mode &&
      ch.members.keys.all fun name => peerCh.members.keys.all fun other =>
        modesCompatible (lags.configured near name) (lags.configured far other)
  | _, _ => false

def step : LacpEvent Device → Aggregation Device
  | .addMember device po interface mode =>
    { lags with
      engine := lags.engine.addMember device po interface mode
      configured := Function.update lags.configured (device, po)
        (Function.update (lags.configured (device, po)) interface mode) }
  | .setMode device po mode =>
    { lags with
      engine := lags.engine.setMode device po mode
      configured := Function.update lags.configured (device, po) fun _ => mode }
  | .negotiate device po peer peerPo =>
    let result := some (lags.compatible (device, po) (peer, peerPo))
    { lags with
      engine := (lags.engine.negotiate device po peer peerPo).1
      agreed := Function.update (Function.update lags.agreed (device, po) result)
        (peer, peerPo) result }
  | .memberDown device interface =>
    { lags with engine := (lags.engine.memberDown device interface).1 }
  | .memberUp device interface =>
    { lags with engine := (lags.engine.memberUp device interface).1 }

end Aggregation

def Channel.Backed (ch : Channel) (agreed : Option Bool) : Prop :=
  ∀ member ∈ ch.members.values, member.state = .bundled →
    member.adminDown = false ∧ agreed = some true

def Channel.Idle (ch : Channel) : Prop := ∀ member ∈ ch.members.values, member.state ≠ .bundled

/-- Every bundled port is up, and the last negotiation on its link agreed at both ends. -/
def Aggregation.Backed (lags : Aggregation Device) : Prop :=
  ∀ (device : Device) (po : Nat) (ch : Channel), lags.engine.getChannel device po = some ch →
    ch.Backed (lags.agreed (device, po))

/-- Nothing is bundled at the near end after a negotiation. -/
def Aggregation.SilentNear (lags : Aggregation Device) (near far : Device × Nat) : Prop :=
  match lags.engine.getChannel near.1 near.2, lags.engine.getChannel far.1 far.2 with
  | some ch, some peerCh =>
    modesCompatible ch.mode peerCh.mode = true →
      ∀ member ∈ ch.members.values, member.adminDown = true
  | some ch, none => ch.Idle
  | none, _ => True

/-- What one step must spare: a negotiation that does not agree leaves nothing bundled at its ends,
and a port comes up only in a channel that has agreed, or that remembers a failure. -/
def Aggregation.Keeps (lags : Aggregation Device) : LacpEvent Device → Prop
  | .addMember _ _ _ _ | .setMode _ _ _ | .memberDown _ _ => True
  | .negotiate device po peer peerPo =>
    lags.compatible (device, po) (peer, peerPo) = true ∨
      (lags.SilentNear (device, po) (peer, peerPo) ∧ ((peer, peerPo) = (device, po) ∨
          ∀ peerCh, lags.engine.getChannel peer peerPo = some peerCh → peerCh.Idle))
  | .memberUp device interface =>
    ∀ po ch name, lags.engine.findMember device interface = some (po, ch, name) →
      lags.agreed (device, po) = some true ∨ (ch.protocol = .lacp ∧ ch.negotiated = some false)

namespace Channel

variable {ch : Channel} {agreed : Option Bool}

theorem Idle.backed (idle : ch.Idle) : ch.Backed agreed :=
  fun member listed bundled => absurd bundled (idle member listed)

theorem backed_iff_idle (disagreed : agreed ≠ some true) : ch.Backed agreed ↔ ch.Idle :=
  ⟨fun backed member listed bundled => disagreed (backed member listed bundled).2, Idle.backed⟩

theorem Backed.renew (backed : ch.Backed agreed) : ch.Backed (some true) :=
  fun member listed bundled => ⟨(backed member listed bundled).1, rfl⟩

theorem Backed.of_members {later : Channel} (backed : ch.Backed agreed)
    (known : ∀ member ∈ later.members.values, member.state = .bundled →
      ∃ before ∈ ch.members.values, before.state = .bundled ∧
        before.adminDown = member.adminDown) : later.Backed agreed := by
  intro member listed bundled
  obtain ⟨before, there, was, same⟩ := known member listed bundled
  exact same ▸ backed before there was

theorem Backed.downMember (backed : ch.Backed agreed) (name : String) :
    (ch.downMember name).Backed agreed := by
  refine backed.of_members fun member listed bundled => ?_
  obtain ⟨key, found⟩ := mem_values_iff.mp listed
  simp only [Channel.downMember, lookup_modify] at found
  split at found
  · obtain ⟨old, _, rfl⟩ := map_eq_some_iff.mp found
    cases bundled
  · exact ⟨member, mem_values_iff.mpr ⟨key, found⟩, bundled, rfl⟩

theorem Backed.settle (backed : ch.Backed agreed) (ok : Bool) :
    (ch.settle ok).Backed (some true) := by
  intro member listed bundled
  obtain ⟨key, found⟩ := mem_values_iff.mp listed
  simp only [Channel.settle, lookup_mapValues] at found
  obtain ⟨old, known, rfl⟩ := map_eq_some_iff.mp found
  by_cases shut : old.adminDown = true
  · rw [if_pos shut] at bundled ⊢
    exact backed.renew old (mem_values_iff.mpr ⟨key, known⟩) bundled
  · rw [if_neg shut]
    exact ⟨by simpa using shut, rfl⟩

/-- A negotiation bundles every member that is not shut, if the modes of the channels allow it. -/
theorem Backed.idle_settle_iff (backed : ch.Backed agreed) (ok : Bool) :
    (ch.settle ok).Idle ↔ (ok = true → ∀ member ∈ ch.members.values, member.adminDown = true) := by
  constructor
  · rintro idle rfl member listed
    obtain ⟨key, known⟩ := mem_values_iff.mp listed
    by_contra up
    refine idle { member with state := .bundled } (mem_values_iff.mpr ⟨key, ?_⟩) rfl
    simp [Channel.settle, known, up]
  · intro shut member listed bundled
    obtain ⟨key, found⟩ := mem_values_iff.mp listed
    simp only [Channel.settle, lookup_mapValues] at found
    obtain ⟨old, known, rfl⟩ := map_eq_some_iff.mp found
    have there : old ∈ ch.members.values := mem_values_iff.mpr ⟨key, known⟩
    by_cases isDown : old.adminDown = true
    · rw [if_pos isDown] at bundled
      exact absurd ((backed old there bundled).1) (by simp [isDown])
    · rw [if_neg isDown] at bundled
      cases ok with
      | true => exact isDown (shut rfl old there)
      | false => cases bundled

theorem Idle.rejoins_iff (idle : ch.Idle) :
    ch.rejoins = false ↔ ch.protocol = .lacp ∧ ch.negotiated = some false := by
  have none : ch.anyBundled = false := by
    simpa [anyBundled, Idle] using idle
  have protocols : ch.protocol ≠ .static ↔ ch.protocol = .lacp := by
    cases ch.protocol <;> simp
  simp only [rejoins, none, Bool.or_false, Bool.or_eq_false_iff, decide_eq_false_iff_not, protocols]
  cases ch.negotiated <;> simp

/-- A member that comes up does so in a channel that agreed, or stays out of the bundle. -/
theorem Backed.upMember_iff (backed : ch.Backed agreed) {name : String}
    (listed : name ∈ ch.members.keys) :
    (ch.upMember name).Backed agreed ↔
      agreed = some true ∨ (ch.protocol = .lacp ∧ ch.negotiated = some false) := by
  obtain ⟨own, known⟩ := mem_keys_iff.mp listed
  by_cases yes : agreed = some true
  · refine iff_of_true (fun member there bundled => ⟨?_, yes⟩) (.inl yes)
    obtain ⟨key, found⟩ := mem_values_iff.mp there
    simp only [Channel.upMember, lookup_modify] at found
    split at found
    · obtain ⟨old, _, rfl⟩ := map_eq_some_iff.mp found
      rfl
    · exact (backed member (mem_values_iff.mpr ⟨key, found⟩) bundled).1
  · have idle : ch.Idle := (backed_iff_idle yes).mp backed
    rw [backed_iff_idle yes, or_iff_right yes, ← idle.rejoins_iff]
    constructor
    · intro quiet
      by_contra joins
      refine quiet { own with adminDown := false, state := .bundled }
        (mem_values_iff.mpr ⟨name, ?_⟩) rfl
      simp [Channel.upMember, known, joins]
    · intro stays member there bundled
      obtain ⟨key, found⟩ := mem_values_iff.mp there
      simp only [Channel.upMember, lookup_modify, stays] at found
      split at found
      · obtain ⟨old, _, rfl⟩ := map_eq_some_iff.mp found
        cases bundled
      · exact idle member (mem_values_iff.mpr ⟨key, found⟩) bundled

end Channel

namespace Aggregation

variable {lags : Aggregation Device}

theorem Backed.setChannel_iff (backed : lags.Backed) (configured : Device × Nat → String → LacpMode)
    (device : Device) (po : Nat) (ch : Channel) :
    Backed { lags with engine := lags.engine.setChannel device po ch, configured } ↔
      ch.Backed (lags.agreed (device, po)) := by
  constructor
  · intro all
    exact all device po ch (by simp [LacpEngine.getChannel_setChannel])
  · intro here other otherPo otherCh found
    rw [LacpEngine.getChannel_setChannel] at found
    split at found
    case isTrue same =>
      obtain ⟨rfl, rfl⟩ := Prod.mk.inj same
      cases found
      exact here
    case isFalse => exact backed other otherPo otherCh found

theorem Backed.addMember (backed : lags.Backed) (device : Device) (po : Nat) (interface : String)
    (mode : LacpMode) : (lags.step (.addMember device po interface mode)).Backed := by
  refine (backed.setChannel_iff _ device po _).mpr ?_
  have before : ((lags.engine.getChannel device po).getD
      { mode, protocol := mode.protocol }).Backed (lags.agreed (device, po)) := by
    cases found : lags.engine.getChannel device po with
    | none => exact fun member listed => by simp [mem_values_iff] at listed
    | some ch => exact backed device po ch found
  generalize (lags.engine.getChannel device po).getD _ = ch at before ⊢
  refine before.of_members fun member listed bundled => ?_
  obtain ⟨key, found⟩ := mem_values_iff.mp listed
  rw [lookup_insert] at found
  split at found
  · cases known : ch.members.lookup interface with
    | none =>
      simp only [known, Option.some.injEq] at found
      subst found
      cases bundled
    | some old =>
      simp only [known, Option.some.injEq] at found
      subst found
      exact ⟨old, mem_values_iff.mpr ⟨interface, known⟩, bundled, rfl⟩
  · exact ⟨member, mem_values_iff.mpr ⟨key, found⟩, bundled, rfl⟩

theorem Backed.setMode (backed : lags.Backed) (device : Device) (po : Nat) (mode : LacpMode) :
    (lags.step (.setMode device po mode)).Backed := by
  simp only [step, LacpEngine.setMode]
  split
  case h_1 ch found => exact (backed.setChannel_iff _ device po _).mpr (backed device po ch found)
  case h_2 => exact backed

theorem Backed.negotiate_iff (backed : lags.Backed) {engine : LacpEngine Device}
    {near far : Device × Nat} (result : Bool)
    (others : ∀ device po, (device, po) ≠ near →
      engine.getChannel device po = lags.engine.getChannel device po) :
    Backed { lags with
      engine, agreed := Function.update (Function.update lags.agreed near (some result))
        far (some result) } ↔
      (∀ ch, engine.getChannel near.1 near.2 = some ch → ch.Backed (some result)) ∧
        ∀ ch, engine.getChannel far.1 far.2 = some ch → ch.Backed (some result) := by
  constructor
  · intro all
    exact ⟨fun ch found => by simpa [Function.update_apply] using all _ _ ch found,
      fun ch found => by simpa [Function.update_apply] using all _ _ ch found⟩
  · rintro ⟨atNear, atFar⟩ device po ch found
    by_cases isFar : (device, po) = far
    · subst isFar
      simpa using atFar ch found
    · by_cases isNear : (device, po) = near
      · subst isNear
        simpa [isFar] using atNear ch found
      · simpa [isFar, isNear] using backed device po ch (others device po isNear ▸ found)

/-- A negotiation keeps bundles backed exactly if it agrees, or leaves nothing bundled. -/
theorem Backed.negotiate_step_iff (backed : lags.Backed) (device : Device) (po : Nat)
    (peer : Device) (peerPo : Nat) :
    (lags.step (.negotiate device po peer peerPo)).Backed ↔
      lags.Keeps (.negotiate device po peer peerPo) := by
  have others : ∀ other otherPo, (other, otherPo) ≠ (device, po) →
      (lags.engine.negotiate device po peer peerPo).1.getChannel other otherPo =
        lags.engine.getChannel other otherPo := by
    intro other otherPo different
    unfold LacpEngine.negotiate
    split
    · rw [LacpEngine.getChannel_setChannel, if_neg different]
    · rfl
  refine (backed.negotiate_iff _ others).trans ?_
  have disagreed : some false ≠ some true := by decide
  cases ours : lags.engine.getChannel device po with
  | none =>
    have failed : lags.compatible (device, po) (peer, peerPo) = false := by
      simp [compatible, ours]
    simp only [LacpEngine.negotiate, ours, failed, Keeps, SilentNear,
      Channel.backed_iff_idle disagreed]
    by_cases same : (peer, peerPo) = (device, po)
    · obtain ⟨rfl, rfl⟩ := Prod.mk.inj same
      simp [ours]
    · simp [same]
  | some ch =>
    cases theirs : lags.engine.getChannel peer peerPo with
    | none =>
      have failed : lags.compatible (device, po) (peer, peerPo) = false := by
        simp [compatible, ours, theirs]
      simp [LacpEngine.negotiate, ours, theirs, failed, Keeps, SilentNear,
        Channel.backed_iff_idle disagreed]
    | some peerCh =>
      have own := backed device po ch ours
      simp only [LacpEngine.negotiate, ours, theirs, Keeps, SilentNear,
        LacpEngine.getChannel_setChannel, if_true, Option.some.injEq, forall_eq']
      cases result : lags.compatible (device, po) (peer, peerPo) with
      | true =>
        refine iff_of_true ⟨own.settle _, fun there found => ?_⟩ (.inl rfl)
        split at found
        · exact Option.some.inj found ▸ own.settle _
        · exact (backed peer peerPo there (theirs.trans found)).renew
      | false =>
        simp only [Channel.backed_iff_idle disagreed, own.idle_settle_iff, Bool.false_eq_true,
          false_or]
        refine and_congr_right fun silent => ?_
        by_cases same : (peer, peerPo) = (device, po)
        · simpa [same, own.idle_settle_iff] using silent
        · simp [same]

theorem Backed.memberUp_step_iff (backed : lags.Backed) (device : Device) (interface : String) :
    (lags.step (.memberUp device interface)).Backed ↔ lags.Keeps (.memberUp device interface) := by
  simp only [step, LacpEngine.memberUp, Keeps]
  cases found : lags.engine.findMember device interface with
  | none => exact iff_of_true backed (fun _ _ _ impossible => by cases impossible)
  | some place =>
    obtain ⟨po, ch, name⟩ := place
    have own := backed device po ch (LacpEngine.getChannel_of_findMember found)
    refine (backed.setChannel_iff lags.configured device po _).trans
      ((own.upMember_iff (LacpEngine.member_of_findMember found)).trans ?_)
    simp

theorem Backed.memberDown (backed : lags.Backed) (device : Device) (interface : String) :
    (lags.step (.memberDown device interface)).Backed := by
  simp only [step, LacpEngine.memberDown]
  cases found : lags.engine.findMember device interface with
  | none => exact backed
  | some place =>
    obtain ⟨po, ch, name⟩ := place
    have own := backed device po ch (LacpEngine.getChannel_of_findMember found)
    exact (backed.setChannel_iff lags.configured device po _).mpr (own.downMember name)

theorem Backed.step_iff (backed : lags.Backed) (event : LacpEvent Device) :
    (lags.step event).Backed ↔ lags.Keeps event := by
  cases event with
  | addMember device po interface mode =>
    exact iff_of_true (backed.addMember device po interface mode) trivial
  | setMode device po mode => exact iff_of_true (backed.setMode device po mode) trivial
  | negotiate device po peer peerPo => exact backed.negotiate_step_iff device po peer peerPo
  | memberDown device interface => exact iff_of_true (backed.memberDown device interface) trivial
  | memberUp device interface => exact backed.memberUp_step_iff device interface

/-- Every bundled port is up and agreed on, throughout a run, if and only if every step spares what
is bundled. -/
theorem bundled_throughout_iff (events : List (LacpEvent Device)) :
    Throughout step Backed {} events ↔ Along step (fun lags => lags.Keeps) {} events := by
  have always : ∀ (lags : Aggregation Device) (event : LacpEvent Device), True → True :=
    fun _ _ _ => trivial
  refine throughout_iff_along always (fun _ event _ backed => backed.step_iff event) trivial ?_
    events
  intro device po ch found
  cases found

end Aggregation

/-- A port that was never negotiated is shut and comes up again. -/
def unnegotiated : List (LacpEvent String) :=
  [.addMember "sw1" 1 "GigabitEthernet1/0/1" .active, .memberDown "sw1" "GigabitEthernet1/0/1",
    .memberUp "sw1" "GigabitEthernet1/0/1"]

theorem unnegotiated_bundled : ¬ Throughout Aggregation.step Aggregation.Backed {} unnegotiated := by
  intro always
  have bundled := always.finish "sw1" 1
    { mode := .active
      protocol := .lacp
      members :=
        OrderedMap.empty.insert "GigabitEthernet1/0/1" { mode := .active, state := .bundled } }
    (by decide +kernel) { mode := .active, state := .bundled } (by decide +kernel) rfl
  exact absurd bundled.2 (by decide +kernel)

end NetLab.Lacp
