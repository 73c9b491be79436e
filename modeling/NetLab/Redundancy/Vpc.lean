import NetLab.Library.Execution
import NetLab.Library.OrderedMap
import Mathlib.Data.List.Induction

/-!
# vPC pair

Role election and peer-link failure, each of which sets both devices of a pair from one of them.
Neither reads the state of the keepalive. Log lines for the consoles are left out. `pair_protected_iff` says when a failure of the
peer link leaves exactly the secondary's member ports suspended.
-/

namespace NetLab.Redundancy

open NetLab.Library List Option

inductive VpcRole where
  | none
  | primary
  | secondary
  /-- `primary (oper)`: a secondary that took over. -/
  | operationalPrimary
deriving DecidableEq

/-- State of a member port. -/
inductive VpcPortState where
  | up
  | down
  | suspended
deriving DecidableEq

structure VpcMemberPort where
  portChannel : String
  vpcId : Nat
  state : VpcPortState := .down
deriving DecidableEq

/-- What a device keeps about its vPC domain. -/
structure VpcDomain where
  domainId : Nat
  peerLinkIf : String := ""
  peerLinkUp : Bool := false
  role : VpcRole := .none
  rolePriority : Nat := 32667
  systemMac : String := ""
  memberPorts : OrderedMap Nat VpcMemberPort := .empty
deriving DecidableEq

namespace VpcDomain

def setPorts (domain : VpcDomain) (state : VpcPortState) : VpcDomain :=
  { domain with memberPorts := domain.memberPorts.mapValues fun _ port => { port with state } }

def portStates (domain : VpcDomain) : List VpcPortState :=
  domain.memberPorts.values.map VpcMemberPort.state

theorem portStates_setPorts {domain : VpcDomain} {set state : VpcPortState}
    (member : state ∈ (domain.setPorts set).portStates) : state = set := by
  simp only [portStates, setPorts, OrderedMap.values, OrderedMap.mapValues, List.map_map,
    List.mem_map] at member
  obtain ⟨entry, -, rfl⟩ := member
  rfl

/-- `first` wins against `second`: by the lower priority, then by the lower MAC address. -/
def winsAgainst (first second : VpcDomain) : Bool :=
  if first.rolePriority < second.rolePriority then true
  else if second.rolePriority < first.rolePriority then false
  else first.systemMac < second.systemMac

/-- The device suspends its ports when the peer link fails: `'secondary' in role` or `'none'`. -/
def yields (domain : VpcDomain) : Bool := domain.role = .secondary || domain.role = .none

end VpcDomain

variable {Device : Type} [DecidableEq Device]

/-- Domains and peers of all devices. -/
structure VpcEngine (Device : Type) where
  domains : OrderedMap Device VpcDomain := .empty
  peers : Device → Option Device := fun _ => Option.none

namespace VpcEngine

def updateDomain (engine : VpcEngine Device) (device : Device) (update : VpcDomain → VpcDomain) :
    VpcEngine Device :=
  { engine with domains := engine.domains.modify device update }

/-- `_bring_up_peer_link`. -/
def bringUpPeerLink (engine : VpcEngine Device) (first second : Device) : VpcEngine Device :=
  match engine.domains.lookup first, engine.domains.lookup second with
  | some firstDomain, some secondDomain =>
    if firstDomain.peerLinkIf ≠ "" ∧ secondDomain.peerLinkIf ≠ "" then
      let up (domain : VpcDomain) : VpcDomain :=
        VpcDomain.setPorts { domain with peerLinkUp := true } .up
      (engine.updateDomain first up).updateDomain second up
    else engine
  | _, _ => engine

/-- `_elect_role`. -/
def electRole (engine : VpcEngine Device) (first second : Device) : VpcEngine Device :=
  match engine.domains.lookup first, engine.domains.lookup second with
  | some firstDomain, some secondDomain =>
    let wins := firstDomain.winsAgainst secondDomain
    let elected := (engine.updateDomain first fun domain =>
      { domain with role := if wins then .primary else .secondary }).updateDomain second
        fun domain => { domain with role := if wins then .secondary else .primary }
    elected.bringUpPeerLink first second
  | _, _ => engine

/-- `simulate_peer_link_failure`, processed on one of the devices. -/
def simulatePeerLinkFailure (engine : VpcEngine Device) (device : Device) : VpcEngine Device :=
  match engine.domains.lookup device with
  | Option.none => engine
  | some _ =>
    let failed := engine.updateDomain device fun domain => { domain with peerLinkUp := false }
    match engine.peers device with
    | Option.none => failed
    | some peer =>
      failed.updateDomain peer fun domain =>
        let down := { domain with peerLinkUp := false }
        if down.yields then down.setPorts .suspended else down

def roleOf (engine : VpcEngine Device) (device : Device) : Option VpcRole :=
  (engine.domains.lookup device).map VpcDomain.role

/-- Two devices have configured a domain and know each other. -/
structure Paired (engine : VpcEngine Device) (first second : Device) : Prop where
  distinct : first ≠ second
  firstDomain : (engine.domains.lookup first).isSome
  secondDomain : (engine.domains.lookup second).isSome
  firstPeer : engine.peers first = some second
  secondPeer : engine.peers second = some first

/-- A pair whose first device is the primary and whose second one is the secondary. -/
structure Elected (engine : VpcEngine Device) (primary secondary : Device) : Prop
    extends engine.Paired primary secondary where
  isPrimary : engine.roleOf primary = some .primary
  isSecondary : engine.roleOf secondary = some .secondary

def OneOfEach (engine : VpcEngine Device) (first second : Device) : Prop :=
  (engine.roleOf first = some .primary ∧ engine.roleOf second = some .secondary) ∨
    (engine.roleOf first = some .secondary ∧ engine.roleOf second = some .primary)

def portStates (engine : VpcEngine Device) (device : Device) : List VpcPortState :=
  ((engine.domains.lookup device).map VpcDomain.portStates).getD []

def Protected (engine : VpcEngine Device) (primary secondary : Device) : Prop :=
  (∀ state ∈ engine.portStates secondary, state = .suspended) ∧
    ∀ state ∈ engine.portStates primary, state ≠ .suspended

@[simp] theorem lookup_updateDomain (engine : VpcEngine Device) (device other : Device)
    (update : VpcDomain → VpcDomain) :
    (engine.updateDomain device update).domains.lookup other =
      if other = device then (engine.domains.lookup other).map update
      else engine.domains.lookup other :=
  OrderedMap.lookup_modify ..

@[simp] theorem isSome_updateDomain (engine : VpcEngine Device) (device other : Device)
    (update : VpcDomain → VpcDomain) :
    ((engine.updateDomain device update).domains.lookup other).isSome =
      (engine.domains.lookup other).isSome := by
  rw [lookup_updateDomain]
  split <;> simp

@[simp] theorem roleOf_bringUpPeerLink (engine : VpcEngine Device) (first second device : Device) :
    (engine.bringUpPeerLink first second).roleOf device = engine.roleOf device := by
  unfold bringUpPeerLink
  split
  · split
    · simp only [roleOf, lookup_updateDomain]
      split
      all_goals split
      all_goals simp [Function.comp_def, VpcDomain.setPorts]
    · rfl
  · rfl

theorem oneOfEach_electRole {engine : VpcEngine Device} {first second : Device}
    (distinct : first ≠ second) (firstDomain : (engine.domains.lookup first).isSome)
    (secondDomain : (engine.domains.lookup second).isSome) :
    (engine.electRole first second).OneOfEach first second := by
  obtain ⟨domain, found⟩ := isSome_iff_exists.mp firstDomain
  obtain ⟨domain', found'⟩ := isSome_iff_exists.mp secondDomain
  simp only [electRole, found, found', OneOfEach, roleOf_bringUpPeerLink]
  cases wins : domain.winsAgainst domain' with
  | true => exact .inl (by simp [roleOf, found, found', distinct, distinct.symm])
  | false => exact .inr (by simp [roleOf, found, found', distinct, distinct.symm])

@[simp] theorem isSome_bringUpPeerLink (engine : VpcEngine Device) (first second device : Device) :
    ((engine.bringUpPeerLink first second).domains.lookup device).isSome =
      (engine.domains.lookup device).isSome := by
  unfold bringUpPeerLink
  split
  · split <;> simp only [isSome_updateDomain]
  · rfl

theorem isSome_electRole (engine : VpcEngine Device) (first second device : Device) :
    ((engine.electRole first second).domains.lookup device).isSome =
      (engine.domains.lookup device).isSome := by
  unfold electRole
  split
  · simp only [isSome_bringUpPeerLink, isSome_updateDomain]
  · rfl

/-- Elections run on either device, in any order. -/
def electAll (engine : VpcEngine Device) (first second : Device) (runs : List Bool) :
    VpcEngine Device :=
  runs.foldl (fun engine onFirst =>
    if onFirst then engine.electRole first second else engine.electRole second first) engine

theorem oneOfEach_electAll {engine : VpcEngine Device} {first second : Device}
    (distinct : first ≠ second) (firstDomain : (engine.domains.lookup first).isSome)
    (secondDomain : (engine.domains.lookup second).isSome) {runs : List Bool}
    (nonempty : runs ≠ []) :
    (engine.electAll first second runs).OneOfEach first second := by
  have configured : ∀ runs device, ((engine.electAll first second runs).domains.lookup device).isSome =
      (engine.domains.lookup device).isSome := by
    intro runs device
    induction runs using List.reverseRecOn with
    | nil => rfl
    | append_singleton runs onFirst ih =>
      rw [electAll, foldl_append]
      cases onFirst
      · exact (isSome_electRole _ _ _ _).trans ih
      · exact (isSome_electRole _ _ _ _).trans ih
  obtain ⟨before, last, rfl⟩ := (eq_nil_or_concat runs).resolve_left nonempty
  rw [concat_eq_append, electAll, foldl_append]
  have first' := (configured before first).trans firstDomain
  have second' := (configured before second).trans secondDomain
  cases last
  · exact (oneOfEach_electRole distinct.symm second' first').symm.imp And.symm And.symm
  · exact oneOfEach_electRole distinct first' second'

section Failure

variable {engine : VpcEngine Device} {primary secondary : Device}

@[simp] theorem peers_simulatePeerLinkFailure (engine : VpcEngine Device) (device : Device) :
    (engine.simulatePeerLinkFailure device).peers = engine.peers := by
  unfold simulatePeerLinkFailure
  split
  · rfl
  · split <;> rfl

@[simp] theorem roleOf_updateDomain_of_same (engine : VpcEngine Device) (device other : Device)
    {update : VpcDomain → VpcDomain} (same : ∀ domain, (update domain).role = domain.role) :
    (engine.updateDomain device update).roleOf other = engine.roleOf other := by
  unfold roleOf
  rw [lookup_updateDomain]
  split
  · rw [Option.map_map]
    exact map_congr fun domain _ => same domain
  · rfl

@[simp] theorem roleOf_simulatePeerLinkFailure (engine : VpcEngine Device) (device other : Device) :
    (engine.simulatePeerLinkFailure device).roleOf other = engine.roleOf other := by
  unfold simulatePeerLinkFailure
  split
  · rfl
  · split
    · exact roleOf_updateDomain_of_same _ _ _ fun _ => rfl
    · rw [roleOf_updateDomain_of_same, roleOf_updateDomain_of_same]
      · exact fun _ => rfl
      · intro domain
        dsimp only
        split <;> rfl

theorem Elected.simulatePeerLinkFailure (elected : engine.Elected primary secondary)
    (device : Device) : (engine.simulatePeerLinkFailure device).Elected primary secondary := by
  have configured : ∀ other, ((engine.simulatePeerLinkFailure device).domains.lookup other).isSome =
      (engine.domains.lookup other).isSome := by
    intro other
    have role := roleOf_simulatePeerLinkFailure engine device other
    simpa [roleOf] using congrArg Option.isSome role
  exact ⟨⟨elected.distinct, (configured primary).trans elected.firstDomain,
    (configured secondary).trans elected.secondDomain,
    (congrFun (peers_simulatePeerLinkFailure _ _) _).trans elected.firstPeer,
    (congrFun (peers_simulatePeerLinkFailure _ _) _).trans elected.secondPeer⟩,
    (roleOf_simulatePeerLinkFailure _ _ _).trans elected.isPrimary,
    (roleOf_simulatePeerLinkFailure _ _ _).trans elected.isSecondary⟩

theorem portStates_updateDomain_of_same (engine : VpcEngine Device) (device other : Device)
    {update : VpcDomain → VpcDomain}
    (same : ∀ domain, engine.domains.lookup device = some domain →
      (update domain).memberPorts = domain.memberPorts) :
    (engine.updateDomain device update).portStates other = engine.portStates other := by
  unfold portStates
  rw [lookup_updateDomain]
  by_cases isDevice : other = device
  · subst isDevice
    cases found : engine.domains.lookup other with
    | none => simp
    | some domain => simp [VpcDomain.portStates, same domain found]
  · rw [if_neg isDevice]

theorem portStates_updateDomain_of_ne (engine : VpcEngine Device) {device other : Device}
    (update : VpcDomain → VpcDomain) (different : other ≠ device) :
    (engine.updateDomain device update).portStates other = engine.portStates other := by
  unfold portStates
  rw [lookup_updateDomain, if_neg different]

section

variable (elected : engine.Elected primary secondary)
include elected

theorem portStates_failure_primary :
    (∀ state ∈ (engine.simulatePeerLinkFailure primary).portStates secondary, state = .suspended) ∧
      (engine.simulatePeerLinkFailure primary).portStates primary = engine.portStates primary := by
  obtain ⟨domain, found⟩ := isSome_iff_exists.mp elected.firstDomain
  obtain ⟨domain', found'⟩ := isSome_iff_exists.mp elected.secondDomain
  have isSecondary : domain'.role = .secondary := by
    simpa [roleOf, found'] using elected.isSecondary
  simp only [simulatePeerLinkFailure, found, elected.firstPeer]
  constructor
  · intro state member
    simp only [portStates, lookup_updateDomain, found', elected.distinct.symm, if_true, if_false,
      map_some, getD_some, VpcDomain.yields, isSecondary, decide_true,
      Bool.true_or] at member
    exact VpcDomain.portStates_setPorts member
  · rw [portStates_updateDomain_of_ne _ _ elected.distinct, portStates_updateDomain_of_same]
    exact fun _ _ => rfl

theorem portStates_failure_secondary (device : Device) :
    (engine.simulatePeerLinkFailure secondary).portStates device = engine.portStates device := by
  obtain ⟨domain, found⟩ := isSome_iff_exists.mp elected.firstDomain
  obtain ⟨domain', found'⟩ := isSome_iff_exists.mp elected.secondDomain
  have isPrimary : domain.role = .primary := by
    simpa [roleOf, found] using elected.isPrimary
  simp only [simulatePeerLinkFailure, found', elected.secondPeer]
  rw [portStates_updateDomain_of_same, portStates_updateDomain_of_same]
  · exact fun _ _ => rfl
  · intro down lookup
    rw [lookup_updateDomain, if_neg elected.distinct, found] at lookup
    obtain rfl := Option.some.inj lookup
    simp [VpcDomain.yields, isPrimary]

def failAll (engine : VpcEngine Device) (runs : List Device) : VpcEngine Device :=
  runs.foldl simulatePeerLinkFailure engine

section

variable {runs : List Device} (onPair : ∀ device ∈ runs, device = primary ∨ device = secondary)
include onPair

theorem portStates_failAll_primary :
    (engine.failAll runs).portStates primary = engine.portStates primary := by
  induction runs generalizing engine with
  | nil => rfl
  | cons device rest ih =>
    have kept : (engine.simulatePeerLinkFailure device).portStates primary =
        engine.portStates primary := by
      rcases onPair device mem_cons_self with rfl | rfl
      · exact (portStates_failure_primary elected).2
      · exact portStates_failure_secondary elected primary
    exact (ih (elected.simulatePeerLinkFailure device) fun other member =>
      onPair other (mem_cons_of_mem _ member)).trans kept

theorem suspended_failAll_iff :
    (∀ state ∈ (engine.failAll runs).portStates secondary, state = .suspended) ↔
      primary ∈ runs ∨ ∀ state ∈ engine.portStates secondary, state = .suspended := by
  induction runs generalizing engine with
  | nil => simp [VpcEngine.failAll]
  | cons device rest ih =>
    have later := ih (elected.simulatePeerLinkFailure device) fun other member =>
      onPair other (mem_cons_of_mem _ member)
    refine later.trans ?_
    rcases onPair device mem_cons_self with rfl | rfl
    · exact iff_of_true (.inr (portStates_failure_primary elected).1) (.inl mem_cons_self)
    · rw [portStates_failure_secondary elected, mem_cons, or_iff_right elected.distinct]

end

end

end Failure

/-- A failure of the peer link, processed on the devices of an elected pair in any order, leaves all
member ports of the secondary suspended and none of the primary's, if and only if it is processed on
the primary or the secondary's were suspended already, and none of the primary's was. And elections
on either device, in any order, leave one primary and one secondary. -/
theorem pair_protected_iff (engine : VpcEngine Device) (first second : Device) :
    (∀ runs : List Device, engine.Elected first second →
      (∀ device ∈ runs, device = first ∨ device = second) →
      ((engine.failAll runs).Protected first second ↔
        (first ∈ runs ∨ ∀ state ∈ engine.portStates second, state = .suspended) ∧
          ∀ state ∈ engine.portStates first, state ≠ .suspended)) ∧
    (engine.Paired first second → ∀ runs : List Bool, runs ≠ [] →
      (engine.electAll first second runs).OneOfEach first second) := by
  constructor
  · intro runs elected onPair
    rw [Protected, suspended_failAll_iff elected onPair, portStates_failAll_primary elected onPair]
  · intro paired runs nonempty
    exact oneOfEach_electAll paired.distinct paired.firstDomain paired.secondDomain nonempty

def twoSwitches : VpcEngine Nat where
  domains := (OrderedMap.empty.insert 0
    { domainId := 10, role := .primary, memberPorts := OrderedMap.empty.insert 10
        ⟨"port-channel10", 10, .up⟩ }).insert 1
    { domainId := 10, role := .secondary, memberPorts := OrderedMap.empty.insert 10
        ⟨"port-channel10", 10, .up⟩ }
  peers := fun device => if device = 0 then some 1 else if device = 1 then some 0 else Option.none

theorem elected_twoSwitches : twoSwitches.Elected 0 1 :=
  ⟨⟨by decide, by decide, by decide, rfl, rfl⟩, by decide, by decide⟩

theorem twoSwitches_protected : (twoSwitches.failAll [0, 1]).Protected 0 1 ∧
    (twoSwitches.electAll 0 1 [true, false]).OneOfEach 0 1 :=
  ⟨((pair_protected_iff twoSwitches 0 1).1 [0, 1] elected_twoSwitches (by decide)).mpr
      ⟨.inl (by decide), by decide⟩,
    (pair_protected_iff twoSwitches 0 1).2 elected_twoSwitches.toPaired [true, false] (by decide)⟩

/-- Processed on the secondary only, a failure suspends nothing. -/
theorem secondary_keeps_ports : twoSwitches.Elected 0 1 ∧
    ¬ (twoSwitches.failAll [1]).Protected 0 1 := by
  refine ⟨elected_twoSwitches, fun isProtected => ?_⟩
  exact absurd (isProtected.1 .up (by decide)) (by decide)

end VpcEngine

end NetLab.Redundancy
