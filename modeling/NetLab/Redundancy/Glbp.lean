import NetLab.Library.OrderedMap
import NetLab.Network.Addresses
import NetLab.Network.VirtualNetwork
import Mathlib.Data.Prod.Lex
import Mathlib.Data.String.Basic
import Mathlib.Data.List.Sort
import Mathlib.Data.Finset.Dedup
import Mathlib.Data.Finset.Max

/-!
# GLBP group

Every router elects the active virtual gateway on its own, from the states its neighbours are in
when it looks, and sets nothing but its own state. `election_outcome_iff` says when this leaves the
group as a common election would.
-/

namespace NetLab.Redundancy

open NetLab.Library NetLab.Network List

inductive GlbpState where
  | init
  | listen
  | standby
  | active
deriving DecidableEq

/-- A virtual forwarder. -/
structure GlbpForwarder (Device : Type) where
  number : Nat
  owner : Device
  isActive : Bool
  vmac : String

/-- A group as one of its routers keeps it. -/
structure GlbpGroup (Device : Type) where
  vip : String := ""
  priority : Nat := 100
  preempt : Bool := false
  state : GlbpState := .init
  interface : String := ""
  peerId : Option Device := none
  peerIp : String := ""
  peerPriority : Nat := 0
  forwarders : List (GlbpForwarder Device) := []

/-- Addresses of the interfaces of every device that has a session. -/
abbrev Sessions (Device : Type) := Device → Option (OrderedMap String String)

/-- The address a router takes part with: that of the group's interface, or of its first interface
with an address. -/
def ifaceIp {Device : Type} (sessions : Option (Sessions Device)) (device : Device)
    (group : GlbpGroup Device) : String :=
  match sessions.bind fun sessions => sessions device with
  | none => ""
  | some interfaces =>
    if group.interface ≠ "" then (interfaces.lookup group.interface).getD ""
    else (interfaces.values.find? fun ip => ip ≠ "" ∧ ip ≠ "127.0.0.1").getD ""

def hexByte (number : Nat) : String :=
  String.ofList ((Nat.toDigits 16 number).leftpad 2 '0')

def virtualMac (gid forwarder : Nat) : String := "0007.b400." ++ hexByte gid ++ hexByte forwarder

/-- Rank in the election: the priority, then the address as text. -/
abbrev TextRank := ℕ ×ₗ String

/-- The first device of greatest rank among one and some others. -/
def bestOf {Device : Type} (rank : Device → TextRank) (device : Device) (others : List Device) :
    Device :=
  others.foldl (fun best other => if rank best < rank other then other else best) device

variable {Device : Type} [LinearOrder Device]

/-- Groups of all devices, by number. -/
structure GlbpEngine (Device : Type) where
  groups : Device → Nat → Option (GlbpGroup Device)

namespace GlbpEngine

/-- The group of a device, if it has a virtual address. -/
def joined (engine : GlbpEngine Device) (gid : Nat) (device : Device) : Option (GlbpGroup Device) :=
  (engine.groups device gid).filter fun group => group.vip ≠ ""

/-- `_peers`: linked devices that take part in the group. -/
def peersOf (engine : GlbpEngine Device) (network : VirtualNetwork Device) (gid : Nat)
    (device : Device) : List Device :=
  (network.getNeighbors device).filter fun peer => (engine.joined gid peer).isSome

def stateOf (engine : GlbpEngine Device) (gid : Nat) (device : Device) : Option GlbpState :=
  (engine.joined gid device).map GlbpGroup.state

def rankOf (engine : GlbpEngine Device) (sessions : Option (Sessions Device)) (gid : Nat)
    (device : Device) : TextRank :=
  match engine.groups device gid with
  | none => toLex (0, "")
  | some group => toLex (group.priority, ifaceIp sessions device group)

/-- The router that `device` takes for the gateway. -/
def chosenBy (engine : GlbpEngine Device) (network : VirtualNetwork Device)
    (sessions : Option (Sessions Device)) (gid : Nat) (device : Device)
    (group : GlbpGroup Device) : Device :=
  let peers := engine.peersOf network gid device
  let best := bestOf (engine.rankOf sessions gid) device peers
  -- Without preemption, a router that would win leaves the role to an active peer.
  match peers.find? fun peer => engine.stateOf gid peer = some .active with
  | none => best
  | some incumbent =>
    if group.preempt = false ∧ best = device ∧ group.state ≠ .active then incumbent else best

/-- The group of `device` after its election. -/
def elected (engine : GlbpEngine Device) (network : VirtualNetwork Device)
    (sessions : Option (Sessions Device)) (gid : Nat) (device : Device)
    (group : GlbpGroup Device) : GlbpGroup Device :=
  let peers := engine.peersOf network gid device
  let members := (device :: peers).mergeSort
  let settled : GlbpGroup Device :=
    match peers.head?.bind fun peer => (engine.joined gid peer).map fun other => (peer, other) with
    | none => group
    | some (peer, other) =>
      { group with
        peerId := some peer
        peerIp := ifaceIp sessions peer other
        peerPriority := other.priority }
  { settled with
    state := if engine.chosenBy network sessions gid device group = device then .active else .standby
    forwarders := members.zipIdx.map fun member =>
      ⟨member.2 + 1, member.1, member.1 = device, virtualMac gid (member.2 + 1)⟩ }

/-- `elect`. -/
def elect (engine : GlbpEngine Device) (network : VirtualNetwork Device)
    (sessions : Option (Sessions Device)) (gid : Nat) (device : Device) : GlbpEngine Device :=
  match engine.joined gid device with
  | none => engine
  | some group =>
    ⟨Function.update engine.groups device (Function.update (engine.groups device) gid
      (some (engine.elected network sessions gid device group)))⟩

def electAll (engine : GlbpEngine Device) (network : VirtualNetwork Device)
    (sessions : Option (Sessions Device)) (gid : Nat) (runs : List Device) : GlbpEngine Device :=
  runs.foldl (fun engine device => engine.elect network sessions gid device) engine

theorem config_elected (engine : GlbpEngine Device) (network : VirtualNetwork Device)
    (sessions : Option (Sessions Device)) (gid : Nat) (device : Device)
    (group : GlbpGroup Device) :
    (engine.elected network sessions gid device group).vip = group.vip ∧
      (engine.elected network sessions gid device group).priority = group.priority ∧
      (engine.elected network sessions gid device group).preempt = group.preempt ∧
      (engine.elected network sessions gid device group).interface = group.interface := by
  unfold elected
  dsimp only
  split <;> exact ⟨rfl, rfl, rfl, rfl⟩

section Step

variable {engine : GlbpEngine Device} {network : VirtualNetwork Device}
  {sessions : Option (Sessions Device)} {gid : Nat} {device other : Device}

theorem groups_elect_of_ne (different : other ≠ device) :
    (engine.elect network sessions gid device).groups other = engine.groups other := by
  unfold elect
  split
  · rfl
  · exact Function.update_of_ne different ..

theorem groups_elect_self {group : GlbpGroup Device} (found : engine.joined gid device = some group) :
    (engine.elect network sessions gid device).groups device gid =
      some (engine.elected network sessions gid device group) := by
  simp [elect, found]

theorem joined_elect_self {group : GlbpGroup Device} (found : engine.joined gid device = some group) :
    (engine.elect network sessions gid device).joined gid device =
      some (engine.elected network sessions gid device group) := by
  have named : group.vip ≠ "" := by
    simpa using (Option.filter_eq_some_iff.mp found).2
  rw [joined, groups_elect_self found]
  simp [(config_elected engine network sessions gid device group).1, named]

theorem joined_elect_of_ne (different : other ≠ device) :
    (engine.elect network sessions gid device).joined gid other = engine.joined gid other := by
  rw [joined, groups_elect_of_ne different, joined]

theorem isSome_joined_elect : ((engine.elect network sessions gid device).joined gid other).isSome =
    (engine.joined gid other).isSome := by
  by_cases same : other = device
  · subst same
    cases found : engine.joined gid other with
    | none => simp [elect, found]
    | some group => simp [joined_elect_self found]
  · rw [joined_elect_of_ne same]

@[simp] theorem peersOf_elect : (engine.elect network sessions gid device).peersOf network gid other =
    engine.peersOf network gid other := by
  unfold peersOf
  simp only [isSome_joined_elect]

@[simp] theorem rankOf_elect : (engine.elect network sessions gid device).rankOf sessions gid other =
    engine.rankOf sessions gid other := by
  by_cases same : other = device
  · subst same
    cases found : engine.joined gid other with
    | none => simp [elect, found]
    | some group =>
      obtain ⟨-, priority, -, interface⟩ := config_elected engine network sessions gid other group
      have before : engine.groups other gid = some group :=
        (Option.filter_eq_some_iff.mp found).1
      rw [rankOf, rankOf, groups_elect_self found, before]
      simp only [ifaceIp, priority, interface]
  · rw [rankOf, rankOf, groups_elect_of_ne same]

end Step

/-- The router may take the role from an active one. -/
def preempts (engine : GlbpEngine Device) (gid : Nat) (device : Device) : Bool :=
  (engine.joined gid device).any GlbpGroup.preempt

theorem preempts_elect {engine : GlbpEngine Device} {network : VirtualNetwork Device}
    {sessions : Option (Sessions Device)} {gid : Nat} {device other : Device} :
    (engine.elect network sessions gid device).preempts gid other = engine.preempts gid other := by
  unfold preempts
  by_cases same : other = device
  · subst same
    cases found : engine.joined gid other with
    | none => simp [elect, found]
    | some group =>
      rw [joined_elect_self found]
      exact (config_elected engine network sessions gid other group).2.2.1
  · rw [joined_elect_of_ne same]

/-- The members of a group, each linked to all the others and to no other router of the group. -/
structure Mesh (engine : GlbpEngine Device) (network : VirtualNetwork Device) (gid : Nat)
    (members : List Device) : Prop where
  nodup : members.Nodup
  nonempty : members ≠ []
  joined : ∀ member ∈ members, (engine.joined gid member).isSome
  peers : ∀ member ∈ members, ∀ peer,
    peer ∈ engine.peersOf network gid member ↔ peer ∈ members ∧ peer ≠ member

/-- The member ranks above all the others. -/
structure Tops (engine : GlbpEngine Device) (sessions : Option (Sessions Device)) (gid : Nat)
    (members : List Device) (best : Device) : Prop where
  member : best ∈ members
  above : ∀ other ∈ members, other ≠ best →
    engine.rankOf sessions gid other < engine.rankOf sessions gid best

section Step

variable {engine : GlbpEngine Device} {network : VirtualNetwork Device}
  {sessions : Option (Sessions Device)} {gid : Nat} {members : List Device} {best device : Device}

theorem Mesh.elect (mesh : engine.Mesh network gid members) (device : Device) :
    (engine.elect network sessions gid device).Mesh network gid members :=
  ⟨mesh.nodup, mesh.nonempty, fun member inGroup => isSome_joined_elect.trans
    (mesh.joined member inGroup), fun member inGroup peer => by
      rw [peersOf_elect, mesh.peers member inGroup]⟩

theorem Tops.elect (tops : engine.Tops sessions gid members best) (device : Device) :
    (engine.elect network sessions gid device).Tops sessions gid members best :=
  ⟨tops.member, fun other member different => by
    rw [rankOf_elect, rankOf_elect]
    exact tops.above other member different⟩

end Step

end GlbpEngine

theorem bestOf_eq {rank : Device → TextRank} {device best : Device} {others : List Device}
    (member : best ∈ device :: others)
    (above : ∀ other ∈ device :: others, other ≠ best → rank other < rank best) :
    bestOf rank device others = best := by
  unfold bestOf
  induction others generalizing device with
  | nil => exact (mem_singleton.mp member).symm
  | cons next others ih =>
    rw [foldl_cons]
    have current : ∀ other ∈ (if rank device < rank next then next else device) :: others,
        other ∈ device :: next :: others := by
      intro other inside
      rcases mem_cons.mp inside with rfl | inRest
      · split <;> simp
      · exact mem_cons_of_mem _ (mem_cons_of_mem _ inRest)
    refine ih ?_ fun other inside => above other (current other inside)
    rcases mem_cons.mp member with rfl | inTail
    · -- The device itself is never replaced.
      have stays : ¬ rank best < rank next := by
        by_cases same : next = best
        · rw [same]
          exact lt_irrefl _
        · exact (above next (by simp) same).not_gt
      rw [if_neg stays]
      exact mem_cons_self
    · rcases mem_cons.mp inTail with rfl | inRest
      · by_cases same : device = best
        · rw [same, ite_self]
          exact mem_cons_self
        · rw [if_pos (above device mem_cons_self same)]
          exact mem_cons_self
      · exact mem_cons_of_mem _ inRest

namespace GlbpEngine

section Outcome

variable {engine : GlbpEngine Device} {network : VirtualNetwork Device}
  {sessions : Option (Sessions Device)} {gid : Nat} {members : List Device} {best device : Device}

section

variable (mesh : engine.Mesh network gid members) (tops : engine.Tops sessions gid members best)
  (member : device ∈ members)
include mesh tops member

theorem bestOf_peers :
    bestOf (engine.rankOf sessions gid) device (engine.peersOf network gid device) = best := by
  have inMembers : ∀ other ∈ device :: engine.peersOf network gid device, other ∈ members := by
    intro other inside
    rcases mem_cons.mp inside with rfl | isPeer
    · exact member
    · exact ((mesh.peers device member other).mp isPeer).1
  refine bestOf_eq ?_ fun other inside => tops.above other (inMembers other inside)
  by_cases same : best = device
  · exact same ▸ mem_cons_self
  · exact mem_cons_of_mem _ ((mesh.peers device member best).mpr ⟨tops.member, same⟩)

def OtherActive (engine : GlbpEngine Device) (gid : Nat) (members : List Device)
    (device : Device) : Prop :=
  ∃ other ∈ members, other ≠ device ∧ engine.stateOf gid other = some .active

/-- The best member leaves the role to an active one. -/
def Defers (engine : GlbpEngine Device) (gid : Nat) (members : List Device)
    (device : Device) : Prop :=
  engine.preempts gid device = false ∧ engine.stateOf gid device ≠ some .active ∧
    engine.OtherActive gid members device

/-- In its election, a member takes itself for the gateway if it is the best one and does not leave
the role to another one. -/
theorem chosenBy_eq_self_iff {group : GlbpGroup Device}
    (found : engine.joined gid device = some group) :
    engine.chosenBy network sessions gid device group = device ↔
      device = best ∧ ¬ engine.Defers gid members device := by
  have state : engine.stateOf gid device = some group.state := by rw [stateOf, found]; rfl
  have preempts : engine.preempts gid device = group.preempt := by rw [preempts, found]; rfl
  simp only [chosenBy, bestOf_peers mesh tops member, Defers, state, preempts]
  cases search : (engine.peersOf network gid device).find?
      fun peer => engine.stateOf gid peer = some .active with
  | none =>
    have noOther : ¬ engine.OtherActive gid members device := by
      rintro ⟨other, inGroup, different, isActive⟩
      have isPeer := (mesh.peers device member other).mpr ⟨inGroup, different⟩
      simpa [isActive] using find?_eq_none.mp search other isPeer
    simp only [noOther, and_false, not_false_eq_true, and_true]
    exact eq_comm
  | some incumbent =>
    have isPeer := (mesh.peers device member incumbent).mp (mem_of_find?_eq_some search)
    have isActive : engine.stateOf gid incumbent = some .active := by
      simpa using find?_some search
    have other : engine.OtherActive gid members device :=
      ⟨incumbent, isPeer.1, isPeer.2, isActive⟩
    by_cases isBest : best = device
    · by_cases defers : group.preempt = false ∧ group.state ≠ .active
      · simp [isBest, defers, other, isPeer.2]
      · have notBoth : ¬ (group.preempt = false ∧ best = device ∧ group.state ≠ .active) :=
          fun both => defers ⟨both.1, both.2.2⟩
        dsimp only
        rw [if_neg notBoth]
        simp only [isBest, true_and, other, and_true, Option.some.injEq, ne_eq, true_iff]
        exact defers
    · simp [isBest, Ne.symm isBest]

/-- A member is active after its election if it took itself for the gateway, and otherwise a
standby. -/
theorem stateOf_elect_self :
    ((engine.elect network sessions gid device).stateOf gid device = some .active ∧
        device = best ∧ ¬ engine.Defers gid members device) ∨
      ((engine.elect network sessions gid device).stateOf gid device = some .standby ∧
        ¬ (device = best ∧ ¬ engine.Defers gid members device)) := by
  obtain ⟨group, found⟩ := Option.isSome_iff_exists.mp (mesh.joined device member)
  have chosen := chosenBy_eq_self_iff mesh tops member found
  have state : (engine.elect network sessions gid device).stateOf gid device =
      some (if engine.chosenBy network sessions gid device group = device then .active
        else .standby) := by
    rw [stateOf, joined_elect_self found]
    rfl
  by_cases chosenSelf : engine.chosenBy network sessions gid device group = device
  · exact .inl ⟨by rw [state, if_pos chosenSelf], chosen.mp chosenSelf⟩
  · exact .inr ⟨by rw [state, if_neg chosenSelf], mt chosen.mpr chosenSelf⟩

end

theorem stateOf_elect_of_ne {other : Device} (different : other ≠ device) :
    (engine.elect network sessions gid device).stateOf gid other = engine.stateOf gid other := by
  rw [stateOf, joined_elect_of_ne different, stateOf]

theorem stateOf_electAll_of_notMem {runs : List Device} (absent : device ∉ runs) :
    (engine.electAll network sessions gid runs).stateOf gid device = engine.stateOf gid device := by
  induction runs generalizing engine with
  | nil => rfl
  | cons next rest ih =>
    have different : device ≠ next := fun same => absent (same ▸ mem_cons_self)
    have inRest : device ∉ rest := fun inside => absent (mem_cons_of_mem _ inside)
    exact (ih inRest).trans (stateOf_elect_of_ne different)

section

variable {runs : List Device} (mesh : engine.Mesh network gid members)
include mesh

theorem stateOf_electAll_other (tops : engine.Tops sessions gid members best)
    (member : device ∈ members) (notBest : device ≠ best)
    (ran : device ∈ runs ∨ engine.stateOf gid device = some .standby) :
    (engine.electAll network sessions gid runs).stateOf gid device = some .standby := by
  induction runs generalizing engine with
  | nil => exact ran.resolve_left not_mem_nil
  | cons next rest ih =>
    refine ih (mesh.elect next) (tops.elect next) ?_
    by_cases same : next = device
    · subst same
      rcases stateOf_elect_self mesh tops member with ⟨-, isBest, -⟩ | ⟨standby, -⟩
      · exact absurd isBest notBest
      · exact .inr standby
    · rw [stateOf_elect_of_ne (Ne.symm same)]
      exact ran.imp_left fun inRuns => (mem_cons.mp inRuns).resolve_left (Ne.symm same)

/-- The best member's election comes when all the other active members have had theirs. -/
def ComesFree (engine : GlbpEngine Device) (gid : Nat) (members : List Device) (best : Device)
    (runs : List Device) : Prop :=
  ∃ before after, runs = before ++ best :: after ∧
    ∀ other ∈ members, other ≠ best → engine.stateOf gid other = some .active → other ∈ before

/-- The best member is active in the end if it was before, or it may take the role, or it comes to
it when nobody else has it. -/
theorem active_electAll_iff (tops : engine.Tops sessions gid members best)
    (onMembers : ∀ device ∈ runs, device ∈ members) :
    (engine.electAll network sessions gid runs).stateOf gid best = some .active ↔
      engine.stateOf gid best = some .active ∨ (engine.preempts gid best = true ∧ best ∈ runs) ∨
        engine.ComesFree gid members best runs := by
  induction runs generalizing engine with
  | nil => simp [electAll, ComesFree]
  | cons next rest ih =>
    have later := ih (mesh.elect next) (tops.elect next) fun device inRest =>
      onMembers device (mem_cons_of_mem _ inRest)
    refine later.trans ?_
    rw [preempts_elect]
    by_cases isBest : next = best
    · subst isBest
      rcases stateOf_elect_self mesh tops tops.member with ⟨active, -, free⟩ | ⟨standby, held⟩
      · refine iff_of_true (.inl active) ?_
        by_contra neither
        rw [not_or, not_or] at neither
        refine free ⟨?_, neither.1, ?_⟩
        · simpa using neither.2.1
        · by_contra noOther
          refine neither.2.2 ⟨[], rest, rfl, fun other member different isActive => ?_⟩
          exact absurd ⟨other, member, different, isActive⟩ noOther
      · have defers : engine.Defers gid members next := by
          by_contra free
          exact held ⟨rfl, free⟩
        rw [standby]
        simp only [defers.1, defers.2.1, Option.some.injEq, reduceCtorEq, false_and, false_or]
        constructor
        · rintro ⟨before, after, rfl, cleared⟩
          refine ⟨next :: before, after, rfl, fun other member different isActive => ?_⟩
          exact mem_cons_of_mem _ (cleared other member different
            ((stateOf_elect_of_ne different).trans isActive))
        · rintro ⟨before, after, shape, cleared⟩
          obtain ⟨other, member, different, isActive⟩ := defers.2.2
          cases before with
          | nil => exact absurd (cleared other member different isActive) not_mem_nil
          | cons first before =>
            obtain ⟨rfl, rfl⟩ := List.cons.inj shape
            refine ⟨before, after, rfl, fun other member different isActive => ?_⟩
            have inBefore := cleared other member different
              ((stateOf_elect_of_ne different).symm.trans isActive)
            exact (mem_cons.mp inBefore).resolve_left different
    · have nextMember := onMembers next mem_cons_self
      have standby : (engine.elect network sessions gid next).stateOf gid next = some .standby := by
        rcases stateOf_elect_self mesh tops nextMember with ⟨-, same, -⟩ | ⟨standby, -⟩
        · exact absurd same isBest
        · exact standby
      rw [stateOf_elect_of_ne (Ne.symm isBest), mem_cons, or_iff_right (Ne.symm isBest)]
      refine or_congr_right (or_congr_right ?_)
      constructor
      · rintro ⟨before, after, rfl, cleared⟩
        refine ⟨next :: before, after, rfl, fun other member different isActive => ?_⟩
        by_cases same : other = next
        · exact same ▸ mem_cons_self
        · exact mem_cons_of_mem _ (cleared other member different
            ((stateOf_elect_of_ne same).trans isActive))
      · rintro ⟨before, after, shape, cleared⟩
        cases before with
        | nil => exact absurd (List.cons.inj shape).1 isBest
        | cons first before =>
          obtain ⟨rfl, rfl⟩ := List.cons.inj shape
          refine ⟨before, after, rfl, fun other member different isActive => ?_⟩
          by_cases same : other = next
          · rw [same, standby] at isActive
            cases isActive
          · have inBefore := cleared other member different
              ((stateOf_elect_of_ne same).symm.trans isActive)
            exact (mem_cons.mp inBefore).resolve_left same

/-- The peer that a router has recorded. -/
def peerIdOf (engine : GlbpEngine Device) (gid : Nat) (device : Device) : Option Device :=
  (engine.joined gid device).bind GlbpGroup.peerId

/-- Whom a router takes for the gateway: itself when it is active, else the peer it has recorded. -/
def gatewayOf (engine : GlbpEngine Device) (gid : Nat) (device : Device) : Option Device :=
  if engine.stateOf gid device = some .active then some device else engine.peerIdOf gid device

theorem peerIdOf_electAll {peer : Device} (member : device ∈ members)
    (onlyPeer : ∀ other ∈ members, other ≠ device → other = peer)
    (isPeer : peer ∈ members ∧ peer ≠ device)
    (ran : device ∈ runs ∨ engine.peerIdOf gid device = some peer) :
    (engine.electAll network sessions gid runs).peerIdOf gid device = some peer := by
  induction runs generalizing engine with
  | nil => exact ran.resolve_left not_mem_nil
  | cons next rest ih =>
    refine ih (mesh.elect next) ?_
    by_cases same : next = device
    · subst same
      refine .inr ?_
      obtain ⟨group, found⟩ := Option.isSome_iff_exists.mp (mesh.joined next member)
      obtain ⟨other, found'⟩ := Option.isSome_iff_exists.mp (mesh.joined peer isPeer.1)
      have first : (engine.peersOf network gid next).head? = some peer := by
        cases shape : engine.peersOf network gid next with
        | nil =>
          have inPeers := (mesh.peers next member peer).mpr isPeer
          rw [shape] at inPeers
          exact absurd inPeers not_mem_nil
        | cons head tail =>
          have inPeers := (mesh.peers next member head).mp (shape ▸ mem_cons_self)
          rw [head?_cons, onlyPeer head inPeers.1 inPeers.2]
      rw [peerIdOf, joined_elect_self found]
      simp [elected, first, found']
    · have different : device ≠ next := Ne.symm same
      refine ran.imp (fun inRuns => (mem_cons.mp inRuns).resolve_left different) fun known => ?_
      rw [peerIdOf, joined_elect_of_ne different]
      exact known

end

end Outcome

/-- The address with which a router takes part. -/
def addressOf (engine : GlbpEngine Device) (sessions : Option (Sessions Device)) (gid : Nat)
    (device : Device) : Option Nat :=
  (engine.groups device gid).bind fun group => ipToInt (ifaceIp sessions device group)

def addressRank (engine : GlbpEngine Device) (sessions : Option (Sessions Device)) (gid : Nat)
    (device : Device) : ℕ ×ₗ ℕ :=
  toLex (((engine.groups device gid).map GlbpGroup.priority).getD 0,
    (engine.addressOf sessions gid device).getD 0)

/-- The members have addresses, all different. -/
structure Addressed (engine : GlbpEngine Device) (sessions : Option (Sessions Device)) (gid : Nat)
    (members : List Device) : Prop where
  known : ∀ member ∈ members, (engine.addressOf sessions gid member).isSome
  distinct : ∀ first ∈ members, ∀ second ∈ members,
    engine.addressOf sessions gid first = engine.addressOf sessions gid second → first = second

def Highest (engine : GlbpEngine Device) (sessions : Option (Sessions Device)) (gid : Nat)
    (members : List Device) (device : Device) : Prop :=
  ∀ other ∈ members, other ≠ device →
    engine.addressRank sessions gid other < engine.addressRank sessions gid device

/-- One member is active, the highest, all members take it for the gateway, and there is at most one
standby. Ranks are those of `config`. -/
def OneGateway (engine config : GlbpEngine Device) (sessions : Option (Sessions Device)) (gid : Nat)
    (members : List Device) : Prop :=
  (∃ gateway ∈ members,
    (∀ member ∈ members, engine.stateOf gid member = some .active ↔ member = gateway) ∧
      (∀ member ∈ members, engine.gatewayOf gid member = some gateway) ∧
      config.Highest sessions gid members gateway) ∧
    ∀ first ∈ members, ∀ second ∈ members, engine.stateOf gid first = some .standby →
      engine.stateOf gid second = some .standby → first = second

section Answer

variable {engine : GlbpEngine Device} {network : VirtualNetwork Device}
  {sessions : Option (Sessions Device)} {gid : Nat} {members : List Device}

omit [LinearOrder Device] in
theorem Addressed.eq_of_rankOf_eq (addressed : engine.Addressed sessions gid members)
    {first second : Device} (inGroup : first ∈ members) (inGroup' : second ∈ members)
    (same : engine.rankOf sessions gid first = engine.rankOf sessions gid second) :
    first = second := by
  have hasGroup : ∀ member ∈ members, ∃ group, engine.groups member gid = some group := by
    intro member inside
    obtain ⟨address, known⟩ := Option.isSome_iff_exists.mp (addressed.known member inside)
    obtain ⟨group, found, -⟩ := Option.bind_eq_some_iff.mp known
    exact ⟨group, found⟩
  obtain ⟨group, found⟩ := hasGroup first inGroup
  obtain ⟨group', found'⟩ := hasGroup second inGroup'
  refine addressed.distinct first inGroup second inGroup' ?_
  have sameText : ifaceIp sessions first group = ifaceIp sessions second group' := by
    rw [rankOf, rankOf, found, found'] at same
    exact (Prod.mk.inj (toLex.injective same)).2
  rw [addressOf, addressOf, found, found']
  exact congrArg ipToInt sameText

theorem exists_tops (mesh : engine.Mesh network gid members)
    (addressed : engine.Addressed sessions gid members) :
    ∃ best, engine.Tops sessions gid members best := by
  obtain ⟨anyone, inMembers⟩ := exists_mem_of_ne_nil members mesh.nonempty
  obtain ⟨best, member, atMost⟩ := members.toFinset.exists_max_image
    (engine.rankOf sessions gid) ⟨anyone, mem_toFinset.mpr inMembers⟩
  have inGroup := mem_toFinset.mp member
  refine ⟨best, inGroup, fun other inside different => ?_⟩
  refine lt_of_le_of_ne (atMost other (mem_toFinset.mpr inside)) fun same => different ?_
  exact addressed.eq_of_rankOf_eq inside inGroup same

omit [LinearOrder Device] in
theorem Tops.unique {best other : Device} (tops : engine.Tops sessions gid members best)
    (tops' : engine.Tops sessions gid members other) : best = other := by
  by_contra different
  exact (tops.above other tops'.member (Ne.symm different)).asymm
    (tops'.above best tops.member different)

theorem standby_of_ran (mesh : engine.Mesh network gid members) {best : Device}
    (tops : engine.Tops sessions gid members best) {runs : List Device}
    (everyone : ∀ member ∈ members, member ∈ runs) {member : Device} (inGroup : member ∈ members)
    (notBest : member ≠ best) :
    (engine.electAll network sessions gid runs).stateOf gid member = some .standby :=
  stateOf_electAll_other mesh tops inGroup notBest (.inl (everyone member inGroup))

theorem exists_two_others (mesh : engine.Mesh network gid members) {best : Device}
    (many : ¬ members.length ≤ 2) :
    ∃ first ∈ members, ∃ second ∈ members, first ≠ best ∧ second ≠ best ∧ first ≠ second := by
  have count : 1 < (members.toFinset.erase best).card := by
    have whole : members.toFinset.card = members.length := toFinset_card_of_nodup mesh.nodup
    have atLeast := @Finset.pred_card_le_card_erase _ members.toFinset best _
    omega
  obtain ⟨first, inFirst, second, inSecond, different⟩ := Finset.one_lt_card.mp count
  simp only [Finset.mem_erase, mem_toFinset] at inFirst inSecond
  exact ⟨first, inFirst.2, second, inSecond.2, inFirst.1, inSecond.1, different⟩

omit [LinearOrder Device] in
theorem eq_of_few [DecidableEq Device] (few : members.length ≤ 2) {one first second : Device}
    (inGroup : one ∈ members) (inFirst : first ∈ members) (inSecond : second ∈ members)
    (notOne : first ≠ one) (notOne' : second ≠ one) : first = second := by
  by_contra different
  have three : ({one, first, second} : Finset Device).card = 3 :=
    Finset.card_eq_three.mpr ⟨one, first, second, Ne.symm notOne, Ne.symm notOne', different, rfl⟩
  have atMost : ({one, first, second} : Finset Device).card ≤ members.toFinset.card := by
    refine Finset.card_le_card fun device isOne => mem_toFinset.mpr ?_
    simp only [Finset.mem_insert, Finset.mem_singleton] at isOne
    rcases isOne with rfl | rfl | rfl
    exacts [inGroup, inFirst, inSecond]
  have bounded := members.toFinset_card_le
  omega

/-- In a group of at most two, every member takes the best one for the gateway once that is active
and all members have had an election. -/
theorem gatewayOf_electAll (mesh : engine.Mesh network gid members) {best : Device}
    (tops : engine.Tops sessions gid members best) (few : members.length ≤ 2) {runs : List Device}
    (everyone : ∀ member ∈ members, member ∈ runs)
    (active : (engine.electAll network sessions gid runs).stateOf gid best = some .active)
    {member : Device} (inGroup : member ∈ members) :
    (engine.electAll network sessions gid runs).gatewayOf gid member = some best := by
  by_cases isBest : member = best
  · rw [gatewayOf, isBest, if_pos active]
  · have standby := standby_of_ran mesh tops everyone inGroup isBest
    have onlyPeer : ∀ other ∈ members, other ≠ member → other = best :=
      fun other inside different =>
        eq_of_few few inGroup inside tops.member different (Ne.symm isBest)
    have notActive : (engine.electAll network sessions gid runs).stateOf gid member ≠
        some .active := by
      rw [standby]
      simp
    rw [gatewayOf, if_neg notActive]
    exact peerIdOf_electAll mesh inGroup onlyPeer ⟨tops.member, Ne.symm isBest⟩
      (.inl (everyone member inGroup))

/-- Elections on all members leave one gateway, the highest, exactly in a group of at most two where
addresses compare as their texts do, and only if the best router was active, may take the role, or
has an election when no other one is active. A router that was active stays so, whatever the
preemption, if it has no election or is the best one. -/
theorem election_outcome_iff (mesh : engine.Mesh network gid members)
    (addressed : engine.Addressed sessions gid members) {runs : List Device}
    (onMembers : ∀ device ∈ runs, device ∈ members) :
    ((∀ member ∈ members, member ∈ runs) →
      ((engine.electAll network sessions gid runs).OneGateway engine sessions gid members ↔
        members.length ≤ 2 ∧ ∃ best, engine.Tops sessions gid members best ∧
          engine.Highest sessions gid members best ∧
          (engine.stateOf gid best = some .active ∨ engine.preempts gid best = true ∨
            engine.ComesFree gid members best runs))) ∧
      ∀ incumbent ∈ members, engine.stateOf gid incumbent = some .active →
        ((engine.electAll network sessions gid runs).stateOf gid incumbent = some .active ↔
          incumbent ∉ runs ∨ engine.Tops sessions gid members incumbent) := by
  obtain ⟨best, tops⟩ := exists_tops mesh addressed
  have outcome := active_electAll_iff mesh tops onMembers
  constructor
  · intro everyone
    constructor
    · rintro ⟨⟨gateway, inGroup, active, -, highest⟩, oneStandby⟩
      have isBest : gateway = best := by
        by_contra notBest
        have isActive := (active gateway inGroup).mpr rfl
        rw [standby_of_ran mesh tops everyone inGroup notBest] at isActive
        cases isActive
      subst isBest
      refine ⟨?_, gateway, tops, highest, ?_⟩
      · by_contra many
        obtain ⟨first, inFirst, second, inSecond, notBest, notBest', different⟩ :=
          @exists_two_others _ _ _ _ _ _ mesh gateway many
        exact different (oneStandby first inFirst second inSecond
          (standby_of_ran mesh tops everyone inFirst notBest)
          (standby_of_ran mesh tops everyone inSecond notBest'))
      · have cases := outcome.mp ((active gateway inGroup).mpr rfl)
        exact cases.imp_right fun either => either.imp_left And.left
    · rintro ⟨few, other, tops', highest, free⟩
      have same : other = best := tops'.unique tops
      subst same
      have active := outcome.mpr (free.imp_right fun either =>
        either.imp_left fun preempts => ⟨preempts, everyone other tops.member⟩)
      refine ⟨⟨other, tops.member, fun member inGroup => ⟨fun isActive => ?_, ?_⟩,
        fun member inGroup => gatewayOf_electAll mesh tops few everyone active inGroup,
        highest⟩, ?_⟩
      · by_contra notBest
        rw [standby_of_ran mesh tops everyone inGroup notBest] at isActive
        cases isActive
      · rintro rfl
        exact active
      · intro first inFirst second inSecond standby standby'
        have notBest : ∀ member, (engine.electAll network sessions gid runs).stateOf gid member =
            some .standby → member ≠ other := by
          rintro member isStandby rfl
          rw [active] at isStandby
          cases isStandby
        exact eq_of_few few tops.member inFirst inSecond (notBest first standby)
          (notBest second standby')
  · intro incumbent inGroup wasActive
    by_cases ran : incumbent ∈ runs
    · by_cases isBest : incumbent = best
      · subst isBest
        exact iff_of_true (outcome.mpr (.inl wasActive)) (.inr tops)
      · have standby := stateOf_electAll_other mesh tops inGroup isBest (.inl ran)
        refine iff_of_false (by rw [standby]; simp) ?_
        rintro (absent | tops')
        · exact absent ran
        · exact isBest (tops'.unique tops)
    · exact iff_of_true ((stateOf_electAll_of_notMem ran).trans wasActive) (.inl ran)

end Answer

def fullMesh (count : Nat) : VirtualNetwork (Fin count) where
  links := (List.finRange count).foldl (fun links device =>
    links.insert device ((List.finRange count).erase device)) OrderedMap.empty
  interfaceLinks := fun _ _ => none
  linkIfaces := fun _ _ => []
  downInterfaces := fun _ => []
  subifVlans := fun _ => []
  vlanPorts := fun _ => []
  deviceIps := OrderedMap.empty

/-- Addresses on one network. -/
def lanSessions (count first : Nat) : Sessions (Fin count) := fun device =>
  some (OrderedMap.empty.insert "GigabitEthernet0/0" ("10.0.0." ++ (first + device.val).repr))

/-- Routers with the same priority and no preemption, of which some are active. -/
def lanGroup (count : Nat) (active : List (Fin count)) : GlbpEngine (Fin count) :=
  ⟨fun device gid => if gid = 1 then some
    { vip := "10.0.0.254", interface := "GigabitEthernet0/0",
      state := if device ∈ active then .active else .init } else none⟩

theorem addressOf_lanGroup {count first : Nat} {active : List (Fin count)} {device : Fin count}
    (split : dottedFields ("10.0.0." ++ (first + device.val).repr) 9 0 0 [] =
      some [Nat.repr 10, Nat.repr 0, Nat.repr 0, (first + device.val).repr]) :
    (lanGroup count active).addressOf (some (lanSessions count first)) 1 device =
      some (10 <<< 24 ||| 0 <<< 16 ||| 0 <<< 8 ||| (first + device.val)) := by
  simpa [addressOf, lanGroup, ifaceIp, lanSessions] using
    ipToInt_of_fields (a := 10) (b := 0) (c := 0) (d := first + device.val) 9 split

theorem addressOf_two : (lanGroup 2 [0]).addressOf (some (lanSessions 2 1)) 1 0 = some 0x0a000001 ∧
    (lanGroup 2 [0]).addressOf (some (lanSessions 2 1)) 1 1 = some 0x0a000002 :=
  ⟨addressOf_lanGroup (by decide +kernel), addressOf_lanGroup (by decide +kernel)⟩

theorem mesh_two : (lanGroup 2 [0]).Mesh (fullMesh 2) 1 [0, 1] :=
  ⟨by decide, by decide, by decide, by decide⟩

theorem addressed_two : (lanGroup 2 [0]).Addressed (some (lanSessions 2 1)) 1 [0, 1] := by
  obtain ⟨first, second⟩ := addressOf_two
  constructor
  · simp [first, second]
  · simp [first, second]

theorem lanGroup_two_outcome :
    ((lanGroup 2 [0]).electAll (fullMesh 2) (some (lanSessions 2 1)) 1 [0, 1]).OneGateway
        (lanGroup 2 [0]) (some (lanSessions 2 1)) 1 [0, 1] ∧
      ((lanGroup 2 [0]).electAll (fullMesh 2) (some (lanSessions 2 1)) 1 [1]).stateOf 1 0 =
        some .active := by
  obtain ⟨first, second⟩ := addressOf_two
  constructor
  · refine ((election_outcome_iff mesh_two addressed_two (by decide)).1
      (by decide)).mpr ⟨by decide, 1, ⟨by decide, by decide +kernel⟩, ?_, ?_⟩
    · have equal : ∀ device, ((lanGroup 2 [0]).groups device 1).map GlbpGroup.priority =
          some 100 := fun _ => rfl
      simp [Highest, addressRank, first, second, equal, Prod.Lex.toLex_lt_toLex]
    · exact .inr (.inr ⟨[0], [], rfl, by decide⟩)
  · exact ((election_outcome_iff mesh_two addressed_two (by decide)).2 0
      (by decide) (by decide)).mpr (.inl (by decide))

theorem mesh_three : (lanGroup 3 []).Mesh (fullMesh 3) 1 [0, 1, 2] :=
  ⟨by decide, by decide, by decide, by decide⟩

theorem addressed_three : (lanGroup 3 []).Addressed (some (lanSessions 3 1)) 1 [0, 1, 2] := by
  have zero : (lanGroup 3 []).addressOf (some (lanSessions 3 1)) 1 0 = some 0x0a000001 :=
    addressOf_lanGroup (by decide +kernel)
  have one : (lanGroup 3 []).addressOf (some (lanSessions 3 1)) 1 1 = some 0x0a000002 :=
    addressOf_lanGroup (by decide +kernel)
  have two : (lanGroup 3 []).addressOf (some (lanSessions 3 1)) 1 2 = some 0x0a000003 :=
    addressOf_lanGroup (by decide +kernel)
  constructor
  · simp [zero, one, two]
  · simp [zero, one, two]

/-- Three routers end with two standbys, and an active router gives up the role to a better one that
does not preempt. -/
theorem two_standbys : (lanGroup 3 []).Mesh (fullMesh 3) 1 [0, 1, 2] ∧
      (lanGroup 3 []).Addressed (some (lanSessions 3 1)) 1 [0, 1, 2] ∧
      ¬ ((lanGroup 3 []).electAll (fullMesh 3) (some (lanSessions 3 1)) 1 [0, 1, 2]).OneGateway
        (lanGroup 3 []) (some (lanSessions 3 1)) 1 [0, 1, 2] ∧
      (lanGroup 2 [0]).Mesh (fullMesh 2) 1 [0, 1] ∧
      (lanGroup 2 [0]).Addressed (some (lanSessions 2 1)) 1 [0, 1] ∧
      (lanGroup 2 [0]).preempts 1 1 = false ∧
      ((lanGroup 2 [0]).electAll (fullMesh 2) (some (lanSessions 2 1)) 1 [0, 1]).stateOf 1 0 =
        some .standby := by
  refine ⟨mesh_three, addressed_three, ?_, mesh_two, addressed_two, by decide, by decide +kernel⟩
  rintro ⟨-, oneStandby⟩
  exact absurd (oneStandby 0 (by decide) 1 (by decide) (by decide +kernel) (by decide +kernel))
    (by decide)

end GlbpEngine

end NetLab.Redundancy
