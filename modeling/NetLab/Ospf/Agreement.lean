import NetLab.Ospf.Election

/-!
# Runs of a broadcast segment

Routers with fixed router IDs and priorities exchange hellos and bring up their
adjacencies in any order. The invariant says which choices a router can have made
so far, and that it has made them once an adjacency of its is full.
-/

namespace NetLab.Ospf

open NetLab.Library NetLab.Network NetLab.Execution
open OrderedMap List Option

variable {Device : Type} [DecidableEq Device]

/-- Router ID and priority of each device, fixed during a run. -/
abbrev Identity (Device : Type) := Device → Option (Address × Nat)

def identityOf (nodes : OspfNodes Device) : Identity Device := fun device =>
  (nodes.lookup device).map fun node => (node.routerId, node.priority)

/-- A device that may be designated. -/
def Eligible (identity : Identity Device) (device : Device) : Prop :=
  ∃ rid priority, identity device = some (rid, priority) ∧ 0 < priority

/-- Every router is fully adjacent to every other one, and there is another one. -/
def Complete (nodes : OspfNodes Device) : Prop :=
  ∀ entry ∈ nodes.entries, (∀ peer ∈ nodes.keys, peer ≠ entry.1 → fullWith entry.2 peer) ∧
    ∃ peer ∈ nodes.keys, peer ≠ entry.1

instance (nodes : OspfNodes Device) : Decidable (Complete nodes) :=
  inferInstanceAs (Decidable (∀ entry ∈ nodes.entries,
    (∀ peer ∈ nodes.keys, peer ≠ entry.1 → fullWith entry.2 peer = true) ∧
      ∃ peer ∈ nodes.keys, peer ≠ entry.1))

/-- A segment before any hello: router IDs are distinct and some priority is positive. -/
structure SegmentStart (state : OspfState Device) : Prop where
  untouched : ∀ entry ∈ state.nodes.entries,
    entry.2.neighbors = .empty ∧ entry.2.dr = none ∧ entry.2.bdr = none
  distinct : ∀ left ∈ state.nodes.entries, ∀ right ∈ state.nodes.entries,
    left.2.routerId = right.2.routerId → left.1 = right.1
  eligible : ∃ entry ∈ state.nodes.entries, 0 < entry.2.priority
  silent : state.inFlight.length = 0
  idle : state.adjacencies = []

/-- Hellos and adjacencies, the only events of a segment whose configuration is fixed. -/
def OspfEvent.isHello : OspfEvent Device → Bool
  | .sendHello _ => true
  | .deliver _ => true
  | .advance _ => true
  | _ => false

/-- Elections of a run prefer one pair of routers: whoever completes an adjacency
without having chosen yet knows the pair by then, and knows nobody better. -/
def PrefersPair (dr : Device) (bdr : Option Device) (state : OspfState Device) :
    OspfEvent Device → Prop
  | .sendHello _ => True
  | .deliver _ => True
  | .advance index => ∀ task ∈ state.adjacencies[index]?, task.reached.next = .full →
      ∀ node ∈ state.nodes.lookup task.receiver,
        ElectsAs dr bdr node (electionCandidates state.nodes task.receiver node)
  | _ => False

instance (dr : Device) (bdr : Option Device) (state : OspfState Device)
    (event : OspfEvent Device) : Decidable (PrefersPair dr bdr state event) := by
  cases event <;> unfold PrefersPair <;> infer_instance

/-! ## The invariant -/

/-- A device that a router takes into account for sure: itself, or a full neighbour. -/
def Viewed (device : Device) (node : OspfNode Device) (other : Device) : Prop :=
  other = device ∨ fullWith node other = true

/-- A device that a router may designate: itself or a neighbour, with a positive
priority. -/
def Designable (identity : Identity Device) (device : Device) (node : OspfNode Device)
    (other : Device) : Prop :=
  Eligible identity other ∧ (other = device ∨ other ∈ node.neighbors.keys)

/-- The choices a router can have made: only the preferred pair, and only among the
routers that it knows. -/
structure Choices (identity : Identity Device) (dr : Device) (bdr : Option Device)
    (device : Device) (node : OspfNode Device) : Prop where
  known : ∀ peer neighbor, node.neighbors.lookup peer = some neighbor →
    ∃ priority, identity peer = some (neighbor.routerId, priority)
  designated : ∀ other, node.dr = some other → other = dr ∧ Designable identity device node other
  backup : ∀ other, node.bdr = some other →
    bdr = some other ∧ other ≠ dr ∧ Designable identity device node other

/-- A router with a full neighbour has chosen as soon as there is somebody to choose. -/
structure Settled (identity : Identity Device) (device : Device) (node : OspfNode Device) :
    Prop where
  designates : ∀ peer, fullWith node peer = true → ∀ other, Viewed device node other →
    Eligible identity other → node.dr ≠ none
  backsUp : ∀ peer, fullWith node peer = true → ∀ left right, Viewed device node left →
    Viewed device node right → left ≠ right → Eligible identity left → Eligible identity right →
    node.bdr ≠ none

/-- What holds of the whole segment. -/
structure SegmentInvariant (identity : Identity Device) (dr : Device) (bdr : Option Device)
    (state : OspfState Device) : Prop where
  config : identityOf state.nodes = identity
  wire : ∀ packet ∈ state.inFlight,
    ∃ priority, identity packet.2.srcId = some (packet.2.routerId, priority)
  router : ∀ device node, state.nodes.lookup device = some node →
    Choices identity dr bdr device node ∧ Settled identity device node

variable {identity : Identity Device} {dr device : Device} {bdr : Option Device}
  {node next : OspfNode Device}

section

variable (neighbors : next.neighbors = node.neighbors) (sameDr : next.dr = node.dr)
  (sameBdr : next.bdr = node.bdr)
include neighbors sameDr sameBdr

theorem Choices.congr (choices : Choices identity dr bdr device node) :
    Choices identity dr bdr device next := by
  obtain ⟨known, designated, backup⟩ := choices
  constructor <;> simpa only [neighbors, sameDr, sameBdr, Designable]

theorem Settled.congr (settled : Settled identity device node) : Settled identity device next := by
  obtain ⟨designates, backsUp⟩ := settled
  constructor <;> simpa only [neighbors, sameDr, sameBdr, Viewed, fullWith]

end

theorem mem_keys_of_fullWith {peer : Device} (full : fullWith node peer = true) :
    peer ∈ node.neighbors.keys := by
  unfold fullWith at full
  obtain ⟨neighbor, held, -⟩ := (any_eq_true _ _).mp full
  exact mem_keys_iff.mpr ⟨neighbor, held⟩

theorem Viewed.designable {other : Device} (viewed : Viewed device node other)
    (eligible : Eligible identity other) : Designable identity device node other :=
  ⟨eligible, viewed.imp id mem_keys_of_fullWith⟩

theorem identityOf_congr {before after : OspfNodes Device} (same : coreOf after = coreOf before) :
    identityOf after = identityOf before := by
  have identity_core : ∀ nodes : OspfNodes Device,
      identityOf nodes = fun device => (coreOf nodes device).map fun node =>
        (node.routerId, node.priority) := by
    intro nodes
    funext device
    simp [identityOf, coreOf, Function.comp_def, OspfNode.core]
  rw [identity_core, identity_core, same]

/-! ## Candidates of a router -/

variable {candidate : ElectionCandidate Device}

theorem mem_electionCandidates {nodes : OspfNodes Device} :
    candidate ∈ electionCandidates nodes device node ↔ 0 < candidate.priority ∧
      (candidate = ⟨device, node.routerId, node.priority⟩ ∨
        ∃ peer neighbor peerNode, node.neighbors.lookup peer = some neighbor ∧
          nodes.lookup peer = some peerNode ∧
          candidate = ⟨peer, neighbor.routerId, peerNode.priority⟩) := by
  unfold electionCandidates
  simp only [mem_filter, mem_cons, mem_filterMap, Prod.exists,
    mem_entries_iff, map_eq_some_iff, decide_eq_true_eq]
  constructor
  · rintro ⟨own | ⟨peer, neighbor, held, peerNode, found, rfl⟩, positive⟩
    · exact ⟨positive, .inl own⟩
    · exact ⟨positive, .inr ⟨peer, neighbor, peerNode, held, found, rfl⟩⟩
  · rintro ⟨positive, own | ⟨peer, neighbor, peerNode, held, found, rfl⟩⟩
    · exact ⟨.inl own, positive⟩
    · exact ⟨.inr ⟨peer, neighbor, held, peerNode, found, rfl⟩, positive⟩

variable {nodes : OspfNodes Device}

theorem mem_electionCandidates_congr {after : OspfNodes Device}
    (config : identityOf after = identityOf nodes) (sameRid : next.routerId = node.routerId)
    (samePriority : next.priority = node.priority)
    (neighbors : ∀ peer, (next.neighbors.lookup peer).map OspfNeighbor.routerId =
      (node.neighbors.lookup peer).map OspfNeighbor.routerId) :
    candidate ∈ electionCandidates after device next ↔
      candidate ∈ electionCandidates nodes device node := by
  have reading : ∀ (nodes : OspfNodes Device) (node : OspfNode Device),
      candidate ∈ electionCandidates nodes device node ↔ 0 < candidate.priority ∧
        (candidate = ⟨device, node.routerId, node.priority⟩ ∨ ∃ peer rid priority,
          (node.neighbors.lookup peer).map OspfNeighbor.routerId = some rid ∧
          (identityOf nodes peer).map Prod.snd = some priority ∧
          candidate = ⟨peer, rid, priority⟩) := by
    intro nodes node
    rw [mem_electionCandidates]
    simp only [identityOf, Option.map_map, map_eq_some_iff, Function.comp]
    constructor
    · rintro ⟨positive, own | ⟨peer, neighbor, peerNode, held, found, same⟩⟩
      · exact ⟨positive, .inl own⟩
      · exact ⟨positive, .inr ⟨peer, _, _, ⟨neighbor, held, rfl⟩, ⟨peerNode, found, rfl⟩, same⟩⟩
    · rintro ⟨positive, own | ⟨peer, _, _, ⟨neighbor, held, rfl⟩, ⟨peerNode, found, rfl⟩, same⟩⟩
      · exact ⟨positive, .inl own⟩
      · exact ⟨positive, .inr ⟨peer, neighbor, peerNode, held, found, same⟩⟩
  rw [reading after next, reading nodes node, config, sameRid, samePriority]
  simp only [neighbors]

section

variable (config : identityOf nodes = identity) (found : nodes.lookup device = some node)
  (known : ∀ peer neighbor, node.neighbors.lookup peer = some neighbor → ∃ priority, identity peer = some (neighbor.routerId, priority))
include config found known

theorem candidate_identity (member : candidate ∈ electionCandidates nodes device node) :
    identity candidate.device = some (candidate.routerId, candidate.priority) := by
  obtain ⟨-, rfl | ⟨peer, neighbor, peerNode, held, peerFound, rfl⟩⟩ :=
    mem_electionCandidates.mp member
  · simp [← config, identityOf, found]
  · obtain ⟨priority, isPeer⟩ := known peer neighbor held
    rw [← config] at isPeer ⊢
    simp only [identityOf, peerFound, map_some, Option.some.injEq, Prod.mk.injEq] at isPeer ⊢
    exact ⟨isPeer.1, trivial⟩

theorem exists_candidate_iff (other : Device) :
    (∃ candidate ∈ electionCandidates nodes device node, candidate.device = other) ↔
      Designable identity device node other := by
  constructor
  · rintro ⟨candidate, member, rfl⟩
    refine ⟨⟨_, _, candidate_identity config found known member,
      (mem_electionCandidates.mp member).1⟩, ?_⟩
    obtain ⟨-, rfl | ⟨peer, neighbor, peerNode, held, -, rfl⟩⟩ := mem_electionCandidates.mp member
    · exact .inl rfl
    · exact .inr (mem_keys_iff.mpr ⟨neighbor, held⟩)
  · rintro ⟨⟨rid, priority, isOther, positive⟩, rfl | member⟩
    · refine ⟨⟨other, node.routerId, node.priority⟩, mem_electionCandidates.mpr ⟨?_, .inl rfl⟩, rfl⟩
      rw [← config] at isOther
      simp only [identityOf, found, map_some, Option.some.injEq, Prod.mk.injEq] at isOther
      exact isOther.2 ▸ positive
    · obtain ⟨neighbor, held⟩ := mem_keys_iff.mp member
      rw [← config] at isOther
      obtain ⟨peerNode, peerFound, isPeer⟩ := map_eq_some_iff.mp isOther
      cases isPeer
      exact ⟨_, mem_electionCandidates.mpr
        ⟨positive, .inr ⟨other, neighbor, peerNode, held, peerFound, rfl⟩⟩, rfl⟩

end

/-! ## The steps -/

theorem elect_settles (config : identityOf nodes = identity)
    (distinct : ∀ left right rid first second, identity left = some (rid, first) →
      identity right = some (rid, second) → left = right)
    (found : nodes.lookup device = some node) (choices : Choices identity dr bdr device node)
    (consistent : ElectsAs dr bdr node (electionCandidates nodes device node))
    {elected : OspfNode Device} (result : (electDrBdr nodes device).lookup device = some elected) :
    Choices identity dr bdr device elected ∧ Settled identity device elected := by
  have candidate_iff := exists_candidate_iff config found choices.known
  have distinctCandidates : DistinctCandidates (electionCandidates nodes device node) := by
    intro left leftMember right rightMember sameRid
    have leftIs := candidate_identity config found choices.known leftMember
    have rightIs := candidate_identity config found choices.known rightMember
    exact distinct _ _ _ _ _ leftIs (sameRid ▸ rightIs)
  obtain ⟨nobody, somebody⟩ := electDrBdr_spec found distinctCandidates consistent
    (fun other previous => by
      obtain ⟨isDr, designable⟩ := choices.designated other previous
      exact ⟨isDr, (candidate_iff other).mpr designable⟩)
    (fun other previous => by
      obtain ⟨isBdr, different, designable⟩ := choices.backup other previous
      exact ⟨isBdr, different, (candidate_iff other).mpr designable⟩)
  by_cases empty : electionCandidates nodes device node = []
  · rw [nobody empty, found] at result
    cases result
    have nobodyDesignable : ∀ other, ¬ Designable identity device node other := by
      intro other designable
      obtain ⟨candidate, member, -⟩ := (candidate_iff other).mpr designable
      simp [empty] at member
    refine ⟨choices, ⟨fun peer full other viewed eligible => ?_,
      fun peer full left right viewed _ _ eligible _ => ?_⟩⟩
    · exact absurd (viewed.designable eligible) (nobodyDesignable other)
    · exact absurd (viewed.designable eligible) (nobodyDesignable left)
  · have core := congrFun (somebody empty) device
    simp only [coreOf, result, lookup_insert_self, map_some, Option.some.injEq] at core
    obtain ⟨lsdb, seqNum, routes, rfl⟩ := OspfNode.of_core core
    have drDesignable : Designable identity device node dr := by
      cases previous : node.dr with
      | none =>
        obtain ⟨top, member, isDr, -⟩ := consistent.designated previous empty
        exact (candidate_iff dr).mp ⟨top, member, isDr⟩
      | some other =>
        obtain ⟨rfl, designable⟩ := choices.designated other previous
        exact designable
    have backupOf : without (electionCandidates nodes device node) dr ≠ [] →
        ∃ other, bdr = some other ∧ other ≠ dr ∧ Designable identity device node other := by
      intro others
      cases previous : node.bdr with
      | none =>
        obtain ⟨other, isBdr, top, member, isOther, -⟩ := consistent.backup previous others
        obtain ⟨listed, different⟩ := mem_without.mp member
        exact ⟨other, isBdr, isOther ▸ different, (candidate_iff other).mp ⟨top, listed, isOther⟩⟩
      | some other => exact ⟨other, choices.backup other previous⟩
    refine ⟨⟨choices.known, ?_, ?_⟩, ⟨fun _ _ _ _ _ => by simp, ?_⟩⟩
    · intro other chosen
      cases chosen
      exact ⟨rfl, drDesignable⟩
    · intro other chosen
      by_cases others : without (electionCandidates nodes device node) dr = []
      · simp [others] at chosen
      · obtain ⟨backup, isBdr, different, designable⟩ := backupOf others
        simp only [others, if_false, isBdr, Option.some.injEq] at chosen
        subst chosen
        exact ⟨isBdr, different, designable⟩
    · intro peer full left right leftViewed rightViewed different leftEligible rightEligible
      have others : without (electionCandidates nodes device node) dr ≠ [] := by
        have leftDesignable : Designable identity device node left :=
          Viewed.designable leftViewed leftEligible
        have rightDesignable : Designable identity device node right :=
          Viewed.designable rightViewed rightEligible
        obtain ⟨leftCandidate, leftMember, isLeft⟩ := (candidate_iff left).mpr leftDesignable
        obtain ⟨rightCandidate, rightMember, isRight⟩ := (candidate_iff right).mpr rightDesignable
        by_cases leftIsDr : left = dr
        · refine ne_nil_of_mem (mem_without.mpr ⟨rightMember, ?_⟩)
          rw [isRight, ← leftIsDr]
          exact Ne.symm different
        · exact ne_nil_of_mem (mem_without.mpr ⟨leftMember, by rwa [isLeft]⟩)
      obtain ⟨backup, isBdr, -, -⟩ := backupOf others
      simp [others, isBdr]

variable {state : OspfState Device}

/-- A node with the router ID, priority, neighbours and choices of an old one can take
its place. -/
theorem SegmentInvariant.setNode {inFlight : List (Device × Hello Device)}
    (invariant : SegmentInvariant identity dr bdr state)
    (wire : ∀ packet ∈ inFlight,
      ∃ priority, identity packet.2.srcId = some (packet.2.routerId, priority))
    (found : state.nodes.lookup device = some node) (sameRid : next.routerId = node.routerId)
    (samePriority : next.priority = node.priority) (choices : Choices identity dr bdr device next)
    (settled : Settled identity device next) (adjacencies : List (AdjacencyTask Device))
    (nextToken : Nat) :
    SegmentInvariant identity dr bdr { state with
      nodes := state.nodes.insert device next
      inFlight := inFlight
      adjacencies := adjacencies
      nextToken := nextToken } := by
  refine ⟨?_, wire, ?_⟩
  · rw [← invariant.config]
    funext other
    unfold identityOf
    rw [lookup_insert]
    by_cases same : other = device
    · subst same
      simp [found, sameRid, samePriority]
    · simp [same]
  · intro other otherNode held
    change (state.nodes.insert device next).lookup other = some otherNode at held
    rw [lookup_insert] at held
    by_cases same : other = device
    · subst same
      simp only [if_true, Option.some.injEq] at held
      subst held
      exact ⟨choices, settled⟩
    · rw [if_neg same] at held
      exact invariant.router other otherNode held

theorem sendHello_invariant (invariant : SegmentInvariant identity dr bdr state) (device : Device) :
    SegmentInvariant identity dr bdr (state.sendHello device) := by
  unfold OspfState.sendHello
  cases found : state.nodes.lookup device with
  | none => exact invariant
  | some node =>
    dsimp only
    split
    · exact invariant
    · refine ⟨invariant.config, ?_, invariant.router⟩
      intro packet member
      rcases mem_append.mp member with old | new
      · exact invariant.wire packet old
      · obtain ⟨receiver, -, rfl⟩ := mem_map.mp new
        refine ⟨node.priority, ?_⟩
        rw [← invariant.config]
        simp [identityOf, found, OspfNode.hello]

theorem receiveHello_invariant {receiver : Device} {hello : Hello Device}
    (invariant : SegmentInvariant identity dr bdr state)
    (genuine : ∃ priority, identity hello.srcId = some (hello.routerId, priority)) :
    SegmentInvariant identity dr bdr (state.receiveHello receiver hello) := by
  unfold OspfState.receiveHello
  cases found : state.nodes.lookup receiver with
  | none => exact invariant
  | some node =>
    obtain ⟨choices, settled⟩ := invariant.router receiver node found
    dsimp only
    split
    · exact invariant
    · cases held : node.neighbors.lookup hello.srcId with
      | some neighbor =>
        have untouched : ((node.learnExternal hello).hearKnown hello).neighbors = node.neighbors ∧
            ((node.learnExternal hello).hearKnown hello).dr = node.dr ∧
            ((node.learnExternal hello).hearKnown hello).bdr = node.bdr ∧
            ((node.learnExternal hello).hearKnown hello).routerId = node.routerId ∧
            ((node.learnExternal hello).hearKnown hello).priority = node.priority := by
          unfold OspfNode.hearKnown
          split <;> exact ⟨rfl, rfl, rfl, rfl, rfl⟩
        obtain ⟨neighbors, sameDr, sameBdr, sameRid, samePriority⟩ := untouched
        exact invariant.setNode invariant.wire found sameRid samePriority
          (choices.congr neighbors sameDr sameBdr) (settled.congr neighbors sameDr sameBdr) _ _
      | none =>
        let entered : OspfNeighbor :=
          { routerId := hello.routerId, state := .init, token := state.nextToken }
        let grown : OspfNode Device :=
          { node.learnExternal hello with
            neighbors := node.neighbors.insert hello.srcId entered }
        have full_iff : ∀ peer, fullWith grown peer = fullWith node peer := by
          intro peer
          unfold fullWith
          change ((node.neighbors.insert hello.srcId entered).lookup peer).any _ = _
          rw [lookup_insert]
          by_cases same : peer = hello.srcId
          · simp [same, held, entered]
          · simp [same]
        have kept : ∀ other, Designable identity receiver node other →
            Designable identity receiver grown other := by
          rintro other ⟨eligible, own | listed⟩
          · exact ⟨eligible, .inl own⟩
          · exact ⟨eligible, .inr (mem_keys_insert.mpr (.inr listed))⟩
        have sameRid : grown.routerId = node.routerId := rfl
        have samePriority : grown.priority = node.priority := rfl
        refine invariant.setNode invariant.wire found sameRid samePriority ⟨?_, ?_, ?_⟩ ⟨?_, ?_⟩ _ _
        · intro peer neighbor known
          change (node.neighbors.insert hello.srcId entered).lookup peer = some neighbor at known
          rw [lookup_insert] at known
          split at known
          · rename_i same
            cases known
            exact same ▸ genuine
          · exact choices.known peer neighbor known
        · intro other chosen
          obtain ⟨isDr, designable⟩ := choices.designated other chosen
          exact ⟨isDr, kept other designable⟩
        · intro other chosen
          obtain ⟨isBdr, different, designable⟩ := choices.backup other chosen
          exact ⟨isBdr, different, kept other designable⟩
        · intro peer full other viewed eligible
          exact settled.designates peer (full_iff peer ▸ full) other
            (viewed.imp id fun full => full_iff other ▸ full) eligible
        · intro peer full left right leftViewed rightViewed
          exact settled.backsUp peer (full_iff peer ▸ full) left right
            (leftViewed.imp id fun full => full_iff left ▸ full)
            (rightViewed.imp id fun full => full_iff right ▸ full)

theorem coreOf_electDrBdr_of_ne {other : Device} (different : other ≠ device) :
    coreOf (electDrBdr nodes device) other = coreOf nodes other := by
  unfold electDrBdr
  split
  · rfl
  · split
    · rfl
    · unfold coreOf
      rw [lookup_insert_of_ne _ _ different]

theorem identityOf_setNeighborState (task : AdjacencyTask Device) (reached : NeighborState) :
    identityOf (setNeighborState nodes task reached) = identityOf nodes := by
  funext other
  unfold identityOf
  rw [lookup_setNeighborState]
  by_cases same : other = task.receiver <;> cases nodes.lookup other <;>
    simp [same, OspfNode.moveNeighbor]

variable {task : AdjacencyTask Device}

variable {reached : NeighborState}

/-- Moving an adjacency keeps the choices of its router. -/
theorem Choices.moveNeighbor (choices : Choices identity dr bdr device node) :
    Choices identity dr bdr device (node.moveNeighbor task reached) := by
  have kept : ∀ other, Designable identity device node other →
      Designable identity device (node.moveNeighbor task reached) other := by
    rintro other ⟨eligible, own | listed⟩
    · exact ⟨eligible, .inl own⟩
    · exact ⟨eligible, .inr (by simpa [OspfNode.moveNeighbor] using listed)⟩
  refine ⟨?_, ?_, ?_⟩
  · intro peer neighbor held
    have same := routerId_moveNeighbor node task reached peer
    simp only [held, map_some] at same
    obtain ⟨old, oldHeld, sameRid⟩ := map_eq_some_iff.mp same.symm
    exact sameRid ▸ choices.known peer old oldHeld
  · intro other chosen
    obtain ⟨isDr, designable⟩ := choices.designated other chosen
    exact ⟨isDr, kept other designable⟩
  · intro other chosen
    obtain ⟨isBdr, different, designable⟩ := choices.backup other chosen
    exact ⟨isBdr, different, kept other designable⟩

theorem Settled.moveNeighbor (settled : Settled identity device node) (below : reached ≠ .full) :
    Settled identity device (node.moveNeighbor task reached) := by
  have earlier : ∀ peer, fullWith (node.moveNeighbor task reached) peer = true →
      fullWith node peer = true := fun _ => fullWith_of_moveNeighbor below
  constructor
  · intro peer full other viewed eligible
    exact settled.designates peer (earlier peer full) other (viewed.imp id (earlier other)) eligible
  · intro peer full left right leftViewed rightViewed
    exact settled.backsUp peer (earlier peer full) left right (leftViewed.imp id (earlier left))
      (rightViewed.imp id (earlier right))

theorem identityOf_electDrBdr (device : Device) :
    identityOf (electDrBdr nodes device) = identityOf nodes := by
  have reading : ∀ nodes : OspfNodes Device, identityOf nodes = fun other =>
      ((nodes.lookup other).map OspfNode.undesignated).map fun node =>
        (node.routerId, node.priority) := by
    intro nodes
    funext other
    simp [identityOf, Function.comp_def, OspfNode.undesignated, OspfNode.core]
  rw [reading, reading]
  funext other
  rw [undesignated_electDrBdr]

theorem completeAdjacency_invariant
    (distinct : ∀ left right rid first second, identity left = some (rid, first) →
      identity right = some (rid, second) → left = right)
    (invariant : SegmentInvariant identity dr bdr state)
    (prefers : ∀ node, state.nodes.lookup task.receiver = some node →
      ElectsAs dr bdr node (electionCandidates state.nodes task.receiver node))
    (adjacencies : List (AdjacencyTask Device)) :
    SegmentInvariant identity dr bdr { state with
      nodes := completeAdjacency state.surroundings (setNeighborState state.nodes task .full)
        task.receiver task.source
      adjacencies := adjacencies } := by
  unfold completeAdjacency
  dsimp only
  have cores := coreOf_before_election state.surroundings (setNeighborState state.nodes task .full)
    task.receiver task.source
  generalize (exchangeLsa state.surroundings ((setNeighborState state.nodes task .full).modify
    task.receiver OspfNode.generateRouterLsa) task.receiver task.source).modify task.receiver
      OspfNode.injectExternalRoutes = ready at cores
  have config : identityOf ready = identity :=
    ((identityOf_congr cores).trans (identityOf_setNeighborState task .full)).trans invariant.config
  refine ⟨(identityOf_electDrBdr task.receiver).trans config, invariant.wire, ?_⟩
  intro device elected result
  change (electDrBdr ready task.receiver).lookup device = some elected at result
  by_cases same : device = task.receiver
  · subst same
    obtain ⟨readyNode, readyFound⟩ : ∃ node, ready.lookup task.receiver = some node := by
      cases missing : ready.lookup task.receiver with
      | none => simp [electDrBdr, missing] at result
      | some node => exact ⟨node, rfl⟩
    obtain ⟨moved, movedFound, sameCore⟩ :=
      exists_of_coreOf (congrFun cores task.receiver) readyFound
    rw [lookup_setNeighborState, if_pos rfl] at movedFound
    obtain ⟨node, found, rfl⟩ := map_eq_some_iff.mp movedFound
    obtain ⟨lsdb, seqNum, routes, isReady⟩ := OspfNode.of_core sameCore
    have choices : Choices identity dr bdr task.receiver readyNode := by
      have moved : Choices identity dr bdr task.receiver (node.moveNeighbor task .full) :=
        (invariant.router task.receiver node found).1.moveNeighbor
      exact moved.congr (by rw [isReady]) (by rw [isReady]) (by rw [isReady])
    have sameCandidates : ∀ candidate,
        candidate ∈ electionCandidates ready task.receiver readyNode ↔
          candidate ∈ electionCandidates state.nodes task.receiver node := by
      intro candidate
      refine mem_electionCandidates_congr (config.trans invariant.config.symm) ?_ ?_ ?_
      · rw [isReady]
        rfl
      · rw [isReady]
        rfl
      · rw [isReady]
        exact routerId_moveNeighbor node task .full
    have consistent := (prefers node found).of_mem_iff sameCandidates
    refine elect_settles config distinct readyFound choices ⟨?_, ?_⟩ result
    · rw [isReady] at consistent ⊢
      exact consistent.designated
    · rw [isReady] at consistent ⊢
      exact consistent.backup
  · have core : coreOf (electDrBdr ready task.receiver) device = coreOf ready device :=
      coreOf_electDrBdr_of_ne same
    rw [congrFun cores device] at core
    obtain ⟨old, held, sameCore⟩ := exists_of_coreOf core result
    rw [lookup_setNeighborState, if_neg same] at held
    obtain ⟨lsdb, seqNum, routes, rfl⟩ := OspfNode.of_core sameCore
    obtain ⟨choices, settled⟩ := invariant.router device old held
    exact ⟨⟨choices.known, choices.designated, choices.backup⟩,
      ⟨settled.designates, settled.backsUp⟩⟩

theorem moveNeighbor_invariant {task : AdjacencyTask Device} (below : reached ≠ .full)
    (invariant : SegmentInvariant identity dr bdr state)
    (adjacencies : List (AdjacencyTask Device)) :
    SegmentInvariant identity dr bdr { state with
      nodes := setNeighborState state.nodes task reached
      adjacencies := adjacencies } := by
  refine ⟨(identityOf_setNeighborState task reached).trans invariant.config, invariant.wire, ?_⟩
  intro device moved found
  change (setNeighborState state.nodes task reached).lookup device = some moved at found
  rw [lookup_setNeighborState] at found
  split at found
  · obtain ⟨node, held, rfl⟩ := map_eq_some_iff.mp found
    obtain ⟨choices, settled⟩ := invariant.router device node held
    exact ⟨choices.moveNeighbor, settled.moveNeighbor below⟩
  · exact invariant.router device moved found

theorem step_invariant
    (distinct : ∀ left right rid first second, identity left = some (rid, first) →
      identity right = some (rid, second) → left = right)
    (state : OspfState Device) (event : OspfEvent Device)
    (invariant : SegmentInvariant identity dr bdr state) (prefers : PrefersPair dr bdr state event) :
    SegmentInvariant identity dr bdr (step state event) := by
  cases event with
  | sendHello device => exact sendHello_invariant invariant device
  | deliver index =>
    change SegmentInvariant identity dr bdr (state.deliver index)
    unfold OspfState.deliver
    cases taken : state.inFlight[index]? with
    | none => exact invariant
    | some packet =>
      obtain ⟨receiver, hello⟩ := packet
      have sent := mem_of_getElem? taken
      refine receiveHello_invariant ⟨invariant.config, ?_, invariant.router⟩ (invariant.wire _ sent)
      exact fun other member => invariant.wire other (mem_of_mem_eraseIdx member)
  | advance index =>
    change SegmentInvariant identity dr bdr (state.advanceAdjacency index)
    unfold OspfState.advanceAdjacency
    cases held : state.adjacencies[index]? with
    | none => exact invariant
    | some task =>
      dsimp only
      split
      · rename_i full
        rw [full]
        exact completeAdjacency_invariant distinct invariant (prefers task held full) _
      · rename_i below
        exact moveNeighbor_invariant below invariant _
  | _ => exact absurd prefers id

theorem SegmentStart.invariant (start : SegmentStart state) (dr : Device) (bdr : Option Device) :
    SegmentInvariant (identityOf state.nodes) dr bdr state := by
  refine ⟨rfl, ?_, ?_⟩
  · intro packet member
    rw [length_eq_zero_iff.mp start.silent] at member
    simp at member
  · intro device node found
    obtain ⟨alone, noDr, noBdr⟩ := start.untouched (device, node) (mem_entries_iff.mpr found)
    have nobody : ∀ peer, fullWith node peer ≠ true := fun peer full => by
      simp [fullWith, show node.neighbors = .empty from alone] at full
    refine ⟨⟨?_, ?_, ?_⟩, ⟨?_, ?_⟩⟩
    · intro peer neighbor held
      simp [show node.neighbors = .empty from alone] at held
    · intro other chosen
      simp [show node.dr = none from noDr] at chosen
    · intro other chosen
      simp [show node.bdr = none from noBdr] at chosen
    · exact fun peer full => absurd full (nobody peer)
    · exact fun peer full => absurd full (nobody peer)

theorem SegmentStart.distinct_identities (start : SegmentStart state) (left right : Device)
    (rid : Address) (first second : Nat) (leftIs : identityOf state.nodes left = some (rid, first))
    (rightIs : identityOf state.nodes right = some (rid, second)) : left = right := by
  obtain ⟨leftNode, leftFound, leftSame⟩ := map_eq_some_iff.mp leftIs
  obtain ⟨rightNode, rightFound, rightSame⟩ := map_eq_some_iff.mp rightIs
  have leftRid : leftNode.routerId = rid := congrArg Prod.fst leftSame
  have rightRid : rightNode.routerId = rid := congrArg Prod.fst rightSame
  exact start.distinct (left, leftNode) (mem_entries_iff.mpr leftFound)
    (right, rightNode) (mem_entries_iff.mpr rightFound) (leftRid.trans rightRid.symm)

/-- In every run of a segment whose elections prefer one pair of routers, all routers
name this pair once all adjacencies are complete. The backup is missing everywhere
when only one router has a positive priority. -/
theorem routers_agree {initial : OspfState Device} {events : List (OspfEvent Device)}
    (start : SegmentStart initial) (prefers : Along step (PrefersPair dr bdr) initial events)
    (complete : Complete (runFrom step initial events).nodes) :
    ∃ agreed : Option Device, ∀ entry ∈ (runFrom step initial events).nodes.entries,
      entry.2.dr = some dr ∧ entry.2.bdr = agreed := by
  have invariant := invariant_along (step_invariant start.distinct_identities)
    (start.invariant dr bdr) prefers
  generalize runFrom step initial events = final at complete invariant
  obtain ⟨⟨first, firstNode⟩, firstMember, positive⟩ := start.eligible
  have eligible : Eligible (identityOf initial.nodes) first := by
    have found := mem_entries_iff.mp firstMember
    exact ⟨firstNode.routerId, firstNode.priority, by simp [identityOf, found], positive⟩
  have viewed_of_eligible : ∀ entry ∈ final.nodes.entries, ∀ other,
      Eligible (identityOf initial.nodes) other → Viewed entry.1 entry.2 other := by
    rintro entry member other ⟨rid, priority, isOther, -⟩
    rw [← invariant.config] at isOther
    obtain ⟨node, found, -⟩ := map_eq_some_iff.mp isOther
    by_cases same : other = entry.1
    · exact .inl same
    · exact .inr ((complete entry member).1 other (mem_keys_iff.mpr ⟨node, found⟩) same)
  have chooses : ∀ entry ∈ final.nodes.entries, entry.2.dr = some dr ∧
      (∀ second, second ≠ first → Eligible (identityOf initial.nodes) second → entry.2.bdr = bdr) ∧
      ((∀ second, second ≠ first → ¬ Eligible (identityOf initial.nodes) second) →
        entry.2.bdr = none) := by
    intro entry member
    obtain ⟨choices, settled⟩ :=
      invariant.router entry.1 entry.2 (mem_entries_iff.mp member)
    obtain ⟨peer, peerMember, different⟩ := (complete entry member).2
    have full := (complete entry member).1 peer peerMember different
    have viewed := viewed_of_eligible entry member
    have isDr : entry.2.dr = some dr := by
      cases chosen : entry.2.dr with
      | none => exact absurd chosen (settled.designates peer full first (viewed first eligible) eligible)
      | some other => rw [(choices.designated other chosen).1]
    refine ⟨isDr, fun second different secondEligible => ?_, fun alone => ?_⟩
    · cases chosen : entry.2.bdr with
      | none =>
        exact absurd chosen (settled.backsUp peer full second first (viewed second secondEligible)
          (viewed first eligible) different secondEligible eligible)
      | some other => exact (choices.backup other chosen).1.symm
    · cases chosen : entry.2.bdr with
      | none => rfl
      | some other =>
        obtain ⟨-, notDr, otherEligible, -⟩ := choices.backup other chosen
        obtain ⟨-, drEligible, -⟩ := choices.designated dr isDr
        have otherFirst : other = first := by_contra fun ne => alone other ne otherEligible
        have drFirst : dr = first := by_contra fun ne => alone dr ne drEligible
        exact absurd (otherFirst.trans drFirst.symm) notDr
  by_cases second : ∃ second, second ≠ first ∧ Eligible (identityOf initial.nodes) second
  · obtain ⟨second, different, secondEligible⟩ := second
    exact ⟨bdr, fun entry member =>
      ⟨(chooses entry member).1, (chooses entry member).2.1 second different secondEligible⟩⟩
  · refine ⟨none, fun entry member => ⟨(chooses entry member).1, (chooses entry member).2.2 ?_⟩⟩
    exact fun other different otherEligible => second ⟨other, different, otherEligible⟩

/-! ## Three routers -/

/-- Links of a full mesh of three routers. -/
def meshNetwork : VirtualNetwork Nat where
  links := ⟨[(0, [1, 2]), (1, [0, 2]), (2, [0, 1])], by decide⟩
  interfaceLinks _ _ := none
  linkIfaces _ _ := []
  downInterfaces _ := []
  subifVlans _ := []
  vlanPorts _ := []
  deviceIps := .empty

local instance meshPriorities : NeZero 256 := ⟨by decide⟩

/-- An enabled router with the default priority. -/
def meshRouter (device : Nat) : OspfNode Nat :=
  { enabled := true
    routerId := ⟨10, 0, 0, Fin.ofNat 256 device⟩ }

/-- Three routers that have not heard of each other. -/
def meshStart : OspfState Nat where
  surroundings :=
    { network := meshNetwork
      filters := fun _ => {}
      interfaces := fun _ => []
      defaultRouterId := fun _ => ⟨10, 0, 0, 0⟩ }
  nodes := ⟨[(0, meshRouter 0), (1, meshRouter 1), (2, meshRouter 2)], by decide⟩

theorem meshStart_start : SegmentStart meshStart :=
  ⟨by decide, by decide, by decide, by decide, by decide⟩

/-- All hellos arrive before any adjacency is full. -/
def hellosFirst : List (OspfEvent Nat) :=
  [.sendHello 0, .sendHello 1, .sendHello 2] ++ List.replicate 6 (.deliver 0) ++
    List.replicate 30 (.advance 0)

/-- Two routers elect before they hear the third one, which ranks first. -/
def lateRouter : List (OspfEvent Nat) :=
  [.sendHello 0, .sendHello 1, .deliver 0, .deliver 1] ++ List.replicate 10 (.advance 0) ++
    [.deliver 0, .deliver 0, .sendHello 2, .deliver 0, .deliver 0] ++
    List.replicate 20 (.advance 0)

set_option maxRecDepth 100000 in
theorem mesh_routers_agree :
    ∃ agreed : Option Nat, ∀ entry ∈ (runFrom step meshStart hellosFirst).nodes.entries,
      entry.2.dr = some 2 ∧ entry.2.bdr = agreed := by
  have prefers : Along step (PrefersPair 2 (some 1)) meshStart hellosFirst := by decide +kernel
  exact routers_agree meshStart_start prefers (by decide +kernel)

set_option maxRecDepth 100000 in
/-- Hellos and adjacencies complete the segment, and the routers disagree. -/
theorem late_router_disagrees :
    SegmentStart meshStart ∧ (∀ event ∈ lateRouter, event.isHello = true) ∧
      Complete (runFrom step meshStart lateRouter).nodes ∧
      ¬ ∃ dr bdr, ∀ entry ∈ (runFrom step meshStart lateRouter).nodes.entries,
        entry.2.dr = dr ∧ entry.2.bdr = bdr := by
  refine ⟨meshStart_start, by decide, by decide +kernel, ?_⟩
  rintro ⟨dr, bdr, agree⟩
  have choices : (runFrom step meshStart lateRouter).nodes.entries.map
      (fun entry => (entry.1, entry.2.dr, entry.2.bdr)) =
        [(0, some 1, some 0), (1, some 1, some 0), (2, some 2, some 1)] := by
    decide +kernel
  have same : ∀ choice ∈ [((0 : Nat), some 1, some 0), (1, some 1, some 0), (2, some 2, some 1)],
      choice.2.1 = dr := by
    rw [← choices]
    intro choice member
    obtain ⟨entry, listed, rfl⟩ := mem_map.mp member
    exact (agree entry listed).1
  have first := same (0, some 1, some 0) (by simp)
  have last := same (2, some 2, some 1) (by simp)
  simp [← first] at last

end NetLab.Ospf
