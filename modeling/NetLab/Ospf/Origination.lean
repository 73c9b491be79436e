import NetLab.Ospf.Engine

/-!
# What origination does to a node

The three generators are sequences of single originations. `Originated` records such
a sequence together with the routers that its links may name, so each fact about
origination is proved once, for one LSA.
-/

namespace NetLab.Ospf

open NetLab.Library NetLab.Network List

variable {Device : Type} {node next : OspfNode Device}

/-- A node after some originations whose links name allowed routers only. -/
inductive Originated (allowed : Address → Prop) (node : OspfNode Device) : OspfNode Device → Prop
  where
  | refl : Originated allowed node node
  | step {next : OspfNode Device} (before : Originated allowed node next) (lsType : LsaType)
      (lsId : Address) (links : List (LsaLink Device))
      (named : ∀ link ∈ links, ∀ target ∈ link.targets, allowed target) :
      Originated allowed node (next.originate lsType lsId links)

def OspfNode.MayName (node : OspfNode Device) (routerIdOf : Device → Option Address)
    (target : Address) : Prop :=
  target = node.routerId ∨ ∃ entry ∈ node.fullNeighbors,
    target = entry.2.routerId ∨ routerIdOf entry.1 = some target

def fullWith [DecidableEq Device] (node : OspfNode Device) (peer : Device) : Bool :=
  (node.neighbors.lookup peer).any fun neighbor => neighbor.state == .full

theorem mem_fullNeighbors [DecidableEq Device] {entry : Device × OspfNeighbor} :
    entry ∈ node.fullNeighbors ↔
      node.neighbors.lookup entry.1 = some entry.2 ∧ entry.2.state = .full := by
  unfold OspfNode.fullNeighbors
  rw [mem_filter, ← OrderedMap.mem_entries_iff, beq_iff_eq]

theorem fullWith_of_mem [DecidableEq Device] {entry : Device × OspfNeighbor}
    (member : entry ∈ node.fullNeighbors) : fullWith node entry.1 = true := by
  obtain ⟨held, full⟩ := mem_fullNeighbors.mp member
  simp [fullWith, held, full]

namespace Originated

variable {allowed : Address → Prop}

section

variable (originated : Originated allowed node next)
include originated

theorem seqNum_le : node.seqNum ≤ next.seqNum := by
  induction originated with
  | refl => exact Nat.le_refl _
  | step _ _ _ _ _ ih => exact Nat.le_succ_of_le ih

theorem routerId_eq : next.routerId = node.routerId := by
  induction originated with
  | refl => rfl
  | step _ _ _ _ _ ih => exact ih

/-- An LSA in the database afterwards was there before, or is a new one of the node's
own that names allowed routers only. -/
theorem origin {key : LsaKey} {lsa : OspfLsa Device} (held : next.lsdb.lookup key = some lsa) :
    node.lsdb.lookup key = some lsa ∨
      key.advRouter = node.routerId ∧ lsa.advRouter = key.advRouter ∧
        lsa.seqNum < next.seqNum ∧ ∀ link ∈ lsa.links, ∀ target ∈ link.targets, allowed target := by
  induction originated generalizing key lsa with
  | refl => exact .inl held
  | @step next before lsType lsId links named ih =>
    change (next.lsdb.insert _ _).lookup key = some lsa at held
    rw [OrderedMap.lookup_insert] at held
    split at held
    · rename_i same
      cases held
      exact .inr ⟨by rw [same]; exact before.routerId_eq, by rw [same], Nat.lt_succ_self _, named⟩
    · rcases ih held with old | ⟨own, advertised, earlier, allowed⟩
      · exact .inl old
      · exact .inr ⟨own, advertised, Nat.lt_succ_of_lt earlier, allowed⟩

/-- An LSA stays in the database until a new one of the node's own takes its place. -/
theorem keeps {key : LsaKey} {lsa : OspfLsa Device} (held : node.lsdb.lookup key = some lsa) :
    ∃ kept, next.lsdb.lookup key = some kept ∧
      (kept = lsa ∨ key.advRouter = node.routerId ∧ node.seqNum ≤ kept.seqNum) := by
  induction originated with
  | refl => exact ⟨lsa, held, .inl rfl⟩
  | @step next before lsType lsId links named ih =>
    change ∃ kept, (next.lsdb.insert _ _).lookup key = some kept ∧ _
    rw [OrderedMap.lookup_insert]
    split
    · rename_i same
      refine ⟨_, rfl, .inr ⟨?_, before.seqNum_le⟩⟩
      rw [same]
      exact before.routerId_eq
    · exact ih

end

theorem trans {last : OspfNode Device} (front : Originated allowed node next)
    (back : Originated allowed next last) : Originated allowed node last := by
  induction back with
  | refl => exact front
  | step _ lsType lsId links named ih => exact .step ih lsType lsId links named

/-- Only the database and the sequence number change. -/
theorem frame (originated : Originated allowed node next) : ∃ lsdb seqNum, next = { node with
      lsdb := lsdb
      seqNum := seqNum } := by
  induction originated with
  | refl => exact ⟨_, _, rfl⟩
  | step _ _ _ _ _ ih =>
    obtain ⟨lsdb, seqNum, rfl⟩ := ih
    exact ⟨_, _, rfl⟩

theorem mayName_iff (originated : Originated allowed node next)
    (routerIdOf : Device → Option Address) (target : Address) :
    next.MayName routerIdOf target ↔ node.MayName routerIdOf target := by
  obtain ⟨lsdb, seqNum, rfl⟩ := originated.frame
  rfl

end Originated

variable (routerIdOf : Device → Option Address)

variable (node : OspfNode Device) (device : Device)

theorem originated_generateRouterLsa :
    Originated (node.MayName routerIdOf) node node.generateRouterLsa := by
  refine .step .refl _ _ _ ?_
  intro link member target named
  rcases mem_append.mp member with stub | toNeighbor
  · obtain ⟨network, -, rfl⟩ := mem_map.mp stub
    simp [OspfNode.stubLink, LsaLink.targets] at named
  · obtain ⟨entry, full, rfl⟩ := mem_map.mp toNeighbor
    refine .inr ⟨entry, full, .inl ?_⟩
    unfold OspfNode.neighborLink at named
    split at named <;> simpa [LsaLink.targets] using named

theorem originated_generateNetworkLsa [DecidableEq Device] :
    Originated (node.MayName routerIdOf) node (node.generateNetworkLsa device routerIdOf) := by
  unfold OspfNode.generateNetworkLsa
  split
  · refine .step .refl _ _ _ ?_
    intro link member target named
    rw [mem_singleton] at member
    subst member
    rcases mem_cons.mp named with own | attached
    · exact .inl own
    · obtain ⟨entry, full, found⟩ := mem_filterMap.mp attached
      exact .inr ⟨entry, full, .inr found⟩
  · exact .refl

/-- Summary LSAs name no router. -/
theorem originated_generateSummaryLsa (allowed : Address → Prop) :
    Originated allowed node node.generateSummaryLsa := by
  unfold OspfNode.generateSummaryLsa
  split
  · have general : ∀ (step : OspfNode Device → AreaId × OspfNetwork → OspfNode Device),
        (∀ next item, Originated allowed node next → Originated allowed node (step next item)) →
        ∀ (items : List (AreaId × OspfNetwork)) next, Originated allowed node next →
          Originated allowed node (items.foldl step next) := by
      intro step each items next
      induction items generalizing next with
      | nil => exact id
      | cons item rest ih => exact fun originated => ih _ (each next item originated)
    refine general _ (fun next item originated => ?_) _ _ .refl
    cases item.2.length with
    | none => exact originated
    | some length =>
      refine .step originated _ _ _ ?_
      intro link member target named
      rw [mem_singleton] at member
      subst member
      simp [LsaLink.targets] at named
  · exact .refl

theorem originated_refresh [DecidableEq Device] : Originated (node.MayName routerIdOf) node
      (node.generateRouterLsa.generateNetworkLsa device routerIdOf).generateSummaryLsa := by
  have router := originated_generateRouterLsa routerIdOf node
  have network := originated_generateNetworkLsa routerIdOf node.generateRouterLsa device
  have allowed : node.generateRouterLsa.MayName routerIdOf = node.MayName routerIdOf :=
    funext fun target => propext (router.mayName_iff routerIdOf target)
  rw [allowed] at network
  exact (router.trans network).trans (originated_generateSummaryLsa _ _)

end NetLab.Ospf
