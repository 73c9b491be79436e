import NetLab.Ospf.Frame

/-!
# Agreement on the designated routers

Each router elects on its own from the neighbours it knows, and keeps a choice it has
made. All routers of a segment therefore agree exactly as far as their first
elections do: `ElectsAs` describes an election that ranks a given pair of routers
first among the candidates known by then.
-/

namespace NetLab.Ospf

open NetLab.Library NetLab.Network NetLab.Execution List Option ElectionCandidate

variable {Device : Type} [DecidableEq Device]

/-! ## Local elections -/

def IsTop (candidates : List (ElectionCandidate Device)) (device : Device) : Prop :=
  ∃ top ∈ candidates, top.device = device ∧ ∀ other ∈ candidates, top.precedes other

def without (candidates : List (ElectionCandidate Device)) (device : Device) :
    List (ElectionCandidate Device) :=
  candidates.filter fun candidate => candidate.device != device

/-- A router that has no designated router yet and elects among these candidates
prefers `dr`; one that has no backup yet prefers `bdr` among the others. -/
structure ElectsAs (dr : Device) (bdr : Option Device) (node : OspfNode Device)
    (candidates : List (ElectionCandidate Device)) : Prop where
  designated : node.dr = none → candidates ≠ [] → IsTop candidates dr
  backup : node.bdr = none → without candidates dr ≠ [] →
    ∃ device, bdr = some device ∧ IsTop (without candidates dr) device

instance (candidates : List (ElectionCandidate Device)) (device : Device) :
    Decidable (IsTop candidates device) :=
  inferInstanceAs (Decidable (∃ top ∈ candidates, top.device = device ∧
    ∀ other ∈ candidates, top.precedes other))

instance (dr : Device) (bdr : Option Device) (node : OspfNode Device)
    (candidates : List (ElectionCandidate Device)) : Decidable (ElectsAs dr bdr node candidates) :=
  decidable_of_iff ((node.dr = none → candidates ≠ [] → IsTop candidates dr) ∧
      (node.bdr = none → without candidates dr ≠ [] →
        bdr.any fun device => decide (IsTop (without candidates dr) device)))
    ⟨fun ⟨designated, backup⟩ => ⟨designated, fun unset others => by
        simpa [Option.any_eq_true] using backup unset others⟩,
      fun ⟨designated, backup⟩ => ⟨designated, fun unset others => by
        simpa [Option.any_eq_true] using backup unset others⟩⟩

/-- Candidates with equal router IDs are the same device. -/
def DistinctCandidates (candidates : List (ElectionCandidate Device)) : Prop :=
  ∀ left ∈ candidates, ∀ right ∈ candidates, left.routerId = right.routerId →
    left.device = right.device

section Order

omit [DecidableEq Device]

theorem ElectionCandidate.precedes_trans {left middle right : ElectionCandidate Device}
    (front : left.precedes middle) (back : middle.precedes right) : left.precedes right := by
  unfold precedes at *
  omega

theorem ElectionCandidate.precedes_total (left right : ElectionCandidate Device) :
    left.precedes right ∨ right.precedes left := by
  unfold precedes
  omega

theorem ElectionCandidate.routerId_eq {left right : ElectionCandidate Device}
    (front : left.precedes right) (back : right.precedes left) :
    left.routerId = right.routerId := by
  apply ridToInt_injective
  unfold precedes at *
  omega

instance : IsTrans (ElectionCandidate Device) precedes :=
  ⟨fun _ _ _ => precedes_trans⟩

instance : Std.Total (precedes : ElectionCandidate Device → _ → Prop) :=
  ⟨precedes_total⟩

theorem IsTop.unique {candidates : List (ElectionCandidate Device)} {device : Device}
    {head : ElectionCandidate Device} (distinct : DistinctCandidates candidates)
    (top : IsTop candidates device) (member : head ∈ candidates)
    (first : ∀ other ∈ candidates, head.precedes other) : head.device = device := by
  obtain ⟨best, bestMember, rfl, bestFirst⟩ := top
  refine distinct head member best bestMember ?_
  exact routerId_eq (first best bestMember) (bestFirst head member)

end Order

theorem mem_without {candidates : List (ElectionCandidate Device)} {device : Device}
    {candidate : ElectionCandidate Device} :
    candidate ∈ without candidates device ↔ candidate ∈ candidates ∧ candidate.device ≠ device := by
  simp [without]

theorem find_previous {sorted : List (ElectionCandidate Device)} {previous : Device}
    (listed : ∃ candidate ∈ sorted, candidate.device = previous) :
    ∃ found, (sorted.find? fun candidate => some candidate.device == some previous) = some found ∧
      found.device = previous := by
  obtain ⟨candidate, member, same⟩ := listed
  have present : (sorted.find? fun candidate =>
      some candidate.device == some previous).isSome = true := by
    rw [find?_isSome]
    exact ⟨candidate, member, by simp [same]⟩
  obtain ⟨found, hit⟩ := isSome_iff_exists.mp present
  refine ⟨found, hit, ?_⟩
  have accepted := find?_some hit
  simpa using accepted

/-- A previous choice that was never made is not found. -/
theorem find_no_previous (sorted : List (ElectionCandidate Device)) :
    (sorted.find? fun candidate => some candidate.device == (none : Option Device)) = none := by
  rw [find?_eq_none]
  simp

omit [DecidableEq Device] in
theorem head_eq_top {head : ElectionCandidate Device} {rest : List (ElectionCandidate Device)}
    {device : Device} (sorted : (head :: rest).Pairwise precedes)
    (distinct : DistinctCandidates (head :: rest)) (top : IsTop (head :: rest) device) :
    head.device = device := by
  refine top.unique distinct mem_cons_self fun other member => ?_
  rcases mem_cons.mp member with rfl | tail
  · exact (precedes_total other other).elim id id
  · exact rel_of_pairwise_cons sorted tail

variable {node : OspfNode Device} {bdr : Option Device} {dr : Device}

/-- An election that keeps earlier choices of the pair, and otherwise ranks the pair
first, chooses the pair. -/
theorem chooseDrBdr_eq {top : ElectionCandidate Device} {rest : List (ElectionCandidate Device)}
    (sorted : (top :: rest).Pairwise precedes) (distinct : DistinctCandidates (top :: rest))
    (consistent : ElectsAs dr bdr node (top :: rest)) (keptDr : ∀ device, node.dr = some device →
      device = dr ∧ ∃ candidate ∈ top :: rest, candidate.device = device)
    (keptBdr : ∀ device, node.bdr = some device → bdr = some device ∧ device ≠ dr ∧
      ∃ candidate ∈ top :: rest, candidate.device = device) :
    chooseDrBdr (top :: rest) node.dr node.bdr top =
      (dr, if without (top :: rest) dr = [] then none else bdr) := by
  have chosenDr : ((((top :: rest).find? fun candidate =>
      some candidate.device == node.dr)).getD top).device = dr := by
    cases previous : node.dr with
    | none =>
      rw [find_no_previous, getD_none]
      exact head_eq_top sorted distinct (consistent.designated previous (by simp))
    | some device =>
      obtain ⟨rfl, listed⟩ := keptDr device previous
      obtain ⟨found, hit, same⟩ := find_previous listed
      rw [hit, getD_some, same]
  unfold chooseDrBdr
  simp only [chosenDr, Prod.mk.injEq, true_and]
  change (Option.orElse _ fun _ => (without (top :: rest) dr).head?).map _ = _
  cases previous : node.bdr with
  | none =>
    rw [find_no_previous]
    cases others : without (top :: rest) dr with
    | nil => simp
    | cons second remaining =>
      obtain ⟨device, rfl, best⟩ := consistent.backup previous (by simp [others])
      have kept : List.Sublist (second :: remaining) (top :: rest) :=
        others ▸ filter_sublist
      rw [others] at best
      have same := head_eq_top (sorted.sublist kept) (fun left member right member' =>
          distinct left (kept.subset member) right (kept.subset member')) best
      simp [same]
  | some device =>
    obtain ⟨rfl, different, listed⟩ := keptBdr device previous
    obtain ⟨found, hit, same⟩ := find_previous listed
    have nonempty : without (top :: rest) dr ≠ [] := by
      obtain ⟨candidate, member, isDevice⟩ := listed
      exact ne_nil_of_mem (mem_without.mpr ⟨member, isDevice ▸ different⟩)
    rw [hit, if_neg nonempty]
    simp [same, different, Option.filter]

section Membership

variable {before after : List (ElectionCandidate Device)}
  (same : ∀ candidate, candidate ∈ after ↔ candidate ∈ before)
include same

omit [DecidableEq Device] in
theorem IsTop.of_mem_iff {device : Device} (top : IsTop before device) : IsTop after device := by
  obtain ⟨best, member, isDevice, first⟩ := top
  exact ⟨best, (same best).mpr member, isDevice, fun other listed =>
    first other ((same other).mp listed)⟩

theorem mem_without_iff (device : Device) (candidate : ElectionCandidate Device) :
    candidate ∈ without after device ↔ candidate ∈ without before device := by
  rw [mem_without, mem_without, same]

theorem without_eq_nil_iff (device : Device) :
    without after device = [] ↔ without before device = [] := by
  simp only [eq_nil_iff_forall_not_mem, mem_without_iff same]

/-- Only the set of candidates matters for an election. -/
theorem ElectsAs.of_mem_iff (consistent : ElectsAs dr bdr node before) :
    ElectsAs dr bdr node after := by
  constructor
  · intro unset nonempty
    obtain ⟨candidate, member⟩ := exists_mem_of_ne_nil _ nonempty
    exact (consistent.designated unset (ne_nil_of_mem ((same candidate).mp member))).of_mem_iff same
  · intro unset nonempty
    obtain ⟨candidate, member⟩ := exists_mem_of_ne_nil _ nonempty
    have listed := (mem_without_iff same dr candidate).mp member
    obtain ⟨device, rfl, top⟩ := consistent.backup unset (ne_nil_of_mem listed)
    exact ⟨device, rfl, top.of_mem_iff (mem_without_iff same dr)⟩

end Membership

theorem electDrBdr_spec {nodes : OspfNodes Device} {device : Device}
    (found : nodes.lookup device = some node)
    (distinct : DistinctCandidates (electionCandidates nodes device node))
    (consistent : ElectsAs dr bdr node (electionCandidates nodes device node))
    (keptDr : ∀ other, node.dr = some other → other = dr ∧
      ∃ candidate ∈ electionCandidates nodes device node, candidate.device = other)
    (keptBdr : ∀ other, node.bdr = some other → bdr = some other ∧ other ≠ dr ∧
      ∃ candidate ∈ electionCandidates nodes device node, candidate.device = other) :
    (electionCandidates nodes device node = [] → electDrBdr nodes device = nodes) ∧
      (electionCandidates nodes device node ≠ [] →
        coreOf (electDrBdr nodes device) = coreOf (nodes.insert device { node with
            dr := some dr
            bdr := if without (electionCandidates nodes device node) dr = [] then none
              else bdr })) := by
  generalize listed : electionCandidates nodes device node = candidates at *
  have same : ∀ candidate, candidate ∈ candidates.insertionSort precedes ↔
      candidate ∈ candidates := fun candidate => mem_insertionSort _
  have sorted := pairwise_insertionSort precedes candidates
  unfold electDrBdr
  simp only [found, listed]
  constructor
  · rintro rfl
    rfl
  · intro nonempty
    cases order : candidates.insertionSort precedes with
    | nil =>
      obtain ⟨candidate, member⟩ := exists_mem_of_ne_nil _ nonempty
      have impossible := (same candidate).mpr member
      simp [order] at impossible
    | cons top rest =>
      rw [order] at same sorted
      have chosen := chooseDrBdr_eq sorted
        (fun left member right member' => distinct left ((same left).mp member) right
          ((same right).mp member'))
        (consistent.of_mem_iff same)
        (fun other previous => by
          obtain ⟨isDr, candidate, member, isOther⟩ := keptDr other previous
          exact ⟨isDr, candidate, (same candidate).mpr member, isOther⟩)
        (fun other previous => by
          obtain ⟨isBdr, different, candidate, member, isOther⟩ := keptBdr other previous
          exact ⟨isBdr, different, candidate, (same candidate).mpr member, isOther⟩)
      simp only [chosen, without_eq_nil_iff same]
      apply coreOf_insert_congr
      split
      · rfl
      · exact core_generateNetworkLsa _ device (routerIdOf nodes)

end NetLab.Ospf
