import Mathlib.Data.List.MinMax
import NetLab.Stp.Frame

/-!
# Roles decided by one bridge

The comparison of bridge identifiers reads priorities as hexadecimal, which keeps
their order. The search for the root port is a choice of the first least candidate,
and recomputing the roles a second time changes nothing.
-/

namespace NetLab.Stp

open NetLab.Library NetLab.Network List StpNode

/-! ## Comparison -/

theorem hexReading_div (priority : Nat) (positive : 0 < priority) :
    hexReading priority = priority % 10 + 16 * hexReading (priority / 10) := by
  unfold hexReading
  rw [Nat.digits_def' (by omega) positive, Nat.ofDigits_cons]

/-- Reading decimal digits as hexadecimal ones keeps the order. -/
theorem hexReading_lt {first second : Nat} (less : first < second) :
    hexReading first < hexReading second := by
  induction second using Nat.strong_induction_on generalizing first with
  | _ second ih =>
    have unfoldSecond := hexReading_div second (by omega)
    rcases Nat.eq_zero_or_pos first with rfl | positive
    · have zero : hexReading 0 = 0 := by simp [hexReading]
      have lastDigit : second % 10 ≠ 0 ∨ 0 < second / 10 := by omega
      rcases lastDigit with digit | higher
      · omega
      · have := ih (second / 10) (by omega) higher
        omega
    · have unfoldFirst := hexReading_div first positive
      rcases Nat.lt_or_ge (first / 10) (second / 10) with higher | same
      · have := ih (second / 10) (by omega) higher
        omega
      · have equal : first / 10 = second / 10 := by omega
        rw [equal] at unfoldFirst
        omega

theorem compareBridgeId_neg_iff {first second : BridgeId} :
    compareBridgeId first second < 0 ↔ bidKey first < bidKey second := by
  unfold compareBridgeId bidKey
  rw [Prod.Lex.toLex_lt_toLex]
  dsimp only
  rcases Nat.lt_trichotomy first.priority second.priority with less | equal | more
  · have := hexReading_lt less
    rw [if_pos (by omega)]
    omega
  · rw [equal, if_neg (by omega)]
    split_ifs <;> omega
  · have := hexReading_lt more
    rw [if_pos (by omega)]
    omega

/-! ## The root port -/

variable {Device : Type}

def RootCandidate.key (candidate : RootCandidate) : ℕ ×ₗ (ℕ ×ₗ ℕ) :=
  toLex (candidate.pathCost, bidKey candidate.sender)

theorem improves_iff {candidate best : RootCandidate} :
    candidate.improves (some best) = true ↔ candidate.key < best.key := by
  unfold RootCandidate.improves RootCandidate.key
  rw [Prod.Lex.toLex_lt_toLex]
  simp [compareBridgeId_neg_iff]

theorem bestPort_eq_argmin (node : StpNode Device) :
    node.bestPort = (node.ports.entries.filterMap fun entry =>
      node.offer entry.1 entry.2).argmin RootCandidate.key := by
  have general : ∀ (entries : List (String × Port Device)) (best : Option RootCandidate),
      entries.foldl node.considerPort best =
        (entries.filterMap fun entry => node.offer entry.1 entry.2).foldl
          (List.argAux fun left right => left.key < right.key) best := by
    intro entries
    induction entries with
    | nil => intro best; rfl
    | cons entry entries ih =>
      intro best
      rw [foldl_cons, ih]
      cases offered : node.offer entry.1 entry.2 with
      | none => simp [considerPort, offered]
      | some candidate =>
        simp only [filterMap_cons, offered, foldl_cons]
        congr 1
        cases best with
        | none => simp [considerPort, offered, List.argAux, RootCandidate.improves]
        | some held =>
          simp only [considerPort, offered, improves_iff, List.argAux]
  exact general node.ports.entries none

theorem offer_eq_some {node : StpNode Device} {name : String} {port : Port Device}
    {candidate : RootCandidate} : node.offer name port = some candidate ↔
      ∃ received, port.received = some received ∧ received.rootBid = node.rootBridgeId ∧
        candidate = ⟨name, received.rootCost + port.cost, received.senderBid⟩ := by
  unfold offer
  cases port.received with
  | none => simp
  | some received =>
    by_cases same : received.rootBid = node.rootBridgeId
    · simp [same, eq_comm]
    · simp [same]

/-! ## Recomputation of the roles -/

/-- The role and state that the recomputation gives to a port. -/
def StpNode.roleFor (node : StpNode Device) (name : String) (port : Port Device) : Port Device :=
  if node.rootBridgeId = node.bridgeId then port.assign .designated .forwarding
  else if node.bestPort.map RootCandidate.name = some name then port.assign .root .forwarding
  else node.segmentRole port

section

variable (node : StpNode Device)
include node

theorem recomputePortRoles_eq :
    node.recomputePortRoles = { node with ports := node.ports.mapValues node.roleFor } := by
  unfold recomputePortRoles roleFor
  split_ifs <;> rfl

variable (name : String) (port : Port Device)

/-- Deciding a role looks at nothing that it writes. -/
theorem segmentRole_assign :
    node.segmentRole port = port.assign (node.segmentRole port).role (node.segmentRole port).state := by
  unfold segmentRole
  cases port.received with
  | none => rfl
  | some received =>
    dsimp only
    split_ifs <;> rfl

theorem roleFor_assign :
    node.roleFor name port =
      port.assign (node.roleFor name port).role (node.roleFor name port).state := by
  unfold roleFor
  split_ifs
  · rfl
  · rfl
  · exact segmentRole_assign node port

theorem roleFor_of_assign (role : PortRole) (state : PortState) :
    node.roleFor name (port.assign role state) = node.roleFor name port := rfl

/-- Offers do not depend on roles and states. -/
theorem bestPort_recomputePortRoles : node.recomputePortRoles.bestPort = node.bestPort := by
  rw [bestPort_eq_argmin, bestPort_eq_argmin, recomputePortRoles_eq]
  congr 1
  simp only [OrderedMap.mapValues, filterMap_map]
  refine filterMap_congr fun entry _ => ?_
  simp only [Function.comp_apply]
  rw [roleFor_assign]
  rfl

theorem recomputePortRoles_idem :
    node.recomputePortRoles.recomputePortRoles = node.recomputePortRoles := by
  have best := bestPort_recomputePortRoles node
  have same : ∀ name port, node.recomputePortRoles.roleFor name (node.roleFor name port) =
      node.roleFor name port := by
    intro name port
    have sameNode : node.recomputePortRoles.roleFor name port = node.roleFor name port := by
      unfold roleFor
      rw [best, recomputePortRoles_eq]
      rfl
    rw [roleFor_assign node name port, roleFor_of_assign, sameNode]
    exact roleFor_assign node name port
  rw [recomputePortRoles_eq node.recomputePortRoles]
  have ports : node.recomputePortRoles.ports.mapValues node.recomputePortRoles.roleFor =
      node.recomputePortRoles.ports := by
    apply OrderedMap.ext
    rw [recomputePortRoles_eq node] at same ⊢
    simp only [OrderedMap.mapValues, map_map] at same ⊢
    refine map_congr_left fun entry _ => ?_
    simp only [Function.comp_apply, Prod.mk.injEq, true_and]
    exact same entry.1 entry.2
  rw [ports]

end

end NetLab.Stp
