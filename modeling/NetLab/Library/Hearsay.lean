import Mathlib.Order.Filter.AtTopBot.Basic
import Mathlib.Order.Filter.Finite
import Mathlib.Data.Fintype.Order
import Mathlib.Data.Fintype.Card
import Mathlib.Logic.Relation

/-!
# Hearsay

Nodes take labels over from each other, each time at a cost. A node replaces its label
only by a cheaper one or by the new label of the node it has it from. Then labels can
rise for ever only on hearsay: among nodes that have their labels from each other in a
ring. Without a ring every run comes to rest.
-/

namespace NetLab.Library

open Filter

variable {Node Label : Type*}

/-- How labels are taken over. -/
structure Hearsay (Node Label : Type*) where
  metric : Label → ℕ
  source : Label → Option Node
  pass : (receiver sender : Node) → Label → Label
  cost : ℕ
  cost_pos : 0 < cost
  metric_pass : ∀ receiver sender label, metric (pass receiver sender label) = metric label + cost
  source_pass : ∀ receiver sender label, source (pass receiver sender label) = some sender

namespace Hearsay

variable (hearsay : Hearsay Node Label)

/-- A node keeps its label or takes one over that is cheaper or comes from its source. -/
def Moves (before after : Node → Option Label) : Prop :=
  ∀ node, after node = before node ∨ ∃ sender label, before sender = some label ∧
    after node = some (hearsay.pass node sender label) ∧
    ∀ old, before node = some old →
      hearsay.metric label + hearsay.cost < hearsay.metric old ∨ hearsay.source old = some sender

def HasFrom (labels : Node → Option Label) (node sender : Node) : Prop :=
  ∃ label, labels node = some label ∧ hearsay.source label = some sender

variable {hearsay}

def Restless (run : ℕ → Node → Option Label) (node : Node) : Prop :=
  ∃ᶠ time in atTop, run (time + 1) node ≠ run time node

theorem calm_fixed {run : ℕ → Node → Option Label} {node : Node} (calm : ¬ Restless run node) :
    ∀ᶠ time in atTop, ∀ later ≥ time, run later node = run time node := by
  obtain ⟨start, keeps⟩ := eventually_atTop.mp (not_frequently.mp calm)
  have fixed : ∀ later ≥ start, run later node = run start node := by
    intro later after
    induction later, after using Nat.le_induction with
    | base => rfl
    | succ later after ih => exact (not_not.mp (keeps later after)).trans ih
  refine eventually_atTop.mpr ⟨start, fun time after later latest => ?_⟩
  rw [fixed later (Nat.le_trans after latest), fixed time after]

theorem exists_ring [Finite Node] {member : Node → Prop} {next : Node → Node → Prop}
    (nonempty : ∃ node, member node)
    (leads : ∀ node, member node → ∃ other, member other ∧ next node other) :
    ∃ node, Relation.TransGen next node node := by
  by_contra noRing
  have irreflexive : Std.Irrefl (Relation.TransGen (Function.swap next)) :=
    ⟨fun node ring => noRing ⟨node, Relation.transGen_swap.mp ring⟩⟩
  have wellFounded : WellFounded (Relation.TransGen (Function.swap next)) :=
    Finite.wellFounded_of_trans_of_irrefl _
  obtain ⟨node, isMember, least⟩ := wellFounded.has_min {node | member node} nonempty
  obtain ⟨other, isOther, step⟩ := leads node isMember
  exact least other isOther (.single step)

/-- An edge whose end does not lead back to its start closes no ring. -/
theorem no_ring_of_edge {before after : Node → Node → Prop} {receiver sender : Node}
    (edges : ∀ first second, after first second →
      before first second ∨ first = receiver ∧ second = sender)
    (apart : ¬ Relation.ReflTransGen before sender receiver)
    (noRing : ∀ node, ¬ Relation.TransGen before node node) (node : Node) :
    ¬ Relation.TransGen after node node := by
  -- Up to the first time it comes to the start of the edge, a path is one of before.
  have reaches : ∀ first, Relation.ReflTransGen after first receiver →
      Relation.ReflTransGen before first receiver := by
    intro first path
    induction path using Relation.ReflTransGen.head_induction_on with
    | refl => exact .refl
    | head step _ ih =>
      rcases edges _ _ step with old | ⟨rfl, -⟩
      · exact .head old ih
      · exact .refl
  have splits : ∀ first second, Relation.TransGen after first second →
      Relation.TransGen before first second ∨
        Relation.ReflTransGen after first receiver ∧ Relation.ReflTransGen after sender second := by
    intro first second path
    induction path with
    | single step =>
      rcases edges _ _ step with old | ⟨rfl, rfl⟩
      · exact .inl (.single old)
      · exact .inr ⟨.refl, .refl⟩
    | tail path step ih =>
      rcases ih with inside | ⟨onto, off⟩
      · rcases edges _ _ step with old | ⟨rfl, rfl⟩
        · exact .inl (.tail inside old)
        · exact .inr ⟨path.to_reflTransGen, .refl⟩
      · exact .inr ⟨onto, .tail off step⟩
  intro ring
  rcases splits node node ring with inside | ⟨onto, off⟩
  · exact noRing node inside
  · exact apart (reaches sender (off.trans onto))

variable [Finite Node] {run : ℕ → Node → Option Label}
  (moves : ∀ time, hearsay.Moves (run time) (run (time + 1)))

theorem eventually_calm (run : ℕ → Node → Option Label) :
    ∃ start, ∀ node, ¬ Restless run node → ∀ later ≥ start, run later node = run start node := by
  have each : ∀ node, ∀ᶠ time in atTop,
      ¬ Restless run node → ∀ later ≥ time, run later node = run time node := by
    intro node
    by_cases restless : Restless run node
    · exact .of_forall fun _ calm => absurd restless calm
    · exact (calm_fixed restless).mono fun _ fixed _ => fixed
  exact (eventually_all.mpr each).exists

include moves in
theorem restless_rise (bound : ℕ) :
    ∀ᶠ time in atTop, ∀ node, Restless run node → ∀ label, run time node = some label →
      bound ≤ hearsay.metric label := by
  induction bound with
  | zero => exact .of_forall fun _ _ _ _ _ => Nat.zero_le _
  | succ bound ih =>
    obtain ⟨high, isHigh⟩ := eventually_atTop.mp ih
    obtain ⟨calm, isCalm⟩ := eventually_calm run
    refine eventually_all.mpr fun node => ?_
    by_cases restless : Restless run node
    swap
    · exact .of_forall fun _ isRestless => absurd isRestless restless
    -- A label of the least metric comes from a calm node, so it would never change again.
    have leaves : ∀ time ≥ max high calm, run (time + 1) node ≠ run time node →
        ∀ label, run (time + 1) node = some label → bound + 1 ≤ hearsay.metric label := by
      intro time late changed label isLabel
      refine Nat.lt_of_le_of_ne (isHigh (time + 1) (by omega) node restless label isLabel)
        fun least => ?_
      rcases moves time node with kept | ⟨sender, offered, isOffered, taken, -⟩
      · exact changed kept
      have equal : label = hearsay.pass node sender offered :=
        Option.some.inj (isLabel.symm.trans taken)
      have metric := hearsay.metric_pass node sender offered
      have positive := hearsay.cost_pos
      rw [← equal] at metric
      have senderCalm : ¬ Restless run sender := fun isRestless => by
        have far := isHigh time (by omega) sender isRestless offered isOffered
        omega
      have constant : ∀ later ≥ time, run later sender = some offered := by
        intro later after
        rw [isCalm sender senderCalm later (by omega),
          ← isCalm sender senderCalm time (by omega), isOffered]
      have stuck : ∀ later ≥ time + 1, run later node = some label := by
        intro later after
        induction later, after using Nat.le_induction with
        | base => exact isLabel
        | succ later after still =>
          rcases moves later node with kept | ⟨other, offered', isOffered', taken', allowed⟩
          · rw [kept, still]
          · rcases allowed label still with cheaper | same
            · have far := isHigh (later + 1) (by omega) node restless _ taken'
              rw [hearsay.metric_pass] at far
              omega
            · rw [equal, hearsay.source_pass] at same
              obtain rfl := Option.some.inj same
              rw [constant later (by omega)] at isOffered'
              rw [taken', ← Option.some.inj isOffered', equal]
      obtain ⟨later, after, again⟩ := (frequently_atTop.mp restless) (time + 1)
      exact again ((stuck (later + 1) (by omega)).trans (stuck later after).symm)
    obtain ⟨first, late, changed⟩ := (frequently_atTop.mp restless) (max high calm)
    refine eventually_atTop.mpr ⟨first + 1, fun time after _ => ?_⟩
    induction time, after using Nat.le_induction with
    | base => exact leaves first late changed
    | succ time after ih =>
      intro label isLabel
      by_cases kept : run (time + 1) node = run time node
      · exact ih label (kept ▸ isLabel)
      · exact leaves time (by omega) kept label isLabel

include moves in
theorem restless_sources :
    ∀ᶠ time in atTop, ∀ node, Restless run node →
      ∃ sender, Restless run sender ∧ hearsay.HasFrom (run time) node sender := by
  obtain ⟨calm, isCalm⟩ := eventually_calm run
  obtain ⟨most, isMost⟩ := Finite.exists_le fun node => (run calm node).elim 0 hearsay.metric
  obtain ⟨high, isHigh⟩ := eventually_atTop.mp (restless_rise moves (most + hearsay.cost + 1))
  refine eventually_all.mpr fun node => ?_
  by_cases restless : Restless run node
  swap
  · exact .of_forall fun _ isRestless => absurd isRestless restless
  have taken : ∀ time ≥ max high calm, run (time + 1) node ≠ run time node →
      ∃ sender, Restless run sender ∧ hearsay.HasFrom (run (time + 1)) node sender := by
    intro time late changed
    rcases moves time node with kept | ⟨sender, offered, isOffered, taken, -⟩
    · exact absurd kept changed
    have far := isHigh (time + 1) (by omega) node restless _ taken
    rw [hearsay.metric_pass] at far
    refine ⟨sender, ?_, _, taken, hearsay.source_pass _ _ _⟩
    by_contra senderCalm
    have bound := isMost sender
    rw [← isCalm sender senderCalm time (by omega), isOffered] at bound
    simp only [Option.elim_some] at bound
    omega
  obtain ⟨first, late, changed⟩ := (frequently_atTop.mp restless) (max high calm)
  refine eventually_atTop.mpr ⟨first + 1, fun time after _ => ?_⟩
  induction time, after using Nat.le_induction with
  | base => exact taken first late changed
  | succ time after ih =>
    by_cases kept : run (time + 1) node = run time node
    · obtain ⟨sender, isRestless, label, isLabel, isSource⟩ := ih
      exact ⟨sender, isRestless, label, kept.trans isLabel, isSource⟩
    · exact taken time (by omega) kept

include moves in
theorem eventually_still
    (noRing : ∀ time node, ¬ Relation.TransGen (hearsay.HasFrom (run time)) node node) :
    ∃ start, ∀ later ≥ start, run later = run start := by
  obtain ⟨start, fixed⟩ := eventually_calm run
  have calm : ∀ node, ¬ Restless run node := by
    intro node restless
    obtain ⟨time, sources⟩ := (restless_sources moves).exists
    obtain ⟨origin, ring⟩ := exists_ring ⟨node, restless⟩ sources
    exact noRing time origin ring
  exact ⟨start, fun later after => funext fun node => fixed node (calm node) later after⟩

end Hearsay

end NetLab.Library
