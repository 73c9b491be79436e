import NetLab.Library.Execution
import NetLab.Network.Filter
import Mathlib.Data.Finset.Basic
import Mathlib.Data.Finset.Image

/-!
# Static routes

The configured static routes of each device, as the RIB engine keeps them. A
command is meant to add one route or to remove the routes it names. The engine
also drops the routes of a destination when a newcomer has a smaller
administrative distance than all of them; `configured_follows_iff` and
`order_independent_iff` say that it departs from its commands in no other way.
-/

namespace NetLab.Rib

open NetLab.Library NetLab.Network NetLab.Execution List Function

/-- What the operator configures: a destination, a next hop and a distance. -/
structure StaticConfig where
  destination : Prefix
  nextHop : String
  ad : Nat
deriving DecidableEq

/-- A configured route. It is inactive while its next hop is unreachable. -/
structure StaticRoute extends StaticConfig where
  active : Bool := true
deriving DecidableEq

/-- Routing information kept for one device. -/
structure RibNode where
  staticRoutes : List StaticRoute := []

/-- The RIB engine: one node for each device that was configured. -/
structure RibEngine (Device : Type) where
  nodes : OrderedMap Device RibNode

def distancesTo (destination : Prefix) (routes : List StaticRoute) : List Nat :=
  (routes.filter fun route => route.destination == destination).map fun route => route.ad

/-- The table a new route is appended to: a distance below the best existing one
replaces every route to the destination. -/
def replaceWorse (config : StaticConfig) (routes : List StaticRoute) : List StaticRoute :=
  match (distancesTo config.destination routes).min? with
  | none => routes
  | some bestExisting =>
    if config.ad < bestExisting then
      routes.filter fun route => !(route.destination == config.destination)
    else routes

/-- Add a route, unless the very same one is configured already. -/
def RibNode.addStaticRoute (node : RibNode) (config : StaticConfig) : RibNode × StaticRoute :=
  match node.staticRoutes.find? fun route => route.toStaticConfig == config with
  | some route => (node, route)
  | none =>
    let route : StaticRoute := { toStaticConfig := config }
    ({ staticRoutes := replaceWorse config node.staticRoutes ++ [route] }, route)

def removes (destination : Prefix) (nextHop : Option String) (config : StaticConfig) : Bool :=
  config.destination == destination && nextHop.all fun hop => config.nextHop == hop

def RibNode.removeStaticRoute (node : RibNode) (destination : Prefix)
    (nextHop : Option String) : RibNode :=
  { staticRoutes := node.staticRoutes.filter fun route =>
      !removes destination nextHop route.toStaticConfig }

def RibNode.configured (node : RibNode) : Finset StaticConfig :=
  (node.staticRoutes.map StaticRoute.toStaticConfig).toFinset

/-- Configuration commands, for any device. -/
inductive RouteCommand (Device : Type) where
  | addStaticRoute (device : Device) (config : StaticConfig)
  | removeStaticRoute (device : Device) (destination : Prefix) (nextHop : Option String)

namespace RibEngine

variable {Device : Type} [DecidableEq Device]

/-- Carry out one command. A node is created on first use. -/
def handle (engine : RibEngine Device) : RouteCommand Device → RibEngine Device
  | .addStaticRoute device config =>
    ⟨engine.nodes.insert device (((engine.nodes.lookup device).getD {}).addStaticRoute config).1⟩
  | .removeStaticRoute device destination nextHop =>
    ⟨engine.nodes.modify device fun node => node.removeStaticRoute destination nextHop⟩

def configured (engine : RibEngine Device) (device : Device) : Finset StaticConfig :=
  ((engine.nodes.lookup device).getD {}).configured

def addAll (engine : RibEngine Device) (device : Device) (configs : List StaticConfig) :
    RibEngine Device :=
  runFrom handle engine (configs.map (RouteCommand.addStaticRoute device))

end RibEngine

/-! ## What the commands mean -/

section Meaning

variable {Device : Type} [DecidableEq Device]

def intend (routes : Device → Finset StaticConfig) :
    RouteCommand Device → Device → Finset StaticConfig
  | .addStaticRoute device config =>
    Function.update routes device (insert config (routes device))
  | .removeStaticRoute device destination nextHop =>
    Function.update routes device
      ((routes device).filter fun config => removes destination nextHop config = false)

/-- The device has routes to the destination, and the newcomer's distance is
smaller than that of each of them. -/
def Undercuts (config : StaticConfig) (routes : Finset StaticConfig) : Prop :=
  (∃ other ∈ routes, other.destination = config.destination) ∧
    ∀ other ∈ routes, other.destination = config.destination → config.ad < other.ad

def Supplements (engine : RibEngine Device) : RouteCommand Device → Prop
  | .addStaticRoute device config => ¬ Undercuts config (engine.configured device)
  | .removeStaticRoute _ _ _ => True

end Meaning

/-! ## One command -/

variable {config other : StaticConfig} {node : RibNode}

@[simp] theorem RibNode.mem_configured :
    config ∈ node.configured ↔ ∃ route ∈ node.staticRoutes, route.toStaticConfig = config := by
  simp [RibNode.configured]

/-- The smallest existing distance is above the newcomer's exactly if it undercuts. -/
theorem lt_min_iff_undercuts (config : StaticConfig) (node : RibNode) :
    (∃ best, (distancesTo config.destination node.staticRoutes).min? = some best ∧
      config.ad < best) ↔ Undercuts config node.configured := by
  have listed : ∀ distance, distance ∈ distancesTo config.destination node.staticRoutes ↔
      ∃ other ∈ node.configured, other.destination = config.destination ∧ other.ad = distance := by
    intro distance
    simp only [distancesTo, mem_map, mem_filter, beq_iff_eq, RibNode.mem_configured]
    constructor
    · rintro ⟨route, ⟨member, same⟩, rfl⟩
      exact ⟨_, ⟨route, member, rfl⟩, same, rfl⟩
    · rintro ⟨_, ⟨route, member, rfl⟩, same, rfl⟩
      exact ⟨route, ⟨member, same⟩, rfl⟩
  constructor
  · rintro ⟨best, isMin, below⟩
    obtain ⟨isListed, least⟩ := min?_eq_some_iff.mp isMin
    obtain ⟨other, member, same, -⟩ := (listed best).mp isListed
    refine ⟨⟨other, member, same⟩, fun other member same => ?_⟩
    exact below.trans_le (least other.ad ((listed other.ad).mpr ⟨other, member, same, rfl⟩))
  · rintro ⟨⟨other, member, same⟩, below⟩
    have someListed := (listed other.ad).mpr ⟨other, member, same, rfl⟩
    cases isMin : (distancesTo config.destination node.staticRoutes).min? with
    | none =>
      rw [min?_eq_none_iff.mp isMin] at someListed
      exact absurd someListed not_mem_nil
    | some best =>
      obtain ⟨isListed, -⟩ := min?_eq_some_iff.mp isMin
      obtain ⟨first, firstMember, firstSame, rfl⟩ := (listed best).mp isListed
      exact ⟨_, rfl, below first firstMember firstSame⟩

theorem RibNode.addStaticRoute_of_undercuts (undercuts : Undercuts config node.configured) :
    (node.addStaticRoute config).1.configured = insert config (node.configured.filter fun other =>
        other.destination ≠ config.destination) := by
  obtain ⟨best, isMin, below⟩ := (lt_min_iff_undercuts config node).mpr undercuts
  have fresh : node.staticRoutes.find? (fun route => route.toStaticConfig == config) = none := by
    rw [find?_eq_none]
    intro route member same
    have equal : route.toStaticConfig = config := by simpa using same
    have smaller := undercuts.2 config (mem_configured.mpr ⟨route, member, equal⟩) rfl
    exact absurd smaller (lt_irrefl _)
  ext other
  simp only [addStaticRoute, fresh, replaceWorse, isMin, below, if_true, mem_configured,
    mem_append, mem_filter, mem_singleton, Finset.mem_insert, Finset.mem_filter]
  constructor
  · rintro ⟨route, ⟨member, different⟩ | rfl, rfl⟩
    · exact .inr ⟨⟨route, member, rfl⟩, by simpa using different⟩
    · exact .inl rfl
  · rintro (rfl | ⟨⟨route, member, rfl⟩, different⟩)
    · exact ⟨_, .inr rfl, rfl⟩
    · exact ⟨route, .inl ⟨member, by simpa using different⟩, rfl⟩

theorem RibNode.addStaticRoute_of_not_undercuts (supplements : ¬ Undercuts config node.configured) :
    (node.addStaticRoute config).1.configured = insert config node.configured := by
  cases present : node.staticRoutes.find? (fun route => route.toStaticConfig == config) with
  | some route =>
    have same : route.toStaticConfig = config := by simpa using find?_some present
    have member : config ∈ node.configured :=
      mem_configured.mpr ⟨route, mem_of_find?_eq_some present, same⟩
    simp [addStaticRoute, present, Finset.insert_eq_of_mem member]
  | none =>
    have kept : replaceWorse config node.staticRoutes = node.staticRoutes := by
      unfold replaceWorse
      cases isMin : (distancesTo config.destination node.staticRoutes).min? with
      | none => rfl
      | some best =>
        have notBelow : ¬ config.ad < best := fun below =>
          supplements ((lt_min_iff_undercuts config node).mp ⟨best, isMin, below⟩)
        simp [notBelow]
    ext other
    simp only [addStaticRoute, present, kept, mem_configured, mem_append,
      mem_singleton, Finset.mem_insert]
    constructor
    · rintro ⟨route, member | rfl, rfl⟩
      · exact .inr ⟨route, member, rfl⟩
      · exact .inl rfl
    · rintro (rfl | ⟨route, member, rfl⟩)
      · exact ⟨_, .inr rfl, rfl⟩
      · exact ⟨route, .inl member, rfl⟩

@[simp] theorem RibNode.configured_removeStaticRoute (node : RibNode) (destination : Prefix)
    (nextHop : Option String) :
    (node.removeStaticRoute destination nextHop).configured =
      node.configured.filter fun config => removes destination nextHop config = false := by
  ext config
  simp only [removeStaticRoute, mem_configured, mem_filter, Finset.mem_filter, Bool.not_eq_true']
  constructor
  · rintro ⟨route, ⟨member, kept⟩, rfl⟩
    exact ⟨⟨route, member, rfl⟩, kept⟩
  · rintro ⟨⟨route, member, rfl⟩, kept⟩
    exact ⟨route, ⟨member, kept⟩, rfl⟩

namespace RibEngine

variable {Device : Type} [DecidableEq Device] (engine : RibEngine Device) (device : Device)

@[simp] theorem configured_add (config : StaticConfig) :
    (engine.handle (.addStaticRoute device config)).configured =
      Function.update engine.configured device
        (((engine.nodes.lookup device).getD {}).addStaticRoute config).1.configured := by
  funext other
  by_cases same : other = device
  · subst same
    simp [configured, handle]
  · simp [configured, handle, same, OrderedMap.lookup_insert_of_ne]

@[simp] theorem configured_remove (destination : Prefix) (nextHop : Option String) :
    (engine.handle (.removeStaticRoute device destination nextHop)).configured =
      intend engine.configured (.removeStaticRoute device destination nextHop) := by
  funext other
  by_cases same : other = device
  · subst same
    cases found : engine.nodes.lookup other with
    | none =>
      simp [configured, handle, intend, found, RibNode.configured]
    | some node => simp [configured, handle, intend, found]
  · simp [configured, handle, intend, same, OrderedMap.lookup_modify]

theorem not_mem_configured_of_undercuts {engine : RibEngine Device} {device : Device}
    (undercuts : Undercuts config (engine.configured device))
    (member : other ∈ engine.configured device) (same : other.destination = config.destination) :
    other ∉ (engine.handle (.addStaticRoute device config)).configured device := by
  have different : other ≠ config := by
    rintro rfl
    exact absurd (undercuts.2 other member rfl) (lt_irrefl _)
  rw [configured_add, update_self, RibNode.addStaticRoute_of_undercuts undercuts]
  simp [different, same]

/-- A command does what it means exactly if it undercuts nothing. -/
theorem configured_handle_iff (command : RouteCommand Device) :
    (engine.handle command).configured = intend engine.configured command ↔
      Supplements engine command := by
  cases command with
  | addStaticRoute device config =>
    constructor
    · intro follows undercuts
      obtain ⟨other, member, same⟩ := undercuts.1
      refine not_mem_configured_of_undercuts undercuts member same ?_
      rw [follows]
      simp [intend, member]
    · intro supplements
      rw [configured_add, RibNode.addStaticRoute_of_not_undercuts supplements]
      rfl
  | removeStaticRoute device destination nextHop =>
    exact iff_of_true (configured_remove engine device destination nextHop) trivial

/-- A device has the routes its commands gave it, after every prefix of a sequence
of commands, exactly if no command undercuts existing routes. -/
theorem configured_follows_iff (commands : List (RouteCommand Device)) :
    (∀ count, (runFrom handle engine (commands.take count)).configured =
        runFrom intend engine.configured (commands.take count)) ↔
      Along handle Supplements engine commands :=
  follows_iff_along configured_handle_iff engine commands

/-! ## Order of configuration -/

@[simp] theorem addAll_nil : engine.addAll device [] = engine := rfl

@[simp] theorem addAll_cons (config : StaticConfig) (rest : List StaticConfig) :
    engine.addAll device (config :: rest) =
      (engine.handle (.addStaticRoute device config)).addAll device rest := rfl

/-- Adding a route never brings back another one. -/
theorem mem_configured_handle {engine : RibEngine Device} {device : Device}
    (member : other ∈ (engine.handle (.addStaticRoute device config)).configured device) :
    other = config ∨ other ∈ engine.configured device := by
  rw [configured_add, update_self] at member
  by_cases undercuts : Undercuts config (engine.configured device)
  · rw [RibNode.addStaticRoute_of_undercuts undercuts, Finset.mem_insert,
      Finset.mem_filter] at member
    exact member.imp_right And.left
  · rw [RibNode.addStaticRoute_of_not_undercuts undercuts, Finset.mem_insert] at member
    exact member

/-- A route that is gone and is not added again stays away. -/
theorem not_mem_configured_addAll {engine : RibEngine Device} {device : Device}
    {configs : List StaticConfig} (absent : other ∉ engine.configured device)
    (notAdded : other ∉ configs) : other ∉ (engine.addAll device configs).configured device := by
  induction configs generalizing engine with
  | nil => exact absent
  | cons config rest ih =>
    obtain ⟨different, later⟩ := not_or.mp (mt mem_cons.mpr notAdded)
    refine ih (fun member => ?_) later
    exact (mem_configured_handle member).elim different absent

/-- Whenever one of the routes is better than another one for the same destination,
the device starts with a route at least as good as the former. -/
def NoneUndercuts (start routes : Finset StaticConfig) : Prop :=
  ∀ config ∈ routes, ∀ other ∈ start ∪ routes, other.destination = config.destination →
    config.ad < other.ad →
    ∃ first ∈ start, first.destination = config.destination ∧ first.ad ≤ config.ad

theorem configured_addAll {start : Finset StaticConfig} {routes : Finset StaticConfig}
    (noneUndercuts : NoneUndercuts start routes) {device : Device} {configs : List StaticConfig}
    (added : ∀ config ∈ configs, config ∈ routes) {engine : RibEngine Device}
    (lower : start ⊆ engine.configured device)
    (upper : engine.configured device ⊆ start ∪ routes) :
    (engine.addAll device configs).configured device =
      engine.configured device ∪ configs.toFinset := by
  induction configs generalizing engine with
  | nil => simp
  | cons config rest ih =>
    have supplements : ¬ Undercuts config (engine.configured device) := by
      rintro ⟨⟨other, member, same⟩, below⟩
      obtain ⟨first, isFirst, firstSame, notAbove⟩ := noneUndercuts config
        (added config mem_cons_self) other (upper member) same (below other member same)
      have := below first (lower isFirst) firstSame
      omega
    have here : (engine.handle (.addStaticRoute device config)).configured device =
        insert config (engine.configured device) := by
      rw [configured_add, update_self, RibNode.addStaticRoute_of_not_undercuts supplements]
      rfl
    rw [addAll_cons, ih (fun other member => added other (mem_cons_of_mem _ member)), here]
    · simp [Finset.insert_union]
    · rw [here]
      exact lower.trans (Finset.subset_insert _ _)
    · rw [here]
      refine Finset.insert_subset ?_ upper
      exact Finset.mem_union_right _ (added config mem_cons_self)

theorem exists_order_dropping {engine : RibEngine Device} {device : Device}
    {routes : Finset StaticConfig} (undercut : ¬ NoneUndercuts (engine.configured device) routes) :
    ∃ order : List StaticConfig, order.Nodup ∧ order.toFinset = routes ∧
      ∃ other ∈ engine.configured device ∪ routes,
        other ∉ (engine.addAll device order).configured device := by
  simp only [NoneUndercuts, not_forall, not_exists, not_and, not_le] at undercut
  obtain ⟨config, isRoute, other, isOther, same, below, allAbove⟩ := undercut
  have different : other ≠ config := by
    rintro rfl
    exact lt_irrefl _ below
  by_cases isAdded : other ∈ routes
  · -- The worse route first, then the better one, then the others.
    let others := (routes.erase config).erase other
    have listed : ∀ route ∈ others.toList, route ≠ other ∧ route ≠ config := by
      intro route member
      simp only [others, Finset.mem_toList, Finset.mem_erase] at member
      exact ⟨member.1, member.2.1⟩
    refine ⟨other :: config :: others.toList, ?_, ?_, other, isOther, ?_⟩
    · refine nodup_cons.mpr ⟨?_, nodup_cons.mpr ⟨?_, Finset.nodup_toList _⟩⟩
      · rintro (_ | ⟨_, member⟩)
        · exact different rfl
        · exact (listed other member).1 rfl
      · exact fun member => (listed config member).2 rfl
    · ext route
      simp only [others, toFinset_cons, Finset.toList_toFinset, Finset.mem_insert, Finset.mem_erase]
      constructor
      · rintro (rfl | rfl | ⟨-, -, member⟩)
        exacts [isAdded, isRoute, member]
      · intro member
        tauto
    · rw [addAll_cons, addAll_cons]
      refine not_mem_configured_addAll ?_ fun member => (listed other member).1 rfl
      have present : other ∈ (engine.handle (.addStaticRoute device other)).configured device := by
        rw [configured_add, update_self]
        by_cases undercuts : Undercuts other (engine.configured device)
        · rw [RibNode.addStaticRoute_of_undercuts undercuts]
          exact Finset.mem_insert_self _ _
        · rw [RibNode.addStaticRoute_of_not_undercuts undercuts]
          exact Finset.mem_insert_self _ _
      refine not_mem_configured_of_undercuts ⟨⟨other, present, same⟩, ?_⟩ present same
      intro route member routeSame
      rcases mem_configured_handle member with rfl | old
      · exact below
      · exact allAbove route old routeSame
  · -- The worse route is there already; the better one is added first.
    have old : other ∈ engine.configured device :=
      (Finset.mem_union.mp isOther).resolve_right isAdded
    have undercuts : Undercuts config (engine.configured device) :=
      ⟨⟨other, old, same⟩, allAbove⟩
    refine ⟨config :: (routes.erase config).toList, ?_, ?_, other, isOther, ?_⟩
    · exact nodup_cons.mpr ⟨by simp, Finset.nodup_toList _⟩
    · rw [toFinset_cons, Finset.toList_toFinset, Finset.insert_erase isRoute]
    · rw [addAll_cons]
      refine not_mem_configured_addAll (not_mem_configured_of_undercuts undercuts old same) ?_
      intro member
      exact isAdded (Finset.mem_of_mem_erase (Finset.mem_toList.mp member))

/-- Every order of adding a set of routes leaves these routes and the old ones
exactly if none of the set undercuts. -/
theorem order_independent_iff (routes : Finset StaticConfig) :
    (∀ order : List StaticConfig, order.Nodup → order.toFinset = routes →
        (engine.addAll device order).configured device = engine.configured device ∪ routes) ↔
      NoneUndercuts (engine.configured device) routes := by
  constructor
  · intro keeps
    by_contra undercut
    obtain ⟨order, nodup, lists, other, isOther, dropped⟩ := exists_order_dropping undercut
    rw [keeps order nodup lists] at dropped
    exact dropped isOther
  · rintro noneUndercuts order - rfl
    exact configured_addAll noneUndercuts (fun config member => mem_toFinset.mpr member)
      (Finset.Subset.refl _) Finset.subset_union_left

/-- The static routes of a device are those it was given, in whatever order they
come, exactly as long as no command undercuts. -/
theorem staticRoutes_kept_iff (engine : RibEngine Device) :
    (∀ commands : List (RouteCommand Device),
      (∀ count, (runFrom handle engine (commands.take count)).configured =
        runFrom intend engine.configured (commands.take count)) ↔
      Along handle Supplements engine commands) ∧
    ∀ (device : Device) (routes : Finset StaticConfig),
      (∀ order : List StaticConfig, order.Nodup → order.toFinset = routes →
        (engine.addAll device order).configured device = engine.configured device ∪ routes) ↔
      NoneUndercuts (engine.configured device) routes :=
  ⟨configured_follows_iff engine, order_independent_iff engine⟩

/-- A primary route and a floating backup for the default destination. -/
def primary : StaticConfig := ⟨⟨"0.0.0.0", 0⟩, "192.168.1.1", 1⟩

/-- The backup of `primary`. -/
def floatingBackup : StaticConfig := ⟨⟨"0.0.0.0", 0⟩, "192.168.2.1", 200⟩

/-- The engine before anything is configured. -/
def unconfigured : RibEngine Unit := ⟨.empty⟩

/-- A backup entered before its primary is dropped; entered after it, it is kept. -/
theorem floating_backup_dropped :
    (unconfigured.addAll () [floatingBackup, primary]).configured () = {primary} ∧
      (unconfigured.addAll () [primary, floatingBackup]).configured () =
        {primary, floatingBackup} := by
  decide

end RibEngine

end NetLab.Rib
