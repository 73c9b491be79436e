import NetLab.Bgp.Engine
import NetLab.Rib.StaticRoutes

/-!
# Remote-triggered black holes

A speaker turns its best paths with the black-hole community into static routes to
`Null0`, through the commands that the operator uses for static routes. Beside the device
stands the table that the operator's commands alone would give; `rtbh_exact` says under
which condition the device has these routes and the black holes, and no others.
-/

namespace NetLab.Bgp

open List

open NetLab.Library NetLab.Network NetLab.Rib NetLab.Execution RibNode

variable {Device : Type} {config : StaticConfig}

/-- What black-holing reads and writes of a speaker and of the static routes. -/
structure RtbhNode (Device : Type) where
  rtbhCommunity : String := ""
  rtbhInstalled : List Prefix := []
  locRib : List (LocRoute Device) := []
  rib : RibNode := {}

/-- The black-hole route to a destination. -/
def nullRoute (destination : Prefix) : StaticConfig := ⟨destination, "Null0", 1⟩

namespace RtbhNode

variable (node : RtbhNode Device)

/-- Destinations of the best paths with the black-hole community. -/
def wanted : List Prefix :=
  ((node.locRib.filter fun best => decide (node.rtbhCommunity ∈ best.route.communities)).map
    LocRoute.destination).dedup

/-- Install the black-hole routes to some destinations. -/
def install (rib : RibNode) (destinations : List Prefix) : RibNode :=
  destinations.foldl (fun rib destination => (rib.addStaticRoute (nullRoute destination)).1) rib

/-- Remove the black-hole routes to some destinations. -/
def uninstall (rib : RibNode) (destinations : List Prefix) : RibNode :=
  destinations.foldl (fun rib destination => rib.removeStaticRoute destination (some "Null0")) rib

/-- `_apply_rtbh`. -/
def applyRtbh : RtbhNode Device :=
  if node.rtbhCommunity = "" then node
  else
    { node with
      rib := uninstall (install node.rib (node.wanted.filter fun destination =>
          decide (destination ∉ node.rtbhInstalled)))
        (node.rtbhInstalled.filter fun destination => decide (destination ∉ node.wanted))
      rtbhInstalled := node.wanted }

/-- `set_rtbh_community`. -/
def setRtbhCommunity (community : String) : RtbhNode Device :=
  { node with rtbhCommunity := community }.applyRtbh

end RtbhNode

/-- A device and the static routes that the operator's commands alone would give it. -/
structure RtbhWorld (Device : Type) where
  node : RtbhNode Device := {}
  operator : RibNode := {}

/-- What happens on a device: its best paths change, black-holing is applied, its community
is set, or the operator adds or removes static routes. -/
inductive RtbhEvent (Device : Type) where
  | bestPaths (locRib : List (LocRoute Device))
  | applyRtbh
  | setRtbhCommunity (community : String)
  | addStaticRoute (config : StaticConfig)
  | removeStaticRoute (destination : Prefix) (nextHop : Option String)

/-- Black-holing is applied. -/
def RtbhEvent.applies : RtbhEvent Device → Bool
  | .applyRtbh => true
  | .setRtbhCommunity _ => true
  | _ => false

namespace RtbhWorld

def step (world : RtbhWorld Device) : RtbhEvent Device → RtbhWorld Device
  | .bestPaths locRib => { world with node := { world.node with locRib := locRib } }
  | .applyRtbh => { world with node := world.node.applyRtbh }
  | .setRtbhCommunity community => { world with node := world.node.setRtbhCommunity community }
  | .addStaticRoute config =>
    { node := { world.node with rib := (world.node.rib.addStaticRoute config).1 }
      operator := (world.operator.addStaticRoute config).1 }
  | .removeStaticRoute destination nextHop =>
    { node := { world.node with rib := world.node.rib.removeStaticRoute destination nextHop }
      operator := world.operator.removeStaticRoute destination nextHop }

/-- A device with static routes of the operator and without black holes. -/
def start (routes : List StaticRoute) : RtbhWorld Device where
  node := { rib := ⟨routes⟩ }
  operator := ⟨routes⟩

variable (world : RtbhWorld Device)

/-- Black-hole routes for the best paths with the current community, if there is one. -/
def blackHoles : Finset StaticConfig :=
  if world.node.rtbhCommunity = "" then ∅ else (world.node.wanted.map nullRoute).toFinset

/-- The static routes are the operator's and the black holes. -/
def Exact : Prop := world.node.rib.configured = world.operator.configured ∪ world.blackHoles

/-- No static route of the operator is missing. -/
def KeepsOperator : Prop := world.operator.configured ⊆ world.node.rib.configured

/-- The static routes are the operator's and the black holes that were installed. -/
def Layered : Prop :=
  world.node.rib.configured =
    world.operator.configured ∪ (world.node.rtbhInstalled.map nullRoute).toFinset

/-- Applying black-holing does no harm: without a community nothing is left to remove, a
new black hole replaces no route of the operator, and no route of the operator to `Null0`
goes with an old one. -/
def ApplyHarmless : Prop :=
  if world.node.rtbhCommunity = "" then
    ∀ destination ∈ world.node.rtbhInstalled, nullRoute destination ∈ world.operator.configured
  else
    (∀ destination ∈ world.node.wanted, destination ∉ world.node.rtbhInstalled →
      ¬ Undercuts (nullRoute destination) world.operator.configured) ∧
    ∀ destination ∈ world.node.rtbhInstalled, destination ∉ world.node.wanted →
      ∀ config ∈ world.operator.configured, config.destination = destination →
        config.nextHop ≠ "Null0"

/-- An event does no harm. A command of the operator for a destination with a black hole
must not replace routes or remove those to `Null0`. -/
def Harmless (world : RtbhWorld Device) : RtbhEvent Device → Prop
  | .bestPaths _ => True
  | .applyRtbh => world.ApplyHarmless
  | .setRtbhCommunity community =>
    { world with node := { world.node with rtbhCommunity := community } }.ApplyHarmless
  | .addStaticRoute config => config.destination ∈ world.node.rtbhInstalled →
      (∃ other ∈ world.operator.configured,
        other.destination = config.destination ∧ other.ad ≤ config.ad) ∨
      (1 ≤ config.ad ∧ ∀ other ∈ world.operator.configured, other.destination ≠ config.destination)
  | .removeStaticRoute destination nextHop => destination ∈ world.node.rtbhInstalled →
      ∃ hop, nextHop = some hop ∧ hop ≠ "Null0"

end RtbhWorld

/-! ## Installing and removing -/

namespace RtbhNode

/-- Installing black holes that replace nothing adds them. -/
theorem configured_install {rib : RibNode} {destinations : List Prefix}
    (distinct : destinations.Nodup)
    (gentle : ∀ destination ∈ destinations, ¬ Undercuts (nullRoute destination) rib.configured) :
    (install rib destinations).configured =
      rib.configured ∪ (destinations.map nullRoute).toFinset := by
  induction destinations generalizing rib with
  | nil => simp [install]
  | cons first rest ih =>
    obtain ⟨fresh, restDistinct⟩ := nodup_cons.mp distinct
    have added : (rib.addStaticRoute (nullRoute first)).1.configured =
        insert (nullRoute first) rib.configured :=
      addStaticRoute_of_not_undercuts (gentle first (mem_cons_self ..))
    have later : ∀ destination ∈ rest, ¬ Undercuts (nullRoute destination)
        (rib.addStaticRoute (nullRoute first)).1.configured := by
      intro destination member undercuts
      rw [added] at undercuts
      have apart : first ≠ destination := fun same => fresh (same ▸ member)
      refine gentle destination (mem_cons_of_mem _ member) ⟨?_, ?_⟩
      · obtain ⟨other, inside, same⟩ := undercuts.1
        rcases Finset.mem_insert.mp inside with rfl | old
        · exact absurd same apart
        · exact ⟨other, old, same⟩
      · exact fun other inside => undercuts.2 other (Finset.mem_insert_of_mem inside)
    unfold install at ih ⊢
    rw [foldl_cons, ih restDistinct later, added, map_cons, toFinset_cons,
      Finset.insert_union, Finset.union_insert]

/-- Removing black holes removes every route to `Null0` for their destinations. -/
theorem mem_configured_uninstall {rib : RibNode} {destinations : List Prefix} :
    config ∈ (uninstall rib destinations).configured ↔ config ∈ rib.configured ∧
        (config.destination ∈ destinations → config.nextHop ≠ "Null0") := by
  induction destinations generalizing rib with
  | nil => simp [uninstall]
  | cons first rest ih =>
    have removed : config ∈ (rib.removeStaticRoute first (some "Null0")).configured ↔
        config ∈ rib.configured ∧ (config.destination = first → config.nextHop ≠ "Null0") := by
      simp [removes]
    unfold uninstall at ih ⊢
    rw [foldl_cons, ih, removed, and_assoc, mem_cons]
    refine and_congr_right fun _ => ?_
    constructor
    · rintro ⟨here, later⟩ (same | member)
      · exact here same
      · exact later member
    · exact fun all => ⟨fun same => all (.inl same), fun member => all (.inr member)⟩

end RtbhNode

/-! ## One event -/

namespace RtbhWorld

variable {world : RtbhWorld Device}

theorem mem_holes {installed : List Prefix} : config ∈ (installed.map nullRoute).toFinset ↔
      ∃ destination ∈ installed, nullRoute destination = config := by
  rw [mem_toFinset, mem_map]

/-- A newcomer for a destination without a black hole undercuts the routes of the device
exactly if it undercuts those of the operator. -/
theorem undercuts_iff {operator : Finset StaticConfig} {installed : List Prefix}
    (free : config.destination ∉ installed) :
    Undercuts config (operator ∪ (installed.map nullRoute).toFinset) ↔
      Undercuts config operator := by
  have own : ∀ other ∈ operator ∪ (installed.map nullRoute).toFinset,
      other.destination = config.destination → other ∈ operator := by
    intro other member same
    rcases Finset.mem_union.mp member with inside | hole
    · exact inside
    · obtain ⟨destination, listed, rfl⟩ := mem_holes.mp hole
      exact absurd (same ▸ listed : config.destination ∈ installed) free
  constructor
  · rintro ⟨⟨other, member, same⟩, below⟩
    exact ⟨⟨other, own other member same, same⟩, fun other inside =>
      below other (Finset.mem_union_left _ inside)⟩
  · rintro ⟨⟨other, member, same⟩, below⟩
    exact ⟨⟨other, Finset.mem_union_left _ member, same⟩, fun other inside same =>
      below other (own other inside same) same⟩

/-- Exchanging the installed black holes for the wanted ones leaves the operator's routes
alone, if no new one replaces any and none of them goes with an old one. -/
theorem configured_exchange {rib : RibNode} {operator : Finset StaticConfig}
    {installed wanted : List Prefix} (distinct : wanted.Nodup)
    (layered : rib.configured = operator ∪ (installed.map nullRoute).toFinset)
    (gentle : ∀ destination ∈ wanted, destination ∉ installed →
      ¬ Undercuts (nullRoute destination) operator)
    (spared : ∀ destination ∈ installed, destination ∉ wanted → ∀ config ∈ operator,
      config.destination = destination → config.nextHop ≠ "Null0") :
    (RtbhNode.uninstall
      (RtbhNode.install rib (wanted.filter fun destination => decide (destination ∉ installed)))
      (installed.filter fun destination => decide (destination ∉ wanted))).configured =
        operator ∪ (wanted.map nullRoute).toFinset := by
  have installs := RtbhNode.configured_install
    (distinct.filter fun destination => decide (destination ∉ installed))
    (show ∀ destination ∈ wanted.filter fun destination => decide (destination ∉ installed),
        ¬ Undercuts (nullRoute destination) rib.configured by
      intro destination member
      obtain ⟨isWanted, fresh⟩ := mem_filter.mp member
      have free : destination ∉ installed := of_decide_eq_true fresh
      rw [layered, undercuts_iff free]
      exact gentle destination isWanted free)
  ext config
  rw [RtbhNode.mem_configured_uninstall, installs, layered, Finset.union_assoc, Finset.mem_union,
    Finset.mem_union, Finset.mem_union, mem_holes, mem_holes, mem_holes]
  constructor
  · rintro ⟨own | ⟨destination, listed, rfl⟩ | ⟨destination, listed, rfl⟩, kept⟩
    · exact .inl own
    · -- an old black hole that is left is wanted
      by_cases isWanted : destination ∈ wanted
      · exact .inr ⟨destination, isWanted, rfl⟩
      · exact absurd rfl (kept (mem_filter.mpr ⟨listed, decide_eq_true isWanted⟩))
    · exact .inr ⟨destination, (mem_filter.mp listed).1, rfl⟩
  · rintro (own | ⟨destination, isWanted, rfl⟩)
    · refine ⟨.inl own, fun gone => ?_⟩
      obtain ⟨listed, unwanted⟩ := mem_filter.mp gone
      exact spared _ listed (of_decide_eq_true unwanted) config own rfl
    · refine ⟨?_, fun gone => absurd isWanted (of_decide_eq_true (mem_filter.mp gone).2)⟩
      by_cases listed : destination ∈ installed
      · exact .inr (.inl ⟨destination, listed, rfl⟩)
      · exact .inr (.inr ⟨destination, mem_filter.mpr ⟨isWanted, decide_eq_true listed⟩, rfl⟩)

section

variable (layered : world.Layered)
include layered

/-- When the wanted black holes are installed, the device has the right routes. -/
theorem Layered.exact (named : world.node.rtbhCommunity ≠ "")
    (installed : world.node.rtbhInstalled = world.node.wanted) : world.Exact := by
  unfold Exact blackHoles
  rw [if_neg named, ← installed]
  exact layered

theorem Layered.keepsOperator : world.KeepsOperator := by
  unfold KeepsOperator
  rw [layered]
  exact Finset.subset_union_left

/-- Applying black-holing without harm leaves the operator's routes and the black holes. -/
theorem Layered.apply (harmless : world.ApplyHarmless) :
    (world.step .applyRtbh).Layered ∧ (world.step .applyRtbh).Exact := by
  unfold ApplyHarmless at harmless
  by_cases silent : world.node.rtbhCommunity = ""
  · rw [if_pos silent] at harmless
    have same : world.step .applyRtbh = world := by
      unfold step RtbhNode.applyRtbh
      rw [if_pos silent]
    rw [same]
    refine ⟨layered, ?_⟩
    unfold Exact blackHoles
    rw [if_pos silent, Finset.union_empty, layered]
    refine Finset.union_eq_left.mpr fun config hole => ?_
    obtain ⟨destination, listed, rfl⟩ := mem_holes.mp hole
    exact harmless destination listed
  · rw [if_neg silent] at harmless
    have exchanged := configured_exchange (nodup_dedup _) layered harmless.1 harmless.2
    have after : (world.step .applyRtbh).Layered := by
      unfold step RtbhNode.applyRtbh
      rw [if_neg silent]
      exact exchanged
    have applied : (world.step .applyRtbh).node.rtbhCommunity = world.node.rtbhCommunity ∧
        (world.step .applyRtbh).node.rtbhInstalled = (world.step .applyRtbh).node.wanted := by
      unfold step RtbhNode.applyRtbh
      rw [if_neg silent]
      exact ⟨rfl, rfl⟩
    exact ⟨after, after.exact (applied.1 ▸ silent) applied.2⟩

/-- A new route of the operator that replaces nothing, or that concerns no black hole,
changes the table as it would change the operator's alone. -/
theorem Layered.add (harmless : world.Harmless (.addStaticRoute config)) :
    (world.step (.addStaticRoute config)).Layered := by
  unfold Layered at layered ⊢
  change (world.node.rib.addStaticRoute config).1.configured =
    (world.operator.addStaticRoute config).1.configured ∪ _
  by_cases free : config.destination ∈ world.node.rtbhInstalled
  · obtain ⟨operatorKeeps, deviceKeeps⟩ : ¬ Undercuts config world.operator.configured ∧
        ¬ Undercuts config world.node.rib.configured := by
      rcases harmless free with ⟨other, member, same, notAbove⟩ | ⟨positive, unused⟩
      · have inside : other ∈ world.node.rib.configured :=
          layered ▸ Finset.mem_union_left _ member
        exact ⟨fun undercuts => absurd (undercuts.2 other member same) (not_lt.mpr notAbove),
          fun undercuts => absurd (undercuts.2 other inside same) (not_lt.mpr notAbove)⟩
      · have hole : nullRoute config.destination ∈ world.node.rib.configured :=
          layered ▸ Finset.mem_union_right _ (mem_holes.mpr ⟨_, free, rfl⟩)
        refine ⟨fun undercuts => ?_, fun undercuts =>
          absurd (undercuts.2 _ hole rfl) (not_lt.mpr positive)⟩
        obtain ⟨other, member, same⟩ := undercuts.1
        exact unused other member same
    rw [addStaticRoute_of_not_undercuts deviceKeeps,
      addStaticRoute_of_not_undercuts operatorKeeps, layered, Finset.insert_union]
    rfl
  · have same : Undercuts config (world.operator.configured ∪
        (world.node.rtbhInstalled.map nullRoute).toFinset) ↔
          Undercuts config world.operator.configured := undercuts_iff free
    rw [← layered] at same
    by_cases undercuts : Undercuts config world.operator.configured
    · rw [addStaticRoute_of_undercuts (same.mpr undercuts),
        addStaticRoute_of_undercuts undercuts, layered, Finset.insert_union,
        Finset.filter_union]
      congr 2
      refine Finset.filter_true_of_mem fun other hole => ?_
      obtain ⟨destination, listed, rfl⟩ := mem_holes.mp hole
      exact fun same => free (same ▸ listed)
    · rw [addStaticRoute_of_not_undercuts (same.not.mpr undercuts),
        addStaticRoute_of_not_undercuts undercuts, layered, Finset.insert_union]
      rfl

/-- Routes of the operator are removed from the table as from the operator's alone, if no
black hole goes with them. -/
theorem Layered.remove {destination : Prefix} {nextHop : Option String}
    (harmless : world.Harmless (.removeStaticRoute destination nextHop)) :
    (world.step (.removeStaticRoute destination nextHop)).Layered := by
  unfold Layered at layered ⊢
  change (world.node.rib.removeStaticRoute destination nextHop).configured =
    (world.operator.removeStaticRoute destination nextHop).configured ∪ _
  rw [configured_removeStaticRoute, configured_removeStaticRoute, layered, Finset.filter_union]
  congr 1
  refine Finset.filter_true_of_mem fun config hole => ?_
  obtain ⟨black, listed, rfl⟩ := mem_holes.mp hole
  by_cases here : black = destination
  · subst here
    obtain ⟨hop, rfl, other⟩ := harmless listed
    have apart : ("Null0" == hop) = false := by simpa using other.symm
    simp [removes, nullRoute, apart]
  · simp [removes, nullRoute, here]

/-- A harmless event keeps the table layered; one that applies black-holing makes it
right. -/
theorem Layered.step {event : RtbhEvent Device} (harmless : world.Harmless event) :
    (world.step event).Layered ∧ (event.applies = true → (world.step event).Exact) := by
  cases event with
  | bestPaths locRib => exact ⟨layered, fun applies => by cases applies⟩
  | applyRtbh => exact (layered.apply harmless).imp_right fun exactly _ => exactly
  | setRtbhCommunity community =>
    have renamed : Layered ({ world with node := { world.node with rtbhCommunity := community } } :
          RtbhWorld Device) := layered
    exact (renamed.apply harmless).imp_right fun exactly _ => exactly
  | addStaticRoute config => exact ⟨layered.add harmless, fun applies => by cases applies⟩
  | removeStaticRoute destination nextHop =>
    exact ⟨layered.remove harmless, fun applies => by cases applies⟩

end

theorem layered_start (routes : List StaticRoute) : Layered (start routes : RtbhWorld Device) := by
  unfold Layered start
  simp

/-- In a run of harmless events no static route of the operator is ever missing, and every
time black-holing is applied, the static routes are the operator's and the black holes for
the current community. -/
theorem rtbh_exact (routes : List StaticRoute) (events : List (RtbhEvent Device))
    (harmless : Along step Harmless (start routes) events) :
    Throughout step KeepsOperator (start routes) events ∧
      ∀ front event back, events = front ++ event :: back → event.applies = true →
        Exact (runFrom step (start routes) (front ++ [event])) := by
  constructor
  · have throughout : Throughout step Layered (start routes) events :=
      throughout_of_along (fun _ _ layered gentle => (Layered.step layered gentle).1)
        (layered_start routes) harmless
    exact throughout.weaken fun _ layered => layered.keepsOperator
  · rintro front event back rfl applies
    obtain ⟨before, here, -⟩ := along_append.mp harmless
    have reached : Layered (runFrom step (start routes) front) :=
      invariant_along
        (show ∀ (world : RtbhWorld Device) event, world.Layered → world.Harmless event →
            (world.step event).Layered from
          fun _ _ layered gentle => (layered.step gentle).1)
        (layered_start routes) before
    rw [runFrom_append]
    exact (reached.step here).2 applies

instance decidableApplyHarmless : Decidable world.ApplyHarmless := by
  unfold ApplyHarmless Undercuts
  infer_instance

instance decidableHarmless : ∀ event, Decidable (world.Harmless event)
  | .bestPaths _ => inferInstanceAs (Decidable True)
  | .applyRtbh => inferInstanceAs (Decidable (ApplyHarmless _))
  | .setRtbhCommunity _ => inferInstanceAs (Decidable (ApplyHarmless _))
  | .addStaticRoute _ => inferInstanceAs (Decidable (_ → _ ∨ _ ∧ _))
  | .removeStaticRoute destination (some hop) =>
    decidable_of_iff (destination ∈ world.node.rtbhInstalled → hop ≠ "Null0") (by simp [Harmless])
  | .removeStaticRoute destination none =>
    decidable_of_iff (destination ∉ world.node.rtbhInstalled) (by simp [Harmless])

/-- A destination under attack, and the best path to it with the black-hole community. -/
def victim : Prefix := ⟨"203.0.113.7", 32⟩

def taggedPath : LocRoute String where
  destination := victim
  learnedFrom := "R2"
  route := { nextHop := "R2", communities := ["65000:666"] }

/-- A black hole that comes and goes while the operator configures another destination. -/
def attack : List (RtbhEvent String) :=
  [.setRtbhCommunity "65000:666", .bestPaths [taggedPath], .applyRtbh,
    .addStaticRoute ⟨⟨"10.8.0.0", 16⟩, "10.0.0.1", 1⟩, .bestPaths [], .applyRtbh,
    .setRtbhCommunity ""]

theorem attack_exact : Throughout step KeepsOperator (start []) attack ∧
      ∀ front event back, attack = front ++ event :: back → event.applies = true →
        Exact (runFrom step (start []) (front ++ [event])) :=
  rtbh_exact [] attack (by decide +kernel)

/-- Once the community is cleared the black hole stays, and a black hole displaces a
floating static route of the operator. -/
theorem cleared_hole_remains : ¬ Exact (runFrom step (start [])
        [.bestPaths [taggedPath], .setRtbhCommunity "65000:666", .setRtbhCommunity ""]) ∧
      ¬ KeepsOperator (runFrom step (start [])
        [.addStaticRoute ⟨victim, "10.0.0.1", 200⟩, .bestPaths [taggedPath],
          .setRtbhCommunity "65000:666"]) := by
  unfold Exact KeepsOperator
  decide +kernel

end RtbhWorld

end NetLab.Bgp
