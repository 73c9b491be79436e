import NetLab.Ipv6.Engine
import Mathlib.Data.List.MinMax

/-!
# Longest prefixes and traces

A next hop is to be taken from the longest prefix that contains the destination, connected or
static, and a trace is to end at a device that has the destination. The two tables are searched one
after the other, and a trace ends on the network of the destination, so the first is right exactly
where no static route is longer than the connected network that is found, and the second exactly
for addresses that somebody has or that are on nobody's network.
-/

namespace NetLab.Ipv6

open NetLab.Library List Ipv6Engine

/-- An entry of either table. -/
inductive Entry where
  | connected (network : ConnectedNetwork)
  | static (route : StaticRoute)

namespace Entry

def length : Entry → Nat
  | .connected network => network.length
  | .static route => route.length

def Contains (destAddr : String) : Entry → Prop
  | .connected network => addrInCidr destAddr network.network network.length = true
  | .static route => addrInCidr destAddr route.dest route.length = true

def leadsTo (engine : Ipv6Engine) (device : String) : Entry → Option String × Option String
  | .connected _ => (some device, none)
  | .static route => (engine.findDeviceOwningAddr route.nextHop, some route.nextHop)

end Entry

namespace Ipv6Engine

variable (engine : Ipv6Engine)

/-- Connected networks and static routes together. -/
def entries (device : String) : List Entry :=
  (engine.connected device).map .connected ++ (engine.staticRoutes device).map .static

/-- The next hop is that of an entry which contains the destination, and no entry that contains it
is longer. -/
def SelectsLongest (device destAddr : String) : Prop :=
  (∃ entry ∈ engine.entries device, entry.Contains destAddr ∧
      (∀ other ∈ engine.entries device, other.Contains destAddr → other.length ≤ entry.length) ∧
      engine.resolveNextHop destAddr device = entry.leadsTo engine device) ∨
    (∀ entry ∈ engine.entries device, ¬ entry.Contains destAddr) ∧
      engine.resolveNextHop destAddr device = (none, none)

/-- A trace visits no device twice and no more devices than its limit, and finds the destination
only where a device has it. -/
structure TraceSound (source destAddr : String) (maxHops : Nat) : Prop where
  distinct : (engine.tracePath destAddr source maxHops).visited.Nodup
  bounded : (engine.tracePath destAddr source maxHops).visited.length ≤ maxHops
  owned : (engine.tracePath destAddr source maxHops).reachable = true →
    ∃ device addrs, engine.deviceAddrs.lookup device = some addrs ∧ destAddr ∈ addrs.keys

/-- No static route that contains the destination is longer than every connected network of the
device that contains it, if there is one. -/
def ConnectedLongest (device destAddr : String) : Prop :=
  (∃ network ∈ engine.connected device, addrInCidr destAddr network.network network.length = true) →
    ∃ network ∈ engine.connected device, addrInCidr destAddr network.network network.length = true ∧
        ∀ route ∈ engine.staticRoutes device,
          addrInCidr destAddr route.dest route.length = true → route.length ≤ network.length

def Owned (destAddr : String) : Prop :=
  ∃ device addrs, engine.deviceAddrs.lookup device = some addrs ∧ destAddr ∈ addrs.keys

end Ipv6Engine

/-! ## The longest prefix -/

theorem foldl_keepLonger (destAddr : String) (routes : List StaticRoute) :
    routes.foldl (keepLonger destAddr) none =
      (routes.filter fun route => addrInCidr destAddr route.dest route.length).argmax
        StaticRoute.length := by
  induction routes using List.reverseRecOn with
  | nil => rfl
  | append_singleton routes last ih =>
    rw [foldl_append, foldl_cons, foldl_nil, ih, filter_append]
    unfold keepLonger
    by_cases inside : addrInCidr destAddr last.dest last.length = true
    · rw [filter_singleton, inside, cond_true, argmax_concat]
      cases (routes.filter fun route => addrInCidr destAddr route.dest route.length).argmax
          StaticRoute.length with
      | none => simp
      | some best => by_cases longer : best.length < last.length <;> simp [longer]
    · simp [inside]

theorem exists_greatest {Item : Type} {items : List Item} {property : Item → Prop}
    (value : Item → Nat) (some' : ∃ item ∈ items, property item) :
    ∃ item ∈ items, property item ∧ ∀ other ∈ items, property other → value other ≤ value item := by
  classical
  obtain ⟨item, member, holds⟩ := some'
  cases found : (items.filter fun item => decide (property item)).argmax value with
  | none =>
    have among : item ∈ items.filter fun item => decide (property item) :=
      mem_filter.mpr ⟨member, decide_eq_true holds⟩
    rw [argmax_eq_none.mp found] at among
    cases among
  | some greatest =>
    obtain ⟨inside, good⟩ := mem_filter.mp (argmax_mem found)
    refine ⟨greatest, inside, of_decide_eq_true good, fun other among holds' => ?_⟩
    exact le_of_mem_argmax (mem_filter.mpr ⟨among, decide_eq_true holds'⟩) found

namespace Ipv6Engine

variable {engine : Ipv6Engine} {device destAddr : String}

theorem forall_entries {property : Entry → Prop} :
    (∀ entry ∈ engine.entries device, property entry) ↔
      (∀ network ∈ engine.connected device, property (.connected network)) ∧
        ∀ route ∈ engine.staticRoutes device, property (.static route) := by
  simp only [entries, mem_append, mem_map]
  constructor
  · intro all
    exact ⟨fun network member => all _ (.inl ⟨network, member, rfl⟩),
      fun route member => all _ (.inr ⟨route, member, rfl⟩)⟩
  · rintro ⟨connected, static⟩ entry (⟨network, member, rfl⟩ | ⟨route, member, rfl⟩)
    · exact connected network member
    · exact static route member

theorem resolveNextHop_of_connected (on : ∃ network ∈ engine.connected device,
      addrInCidr destAddr network.network network.length = true) :
    engine.resolveNextHop destAddr device = (some device, none) := by
  unfold resolveNextHop
  rw [if_pos (any_eq_true.mpr on)]

theorem resolveNextHop_of_not_connected (off : ¬ ∃ network ∈ engine.connected device,
      addrInCidr destAddr network.network network.length = true) :
    engine.resolveNextHop destAddr device = match ((engine.staticRoutes device).filter fun route =>
        addrInCidr destAddr route.dest route.length).argmax StaticRoute.length with
      | none => (none, none)
      | some best => (engine.findDeviceOwningAddr best.nextHop, some best.nextHop) := by
  unfold resolveNextHop
  rewrite [if_neg (fun any => off (any_eq_true.mp any)), foldl_keepLonger]
  rfl

/-- The next hop is that of the longest prefix if and only if no static route is longer than the
connected networks. -/
theorem selectsLongest_iff :
    engine.SelectsLongest device destAddr ↔ engine.ConnectedLongest device destAddr := by
  unfold SelectsLongest
  by_cases on : ∃ network ∈ engine.connected device,
      addrInCidr destAddr network.network network.length = true
  · rw [resolveNextHop_of_connected on]
    constructor
    · rintro (⟨entry, member, contains, longest, leads⟩ | ⟨-, same⟩) -
      · cases entry with
        | static route => cases congrArg Prod.snd leads
        | connected network =>
          have among : network ∈ engine.connected device := by
            simpa [entries] using member
          exact ⟨network, among, contains, fun route inside within =>
            (forall_entries.mp longest).2 route inside within⟩
      · cases congrArg Prod.fst same
    · intro longest
      obtain ⟨network, member, contains, above⟩ := longest on
      obtain ⟨greatest, among, within, most⟩ := exists_greatest ConnectedNetwork.length on
      refine .inl ⟨.connected greatest, ?_, within, ?_, rfl⟩
      · exact mem_append_left _ (mem_map_of_mem among)
      · refine forall_entries.mpr ⟨most, fun route inside holds => ?_⟩
        exact (above route inside holds).trans (most network member contains)
  · rw [resolveNextHop_of_not_connected on]
    refine iff_of_true ?_ fun contained => absurd contained on
    cases found : ((engine.staticRoutes device).filter fun route =>
        addrInCidr destAddr route.dest route.length).argmax StaticRoute.length with
    | none =>
      refine .inr ⟨forall_entries.mpr ⟨fun network member contains => ?_,
        fun route member contains => ?_⟩, rfl⟩
      · exact on ⟨network, member, contains⟩
      · have among : route ∈ (engine.staticRoutes device).filter fun route =>
            addrInCidr destAddr route.dest route.length :=
          mem_filter.mpr ⟨member, contains⟩
        rw [argmax_eq_none.mp found] at among
        cases among
    | some best =>
      obtain ⟨inside, contains⟩ := mem_filter.mp (argmax_mem found)
      refine .inl ⟨.static best, ?_, contains, ?_, rfl⟩
      · exact mem_append_right _ (mem_map_of_mem inside)
      · refine forall_entries.mpr ⟨fun network member holds => absurd ⟨network, member, holds⟩ on,
          fun route member holds => ?_⟩
        have among : route ∈ (engine.staticRoutes device).filter fun route =>
            addrInCidr destAddr route.dest route.length :=
          mem_filter.mpr ⟨member, holds⟩
        have shorter : route.length ≤ best.length := le_of_mem_argmax among found
        exact shorter

/-! ## Traces -/

theorem connected_of_arrived {next : String}
    (arrived : engine.resolveNextHop destAddr device = (some next, none)) :
    ∃ network ∈ engine.connected device,
      addrInCidr destAddr network.network network.length = true := by
  by_contra off
  rw [resolveNextHop_of_not_connected off] at arrived
  cases found : ((engine.staticRoutes device).filter fun route =>
      addrInCidr destAddr route.dest route.length).argmax StaticRoute.length with
  | none =>
    rw [found] at arrived
    cases arrived
  | some best =>
    rw [found] at arrived
    cases congrArg Prod.snd arrived

/-- What the loop of a trace keeps. -/
theorem walk_sound (hopsLeft : Nat) : ∀ (visited : List String) (current : String)
    (hops : List Hop), visited.Nodup →
    (engine.walk destAddr hopsLeft visited current hops).visited.Nodup ∧
      (engine.walk destAddr hopsLeft visited current hops).visited.length ≤
        visited.length + hopsLeft ∧
      ((engine.walk destAddr hopsLeft visited current hops).reachable = true →
        ∃ device, ∃ network ∈ engine.connected device,
          addrInCidr destAddr network.network network.length = true) := by
  induction hopsLeft with
  | zero => exact fun visited _ _ distinct => ⟨distinct, le_rfl, nofun⟩
  | succ hopsLeft ih =>
    intro visited current hops distinct
    unfold walk
    by_cases again : current ∈ visited
    · rw [if_pos again]
      exact ⟨distinct, Nat.le_add_right _ _, nofun⟩
    · rw [if_neg again]
      have longer : (visited ++ [current]).Nodup := by
        rw [nodup_append]
        refine ⟨distinct, nodup_singleton _, fun old member new here => ?_⟩
        rw [mem_singleton.mp here]
        exact fun same => again (same ▸ member)
      have size : (visited ++ [current]).length ≤ visited.length + (hopsLeft + 1) := by
        rw [length_append, length_singleton]
        omega
      cases hop : engine.resolveNextHop destAddr current with
      | mk nextDevice nextHop =>
        cases nextDevice with
        | none => exact ⟨longer, size, nofun⟩
        | some next =>
          cases nextHop with
          | none => exact ⟨longer, size, fun _ => ⟨current, connected_of_arrived hop⟩⟩
          | some address =>
            dsimp only
            split
            · obtain ⟨nodup, bound, arrived⟩ :=
                ih (visited ++ [current]) next (hops ++ [⟨current, some address, false⟩]) longer
              refine ⟨nodup, bound.trans ?_, arrived⟩
              rw [length_append, length_singleton]
              omega
            · exact ⟨longer, size, nofun⟩

theorem tracePath_of_connected {maxHops : Nat} (on : ∃ network ∈ engine.connected device,
      addrInCidr destAddr network.network network.length = true) :
    (engine.tracePath destAddr device (maxHops + 1)).reachable = true := by
  unfold tracePath walk
  rw [if_neg not_mem_nil, resolveNextHop_of_connected on]

end Ipv6Engine

/-- For a destination every device selects the longest prefix and every trace is sound, if and only
if no static route to it is longer than the connected networks, and some device has the address or
none is on its network. -/
theorem forwarding_sound_iff (engine : Ipv6Engine) (destAddr : String) :
    ((∀ device, engine.SelectsLongest device destAddr) ∧
        ∀ source maxHops, engine.TraceSound source destAddr maxHops) ↔
      (∀ device, engine.ConnectedLongest device destAddr) ∧
        (engine.Owned destAddr ∨ ∀ device, ∀ network ∈ engine.connected device,
          ¬ addrInCidr destAddr network.network network.length = true) := by
  refine and_congr (forall_congr' fun device => selectsLongest_iff) ?_
  constructor
  · intro sound
    by_contra neither
    obtain ⟨unowned, somewhere⟩ := not_or.mp neither
    push Not at somewhere
    obtain ⟨device, network, member, contains⟩ := somewhere
    exact unowned ((sound device 15).owned (tracePath_of_connected ⟨network, member, contains⟩))
  · intro owned source maxHops
    obtain ⟨distinct, bounded, arrived⟩ :=
      @walk_sound engine destAddr maxHops [] source [] nodup_nil
    refine ⟨distinct, by simpa [tracePath] using bounded, fun reachable => ?_⟩
    obtain ⟨device, network, member, contains⟩ := arrived reachable
    exact owned.resolve_right fun nowhere => nowhere device network member contains

/-- A static route of length 128 loses against a connected network of length 64, and an address that
nobody has is reached on that network. -/
theorem host_route_ignored :
    let engine : Ipv6Engine :=
      { deviceAddrs := OrderedMap.empty.insert "R1" (OrderedMap.empty.insert "2001:db8::1" 64)
        connected := fun device => if device = "R1" then [⟨"2001:db8::", 64⟩] else []
        staticRoutes := fun device => if device = "R1" then [⟨"2001:db8::5", 128, "2001:db8:1::2"⟩]
          else [] }
    ¬ engine.SelectsLongest "R1" "2001:db8::5" ∧ ¬ engine.TraceSound "R1" "2001:db8::5" 15 := by
  intro engine
  have onNetwork : addrInCidr "2001:db8::5" "2001:db8::" 64 = true := by decide +kernel
  have onHost : addrInCidr "2001:db8::5" "2001:db8::5" 128 = true := by decide +kernel
  have on : ∃ network ∈ engine.connected "R1",
      addrInCidr "2001:db8::5" network.network network.length = true :=
    ⟨⟨"2001:db8::", 64⟩, mem_cons_self, onNetwork⟩
  constructor
  · rw [selectsLongest_iff]
    intro longest
    obtain ⟨network, member, -, above⟩ := longest on
    obtain rfl := mem_singleton.mp member
    have short := above ⟨"2001:db8::5", 128, "2001:db8:1::2"⟩ mem_cons_self onHost
    exact absurd short (by decide)
  · intro sound
    obtain ⟨device, addrs, held, has⟩ := sound.owned (tracePath_of_connected on)
    have single : (device, addrs) ∈ engine.deviceAddrs.entries := OrderedMap.mem_entries_iff.mpr held
    obtain ⟨rfl, rfl⟩ := Prod.mk.inj (mem_singleton.mp single)
    exact absurd has (by decide)

end NetLab.Ipv6
