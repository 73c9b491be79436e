import NetLab.Icmp.Soundness
import NetLab.Network.Addresses
import NetLab.Rib.Redistribution

/-!
# Forwarding table

`_fib_entries` enters the networks and addresses of the interfaces first and the best
routes after them, each unless its prefix is there already. `mirrors_iff` says when the
longest match in it is the longest match among the best routes. TCAM usage and the
adjacency table are left out.
-/

namespace NetLab.Cef

open List

open NetLab.Library NetLab.Network NetLab.Rib NetLab.Icmp

variable {interfaces : List (String × Iface)}

/-- Next hop of an entry. -/
inductive FibHop where
  | attached
  | receive
  | via (nextHop : String)
deriving DecidableEq

/-- Kind of an entry; a best route keeps its source. -/
inductive FibKind where
  | attached
  | receive
  | route (source : RouteSource)
deriving DecidableEq

/-- An entry of the forwarding table. -/
structure FibEntry where
  destination : Prefix
  nextHop : FibHop
  iface : String
  kind : FibKind
deriving DecidableEq

/-- The network that an interface is on. -/
def networkOf (iface : Iface) : Prefix :=
  ⟨dotted (Bgp.addressValue iface.ip &&& prefixMask iface.length), iface.length⟩

/-- The entries for an interface: its network, and its own address. -/
def ifaceEntries (name : String) (iface : Iface) : List FibEntry :=
  [{ destination := networkOf iface, nextHop := .attached, iface := name, kind := .attached },
    { destination := ⟨iface.ip, 32⟩, nextHop := .receive, iface := name, kind := .receive }]

/-- Next hop that is entered for a best route: none for a connected one. -/
def hopOf (route : Candidate) : FibHop :=
  if unspecified route.nextHop then .attached else .via route.nextHop

def routeEntry (route : Candidate) : FibEntry :=
  { destination := route.destination
    nextHop := hopOf route
    iface := route.iface
    kind := .route route.source }

/-- Enter an entry unless its prefix is there already. -/
def enter (entries : List FibEntry) (entry : FibEntry) : List FibEntry :=
  if entries.any fun other => decide (other.destination = entry.destination) then entries
  else entries ++ [entry]

/-- Enter an interface, if it has an address; a length over 32 raises, as the mask would
be shifted by a negative number. -/
def enterIface (entries : List FibEntry) (interface : String × Iface) : Option (List FibEntry) :=
  if interface.2.ip = "" then some entries
  else if 32 < interface.2.length then none
  else some ((ifaceEntries interface.1 interface.2).foldl enter entries)

/-- `_fib_entries`. -/
def fibEntries (emulator : Emulator) (device : String) : Option (List FibEntry) := do
  let attached ← (emulator.info device).interfaces.entries.foldlM enterIface []
  return (emulator.getBestRoutes device).foldl
    (fun entries route => enter entries (routeEntry route)) attached

/-! ## What the table mirrors -/

def on (destIp : String) (network : Prefix) : Bool :=
  ipInNetwork destIp network.network network.length

def longestEntry (entries : List FibEntry) (destIp : String) : Option FibEntry :=
  (entries.filter fun entry => on destIp entry.destination).argmax fun entry =>
    entry.destination.length

def SameMatch : Option FibEntry → Option Candidate → Prop
  | none, none => True
  | some entry, some route => entry.destination = route.destination ∧ entry.nextHop = hopOf route
  | _, _ => False

section Mirror

variable (emulator : Emulator) (device : String)

def addressed : List (String × Iface) :=
  (emulator.info device).interfaces.entries.filter fun interface => decide (interface.2.ip ≠ "")

/-- An address that can be read, other than those of the device. -/
structure Foreign (destIp : String) : Prop where
  parsed : (ipToInt destIp).isSome
  other : ∀ interface ∈ addressed emulator device, on destIp ⟨interface.2.ip, 32⟩ = false

/-- The table can be built, and for each foreign destination it has the match that the
device forwards by. -/
def Mirrors : Prop :=
  ∃ entries, fibEntries emulator device = some entries ∧ ∀ destIp, Foreign emulator device destIp →
      SameMatch (longestEntry entries destIp) (matchedRoute emulator device destIp)

/-- No network of an interface and no best route is a longer match for a destination on a
network. -/
structure Longest (network : Prefix) (destIp : String) : Prop where
  here : on destIp network = true
  interfaces : ∀ interface ∈ addressed emulator device,
    on destIp (networkOf interface.2) = true → interface.2.length ≤ network.length
  routes : ∀ route ∈ emulator.getBestRoutes device,
    on destIp route.destination = true → route.destination.length ≤ network.length

/-- The first best route to a network, however its address is written. -/
def routeTo (network : Prefix) : Option Candidate :=
  (emulator.getBestRoutes device).find? fun route =>
    decide (route.destination.length = network.length) &&
      on network.network ⟨route.destination.network, network.length⟩

/-- The lengths are possible, and to every network of an interface, unless all foreign
destinations on it have longer matches, the first best route is a connected one under the
network's own address. -/
structure Connected : Prop where
  lengths : ∀ interface ∈ addressed emulator device, interface.2.length ≤ 32
  routes : ∀ interface ∈ addressed emulator device, (∃ destIp, Foreign emulator device destIp ∧
      Longest emulator device (networkOf interface.2) destIp) →
    ∃ route, routeTo emulator device (networkOf interface.2) = some route ∧
      route.destination = networkOf interface.2 ∧ unspecified route.nextHop = true

end Mirror

/-! ## Networks of interfaces -/

theorem ipToInt_ribDotted {address : Nat} (small : address < 2 ^ 32) :
    ipToInt (Rib.dotted address) = some address := by
  have spelled : Rib.dotted address = Library.dotted [address >>> 24 &&& 0xff,
      address >>> 16 &&& 0xff, address >>> 8 &&& 0xff, address >>> 0 &&& 0xff] := by
    rw [← String.toList_inj]
    simp [Rib.dotted, Library.dotted, joinDots, numeral, List.intercalate, Nat.toString_eq_repr]
  rw [spelled, ipToInt_dotted, join_octets small]

theorem addressValue_dotted (a b c d : Nat) : Bgp.addressValue (Library.dotted [a, b, c, d]) =
    (a <<< 24) + (b <<< 16) + (c <<< 8) + d := by
  unfold Bgp.addressValue
  rw [mapM_toNat?_dotted (cons_ne_nil _ _)]
  simp [List.zipIdx]
  omega

theorem ipToInt_networkOf (iface : Iface) : ipToInt (networkOf iface).network =
    some (Bgp.addressValue iface.ip &&& prefixMask iface.length) := by
  refine ipToInt_ribDotted (Nat.lt_succ_of_le ?_)
  exact Nat.and_le_right.trans Nat.and_le_right

variable {network : Prefix} {entries : List FibEntry}

theorem on_iff {destIp : String} : on destIp network = true ↔
    ∃ address base, ipToInt destIp = some address ∧ ipToInt network.network = some base ∧
      network.length ≤ 32 ∧
      address &&& prefixMask network.length = base &&& prefixMask network.length := by
  unfold on ipInNetwork
  cases ipToInt destIp with
  | none => simp
  | some address =>
    cases ipToInt network.network with
    | none => simp
    | some base => simp

theorem on_eq_of_on {destIp : String} (here : on destIp network = true) (other : String) :
    on destIp ⟨other, network.length⟩ = on network.network ⟨other, network.length⟩ := by
  obtain ⟨address, base, readAddress, readBase, -, same⟩ := on_iff.mp here
  unfold on ipInNetwork
  rw [readAddress, readBase]
  cases ipToInt other with
  | none => rfl
  | some value =>
    dsimp only
    rw [same]

theorem networkOf_eq {first second : Iface} {destIp : String}
    (onFirst : on destIp (networkOf first) = true) (onSecond : on destIp (networkOf second) = true)
    (same : first.length = second.length) : networkOf first = networkOf second := by
  obtain ⟨address, base, read, readBase, -, equal⟩ := on_iff.mp onFirst
  obtain ⟨address', base', read', readBase', -, equal'⟩ := on_iff.mp onSecond
  rw [read] at read'
  rw [ipToInt_networkOf] at readBase readBase'
  obtain rfl := Option.some.inj read'
  obtain rfl := Option.some.inj readBase
  obtain rfl := Option.some.inj readBase'
  simp only [networkOf, Nat.and_assoc, Nat.and_self, ← same] at equal equal' ⊢
  rw [← equal, ← equal']

section Entries

variable {emulator : Emulator} {device : String}

theorem foldlM_enterIface
    (lengths : ∀ interface ∈ interfaces, interface.2.ip ≠ "" → interface.2.length ≤ 32) :
    interfaces.foldlM enterIface entries =
      some (((interfaces.filter fun interface => decide (interface.2.ip ≠ "")).flatMap
        fun interface => ifaceEntries interface.1 interface.2).foldl enter entries) := by
  induction interfaces generalizing entries with
  | nil => rfl
  | cons interface rest ih =>
    have later := fun entries => @ih entries fun other member =>
      lengths other (mem_cons_of_mem _ member)
    rw [foldlM_cons]
    unfold enterIface
    by_cases unset : interface.2.ip = ""
    · rw [if_pos unset, filter_cons, if_neg (by simp [unset])]
      exact later entries
    · have possible := lengths interface (mem_cons_self ..) unset
      rw [if_neg unset, if_neg (not_lt.mpr possible), filter_cons, if_pos (by simp [unset]),
        flatMap_cons, foldl_append]
      exact later _

theorem lengths_of_foldlM_enterIface {result : List FibEntry}
    (entered : interfaces.foldlM enterIface entries = some result) :
    ∀ interface ∈ interfaces, interface.2.ip ≠ "" → interface.2.length ≤ 32 := by
  induction interfaces generalizing entries with
  | nil => nofun
  | cons interface rest ih =>
    rw [foldlM_cons] at entered
    obtain ⟨between, first, others⟩ := Option.bind_eq_some_iff.mp entered
    rintro other member set
    rcases mem_cons.mp member with rfl | later
    · unfold enterIface at first
      rw [if_neg set] at first
      by_contra long
      rw [if_pos (not_le.mp long)] at first
      cases first
    · exact ih others other later set

/-- The table is built exactly if the lengths are possible. -/
theorem fibEntries_eq_some_iff : fibEntries emulator device = some entries ↔
      (∀ interface ∈ addressed emulator device, interface.2.length ≤ 32) ∧
        entries = ((addressed emulator device).flatMap
            (fun interface => ifaceEntries interface.1 interface.2) ++
          (emulator.getBestRoutes device).map routeEntry).foldl
            (enterFirst FibEntry.destination) [] := by
  have lengths : (∀ interface ∈ addressed emulator device, interface.2.length ≤ 32) ↔
      ∀ interface ∈ (emulator.info device).interfaces.entries, interface.2.ip ≠ "" →
        interface.2.length ≤ 32 := by
    unfold addressed
    simp only [mem_filter, decide_eq_true_eq, and_imp]
  rw [foldl_append, foldl_map]
  constructor
  · intro built
    obtain ⟨attached, entered, rest⟩ := Option.bind_eq_some_iff.mp built
    have possible := lengths_of_foldlM_enterIface entered
    rw [foldlM_enterIface possible] at entered
    obtain rfl := Option.some.inj entered
    exact ⟨lengths.mpr possible, (Option.some.inj rest).symm⟩
  · rintro ⟨possible, rfl⟩
    unfold fibEntries
    rw [foldlM_enterIface (lengths.mp possible)]
    rfl

def longestIface (emulator : Emulator) (device destIp : String) : Option (String × Iface) :=
  ((addressed emulator device).filter fun interface =>
    on destIp (networkOf interface.2)).argmax fun interface => interface.2.length

def attachedEntry (interface : String × Iface) : FibEntry :=
  { destination := networkOf interface.2
    nextHop := .attached
    iface := interface.1
    kind := .attached }

theorem filter_ifaceEntries {destIp : String}
    (other : ∀ interface ∈ interfaces, on destIp ⟨interface.2.ip, 32⟩ = false) :
    (interfaces.flatMap fun interface => ifaceEntries interface.1 interface.2).filter
        (fun entry => on destIp entry.destination) =
      (interfaces.filter fun interface => on destIp (networkOf interface.2)).map attachedEntry := by
  induction interfaces with
  | nil => rfl
  | cons interface rest ih =>
    have own := other interface (mem_cons_self ..)
    rw [flatMap_cons, filter_append,
      ih fun later member => other later (mem_cons_of_mem _ member), filter_cons]
    unfold ifaceEntries
    rw [filter_cons, filter_cons, own, filter_nil]
    cases on destIp (networkOf interface.2) with
    | false => rfl
    | true => rfl

/-- The longest entry for a foreign destination: that of an interface network, unless a
best route is longer. -/
theorem longestEntry_eq {destIp : String} {entries : List FibEntry}
    (built : fibEntries emulator device = some entries) (foreign : Foreign emulator device destIp) :
    longestEntry entries destIp =
      match longestIface emulator device destIp, longestRoute emulator device destIp with
      | none, route => route.map routeEntry
      | some interface, none => some (attachedEntry interface)
      | some interface, some route =>
        if interface.2.length < route.destination.length then some (routeEntry route)
        else some (attachedEntry interface) := by
  obtain ⟨-, rfl⟩ := fibEntries_eq_some_iff.mp built
  have first := argmax_foldl_enterFirst FibEntry.destination (on destIp) Prefix.length
    ((addressed emulator device).flatMap (fun interface => ifaceEntries interface.1 interface.2) ++
      (emulator.getBestRoutes device).map routeEntry)
  unfold longestEntry
  refine Eq.trans first ?_
  have attached := filter_ifaceEntries foreign.other
  have routes : ((emulator.getBestRoutes device).map routeEntry).filter
      (fun entry => on destIp entry.destination) =
      ((emulator.getBestRoutes device).filter fun route => on destIp route.destination).map
        routeEntry := by
    rw [filter_map]
    rfl
  have ofIface : (((addressed emulator device).filter fun interface =>
      on destIp (networkOf interface.2)).map attachedEntry).argmax
        (Prefix.length ∘ FibEntry.destination) =
      (longestIface emulator device destIp).map attachedEntry := argmax_map ..
  have ofRoute : (((emulator.getBestRoutes device).filter fun route =>
      on destIp route.destination).map routeEntry).argmax (Prefix.length ∘ FibEntry.destination) =
      (longestRoute emulator device destIp).map routeEntry := argmax_map ..
  rw [filter_append]
  unfold Function.comp at ofIface ofRoute ⊢
  rw [attached, routes, argmax_append, ofIface, ofRoute]
  cases longestIface emulator device destIp with
  | none => rfl
  | some interface =>
    cases longestRoute emulator device destIp with
    | none => rfl
    | some route => rfl

end Entries

/-! ## When the table mirrors the routes -/

section Mirrors

variable {emulator : Emulator} {device destIp : String}

theorem hopOf_eq_attached_iff {route : Candidate} :
    hopOf route = .attached ↔ unspecified route.nextHop = true := by
  unfold hopOf
  split <;> simp_all

theorem sameMatch_routeEntry (route : Option Candidate) :
    SameMatch (route.map routeEntry) route := by
  cases route with
  | none => trivial
  | some route => exact ⟨rfl, rfl⟩

/-- The longest route to a destination, when it is as long as a network of it, is the first
to that network. -/
theorem routeTo_eq {route : Candidate} (here : on destIp network = true)
    (found : longestRoute emulator device destIp = some route)
    (same : route.destination.length = network.length) :
    routeTo emulator device network = some route := by
  have first := find?_of_argmax found
  rw [find?_filter] at first
  rw [← first]
  unfold routeTo
  refine congrArg (List.find? · _) (funext fun other => ?_)
  rw [same]
  by_cases long : other.destination.length = network.length
  · have agrees := on_eq_of_on here other.destination.network
    rw [← agrees]
    unfold on
    simp [long]
  · simp [long]

/-- A network that is the longest match of a destination has the longest of all interface
networks that match. -/
theorem longestIface_of_longest {interface : String × Iface}
    (member : interface ∈ addressed emulator device)
    (longest : Longest emulator device (networkOf interface.2) destIp) :
    ∃ chosen, longestIface emulator device destIp = some chosen ∧
      networkOf chosen.2 = networkOf interface.2 := by
  have among : interface ∈ (addressed emulator device).filter fun other =>
      on destIp (networkOf other.2) := mem_filter.mpr ⟨member, longest.here⟩
  cases found : longestIface emulator device destIp with
  | none =>
    rw [argmax_eq_none.mp found] at among
    cases among
  | some chosen =>
    obtain ⟨present, matching⟩ := mem_filter.mp (argmax_mem found)
    have atLeast := le_of_mem_argmax among found
    have atMost := longest.interfaces chosen present matching
    exact ⟨chosen, rfl, networkOf_eq matching longest.here (le_antisymm atMost atLeast)⟩

theorem longest_of_longestIface {interface : String × Iface}
    (found : longestIface emulator device destIp = some interface)
    (routes : ∀ route ∈ emulator.getBestRoutes device, on destIp route.destination = true →
      route.destination.length ≤ interface.2.length) :
    Longest emulator device (networkOf interface.2) destIp where
  here := (mem_filter.mp (argmax_mem found)).2
  interfaces other member matching := by
    have among : other ∈ (addressed emulator device).filter fun interface =>
        on destIp (networkOf interface.2) := mem_filter.mpr ⟨member, matching⟩
    have atMost := le_of_mem_argmax among found
    exact atMost
  routes := routes

/-- The forwarding table mirrors the best routes exactly if every interface network that is
the longest match of a foreign destination has its connected route. -/
theorem mirrors_iff (emulator : Emulator) (device : String) :
    Mirrors emulator device ↔ Connected emulator device := by
  constructor
  · rintro ⟨entries, built, mirrored⟩
    refine ⟨(fibEntries_eq_some_iff.mp built).1, ?_⟩
    rintro interface member ⟨destIp, foreign, longest⟩
    obtain ⟨chosen, found, network⟩ := longestIface_of_longest member longest
    have same := mirrored destIp foreign
    rw [longestEntry_eq built foreign, matchedRoute_eq foreign.parsed, found] at same
    cases best : longestRoute emulator device destIp with
    | none =>
      rw [best] at same
      exact same.elim
    | some route =>
      rw [best] at same
      obtain ⟨present, matching⟩ := mem_filter.mp (argmax_mem best)
      have length : chosen.2.length = interface.2.length := congrArg Prefix.length network
      have notLonger := longest.routes route present matching
      dsimp only at same
      rw [if_neg (not_lt.mpr (notLonger.trans length.ge))] at same
      obtain ⟨destination, hop⟩ := same
      have connected : route.destination = networkOf interface.2 := destination.symm.trans network
      exact ⟨route, routeTo_eq longest.here best (congrArg Prefix.length connected), connected,
        hopOf_eq_attached_iff.mp hop.symm⟩
  · intro connected
    refine ⟨_, fibEntries_eq_some_iff.mpr ⟨connected.lengths, rfl⟩, fun destIp foreign => ?_⟩
    rw [longestEntry_eq (fibEntries_eq_some_iff.mpr ⟨connected.lengths, rfl⟩) foreign,
      matchedRoute_eq foreign.parsed]
    cases found : longestIface emulator device destIp with
    | none => exact sameMatch_routeEntry _
    | some interface =>
      obtain ⟨member, matching⟩ := mem_filter.mp (argmax_mem found)
      have connectedRoute : (∀ route ∈ emulator.getBestRoutes device,
          on destIp route.destination = true → route.destination.length ≤ interface.2.length) →
          ∃ route, routeTo emulator device (networkOf interface.2) = some route ∧
            route.destination = networkOf interface.2 ∧ unspecified route.nextHop = true :=
        fun notLonger => connected.routes interface member
          ⟨destIp, foreign, longest_of_longestIface found notLonger⟩
      cases best : longestRoute emulator device destIp with
      | none =>
        have unmatched := filter_eq_nil_iff.mp (argmax_eq_none.mp best)
        obtain ⟨route, first, destination, -⟩ := connectedRoute fun route member matching =>
          absurd matching (unmatched route member)
        refine absurd ?_ (unmatched route (mem_of_find?_eq_some first))
        rw [destination]
        exact matching
      | some route =>
        dsimp only
        split
        case isTrue => exact ⟨rfl, rfl⟩
        case isFalse notLonger =>
            have atMost := not_lt.mp notLonger
            have bound : ∀ other ∈ emulator.getBestRoutes device,
                on destIp other.destination = true →
                  other.destination.length ≤ route.destination.length := by
              intro other present matching
              exact le_of_mem_argmax (f := fun route => route.destination.length)
                (mem_filter.mpr ⟨present, matching⟩) best
            obtain ⟨other, first, destination, noHop⟩ := connectedRoute
              fun other present matching => (bound other present matching).trans atMost
            have atLeast := bound other (mem_of_find?_eq_some first)
              (by rw [destination]; exact matching)
            rw [destination] at atLeast
            have again := routeTo_eq matching best (le_antisymm atMost atLeast)
            obtain rfl := Option.some.inj (again.symm.trans first)
            exact ⟨destination.symm, (hopOf_eq_attached_iff.mpr noHop).symm⟩

end Mirrors

/-- The static entry by which an interface's network is registered. -/
def connectedStatic : StaticRoute :=
  { destination := ⟨"10.0.0.0", 24⟩, nextHop := "0.0.0.0", ad := 0 }

def shutPort : Emulator where
  network :=
    { links := .empty
      interfaceLinks := fun _ _ => none
      linkIfaces := fun _ _ => []
      downInterfaces := fun _ => ["GigabitEthernet0/0"]
      subifVlans := fun _ => []
      vlanPorts := fun _ => []
      deviceIps := .empty }
  deviceIps := OrderedMap.empty.insert "R1"
    { interfaces := OrderedMap.empty.insert "GigabitEthernet0/0" { ip := "10.0.0.1" } }
  rib := OrderedMap.empty.insert "R1" { staticRoutes := [connectedStatic] }

theorem getBestRoutes_shutPort : shutPort.getBestRoutes "R1" = [] := by
  have address : Bgp.addressValue "10.0.0.1" = 0x0a000001 := addressValue_dotted 10 0 0 1
  have base : Bgp.addressValue "10.0.0.0" = 0x0a000000 := addressValue_dotted 10 0 0 0
  have iface : shutPort.ifaceForNetwork "R1" ⟨"10.0.0.0", 24⟩ = "GigabitEthernet0/0" := by
    have entries : (shutPort.info "R1").interfaces.entries =
        [("GigabitEthernet0/0", { ip := "10.0.0.1" })] := rfl
    unfold Emulator.ifaceForNetwork
    rw [entries, base]
    simp [address, prefixMask]
  have leaves : shutPort.exitIface "R1" (shutPort.staticCandidate "R1" connectedStatic) =
      "GigabitEthernet0/0" := by
    have named : (shutPort.staticCandidate "R1" connectedStatic).iface = "GigabitEthernet0/0" :=
      iface
    unfold Emulator.exitIface
    rw [named, if_pos (by decide)]
  have down : shutPort.exitsUp "R1" (shutPort.staticCandidate "R1" connectedStatic) = false := by
    unfold Emulator.exitsUp
    rw [leaves]
    simp [shutPort]
  have none : shutPort.bestCandidates "R1" = [] := by
    have collected : shutPort.bestCandidates "R1" =
        [shutPort.staticCandidate "R1" connectedStatic].filter (shutPort.exitsUp "R1") := rfl
    rw [collected, filter_cons, down]
    rfl
  unfold Emulator.getBestRoutes Emulator.bestRoutes
  rw [none]
  rfl

/-- The shut interface's network stays in the forwarding table. -/
theorem shutPort_not_mirrored : ¬ Mirrors shutPort "R1" := by
  rintro ⟨entries, built, mirrored⟩
  have address : Bgp.addressValue "10.0.0.1" = 0x0a000001 := addressValue_dotted 10 0 0 1
  have own : ipToInt "10.0.0.1" = some 0x0a000001 := ipToInt_dotted 10 0 0 1
  have other : ipToInt "10.0.0.9" = some 0x0a000009 := ipToInt_dotted 10 0 0 9
  have interfaces : addressed shutPort "R1" = [("GigabitEthernet0/0", { ip := "10.0.0.1" })] := by
    decide +kernel
  have foreign : Foreign shutPort "R1" "10.0.0.9" := by
    refine ⟨by rw [other]; rfl, ?_⟩
    rw [interfaces]
    rintro interface member
    obtain rfl := mem_singleton.mp member
    unfold on ipInNetwork
    rw [other, own]
    decide
  have inside : on "10.0.0.9" (networkOf { ip := "10.0.0.1" }) = true := by
    refine on_iff.mpr ⟨_, _, other, ipToInt_networkOf _, by decide, ?_⟩
    rw [address]
    decide
  have chosen : longestIface shutPort "R1" "10.0.0.9" =
      some ("GigabitEthernet0/0", { ip := "10.0.0.1" }) := by
    unfold longestIface
    rw [interfaces, filter_cons, if_pos inside]
    rfl
  have same := mirrored "10.0.0.9" foreign
  rw [longestEntry_eq built foreign, chosen] at same
  unfold longestRoute matchedRoute at same
  rw [getBestRoutes_shutPort] at same
  exact same
end NetLab.Cef
