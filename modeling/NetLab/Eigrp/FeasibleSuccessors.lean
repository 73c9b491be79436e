import NetLab.Eigrp.Termination
import Mathlib.Data.List.Nodup

/-!
# Feasible successors

Feasibility is about what every neighbour last reported, and a table keeps one learned route to a
destination. `tables_exact_iff` says in which runs tables have one entry to each destination, the
direct one if there is one, and in which the successors that they give are all there are.
-/

namespace NetLab.Eigrp

open NetLab.Library NetLab.Network NetLab.Execution List Function EigrpRoute

variable {Device : Type} [DecidableEq Device]

def EigrpNode.feasibleDistance (node : EigrpNode Device) (destination : Prefix) : Option Nat :=
  ((node.topology.filter fun route => route.destination = destination).map fd).min?

/-- Routes to a destination that meet the feasibility condition, but are not the best one. -/
def EigrpNode.feasibleSuccessors (node : EigrpNode Device) (destination : Prefix) :
    List (EigrpRoute Device) :=
  match node.feasibleDistance destination with
  | none => []
  | some bestFd =>
    (node.topology.filter fun route => route.destination = destination).filter fun route =>
      route.rd < bestFd ∧ route.fd > bestFd

/-! ## Reports -/

/-- An update reaches the table of a neighbour. -/
def EigrpWorld.Hears (world : EigrpWorld Device) (receiver source : Device) : Prop :=
  (world.nodes source).enabled = true ∧ receiver ∈ (world.nodes source).neighbors ∧
    (world.updateTo source receiver).isEmpty = false ∧ world.takes receiver source = true ∧
      source ∈ (world.nodes receiver).neighbors

instance (world : EigrpWorld Device) (receiver source : Device) :
    Decidable (world.Hears receiver source) :=
  inferInstanceAs (Decidable (_ ∧ _ ∧ _ ∧ _ ∧ _))

/-- The receiver and the source of the update that a step handles. -/
def EigrpWorld.delivers (world : EigrpWorld Device) : EigrpEvent Device → Option (Device × Device)
  | .proceed =>
    match world.calls with
    | .sendUpdate source (receiver :: _) :: _ =>
      if world.Hears receiver source then some (receiver, source) else none
    | _ => none
  | _ => none

/-- Routers, and beside them the distance that each neighbour last reported for a destination. -/
structure Observed (Device : Type) where
  world : EigrpWorld Device
  reported : Device → Device → Prefix → Option Nat := fun _ _ _ => none

def lastMetrics (known : Prefix → Option Nat) (entries : List EigrpEntry) : Prefix → Option Nat :=
  entries.foldl (fun known entry => Function.update known entry.destination (some entry.metric))
    known

theorem lastMetrics_cons (known : Prefix → Option Nat) (entry : EigrpEntry)
    (rest : List EigrpEntry) : lastMetrics known (entry :: rest) =
      lastMetrics (Function.update known entry.destination (some entry.metric)) rest := rfl

def Observed.step (seen : Observed Device) (event : EigrpEvent Device) : Observed Device where
  world := seen.world.step event
  reported device peer :=
    if peer ∈ ((seen.world.step event).nodes device).neighbors then
      if seen.world.delivers event = some (device, peer) then
        lastMetrics (seen.reported device peer) (seen.world.received device peer)
      else seen.reported device peer
    else fun _ => none

/-- A table has a direct route to the destination. -/
def Connected (topology : List (EigrpRoute Device)) (destination : Prefix) : Prop :=
  ∃ route ∈ topology, route.destination = destination ∧ route.learnedFrom = none

/-- One entry to a destination, and the direct one to each network of the router. -/
structure EigrpNode.Kept (node : EigrpNode Device) : Prop where
  once : (node.topology.map destination).Nodup
  connected : node.enabled = true → ∀ destination ∈ node.networks,
    Connected node.topology destination

def Observed.TablesKept (seen : Observed Device) : Prop :=
  ∀ device, (seen.world.nodes device).Kept

/-- Feasible successors are just the neighbours whose last report is below the feasible distance. -/
def Observed.FeasibleExact (seen : Observed Device) : Prop :=
  ∀ device destination learnedFrom,
    (∃ route ∈ (seen.world.nodes device).feasibleSuccessors destination,
      route.learnedFrom = learnedFrom) ↔
    ∃ peer ∈ (seen.world.nodes device).neighbors, learnedFrom = some peer ∧
      ∃ distance ∈ seen.reported device peer destination,
        ∃ best ∈ (seen.world.nodes device).feasibleDistance destination, distance < best

/-- A start names no network that was learned already. -/
def Observed.StartsFresh (seen : Observed Device) (event : EigrpEvent Device) : Prop :=
  ∀ device asn networks, event = .start device asn networks → seen.world.calls = [] →
    ∀ destination ∈ networks, ∀ route ∈ (seen.world.nodes device).topology,
      route.destination = destination → route.learnedFrom = none

/-- An update lists only networks to which the receiver has a direct route. -/
def Observed.OffersConnected (seen : Observed Device) (event : EigrpEvent Device) : Prop :=
  ∀ receiver source, seen.world.delivers event = some (receiver, source) →
    ∀ entry ∈ seen.world.received receiver source,
      Connected (seen.world.nodes receiver).topology entry.destination

/-! ## Steps -/

variable {world : EigrpWorld Device} {event : EigrpEvent Device}

theorem proceed_nodes_of_update {receiver source : Device} {targets : List Device}
    {rest : List (Call Device)}
    (calls : world.calls = .sendUpdate source (receiver :: targets) :: rest) :
    world.proceed.nodes = if world.Hears receiver source then
        Function.update world.nodes receiver
          { world.nodes receiver with topology := (world.learned receiver source).1 }
      else world.nodes := by
  have sameTakes : ∀ calls, EigrpWorld.takes { world with calls } receiver source =
      world.takes receiver source := fun _ => rfl
  have sameUpdate : ∀ calls, EigrpWorld.updateTo { world with calls } source receiver =
      world.updateTo source receiver := fun _ => rfl
  unfold EigrpWorld.proceed
  rw [calls]
  simp only [EigrpWorld.runCall, EigrpWorld.push, EigrpWorld.receiveUpdate, sameTakes, sameUpdate]
  by_cases enabled : (world.nodes source).enabled = true
  case neg => simp [EigrpWorld.Hears, enabled]
  by_cases target : receiver ∈ (world.nodes source).neighbors
  case neg => simp [EigrpWorld.Hears, enabled, target]
  cases empty : (world.updateTo source receiver).isEmpty
  case true => simp [EigrpWorld.Hears, enabled, target, empty]
  cases takes : world.takes receiver source
  case false => simp [EigrpWorld.Hears, enabled, target, empty, takes]
  by_cases isNeighbor : source ∈ (world.nodes receiver).neighbors
  case neg => simp [EigrpWorld.Hears, enabled, target, empty, takes, isNeighbor]
  simp [EigrpWorld.Hears, enabled, target, empty, takes, isNeighbor]
  rfl

/-- What a step that handles no update does to a router. -/
inductive Change (world : EigrpWorld Device) (event : EigrpEvent Device) (device : Device) :
    EigrpNode Device → Prop where
  | same : Change world event device (world.nodes device)
  | meets (source : Device) : Change world event device
      { world.nodes device with neighbors := (world.nodes device).neighbors ++ [source] }
  | loses (peer : Device) : Change world event device ((world.nodes device).neighborDown peer)
  | shuts : Change world event device (world.nodes device).shutdown
  | starts (asn : Nat) (networks : List Prefix) (isStart : event = .start device asn networks)
      (idle : world.calls = []) :
      Change world event device ((world.nodes device).start asn networks)
  | configures (kValues : List Nat) (passiveIfaces : List String) :
      Change world event device { world.nodes device with kValues, passiveIfaces }

theorem change_of_undelivered (undelivered : world.delivers event = none) (device : Device) :
    Change world event device ((world.step event).nodes device) := by
  have only : ∀ (changed : Device) (node : EigrpNode Device), Change world event changed node →
      Change world event device (Function.update world.nodes changed node device) := by
    intro changed node change
    by_cases same : device = changed
    · subst same
      rwa [update_self]
    · rw [update_of_ne same]
      exact .same
  have waits : ∀ after : EigrpWorld Device,
      (world.calls = [] → Change world event device (after.nodes device)) →
      Change world event device ((if world.calls.isEmpty then after else world).nodes device) := by
    intro after change
    split
    case isTrue idle => exact change (isEmpty_iff.mp idle)
    case isFalse => exact .same
  cases event with
  | proceed =>
    cases calls : world.calls with
    | nil =>
      have stays : world.proceed = world := by simp [EigrpWorld.proceed, calls]
      simp only [EigrpWorld.step, stays]
      exact .same
    | cons call rest =>
      have ran := EigrpWorld.proceed_ran calls
      simp only [EigrpWorld.step]
      generalize after : world.proceed = next at ran ⊢
      cases ran with
      | returns => exact .same
      | helloLeft => exact .same
      | meets source peer peers enabled peerEnabled new => exact only peer _ (.meets source)
      | answers => exact .same
      | updateLeft => exact .same
      | learns source receiver targets enabled receiverEnabled isNeighbor =>
        have nodes := congrArg EigrpWorld.nodes after
        rw [proceed_nodes_of_update calls] at nodes
        rw [← nodes, if_neg fun hears => by simp [EigrpWorld.delivers, calls, hears] at undelivered]
        exact .same
      | announces => exact .same
      | loses owner peer isNeighbor => exact only owner _ (.loses peer)
      | shuts owner => exact only owner _ .shuts
  | start owner asn networks =>
    exact waits _ fun idle => only owner _ (.starts asn networks rfl idle)
  | interfaceDown owner peers =>
    refine waits _ fun _ => ?_
    simp only [EigrpWorld.handle]
    split <;> exact .same
  | interfaceUp owner peers =>
    refine waits _ fun _ => ?_
    simp only [EigrpWorld.handle]
    split <;> exact .same
  | setKValues owner kValues =>
    exact waits _ fun _ => only owner _ (.configures kValues (world.nodes owner).passiveIfaces)
  | setPassive owner ifaces =>
    exact waits _ fun _ => only owner _ (.configures (world.nodes owner).kValues ifaces)
  | _ => exact waits _ fun _ => .same

theorem step_of_delivers {receiver source : Device}
    (delivered : world.delivers event = some (receiver, source)) :
    (world.step event).nodes = Function.update world.nodes receiver
      { world.nodes receiver with topology := (world.learned receiver source).1 } := by
  cases event with
  | proceed =>
    simp only [EigrpWorld.delivers] at delivered
    split at delivered
    case h_1 sender target targets rest calls =>
      split at delivered
      case isTrue hears =>
        obtain ⟨rfl, rfl⟩ := Prod.mk.inj (Option.some.inj delivered)
        exact (proceed_nodes_of_update calls).trans (if_pos hears)
      case isFalse => cases delivered
    case h_2 => cases delivered
  | _ => cases delivered

/-! ## One entry to a destination -/

variable {nextHop : NextHop Device} {source : Device} {topology : List (EigrpRoute Device)}

theorem once_receiveEntry (once : (topology.map destination).Nodup) (entry : EigrpEntry) :
    ((receiveEntry nextHop source entry topology).1.map destination).Nodup := by
  suffices listed : (receiveEntry nextHop source entry topology).1.map destination =
      if entry.destination ∈ topology.map destination then
        topology.map destination
      else topology.map destination ++ [entry.destination] by
    rw [listed]
    split
    · exact once
    · rename_i new
      refine nodup_append.mpr ⟨once, nodup_singleton _, ?_⟩
      exact fun before isBefore other isOther same =>
        new (mem_singleton.mp isOther ▸ same ▸ isBefore)
  clear once
  induction topology with
  | nil => rfl
  | cons existing rest ih =>
    unfold receiveEntry
    by_cases same : existing.destination = entry.destination
    · rw [if_pos same]
      dsimp only
      split <;> simp [same, offeredRoute]
    · rw [if_neg same]
      have different : entry.destination ≠ existing.destination := fun equal => same equal.symm
      simp only [map_cons, ih, mem_cons, different, false_or]
      split <;> rfl

theorem once_receiveEntries (once : (topology.map destination).Nodup) (entries : List EigrpEntry) :
    ((receiveEntries nextHop source topology entries).1.map destination).Nodup := by
  induction entries generalizing topology with
  | nil => exact once
  | cons entry rest ih =>
    rw [receiveEntries_cons]
    exact ih (once_receiveEntry once entry)

theorem Connected.receiveEntries {destination : Prefix} (connected : Connected topology destination)
    (entries : List EigrpEntry) :
    Connected (Eigrp.receiveEntries nextHop source topology entries).1 destination := by
  obtain ⟨route, member, same, direct⟩ := connected
  exact ⟨route, receiveEntries_direct member direct, same, direct⟩

omit [DecidableEq Device] in
theorem Connected.addDirect {destination : Prefix} (connected : Connected topology destination)
    (networks : List Prefix) : Connected (addDirect topology networks) destination := by
  obtain ⟨route, member, found⟩ := connected
  exact ⟨route, addDirect_subset networks member, found⟩

omit [DecidableEq Device] in
theorem addDirect_cons (topology : List (EigrpRoute Device)) (network : Prefix)
    (rest : List Prefix) :
    (Connected topology network ∧ addDirect topology (network :: rest) = addDirect topology rest) ∨
      (¬ Connected topology network ∧ addDirect topology (network :: rest) =
        addDirect (topology ++ [directRoute network]) rest) := by
  have shown : (topology.any fun route =>
      route.destination == network && route.learnedFrom.isNone) = true ↔
        Connected topology network := by
    simp [Connected]
  by_cases connected : Connected topology network
  · exact .inl ⟨connected, by rw [addDirect, foldl_cons, if_pos (shown.mpr connected)]; rfl⟩
  · exact .inr ⟨connected, by
      rw [addDirect, foldl_cons, if_neg fun any => connected (shown.mp any)]; rfl⟩

omit [DecidableEq Device] in
theorem connected_addDirect (topology : List (EigrpRoute Device)) {networks : List Prefix}
    {destination : Prefix} (listed : destination ∈ networks) :
    Connected (addDirect topology networks) destination := by
  induction networks generalizing topology with
  | nil => cases listed
  | cons network rest ih =>
    rcases addDirect_cons topology network rest with ⟨connected, shape⟩ | ⟨-, shape⟩
    · rcases mem_cons.mp listed with rfl | later
      · exact shape ▸ connected.addDirect rest
      · exact shape ▸ ih topology later
    · rcases mem_cons.mp listed with rfl | later
      · refine shape ▸ Connected.addDirect ⟨directRoute destination, ?_, rfl, rfl⟩ rest
        exact mem_append_right _ (mem_singleton.mpr rfl)
      · exact shape ▸ ih _ later

omit [DecidableEq Device] in
theorem once_addDirect (once : (topology.map destination).Nodup) {networks : List Prefix}
    (free : ∀ destination ∈ networks, ∀ route ∈ topology, route.destination = destination →
      route.learnedFrom = none) :
    ((addDirect topology networks).map destination).Nodup := by
  induction networks generalizing topology with
  | nil => exact once
  | cons network rest ih =>
    have later := fun destination (listed : destination ∈ rest) =>
      free destination (mem_cons_of_mem _ listed)
    rcases addDirect_cons topology network rest with ⟨-, shape⟩ | ⟨missing, shape⟩
    · exact shape ▸ ih once later
    · refine shape ▸ ih ?_ fun destination listed route member same => ?_
      · rw [map_append]
        refine nodup_append.mpr ⟨once, nodup_singleton _, ?_⟩
        rintro before isBefore other isOther rfl
        obtain ⟨route, member, rfl⟩ := mem_map.mp isBefore
        have same : route.destination = network := mem_singleton.mp isOther
        exact missing ⟨route, member, same, free network mem_cons_self route member same⟩
      · rcases mem_append.mp member with before | added
        · exact later destination listed route before same
        · exact mem_singleton.mp added ▸ rfl

omit [DecidableEq Device] in
theorem mem_start_networks_iff {node : EigrpNode Device} {destination : Prefix} {asn : Nat}
    {networks : List Prefix} :
    destination ∈ (node.start asn networks).networks ↔
      destination ∈ node.networks ∨ destination ∈ networks := by
  suffices general : ∀ known : List Prefix, destination ∈ networks.foldl (fun known destination =>
      VirtualNetwork.addMember destination known) known ↔
        destination ∈ known ∨ destination ∈ networks from general node.networks
  induction networks with
  | nil => simp
  | cons network rest ih =>
    intro known
    rw [foldl_cons, ih]
    unfold VirtualNetwork.addMember
    split
    · rename_i isKnown
      simp only [mem_cons]
      refine ⟨.imp_right .inr, fun listed => ?_⟩
      rcases listed with known | rfl | later
      · exact .inl known
      · exact .inl isKnown
      · exact .inr later
    · simp [or_assoc]

namespace Observed

variable {seen : Observed Device}

/-- A start doubles an entry exactly if it names a network that was learned. -/
theorem TablesKept.step_iff (kept : seen.TablesKept) (sound : seen.world.Sound)
    (event : EigrpEvent Device) : (seen.step event).TablesKept ↔ seen.StartsFresh event := by
  constructor
  · rintro after device asn networks rfl idle destination listed route member same
    have started : ((seen.step (.start device asn networks)).world.nodes device) =
        (seen.world.nodes device).start asn networks := by
      simp [Observed.step, EigrpWorld.step, idle, EigrpWorld.handle]
    have here : ((seen.world.nodes device).start asn networks).Kept := started ▸ after device
    obtain ⟨direct, isDirect, equal, learned⟩ :=
      here.connected rfl destination (mem_start_networks_iff.mpr (.inr listed))
    have stays := addDirect_subset ((seen.world.nodes device).start asn networks).networks member
    rw [inj_on_of_nodup_map here.once stays isDirect (same.trans equal.symm)]
    exact learned
  · intro fresh device
    have before := kept device
    change ((seen.world.step event).nodes device).Kept
    cases delivered : seen.world.delivers event with
    | some pair =>
      rw [step_of_delivers delivered]
      by_cases same : device = pair.1
      · subst same
        rw [update_self]
        exact ⟨once_receiveEntries before.once _, fun enabled destination listed =>
          (before.connected enabled destination listed).receiveEntries _⟩
      · rw [update_of_ne same]
        exact before
    | none =>
      have change := change_of_undelivered delivered device
      generalize (seen.world.step event).nodes device = after at change ⊢
      cases change with
      | same => exact before
      | meets source => exact { before with }
      | loses peer =>
        refine ⟨before.once.sublist (filter_sublist.map _), fun enabled destination listed => ?_⟩
        obtain ⟨route, member, same, direct⟩ := before.connected enabled destination listed
        exact ⟨route, mem_filter.mpr ⟨member, by simp [direct]⟩, same, direct⟩
      | shuts => exact ⟨nodup_nil, fun enabled => by cases enabled⟩
      | starts asn networks isStart idle =>
        refine ⟨once_addDirect before.once fun destination listed route member same => ?_,
          fun _ destination listed => connected_addDirect _ listed⟩
        have known : destination ∈ ((seen.world.nodes device).start asn networks).networks := listed
        rcases mem_start_networks_iff.mp known with old | new
        · have enabled := (sound device).enabled (ne_nil_of_mem member)
          obtain ⟨direct, isDirect, equal, learned⟩ := before.connected enabled destination old
          rw [inj_on_of_nodup_map before.once member isDirect (same.trans equal.symm)]
          exact learned
        · exact fresh device asn networks isStart idle destination new route member same
      | configures => exact { before with }

/-! ## Last reports -/

/-- Routes of a neighbour carry what it last reported. -/
def Reflects (topology : List (EigrpRoute Device)) (peer : Device) (known : Prefix → Option Nat) :
    Prop :=
  ∀ route ∈ topology, route.learnedFrom = some peer →
    known route.destination = some route.rd ∧ route.fd = route.rd + linkCost

/-- Tables are sound and carry the last reports, and no report is below the least metric. -/
structure Honest (seen : Observed Device) : Prop where
  sound : seen.world.Sound
  reflects : ∀ device peer, Reflects (seen.world.nodes device).topology peer
    (seen.reported device peer)
  least : ∀ device peer destination, ∀ distance ∈ seen.reported device peer destination,
    linkCost ≤ distance

/-- The learned route to the destination of an entry of its own neighbour is the one offered. -/
theorem receiveEntry_own {route : EigrpRoute Device} {entry : EigrpEntry}
    (wellFormed : WellFormed topology)
    (member : route ∈ (receiveEntry nextHop source entry topology).1)
    (learned : route.learnedFrom = some source) (same : route.destination = entry.destination) :
    route = offeredRoute nextHop source entry := by
  have ordered := wellFormed.ordered
  clear wellFormed
  induction topology with
  | nil => exact mem_singleton.mp member
  | cons existing rest ih =>
    obtain ⟨ahead, later⟩ := pairwise_cons.mp ordered
    have elsewhere : existing.destination = entry.destination → route ∉ rest :=
      fun equal isLater => by
        rw [(ahead route isLater (equal.trans same.symm)).2] at learned
        cases learned
    unfold receiveEntry at member
    by_cases equal : existing.destination = entry.destination
    · rw [if_pos equal] at member
      dsimp only at member
      split at member
      · exact (mem_cons.mp member).resolve_right (elsewhere equal)
      · rename_i kept
        obtain rfl := (mem_cons.mp member).resolve_right (elsewhere equal)
        by_contra different
        exact kept (by simp [accepts, learned, different])
    · rw [if_neg equal] at member
      rcases mem_cons.mp member with rfl | isLater
      · exact absurd same equal
      · exact ih isLater later

theorem Reflects.receiveEntries {known : Prefix → Option Nat} (wellFormed : WellFormed topology)
    (reflects : Reflects topology source known) (entries : List EigrpEntry) :
    Reflects (Eigrp.receiveEntries nextHop source topology entries).1 source
      (lastMetrics known entries) := by
  induction entries generalizing topology known with
  | nil => exact reflects
  | cons entry rest ih =>
    rw [receiveEntries_cons, lastMetrics_cons]
    refine ih (wellFormed.receiveEntry entry) fun route member learned => ?_
    by_cases same : route.destination = entry.destination
    · rw [receiveEntry_own wellFormed member learned same]
      simp [offeredRoute]
    · rw [update_of_ne same]
      rcases mem_receiveEntry member with before | rfl
      · exact reflects route before learned
      · exact absurd rfl same

theorem lastMetrics_cases {known : Prefix → Option Nat} {entries : List EigrpEntry}
    {destination : Prefix} {distance : Nat}
    (found : lastMetrics known entries destination = some distance) :
    known destination = some distance ∨ ∃ entry ∈ entries, entry.metric = distance := by
  induction entries generalizing known with
  | nil => exact .inl found
  | cons entry rest ih =>
    rw [lastMetrics_cons] at found
    rcases ih found with before | ⟨later, isLater, same⟩
    · by_cases equal : destination = entry.destination
      · rw [equal, update_self] at before
        exact .inr ⟨entry, mem_cons_self, Option.some.inj before⟩
      · rw [update_of_ne equal] at before
        exact .inl before
    · exact .inr ⟨later, mem_cons_of_mem _ isLater, same⟩

theorem mem_of_change {device : Device} {after : EigrpNode Device} {route : EigrpRoute Device}
    (change : Change world event device after) (member : route ∈ after.topology)
    (learned : route.learnedFrom ≠ none) : route ∈ (world.nodes device).topology := by
  cases change with
  | same => exact member
  | meets source => exact member
  | loses peer => exact (mem_filter.mp member).1
  | shuts => cases member
  | starts asn networks isStart idle =>
    rcases mem_addDirect member with before | ⟨destination, _, rfl⟩
    · exact before
    · exact absurd rfl learned
  | configures => exact member

theorem Honest.step (honest : seen.Honest) (event : EigrpEvent Device) :
    (seen.step event).Honest := by
  refine ⟨honest.sound.step event, fun device peer route member learned => ?_,
    fun device peer destination distance found => ?_⟩
  · have isNeighbor := (honest.sound.step event device).adjacent route member peer learned
    have before := honest.reflects device peer
    simp only [Observed.step, if_pos isNeighbor]
    cases delivered : seen.world.delivers event with
    | none =>
      rw [if_neg (by simp)]
      exact before route (mem_of_change (change_of_undelivered delivered device) member
        (by simp [learned])) learned
    | some pair =>
      obtain ⟨receiver, source⟩ := pair
      simp only [Observed.step, step_of_delivers delivered] at member
      by_cases isReceiver : device = receiver
      · subst isReceiver
        rw [update_self] at member
        by_cases isSource : peer = source
        · subst isSource
          rw [if_pos rfl]
          exact before.receiveEntries (honest.sound device).wellFormed _ route member learned
        · rw [if_neg (by simp [Ne.symm isSource])]
          rcases mem_receiveEntries member with old | ⟨entry, _, rfl⟩
          · exact before route old learned
          · exact absurd (Option.some.inj learned).symm isSource
      · rw [if_neg (by simp [Ne.symm isReceiver])]
        rw [update_of_ne isReceiver] at member
        exact before route member learned
  · simp only [Observed.step] at found
    split at found
    case isFalse => cases found
    case isTrue =>
      split at found
      case isFalse => exact honest.least device peer destination distance found
      case isTrue =>
        rcases lastMetrics_cases found with before | ⟨entry, listed, rfl⟩
        · exact honest.least device peer destination distance before
        · have redistributing := fun device => (honest.sound device).notRedistributing
          obtain ⟨⟨route, member, -, rfl⟩, -⟩ := (mem_received redistributing).mp listed
          exact (honest.sound peer).wellFormed.least route member

/-! ## Exactness -/

/-- Every entry is for a network of the router itself. -/
def Covered (seen : Observed Device) : Prop :=
  ∀ device, ∀ route ∈ (seen.world.nodes device).topology,
    Connected (seen.world.nodes device).topology route.destination

omit [DecidableEq Device] in
/-- Where all routes are direct, no neighbour is nearer. Any other table has a best route that was
learned, from a neighbour that is below it and is left out. -/
theorem Honest.feasibleExact_iff (honest : seen.Honest) : seen.FeasibleExact ↔ seen.Covered := by
  constructor
  · intro exact device route member
    by_contra missing
    have listed : (seen.world.nodes device).feasibleDistance route.destination ≠ none := by
      simp only [EigrpNode.feasibleDistance, ne_eq, min?_eq_none_iff, map_eq_nil_iff]
      exact ne_nil_of_mem (mem_filter.mpr ⟨member, by simp⟩)
    obtain ⟨best, isBest⟩ := Option.ne_none_iff_exists'.mp listed
    obtain ⟨least, isLeast, rfl⟩ := mem_map.mp (min?_eq_some_iff.mp isBest).1
    obtain ⟨isRoute, same⟩ := mem_filter.mp isLeast
    have same : least.destination = route.destination := by simpa using same
    cases learned : least.learnedFrom with
    | none => exact missing ⟨least, isRoute, same, learned⟩
    | some peer =>
      obtain ⟨report, sum⟩ := honest.reflects device peer least isRoute learned
      obtain ⟨other, isOther, from'⟩ := (exact device route.destination (some peer)).mpr
        ⟨peer, (honest.sound device).adjacent least isRoute peer learned, rfl, least.rd,
          same ▸ report, least.fd, isBest, by rw [sum]; exact Nat.lt_add_of_pos_right (by decide)⟩
      simp only [EigrpNode.feasibleSuccessors, isBest, mem_filter, decide_eq_true_eq] at isOther
      obtain ⟨⟨there, equal⟩, -, longer⟩ := isOther
      have unique := (honest.sound device).wellFormed.learned_unique there isRoute
        (equal.trans same.symm) (by simp [from']) (by simp [learned])
      exact absurd longer (by simp [unique])
  · intro covered device destination learnedFrom
    have bestIs : ∀ best, (seen.world.nodes device).feasibleDistance destination = some best →
        best = linkCost := by
      intro best isBest
      obtain ⟨attained, below⟩ := min?_eq_some_iff.mp isBest
      obtain ⟨least, isLeast, rfl⟩ := mem_map.mp attained
      obtain ⟨isRoute, same⟩ := mem_filter.mp isLeast
      obtain ⟨direct, isDirect, equal, none⟩ := covered device least isRoute
      refine Nat.le_antisymm ?_ ((honest.sound device).wellFormed.least least isRoute)
      rw [← (honest.sound device).wellFormed.direct direct isDirect none]
      refine below _ (mem_map_of_mem (mem_filter.mpr ⟨isDirect, ?_⟩))
      simpa [equal] using same
    refine iff_of_false ?_ ?_
    · rintro ⟨route, isRoute, rfl⟩
      unfold EigrpNode.feasibleSuccessors at isRoute
      cases found : (seen.world.nodes device).feasibleDistance destination with
      | none => simp [found] at isRoute
      | some best =>
        obtain rfl := bestIs best found
        simp only [found, mem_filter, decide_eq_true_eq] at isRoute
        obtain ⟨⟨there, same⟩, below, longer⟩ := isRoute
        cases learned : route.learnedFrom with
        | none => exact absurd longer (by
            simp [(honest.sound device).wellFormed.direct route there learned])
        | some peer =>
          have report := (honest.reflects device peer route there learned).1
          exact absurd below (Nat.not_lt.mpr (honest.least device peer _ _ report))
    · rintro ⟨peer, -, rfl, distance, report, best, isBest, below⟩
      obtain rfl := bestIs best isBest
      exact absurd below (Nat.not_lt.mpr (honest.least device peer destination distance report))

/-- Everything stays covered exactly if updates list only networks of the receiver. -/
theorem Covered.step_iff (covered : seen.Covered) (honest : seen.Honest)
    (event : EigrpEvent Device) : (seen.step event).Covered ↔ seen.OffersConnected event := by
  cases delivered : seen.world.delivers event with
  | none =>
    refine iff_of_true (fun device route member => ?_) fun receiver source some => by
      rw [delivered] at some
      cases some
    have before := covered device
    change route ∈ ((seen.world.step event).nodes device).topology at member
    change Connected ((seen.world.step event).nodes device).topology route.destination
    have change := change_of_undelivered delivered device
    generalize (seen.world.step event).nodes device = after at change member ⊢
    cases change with
    | same => exact before route member
    | meets source => exact before route member
    | loses peer =>
      obtain ⟨direct, isDirect, same, none⟩ := before route (mem_filter.mp member).1
      exact ⟨direct, mem_filter.mpr ⟨isDirect, by simp [none]⟩, same, none⟩
    | shuts => cases member
    | starts asn networks isStart idle =>
      rcases mem_addDirect member with old | ⟨destination, listed, rfl⟩
      · exact (before route old).addDirect _
      · exact connected_addDirect _ listed
    | configures => exact before route member
  | some pair =>
    obtain ⟨receiver, source⟩ := pair
    have wellFormed := (honest.sound receiver).wellFormed
    constructor
    · intro after other sender found entry listed
      obtain ⟨rfl, rfl⟩ := Prod.mk.inj (Option.some.inj (delivered.symm.trans found))
      have table := after receiver
      simp only [Observed.step, step_of_delivers delivered, update_self] at table
      obtain ⟨route, member, same, -⟩ := receiveEntries_settles wellFormed
        (falling_received honest.sound receiver source) listed
      obtain ⟨direct, isDirect, equal, none⟩ := table route member
      rcases mem_receiveEntries isDirect with old | ⟨offer, _, rfl⟩
      · exact ⟨direct, old, equal.trans same, none⟩
      · cases none
    · intro connected device route member
      simp only [Observed.step, step_of_delivers delivered] at member ⊢
      by_cases isReceiver : device = receiver
      · subst isReceiver
        rw [update_self] at member ⊢
        rcases mem_receiveEntries member with old | ⟨entry, listed, rfl⟩
        · exact (covered device route old).receiveEntries _
        · exact (connected device source delivered entry listed).receiveEntries _
      · rw [update_of_ne isReceiver] at member ⊢
        exact covered device route member

/-- Tables keep one entry to a destination, the direct one where there is one, throughout a run
exactly if no start names a network that was learned. Feasible successors are all neighbours whose
last report is below the feasible distance exactly if routers hear only of networks of their own. -/
theorem tables_exact_iff (surroundings : Surroundings Device) (events : List (EigrpEvent Device)) :
    (Throughout step TablesKept { world := { surroundings } } events ↔
      Along step StartsFresh { world := { surroundings } } events) ∧
    (Throughout step FeasibleExact { world := { surroundings } } events ↔
      Along step OffersConnected { world := { surroundings } } events) := by
  have honest : Honest ({ world := { surroundings } } : Observed Device) :=
    { sound := sound_start surroundings
      reflects := fun _ _ _ member => by cases member
      least := fun _ _ _ _ found => by cases found }
  have preserved : ∀ (seen : Observed Device) (event : EigrpEvent Device), seen.Honest →
      (seen.step event).Honest := fun _ event honest => honest.step event
  constructor
  · refine throughout_iff_along preserved
      (fun _ event honest kept => kept.step_iff honest.sound event) honest ?_ events
    exact fun _ => ⟨nodup_nil, fun enabled => by cases enabled⟩
  · refine throughout_iff_along preserved (fun _ event honest exact => ?_) honest ?_ events
    · have covered := honest.feasibleExact_iff.mp exact
      exact (honest.step event).feasibleExact_iff.trans (covered.step_iff honest event)
    · exact honest.feasibleExact_iff.mpr fun _ _ member => by cases member

end Observed

/-- The second router learns the network of the first one. -/
def pairLearned : List (EigrpEvent (Fin 2)) := pairStart ++ List.replicate 16 .proceed

/-- A learned route's neighbour is no feasible successor, and the network doubles when the second
router is given it too. -/
theorem pair_inexact : ¬ Throughout Observed.step Observed.FeasibleExact
        { world := { surroundings := pairSurroundings } } pairLearned ∧
      ¬ Throughout Observed.step Observed.TablesKept
        { world := { surroundings := pairSurroundings } }
        (pairLearned ++ [.start 1 100 [⟨"10.0.0.0", 24⟩]]) := by
  constructor
  · intro always
    obtain ⟨route, found, -⟩ := (always.finish 1 ⟨"10.0.0.0", 24⟩ (some 0)).mpr
      ⟨0, by decide +kernel, rfl, 2816, by decide +kernel, 5632, by decide +kernel, by decide⟩
    have none : ((runFrom Observed.step { world := { surroundings := pairSurroundings } }
        pairLearned).world.nodes 1).feasibleSuccessors ⟨"10.0.0.0", 24⟩ = [] := by decide +kernel
    rw [none] at found
    cases found
  · intro always
    exact absurd (always.finish 1).once (by decide +kernel)

end NetLab.Eigrp
