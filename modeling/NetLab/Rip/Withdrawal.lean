import NetLab.Rip.Soundness
import Mathlib.Logic.Relation

/-!
# Withdrawal in RIP

A router that loses a prefix poisons it once, towards its own neighbours. A router that
handles the poison drops the route before it composes its triggered update, and an
update lists finite metrics only, so the poison is not relayed. A prefix therefore
disappears downstream if its holders learned it from the withdrawing router itself,
will handle its poison, and do not take the prefix again in between.
-/

namespace NetLab.Rip

open NetLab.Library NetLab.Network NetLab.Execution RipRoute
open OrderedMap List

variable {Device : Type} [DecidableEq Device]

def Carries (destination : Prefix) (route : RipRoute Device) : Prop :=
  route.destination = destination ∧ route.metric < infinity

instance (destination : Prefix) (route : RipRoute Device) : Decidable (Carries destination route) :=
  inferInstanceAs (Decidable (_ ∧ _))

/-- A named destination that the inbound list of a router lets through. -/
def Admits (filters : DeviceFilters) (destination : Prefix) : Prop :=
  ¬ (destination.network = "" ∨ destination.network = "0.0.0.0") ∧
    filters.checkPrefixList ((filters.distributeLists.lookup (.rip, .inbound)).getD "")
      destination.network destination.length = true

instance (filters : DeviceFilters) (destination : Prefix) :
    Decidable (Admits filters destination) :=
  inferInstanceAs (Decidable (_ ∧ _))

/-- The entry tells its receiver that the destination is unreachable. -/
def Poisons (destination : Prefix) (entry : RipEntry) : Prop :=
  entry.destination = destination ∧ infinity ≤ entry.metric + 1

instance (destination : Prefix) (entry : RipEntry) : Decidable (Poisons destination entry) :=
  inferInstanceAs (Decidable (_ ∧ _))

/-- The entry makes the router use `source` for its destination: it is admitted and
usable, and the router has no route there, or one from `source`, or a worse one. -/
def Takes (filters : DeviceFilters) (node : RipNode Device) (source : Device)
    (entry : RipEntry) : Prop :=
  Admits filters entry.destination ∧ entry.metric + 1 < infinity ∧
    ∀ existing, node.table.find? (fun route => route.destination == entry.destination) =
        some existing →
      existing.learnedFrom = .peer source ∨ entry.metric + 1 < existing.metric

def Distinct (table : List (RipRoute Device)) : Prop :=
  (table.map destination).Nodup

/-! ## Tables -/

omit [DecidableEq Device] in
theorem Distinct.sublist {table kept : List (RipRoute Device)} (distinct : Distinct table)
    (sublist : kept.Sublist table) : Distinct kept :=
  List.Nodup.sublist (sublist.map _) distinct

variable {table : List (RipRoute Device)}

omit [DecidableEq Device] in
theorem map_destination_updateFirst {test : RipRoute Device → Bool}
    {update : RipRoute Device → RipRoute Device}
    (same : ∀ route, test route = true → (update route).destination = route.destination) :
    (updateFirst test update table).map destination = table.map destination := by
  induction table with
  | nil => rfl
  | cons route rest ih =>
    cases accepted : test route with
    | true => simp [updateFirst, accepted, same route accepted]
    | false => simp [updateFirst, accepted, ih]

omit [DecidableEq Device] in
theorem Distinct.updateFirst (distinct : Distinct table) {test : RipRoute Device → Bool}
    {update : RipRoute Device → RipRoute Device}
    (same : ∀ route, test route = true → (update route).destination = route.destination) :
    Distinct (updateFirst test update table) := by
  unfold Distinct
  rw [map_destination_updateFirst same]
  exact distinct

omit [DecidableEq Device] in
theorem Distinct.addRoute (distinct : Distinct table) (route : RipRoute Device) :
    Distinct (addRoute table route) := by
  unfold Rip.addRoute
  split
  · refine distinct.updateFirst fun old sameDestination => ?_
    exact (beq_iff_eq.mp sameDestination).symm
  · next absent =>
      have fresh : route.destination ∉ table.map destination := by
        intro member
        obtain ⟨old, listed, equal⟩ := mem_map.mp member
        exact absent (any_eq_true.mpr ⟨old, listed, beq_iff_eq.mpr equal⟩)
      unfold Distinct
      rw [map_append, nodup_append]
      refine ⟨distinct, nodup_singleton _, fun left leftMember right rightMember => ?_⟩
      rw [map_cons, map_nil, mem_singleton] at rightMember
      subst rightMember
      exact fun equal => fresh (equal ▸ leftMember)

omit [DecidableEq Device] in
theorem distinct_directTable (networks : List Prefix) :
    Distinct (directTable networks : List (RipRoute Device)) ∧
      ∀ route ∈ (directTable networks : List (RipRoute Device)), route.destination ∈ networks := by
  have general : ∀ (added : List Prefix) (table : List (RipRoute Device)),
      Distinct table → (∀ route ∈ table, route.destination ∈ networks) →
      (∀ destination ∈ added, destination ∈ networks) →
      Distinct (added.foldl (fun table destination => addRoute table
        { destination, metric := 0, nextHop := none, learnedFrom := .direct }) table) ∧
      ∀ route ∈ added.foldl (fun table destination => addRoute table
        { destination, metric := 0, nextHop := none, learnedFrom := .direct }) table,
        route.destination ∈ networks := by
    intro added
    induction added with
    | nil => exact fun table distinct listed _ => ⟨distinct, listed⟩
    | cons destination rest ih =>
      intro table distinct listed configured
      refine ih _ (distinct.addRoute _) (fun route member => ?_)
        fun other member => configured other (mem_cons_of_mem _ member)
      rcases mem_addRoute member with rfl | kept
      · exact configured destination mem_cons_self
      · exact listed route kept
  exact general networks [] nodup_nil (by simp) fun _ member => member

variable {route : RipRoute Device}

omit [DecidableEq Device] in
theorem Distinct.not_mem_eraseP (distinct : Distinct table) {test : RipRoute Device → Bool}
    (passes : test route = true)
    (only : ∀ other, test other = true → other.destination = route.destination) :
    route ∉ table.eraseP test := by
  intro member
  obtain ⟨erased, before, after, _, erasedPasses, split, erasedEq⟩ :=
    exists_of_eraseP (mem_of_mem_eraseP member) passes
  rw [erasedEq] at member
  have twice : (before ++ erased :: after).Perm (erased :: (before ++ after)) :=
    perm_middle
  have nodup : ((erased :: (before ++ after)).map destination).Nodup := by
    rw [← (twice.map destination).nodup_iff, ← split]
    exact distinct
  exact (nodup_cons.mp nodup).1 (mem_map.mpr ⟨route, member, (only erased erasedPasses).symm⟩)

/-- What handling one entry from `source` makes of a table. -/
structure Handled (filters : DeviceFilters) (node : RipNode Device) (source : Device)
    (entry : RipEntry) (table : List (RipRoute Device)) : Prop where
  distinct : Distinct node.table → Distinct table
  origin : ∀ route ∈ table, route ∈ node.table ∨
    (Takes filters node source entry ∧ route.destination = entry.destination ∧
      route.learnedFrom = .peer source)
  poisoned : Distinct node.table → Admits filters entry.destination →
    Poisons entry.destination entry → ∀ route ∈ table, route.destination = entry.destination →
      route.learnedFrom ≠ .peer source

variable {node : RipNode Device}

variable {entry : RipEntry} {event : RipEvent Device} {expired : Prefix} {source : Device}

omit [DecidableEq Device] in
/-- A table that stays as it was, by an entry that is not admitted or by poison from a
router that the destination was not learned from. -/
theorem Handled.unchanged {filters : DeviceFilters}
    (harmless : Admits filters entry.destination → Poisons entry.destination entry →
      ∀ route ∈ node.table, route.destination = entry.destination →
        route.learnedFrom ≠ .peer source) : Handled filters node source entry node.table :=
  ⟨id, fun _ member => Or.inl member, fun _ => harmless⟩

omit [DecidableEq Device] in
theorem Handled.rewritten {filters : DeviceFilters} (takes : Takes filters node source entry)
    {update : RipRoute Device → RipRoute Device}
    (kept : ∀ route, (update route).destination = route.destination)
    (fromSource : ∀ old, node.table.find? (fun route => route.destination == entry.destination) =
      some old → (update old).learnedFrom = .peer source) :
    Handled filters node source entry
      (updateFirst (fun route => route.destination == entry.destination) update node.table) := by
  refine ⟨fun distinct => distinct.updateFirst fun route _ => kept route, ?_, ?_⟩
  · intro route member
    rcases mem_updateFirst member with old | ⟨old, found, rfl⟩
    · exact Or.inl old
    · have destinationEq : old.destination = entry.destination := by
        simpa using find?_some found
      exact Or.inr ⟨takes, (kept old).trans destinationEq, fromSource old found⟩
  · rintro _ _ ⟨_, unreachable⟩
    exact absurd takes.2.1 (Nat.not_lt.mpr unreachable)

theorem RipNode.receiveEntry_handled (node : RipNode Device) (filters : DeviceFilters)
    (source : Device) (entry : RipEntry) :
    ∃ table, (node.receiveEntry filters source entry).1 = { node with table } ∧
      Handled filters node source entry table := by
  unfold RipNode.receiveEntry
  by_cases unnamed : entry.destination.network = "" ∨ entry.destination.network = "0.0.0.0"
  · rw [if_pos unnamed]
    exact ⟨node.table, rfl, .unchanged fun admits => absurd unnamed admits.1⟩
  rw [if_neg unnamed]
  by_cases denied : ¬ filters.checkPrefixList
      ((filters.distributeLists.lookup (.rip, .inbound)).getD "")
      entry.destination.network entry.destination.length = true
  · rw [if_pos denied]
    exact ⟨node.table, rfl, .unchanged fun admits => absurd admits.2 denied⟩
  rw [if_neg denied]
  have admits : Admits filters entry.destination := ⟨unnamed, not_not.mp denied⟩
  dsimp only
  by_cases unreachable : infinity ≤ min (entry.metric + 1) infinity
  · rw [if_pos unreachable]
    have metricHigh : infinity ≤ entry.metric + 1 := le_trans unreachable (Nat.min_le_left _ _)
    split
    · refine ⟨_, rfl, fun distinct => distinct.sublist eraseP_sublist,
        fun route member => Or.inl (mem_of_mem_eraseP member), ?_⟩
      intro distinct _ _ route member destinationEq learned
      -- The erased route is the only one to this destination.
      refine absurd member (distinct.not_mem_eraseP (by simp [destinationEq, learned]) ?_)
      intro other passes
      have sameDestination := (Bool.and_eq_true_iff.mp passes).1
      rw [destinationEq]
      exact beq_iff_eq.mp sameDestination
    · next absent =>
        refine ⟨node.table, rfl, .unchanged fun _ _ route member destinationEq learned => ?_⟩
        exact absent (any_eq_true.mpr ⟨route, member, by simp [destinationEq, learned]⟩)
  · rw [if_neg unreachable]
    have newMetric : min (entry.metric + 1) infinity = entry.metric + 1 := by omega
    have metricLow : entry.metric + 1 < infinity := by omega
    rw [newMetric]
    cases found : node.table.find? fun route => route.destination == entry.destination with
    | none =>
      refine ⟨_, rfl, fun distinct => distinct.addRoute _, fun route member => ?_, ?_⟩
      · rcases mem_addRoute member with rfl | kept
        · refine Or.inr ⟨⟨admits, metricLow, fun existing listed => ?_⟩, rfl, rfl⟩
          cases found.symm.trans listed
        · exact Or.inl kept
      · rintro _ _ ⟨_, high⟩
        exact absurd metricLow (Nat.not_lt.mpr high)
    | some existing =>
      have only : ∀ old, node.table.find? (fun route => route.destination == entry.destination) =
          some old → old = existing := fun old listed =>
        Option.some.inj (listed.symm.trans found)
      dsimp only
      by_cases fromSource : existing.learnedFrom = .peer source
      · rw [if_pos fromSource]
        refine ⟨_, rfl, .rewritten ⟨admits, metricLow, fun old listed => ?_⟩ (fun _ => rfl)
          fun old listed => ?_⟩
        · exact Or.inl (only old listed ▸ fromSource)
        · exact only old listed ▸ fromSource
      · rw [if_neg fromSource]
        by_cases better : entry.metric + 1 < existing.metric
        · rw [if_pos better]
          refine ⟨_, rfl, .rewritten ⟨admits, metricLow, fun old listed => ?_⟩ (fun _ => rfl)
            fun _ _ => rfl⟩
          exact Or.inr (only old listed ▸ better)
        · rw [if_neg better]
          refine ⟨node.table, rfl, .unchanged ?_⟩
          rintro _ ⟨_, high⟩
          exact absurd metricLow (Nat.not_lt.mpr high)

/-! ## Withdrawals -/

/-- Devices that the withdrawing router reaches without passing the originator. -/
def Downstream (network : VirtualNetwork Device) (origin withdrawing device : Device) : Prop :=
  device ≠ origin ∧ Relation.ReflTransGen
    (fun near far => far ∈ network.getNeighbors near ∧ far ≠ origin) withdrawing device

/-- The three ways in which a prefix is withdrawn: its originator stops, or a router next
to the originator loses the interface towards it or sees its route time out. -/
inductive Withdraws (network : VirtualNetwork Device) (origin : Device) (destination : Prefix) :
    Device → RipEvent Device → Prop where
  | stop : Withdraws network origin destination origin (.stop origin)
  | interfaceDown {neighbor : Device} {peers : List Device}
      (next : neighbor ∈ network.getNeighbors origin) (lost : origin ∈ peers) :
      Withdraws network origin destination neighbor (.interfaceDown neighbor peers)
  | timeOut {neighbor : Device} (next : neighbor ∈ network.getNeighbors origin) :
      Withdraws network origin destination neighbor (.timeOut neighbor destination)

def poisonedRoutes (node : RipNode Device) : RipEvent Device → List (RipRoute Device)
  | .stop _ => node.table
  | .interfaceDown _ peers =>
    if node.enabled then node.table.filter (learnedThrough peers) else []
  | _ => []

/-- The event itself makes the route of the router it happens at unusable. -/
def LosesRoute (route : RipRoute Device) : RipEvent Device → Prop
  | .interfaceDown _ peers => learnedThrough peers route = true
  | .timeOut _ destination => route.destination = destination
  | _ => False

/-- Poison from the withdrawing router that the device has still to handle. -/
def PoisonUnderWay (state : RipState Device) (withdrawing device : Device) (authKey : String)
    (destination : Prefix) : Prop :=
  (∃ packet, (device, packet) ∈ state.inFlight ∧ packet.command = .response ∧
    packet.srcId = withdrawing ∧ (authKey = "" ∨ packet.authKey = authKey) ∧
    ∃ entry ∈ packet.entries, Poisons destination entry) ∨
  ∃ task ∈ state.receiving, task.receiver = device ∧ task.source = withdrawing ∧
    ∃ entry ∈ task.remaining, Poisons destination entry

section Condition

variable (surroundings : Surroundings Device) (origin withdrawing : Device) (destination : Prefix)

/-- A holder that learned the destination from the withdrawing router and admits the
poison that is under way to it, or that this event sends to it. -/
def WillBeTold (state : RipState Device) (event : RipEvent Device) (device : Device)
    (node : RipNode Device) (route : RipRoute Device) : Prop :=
  route.learnedFrom = .peer withdrawing ∧ Admits (surroundings.filters device) destination ∧
    (PoisonUnderWay state withdrawing device node.authKey destination ∨
      (device ∈ broadcastReceivers surroundings.network state.nodes withdrawing ∧
        node.authKey = "" ∧ ∃ withdrawer, state.nodes.lookup withdrawing = some withdrawer ∧
          ∃ lost ∈ poisonedRoutes withdrawer event, lost.destination = destination))

def ReachesHolders (state : RipState Device) (event : RipEvent Device) : Prop :=
  ∀ device, Downstream surroundings.network origin withdrawing device →
    ∀ node, state.nodes.lookup device = some node → node.enabled = true →
      ∀ route ∈ node.table, Carries destination route →
        (device = withdrawing ∧ LosesRoute route event) ∨
          WillBeTold surroundings withdrawing destination state event device node route

/-- A router downstream takes the destination only from the withdrawing router, and only
while its poison is still to come. -/
def TakesBeforePoison (state : RipState Device) : RipEvent Device → Prop
  | .continueReceive index =>
    ∀ task ∈ state.receiving[index]?, ∀ entry ∈ task.remaining.head?,
      entry.destination = destination →
      Downstream surroundings.network origin withdrawing task.receiver →
      ∀ node, state.nodes.lookup task.receiver = some node → node.enabled = true →
        Takes (surroundings.filters task.receiver) node task.source entry →
        task.source = withdrawing ∧
          PoisonUnderWay state withdrawing task.receiver node.authKey destination
  | _ => True

/-- The invariant after a withdrawal: every holder downstream learned the destination from
the withdrawing router and has poison to handle. -/
def Doomed (state : RipState Device) : Prop :=
  ∀ device, Downstream surroundings.network origin withdrawing device →
    ∀ node, state.nodes.lookup device = some node → node.enabled = true →
      ∀ route ∈ node.table, Carries destination route → route.learnedFrom = .peer withdrawing ∧
          Admits (surroundings.filters device) destination ∧
          PoisonUnderWay state withdrawing device node.authKey destination

end Condition

/-! ## What a step preserves -/

variable {device : Device}

section Steps

variable {surroundings : Surroundings Device} {config : Device → RipConfig}
  {origin withdrawing : Device} {destination : Prefix} {state next : RipState Device}

omit [DecidableEq Device] in
/-- Poison stays under way while the wire and the half-handled responses only grow. -/
theorem PoisonUnderWay.mono {authKey : String}
    (underWay : PoisonUnderWay state withdrawing device authKey destination)
    (inFlight : ∀ arrival ∈ state.inFlight, arrival ∈ next.inFlight)
    (receiving : ∀ task ∈ state.receiving, task ∈ next.receiving) :
    PoisonUnderWay next withdrawing device authKey destination := by
  rcases underWay with ⟨packet, onWire, shape⟩ | ⟨task, pending, shape⟩
  · exact Or.inl ⟨packet, inFlight _ onWire, shape⟩
  · exact Or.inr ⟨task, receiving _ pending, shape⟩

omit [DecidableEq Device] in
private theorem mem_eraseIdx_or {α : Type} {list : List α} {element : α}
    (member : element ∈ list) (index : Nat) :
    element ∈ list.eraseIdx index ∨ list[index]? = some element := by
  obtain ⟨position, found⟩ := mem_iff_getElem?.mp member
  by_cases same : position = index
  · exact Or.inr (same ▸ found)
  · exact Or.inl (mem_eraseIdx_iff_getElem?.mpr ⟨position, same, found⟩)

omit [DecidableEq Device] in
private theorem mem_set_or {α : Type} {list : List α} {element : α} (member : element ∈ list)
    (index : Nat) (replacement : α) :
    element ∈ list.set index replacement ∨ list[index]? = some element := by
  obtain ⟨position, found⟩ := mem_iff_getElem?.mp member
  by_cases same : position = index
  · exact Or.inr (same ▸ found)
  · refine Or.inl (mem_iff_getElem?.mpr ⟨position, ?_⟩)
    rw [getElem?_set_ne (Ne.symm same)]
    exact found

/-- Serving a neighbour of an update changes no node and only adds to the wire. -/
theorem continueSend_leaves (surroundings : Surroundings Device) (state : RipState Device)
    (index : Nat) :
    (state.continueSend surroundings index).nodes = state.nodes ∧ (∀ arrival ∈ state.inFlight,
        arrival ∈ (state.continueSend surroundings index).inFlight) ∧
      ∀ task ∈ state.receiving, task ∈ (state.continueSend surroundings index).receiving := by
  unfold RipState.continueSend
  split
  · exact ⟨rfl, fun _ member => member, fun _ member => member⟩
  · split
    · exact ⟨rfl, fun _ member => member, fun _ member => member⟩
    · split
      · split <;> exact ⟨rfl, fun _ member => member, fun _ member => member⟩
      · exact ⟨rfl, fun _ member => member, fun _ member => member⟩
      · exact ⟨rfl, fun _ member => mem_append_left _ member, fun _ member => member⟩

omit [DecidableEq Device] in
theorem mem_of_mem_timeOut (listed : route ∈ (node.timeOut expired).table)
    (usable : route.metric < infinity) : route ∈ node.table := by
  rcases mem_updateFirst listed with kept | ⟨old, found, rfl⟩
  · exact kept
  · by_cases finite : old.metric < infinity
    · simp [finite] at usable
    · simp only [finite, if_false] at usable

/-- Taking a packet from the wire leaves the nodes, every other packet and every
half-handled response in place. -/
theorem deliver_leaves (state : RipState Device) (index : Nat) :
    (state.deliver index).nodes = state.nodes ∧
      (∀ arrival ∈ state.inFlight, arrival ∈ (state.deliver index).inFlight ∨
        state.inFlight[index]? = some arrival) ∧
      ∀ task ∈ state.receiving, task ∈ (state.deliver index).receiving := by
  unfold RipState.deliver
  cases atIndex : state.inFlight[index]? with
  | none => exact ⟨rfl, fun _ member => Or.inl member, fun _ member => member⟩
  | some arrival =>
    have others : ∀ other ∈ state.inFlight,
        other ∈ state.inFlight.eraseIdx index ∨ some arrival = some other :=
      fun other member => atIndex ▸ mem_eraseIdx_or member index
    dsimp only
    cases state.nodes.lookup arrival.1 with
    | none => exact ⟨rfl, others, fun _ member => member⟩
    | some node =>
      dsimp only
      split
      · exact ⟨rfl, others, fun _ member => member⟩
      cases arrival.2.command with
      | request => exact ⟨rfl, others, fun _ member => member⟩
      | response =>
        dsimp only
        split
        · exact ⟨rfl, others, fun _ member => member⟩
        · exact ⟨rfl, others, fun _ member => mem_append_left _ member⟩

omit [DecidableEq Device] in
theorem Distinct.exists_of_mem_updateFirst (distinct : Distinct table)
    {update : RipRoute Device → RipRoute Device}
    (listed : route ∈ Rip.updateFirst (fun old => old.destination == expired) update table)
    (same : route.destination = expired) : ∃ old, route = update old := by
  induction table with
  | nil => exact absurd listed not_mem_nil
  | cons head rest ih =>
    obtain ⟨fresh, restDistinct⟩ := nodup_cons.mp distinct
    by_cases headSame : head.destination = expired
    · rw [Rip.updateFirst, if_pos (beq_iff_eq.mpr headSame)] at listed
      rcases mem_cons.mp listed with equal | later
      · exact ⟨head, equal⟩
      · exact absurd (mem_map.mpr ⟨route, later, same.trans headSame.symm⟩) fresh
    · rw [Rip.updateFirst, if_neg (fun equal => headSame (beq_iff_eq.mp equal))] at listed
      rcases mem_cons.mp listed with rfl | later
      · exact absurd same headSame
      · exact ih restDistinct later

omit [DecidableEq Device] in
theorem not_carries_of_mem_timeOut (distinct : Distinct node.table)
    (listed : route ∈ (node.timeOut expired).table) : ¬ Carries expired route := by
  rintro ⟨same, usable⟩
  obtain ⟨old, rfl⟩ := distinct.exists_of_mem_updateFirst listed same
  by_cases finite : old.metric < infinity
  · simp [finite] at usable
  · simp only [finite, if_false] at usable

/-- A delivered packet of poison is half-handled instead of on the wire. -/
theorem PoisonUnderWay.deliver
    (underWay : PoisonUnderWay state withdrawing device node.authKey destination)
    (found : state.nodes.lookup device = some node) (enabled : node.enabled = true) (index : Nat) :
    PoisonUnderWay (state.deliver index) withdrawing device node.authKey destination := by
  obtain ⟨_, inFlight, receiving⟩ := deliver_leaves state index
  rcases underWay with ⟨packet, onWire, response, fromWithdrawing, accepted, listed⟩ |
      ⟨task, pending, shape⟩
  · rcases inFlight _ onWire with kept | taken
    · exact Or.inl ⟨packet, kept, response, fromWithdrawing, accepted, listed⟩
    · have notRefused : ¬ (node.authKey != "" && packet.authKey != node.authKey) = true := by
        rcases accepted with unset | same
        · simp [unset]
        · simp [same]
      unfold RipState.deliver
      rw [taken]
      dsimp only
      rw [found]
      dsimp only
      rw [if_neg (by simp [enabled]), response]
      dsimp only
      rw [if_neg notRefused]
      exact Or.inr ⟨_, mem_append_right _ mem_cons_self, rfl, fromWithdrawing, listed⟩
  · exact Or.inr ⟨task, receiving task pending, shape⟩

omit [DecidableEq Device] in
/-- Handling one entry of a half-handled response leaves poison under way, unless that
entry was the poison. -/
theorem PoisonUnderWay.handled {authKey : String} {index : Nat} {task : ReceiveTask Device}
    {rest : List RipEntry} {changed : Bool}
    (underWay : PoisonUnderWay state withdrawing device authKey destination)
    (atIndex : state.receiving[index]? = some task) (remaining : task.remaining = entry :: rest)
    (inFlight : next.inFlight = state.inFlight) (receiving : next.receiving =
      state.receiving.set index { task with remaining := rest, changed })
    (different : ¬ (task.receiver = device ∧ task.source = withdrawing ∧
      Poisons destination entry)) : PoisonUnderWay next withdrawing device authKey destination := by
  rcases underWay with ⟨packet, onWire, shape⟩ | ⟨other, pending, receiver, source, poison, listed,
      poisons⟩
  · exact Or.inl ⟨packet, inFlight ▸ onWire, shape⟩
  · rcases mem_set_or pending index { task with remaining := rest, changed } with kept | same
    · exact Or.inr ⟨other, receiving ▸ kept, receiver, source, poison, listed, poisons⟩
    · obtain rfl : task = other := Option.some.inj (atIndex.symm.trans same)
      rw [remaining] at listed
      rcases mem_cons.mp listed with rfl | later
      · exact absurd ⟨receiver, source, poisons⟩ different
      · have bound : index < state.receiving.length := (List.getElem?_eq_some_iff.mp atIndex).1
        refine Or.inr ⟨{ task with remaining := rest, changed }, ?_, receiver, source,
          poison, later, poisons⟩
        rw [receiving]
        exact mem_set bound _

theorem poisonUnderWay_broadcast {network : VirtualNetwork Device} {routes : List (RipRoute Device)}
    {lost : RipRoute Device} (reached : device ∈ broadcastReceivers network state.nodes withdrawing)
    (listed : lost ∈ routes) (same : lost.destination = destination) :
    PoisonUnderWay (state.broadcast network
      { command := .response, srcId := withdrawing, entries := poisonEntries routes })
      withdrawing device "" destination := by
  refine Or.inl ⟨_, mem_append_right _ (mem_map.mpr ⟨device, reached, rfl⟩), rfl, rfl,
    Or.inl rfl, { destination := lost.destination, metric := infinity },
    mem_map.mpr ⟨lost, listed, rfl⟩, same, Nat.le_succ _⟩

/-- Every table of the state has one route to each destination. -/
def AllDistinct (state : RipState Device) : Prop :=
  ∀ device node, state.nodes.lookup device = some node → Distinct node.table

theorem lookup_setNode_cases {device other : Device} {node otherNode : RipNode Device}
    (found : (state.setNode device node).nodes.lookup other = some otherNode) :
    (other = device ∧ otherNode = node) ∨
      (other ≠ device ∧ state.nodes.lookup other = some otherNode) := by
  by_cases same : other = device
  · subst same
    simp only [RipState.setNode, lookup_insert_self, Option.some.injEq] at found
    exact Or.inl ⟨rfl, found.symm⟩
  · simp only [RipState.setNode, lookup_insert_of_ne _ _ same] at found
    exact Or.inr ⟨same, found⟩

theorem AllDistinct.setNode (distinct : AllDistinct state) (device : Device)
    (nodeDistinct : Distinct node.table) : AllDistinct (state.setNode device node) := by
  intro other otherNode found
  rcases lookup_setNode_cases found with ⟨_, rfl⟩ | ⟨_, old⟩
  · exact nodeDistinct
  · exact distinct other otherNode old

/-- Every step leaves each table with one route to each destination. -/
theorem step_distinct (distinct : AllDistinct state) (event : RipEvent Device) :
    AllDistinct (step surroundings (fun device => (config device).networks) state event) := by
  cases event with
  | start device => exact distinct.setNode device (distinct_directTable _).1
  | stop device =>
    dsimp only [step]
    split
    · exact distinct
    · split <;> exact distinct
  | continueStop index =>
    dsimp only [step, RipState.continueStop]
    split
    · exact distinct
    · split
      · exact distinct
      · next node found =>
          have stopped : AllDistinct { state with stopping := state.stopping.eraseIdx index } :=
            distinct
          exact stopped.setNode _ (distinct _ node found)
  | interfaceDown device peers =>
    dsimp only [step]
    split
    · exact distinct
    · next node found =>
        have kept : Distinct (node.table.filter fun route => !learnedThrough peers route) :=
          (distinct device node found).sublist filter_sublist
        have reduced := distinct.setNode device
          (show Distinct ({ node with table := _ } : RipNode Device).table from kept)
        split
        · exact distinct
        · split <;> exact reduced
  | sendRequest device =>
    dsimp only [step]
    split <;> exact distinct
  | sendUpdate device => exact distinct
  | continueSend index =>
    intro device node found
    rw [show (step surroundings (fun device => (config device).networks) state
      (.continueSend index)).nodes = state.nodes from (continueSend_leaves ..).1] at found
    exact distinct device node found
  | deliver index =>
    intro device node found
    rw [show (step surroundings (fun device => (config device).networks) state
      (.deliver index)).nodes = state.nodes from (deliver_leaves state index).1] at found
    exact distinct device node found
  | continueReceive index =>
    dsimp only [step, RipState.continueReceive]
    split
    · exact distinct
    · next task _ =>
        split
        · exact distinct
        · next entry rest _ =>
            split
            · exact distinct
            · next node found =>
                obtain ⟨table, resultEq, handled⟩ := node.receiveEntry_handled
                  (surroundings.filters task.receiver) task.source entry
                rw [resultEq]
                exact distinct.setNode task.receiver
                  (handled.distinct (distinct task.receiver node found))
  | timeOut device destination =>
    dsimp only [step]
    split
    · exact distinct
    · next node found =>
        refine distinct.setNode device ((distinct device node found).updateFirst fun route _ => ?_)
        split <;> rfl
  | collect device destination =>
    dsimp only [step]
    split
    · exact distinct
    · next node found =>
        exact distinct.setNode device ((distinct device node found).sublist eraseP_sublist)

namespace Doomed

/-- More packets and more half-handled responses do no harm. -/
theorem grow (doomed : Doomed surroundings origin withdrawing destination state)
    (nodes : next.nodes = state.nodes)
    (inFlight : ∀ arrival ∈ state.inFlight, arrival ∈ next.inFlight)
    (receiving : ∀ task ∈ state.receiving, task ∈ next.receiving) :
    Doomed surroundings origin withdrawing destination next := by
  intro device downstream node found enabled route listed carries
  obtain ⟨learned, admits, underWay⟩ :=
    doomed device downstream node (nodes ▸ found) enabled route listed carries
  exact ⟨learned, admits, underWay.mono inFlight receiving⟩

theorem setNode (doomed : Doomed surroundings origin withdrawing destination state)
    (fewer : Downstream surroundings.network origin withdrawing device → node.enabled = true →
      ∀ route ∈ node.table, Carries destination route →
        ∃ old, state.nodes.lookup device = some old ∧ old.enabled = true ∧
          old.authKey = node.authKey ∧ route ∈ old.table) :
    Doomed surroundings origin withdrawing destination (state.setNode device node) := by
  intro other downstream otherNode found enabled route listed carries
  rcases lookup_setNode_cases found with ⟨rfl, rfl⟩ | ⟨_, old⟩
  · obtain ⟨oldNode, oldFound, oldEnabled, sameKey, oldListed⟩ :=
      fewer downstream enabled route listed carries
    rw [← sameKey]
    exact doomed other downstream oldNode oldFound oldEnabled route oldListed carries
  · exact doomed other downstream otherNode old enabled route listed carries

/-- Taking a packet from the wire does no harm. -/
theorem deliver (doomed : Doomed surroundings origin withdrawing destination state) (index : Nat) :
    Doomed surroundings origin withdrawing destination (state.deliver index) := by
  have nodes := (deliver_leaves state index).1
  intro device downstream node found enabled route listed carries
  rw [nodes] at found
  obtain ⟨learned, admits, underWay⟩ :=
    doomed device downstream node found enabled route listed carries
  exact ⟨learned, admits, underWay.deliver found enabled index⟩

/-- Handling an entry keeps the routers doomed: poison removes the route it is for, and
what is taken comes from the withdrawing router ahead of its poison. -/
theorem continueReceive (doomed : Doomed surroundings origin withdrawing destination state)
    (distinct : AllDistinct state) {index : Nat}
    (takes : TakesBeforePoison surroundings origin withdrawing destination state
      (.continueReceive index)) :
    Doomed surroundings origin withdrawing destination
      (state.continueReceive surroundings index) := by
  unfold RipState.continueReceive
  cases atIndex : state.receiving[index]? with
  | none => exact doomed
  | some task =>
    dsimp only
    rcases remaining : task.remaining with _ | ⟨entry, rest⟩
    · intro device downstream node found enabled route listed carries
      obtain ⟨learned, admits, underWay⟩ :=
        doomed device downstream node found enabled route listed carries
      refine ⟨learned, admits, ?_⟩
      rcases underWay with ⟨packet, shape⟩ | ⟨other, pending, receiver, source, poison, listed,
          poisons⟩
      · exact Or.inl ⟨packet, shape⟩
      · rcases mem_eraseIdx_or pending index with kept | same
        · exact Or.inr ⟨other, kept, receiver, source, poison, listed, poisons⟩
        · obtain rfl : task = other := Option.some.inj (atIndex.symm.trans same)
          rw [remaining] at listed
          exact absurd listed not_mem_nil
    · dsimp only
      cases receiverFound : state.nodes.lookup task.receiver with
      | none =>
        intro device downstream node found enabled route listed carries
        obtain ⟨learned, admits, underWay⟩ :=
          doomed device downstream node found enabled route listed carries
        refine ⟨learned, admits, ?_⟩
        rcases underWay with ⟨packet, shape⟩ | ⟨other, pending, receiver, shape⟩
        · exact Or.inl ⟨packet, shape⟩
        · rcases mem_eraseIdx_or pending index with kept | same
          · exact Or.inr ⟨other, kept, receiver, shape⟩
          · obtain rfl : task = other := Option.some.inj (atIndex.symm.trans same)
            rw [receiver, found] at receiverFound
            cases receiverFound
      | some node =>
        obtain ⟨table, resultEq, handled⟩ :=
          node.receiveEntry_handled (surroundings.filters task.receiver) task.source entry
        have tableDistinct := distinct task.receiver node receiverFound
        dsimp only
        rw [resultEq]
        intro device downstream deviceNode found enabled route listed carries
        by_cases same : device = task.receiver
        · subst same
          simp only [RipState.setNode, lookup_insert_self, Option.some.injEq] at found
          subst found
          rcases handled.origin route listed with old | ⟨taken, sameDestination, fromSource⟩
          · obtain ⟨learned, admits, underWay⟩ := doomed task.receiver downstream
              node receiverFound enabled route old carries
            refine ⟨learned, admits, ?_⟩
            refine underWay.handled atIndex remaining rfl rfl ?_
            rintro ⟨_, source, poisons⟩
            have destinationEq : route.destination = entry.destination :=
              carries.1.trans poisons.1.symm
            exact handled.poisoned tableDistinct (poisons.1.symm ▸ admits)
              ⟨rfl, poisons.2⟩ route listed destinationEq (source ▸ learned)
          · have entryFor : entry.destination = destination :=
              sameDestination.symm.trans carries.1
            obtain ⟨source, underWay⟩ := takes task atIndex entry (by simp [remaining]) entryFor
              downstream node receiverFound enabled taken
            refine ⟨source ▸ fromSource, entryFor ▸ taken.1, ?_⟩
            refine underWay.handled atIndex remaining rfl rfl ?_
            rintro ⟨_, _, poisons⟩
            exact absurd taken.2.1 (Nat.not_lt.mpr poisons.2)
        · simp only [RipState.setNode, lookup_insert_of_ne _ _ same] at found
          obtain ⟨learned, admits, underWay⟩ :=
            doomed device downstream deviceNode found enabled route listed carries
          refine ⟨learned, admits, ?_⟩
          refine underWay.handled atIndex remaining rfl rfl ?_
          rintro ⟨receiver, _⟩
          exact same receiver.symm

end Doomed

theorem step_doomed
    (onlyOrigin : ∀ device, device ≠ origin → destination ∉ (config device).networks)
    (distinct : AllDistinct state)
    (doomed : Doomed surroundings origin withdrawing destination state)
    (takes : TakesBeforePoison surroundings origin withdrawing destination state event) :
    Doomed surroundings origin withdrawing destination
      (step surroundings (fun device => (config device).networks) state event) := by
  cases event with
  | start device =>
    refine doomed.setNode fun downstream _ route listed carries => ?_
    have configured := (distinct_directTable _).2 route listed
    exact absurd (carries.1 ▸ configured) (onlyOrigin device downstream.1)
  | stop device =>
    dsimp only [step]
    split
    · exact doomed
    · refine doomed.grow ?_ ?_ ?_
      · dsimp only
        split <;> rfl
      · dsimp only
        split
        · exact fun _ member => member
        · exact fun _ member => mem_append_left _ member
      · dsimp only
        split <;> exact fun _ member => member
  | continueStop index =>
    dsimp only [step, RipState.continueStop]
    split
    · exact doomed
    · next device _ =>
        have stopped : Doomed surroundings origin withdrawing destination
            { state with stopping := state.stopping.eraseIdx index } :=
          doomed.grow rfl (fun _ member => member) fun _ member => member
        split
        · exact stopped
        · exact stopped.setNode fun _ enabled => absurd enabled Bool.false_ne_true
  | interfaceDown device peers =>
    dsimp only [step]
    split
    · exact doomed
    · next node found =>
        split
        · exact doomed
        · have reduced : Doomed surroundings origin withdrawing destination (state.setNode device
                { node with table := node.table.filter fun route => !learnedThrough peers route }) :=
            doomed.setNode fun _ enabled route listed _ =>
              ⟨node, found, enabled, rfl, mem_of_mem_filter listed⟩
          split
          · exact reduced
          · exact reduced.grow rfl (fun _ member => mem_append_left _ member) fun _ member => member
  | sendRequest device =>
    dsimp only [step]
    split
    · exact doomed
    · exact doomed.grow rfl (fun _ member => mem_append_left _ member) fun _ member => member
  | sendUpdate device =>
    exact doomed.grow rfl (fun _ member => member) fun _ member => member
  | continueSend index =>
    have sent := continueSend_leaves surroundings state index
    exact doomed.grow sent.1 sent.2.1 sent.2.2
  | deliver index => exact doomed.deliver index
  | continueReceive index => exact doomed.continueReceive distinct takes
  | timeOut device expired =>
    dsimp only [step]
    split
    · exact doomed
    · next node found =>
        refine doomed.setNode fun _ enabled route listed carries => ?_
        exact ⟨node, found, enabled, rfl, mem_of_mem_timeOut listed carries.2⟩
  | collect device collected =>
    dsimp only [step]
    split
    · exact doomed
    · next node found =>
        exact doomed.setNode fun _ enabled route listed _ =>
          ⟨node, found, enabled, rfl, mem_of_mem_eraseP listed⟩

theorem broadcastReceivers_setNode {network : VirtualNetwork Device} {device : Device}
    {old node : RipNode Device} (found : state.nodes.lookup device = some old) :
    broadcastReceivers network (state.setNode device node).nodes source =
      broadcastReceivers network state.nodes source := by
  have same : (fun other => ((state.setNode device node).nodes.lookup other).isSome) =
      fun other => (state.nodes.lookup other).isSome := by
    funext other
    by_cases equal : other = device
    · subst equal
      simp [RipState.setNode, found]
    · simp [RipState.setNode, lookup_insert_of_ne _ _ equal]
  unfold broadcastReceivers
  rw [same]

theorem WillBeTold.doomed
    (told : WillBeTold surroundings withdrawing destination state event device node route)
    (inFlight : ∀ arrival ∈ state.inFlight, arrival ∈ next.inFlight)
    (receiving : ∀ task ∈ state.receiving, task ∈ next.receiving)
    (poison : ∀ withdrawer, state.nodes.lookup withdrawing = some withdrawer →
      ∀ lost ∈ poisonedRoutes withdrawer event,
        device ∈ broadcastReceivers surroundings.network state.nodes withdrawing →
          PoisonUnderWay next withdrawing device "" lost.destination) :
    route.learnedFrom = .peer withdrawing ∧ Admits (surroundings.filters device) destination ∧
      PoisonUnderWay next withdrawing device node.authKey destination := by
  obtain ⟨learned, admits, underWay | ⟨reached, noKey, withdrawer, found, lost, listed, rfl⟩⟩ := told
  · exact ⟨learned, admits, underWay.mono inFlight receiving⟩
  · refine ⟨learned, admits, ?_⟩
    rw [noKey]
    exact poison withdrawer found lost listed reached

theorem ReachesHolders.doomed_stop
    (reaches : ReachesHolders surroundings origin origin destination state (.stop origin)) :
    Doomed surroundings origin origin destination
      (step surroundings (fun device => (config device).networks) state (.stop origin)) := by
  intro device downstream node found enabled route listed carries
  have sameNodes : (step surroundings (fun device => (config device).networks) state
      (.stop origin)).nodes = state.nodes := by
    dsimp only [step]
    split
    · rfl
    · split <;> rfl
  rw [sameNodes] at found
  rcases reaches device downstream node found enabled route listed carries with
      ⟨same, _⟩ | told
  · exact absurd same downstream.1
  · dsimp only [step]
    cases originFound : state.nodes.lookup origin with
    | none =>
      refine told.doomed (fun _ member => member) (fun _ member => member) ?_
      intro withdrawer withdrawerFound
      cases originFound.symm.trans withdrawerFound
    | some originNode =>
      dsimp only
      split
      · next empty =>
          refine told.doomed (fun _ member => member) (fun _ member => member) ?_
          intro withdrawer withdrawerFound lost lostListed
          cases originFound.symm.trans withdrawerFound
          rw [poisonedRoutes, isEmpty_iff.mp empty] at lostListed
          exact absurd lostListed not_mem_nil
      · refine told.doomed (fun _ member => mem_append_left _ member) (fun _ member => member) ?_
        intro withdrawer withdrawerFound lost lostListed reached
        cases originFound.symm.trans withdrawerFound
        exact (poisonUnderWay_broadcast reached lostListed rfl).mono
          (fun _ member => member) fun _ member => member

theorem ReachesHolders.doomed_interfaceDown {peers : List Device}
    (reaches : ReachesHolders surroundings origin withdrawing destination state
      (.interfaceDown withdrawing peers)) :
    Doomed surroundings origin withdrawing destination
      (step surroundings (fun device => (config device).networks) state
        (.interfaceDown withdrawing peers)) := by
  intro device downstream node found enabled route listed carries
  dsimp only [step] at found ⊢
  cases neighborFound : state.nodes.lookup withdrawing with
  | none =>
    rw [neighborFound] at found
    rcases reaches device downstream node found enabled route listed carries with
        ⟨rfl, _⟩ | told
    · cases neighborFound.symm.trans found
    · refine told.doomed (fun _ member => member) (fun _ member => member) ?_
      intro withdrawer withdrawerFound
      cases neighborFound.symm.trans withdrawerFound
  | some neighborNode =>
    rw [neighborFound] at found
    dsimp only at found ⊢
    by_cases neighborEnabled : neighborNode.enabled = true
    · have notDisabled : ¬ (!neighborNode.enabled) = true := by simp [neighborEnabled]
      rw [if_neg notDisabled] at found ⊢
      have foundReduced : (state.setNode withdrawing { neighborNode with
          table := neighborNode.table.filter fun route =>
            !learnedThrough peers route }).nodes.lookup device = some node := by
        revert found
        split <;> exact id
      have told : WillBeTold surroundings withdrawing destination state
          (.interfaceDown withdrawing peers) device node route := by
        rcases lookup_setNode_cases foundReduced with ⟨rfl, rfl⟩ | ⟨other, old⟩
        · obtain ⟨oldListed, notLost⟩ := mem_filter.mp listed
          rcases reaches device downstream neighborNode neighborFound neighborEnabled route
              oldListed carries with ⟨_, loses⟩ | told
          · have loses' : learnedThrough peers route = true := loses
            simp [loses'] at notLost
          · exact told
        · rcases reaches device downstream node old enabled route listed carries with
              ⟨same, _⟩ | told
          · exact absurd same other
          · exact told
      split
      · next empty =>
          refine told.doomed (fun _ member => member) (fun _ member => member) ?_
          intro withdrawer withdrawerFound lost lostListed
          cases neighborFound.symm.trans withdrawerFound
          rw [poisonedRoutes, if_pos neighborEnabled, isEmpty_iff.mp empty] at lostListed
          exact absurd lostListed not_mem_nil
      · refine told.doomed (fun _ member => mem_append_left _ member) (fun _ member => member) ?_
        intro withdrawer withdrawerFound lost lostListed reached
        cases neighborFound.symm.trans withdrawerFound
        rw [poisonedRoutes, if_pos neighborEnabled] at lostListed
        refine poisonUnderWay_broadcast ?_ lostListed rfl
        rw [broadcastReceivers_setNode neighborFound]
        exact reached
    · rw [if_pos (by simpa using neighborEnabled)] at found ⊢
      rcases reaches device downstream node found enabled route listed carries with
          ⟨rfl, _⟩ | told
      · cases neighborFound.symm.trans found
        exact absurd enabled neighborEnabled
      · refine told.doomed (fun _ member => member) (fun _ member => member) ?_
        intro withdrawer withdrawerFound lost lostListed
        cases neighborFound.symm.trans withdrawerFound
        rw [poisonedRoutes, if_neg neighborEnabled] at lostListed
        exact absurd lostListed not_mem_nil

theorem ReachesHolders.doomed_timeOut (distinct : AllDistinct state)
    (reaches : ReachesHolders surroundings origin withdrawing destination state
      (.timeOut withdrawing destination)) :
    Doomed surroundings origin withdrawing destination
      (step surroundings (fun device => (config device).networks) state
        (.timeOut withdrawing destination)) := by
  intro device downstream node found enabled route listed carries
  dsimp only [step] at found ⊢
  cases neighborFound : state.nodes.lookup withdrawing with
  | none =>
    rw [neighborFound] at found
    rcases reaches device downstream node found enabled route listed carries with
        ⟨rfl, _⟩ | told
    · cases neighborFound.symm.trans found
    · exact told.doomed (fun _ member => member) (fun _ member => member)
        fun _ _ _ lostListed => absurd lostListed not_mem_nil
  | some neighborNode =>
    rw [neighborFound] at found
    dsimp only at found ⊢
    rcases lookup_setNode_cases found with ⟨rfl, rfl⟩ | ⟨other, old⟩
    · exact absurd carries
        (not_carries_of_mem_timeOut (distinct _ neighborNode neighborFound) listed)
    · rcases reaches device downstream node old enabled route listed carries with
          ⟨same, _⟩ | told
      · exact absurd same other
      · exact told.doomed (fun _ member => member) (fun _ member => member)
          fun _ _ _ lostListed => absurd lostListed not_mem_nil

theorem ReachesHolders.doomed
    (withdraws : Withdraws surroundings.network origin destination withdrawing event)
    (distinct : AllDistinct state)
    (reaches : ReachesHolders surroundings origin withdrawing destination state event) :
    Doomed surroundings origin withdrawing destination
      (step surroundings (fun device => (config device).networks) state event) := by
  cases withdraws with
  | stop => exact reaches.doomed_stop
  | interfaceDown next lost => exact reaches.doomed_interfaceDown
  | timeOut next => exact reaches.doomed_timeOut distinct

end Steps

/-! ## Runs -/

/-- Everything that was sent has been handled, and no update or stop is half done. -/
def Drained (state : RipState Device) : Prop :=
  state.inFlight = [] ∧ state.receiving = [] ∧ state.sending = [] ∧ state.stopping = []

instance (state : RipState Device) : Decidable (Drained state) :=
  inferInstanceAs (Decidable (_ ∧ _ ∧ _ ∧ _))

def GoneDownstream (network : VirtualNetwork Device) (origin withdrawing : Device)
    (destination : Prefix) (state : RipState Device) : Prop :=
  ∀ device, Downstream network origin withdrawing device →
    ∀ node, state.nodes.lookup device = some node → node.enabled = true →
      ∀ route ∈ node.table, route.destination = destination → ¬ route.metric < 16

/-- In every run in which a withdrawal reaches each holder downstream, and in which
afterwards the destination is taken only ahead of that poison, the destination is gone
downstream once everything has been handled. -/
theorem withdrawn_when_drained (surroundings : Surroundings Device)
    (config : Device → RipConfig) (origin withdrawing : Device) (destination : Prefix)
    (onlyOrigin : ∀ device metric, Originates config device destination metric → device = origin)
    (start : RipState Device) (booted : Booted config start)
    (before after : List (RipEvent Device)) (event : RipEvent Device)
    (withdraws : Withdraws surroundings.network origin destination withdrawing event)
    (reaches : ReachesHolders surroundings origin withdrawing destination
      (runFrom (step surroundings fun device => (config device).networks) start before) event)
    (takes : Along (step surroundings fun device => (config device).networks)
      (TakesBeforePoison surroundings origin withdrawing destination)
      (runFrom (step surroundings fun device => (config device).networks) start
        (before ++ [event])) after)
    (drained : Drained (runFrom (step surroundings fun device => (config device).networks) start
      (before ++ event :: after))) :
    GoneDownstream surroundings.network origin withdrawing destination
      (runFrom (step surroundings fun device => (config device).networks) start
        (before ++ event :: after)) := by
  have notConfigured : ∀ device, device ≠ origin → destination ∉ (config device).networks :=
    fun device other configured => other (onlyOrigin device 0 (.network configured))
  have distinctStep : ∀ state event, AllDistinct state →
      AllDistinct (step surroundings (fun device => (config device).networks) state event) :=
    fun _ event distinct => step_distinct distinct event
  have distinctStart : AllDistinct start := by
    intro device node found
    rw [booted.table device node found]
    exact nodup_nil
  have distinctBefore := invariant_of_step distinctStep distinctStart before
  rw [runFrom_append] at takes
  rw [runFrom_append, runFrom_cons] at drained ⊢
  have preserved : ∀ (state : RipState Device) (event : RipEvent Device),
      (AllDistinct state ∧ Doomed surroundings origin withdrawing destination state) →
      TakesBeforePoison surroundings origin withdrawing destination state event →
      AllDistinct (step surroundings (fun device => (config device).networks) state event) ∧
        Doomed surroundings origin withdrawing destination
          (step surroundings (fun device => (config device).networks) state event) :=
    fun state event holds ahead => ⟨distinctStep state event holds.1,
      step_doomed notConfigured holds.1 holds.2 ahead⟩
  have both := invariant_along preserved
    ⟨distinctStep _ event distinctBefore, reaches.doomed withdraws distinctBefore⟩ takes
  intro device downstream node found enabled route listed same usable
  obtain ⟨-, -, ⟨packet, onWire, -⟩ | ⟨task, pending, -⟩⟩ :=
    both.2 device downstream node found enabled route listed ⟨same, usable⟩
  · rw [drained.1] at onWire
    cases onWire
  · rw [drained.2.1] at pending
    cases pending

/-! ## A line of three routers -/

local instance lineSize : NeZero 3 := ⟨by decide⟩

/-- Routers 0, 1 and 2 in a line, without addresses, filters or shut interfaces. -/
def lineSurroundings : Surroundings (Fin 3) where
  network :=
    { links := (OrderedMap.empty.insert 0 [1] |>.insert 1 [0, 2] |>.insert 2 [1])
      interfaceLinks := fun _ _ => none
      linkIfaces := fun _ _ => []
      downInterfaces := fun _ => []
      subifVlans := fun _ => []
      vlanPorts := fun _ => []
      deviceIps := .empty }
  filters := fun _ => {}

/-- The network of router 0; the others have none. -/
def lineNetwork : Prefix := ⟨"10.0.0.0", 24⟩

def lineConfig (device : Fin 3) : RipConfig :=
  if device = 0 then { networks := [lineNetwork] } else {}

/-- The three routers as they are before any of them starts. -/
def lineBoot : RipState (Fin 3) :=
  boot lineConfig (OrderedMap.empty.insert 0 () |>.insert 1 () |>.insert 2 ())

def lineAfter (events : List (RipEvent (Fin 3))) : RipState (Fin 3) :=
  runFrom (step lineSurroundings fun device => (lineConfig device).networks) lineBoot events

/-- All three start, and router 1 learns the network from router 0. -/
def lineLearns : List (RipEvent (Fin 3)) :=
  [.start 0, .start 1, .start 2, .sendUpdate 0, .continueSend 0, .continueSend 0,
    .continueSend 0, .deliver 0, .continueReceive 0, .continueReceive 0]

/-- Router 1 sends its triggered update. -/
def lineTriggers : List (RipEvent (Fin 3)) :=
  [.continueSend 0, .continueSend 0, .continueSend 0, .continueSend 0]

/-- The update of router 1 reaches router 2, which then triggers one of its own. -/
def lineSpreads : List (RipEvent (Fin 3)) :=
  lineTriggers ++ [.deliver 0, .continueReceive 0, .continueReceive 0, .continueSend 0,
    .continueSend 0, .continueSend 0]

/-- The poison of router 0 reaches router 1, whose triggered update follows. -/
def linePoisoned : List (RipEvent (Fin 3)) :=
  [.deliver 0, .continueReceive 0, .continueReceive 0] ++ lineTriggers ++ [.continueStop 0]

theorem lineConfig_only (device : Fin 3) (metric : Nat)
    (originates : Originates lineConfig device lineNetwork metric) : device = 0 := by
  by_contra other
  cases originates with
  | network member => simp [lineConfig, other] at member
  | redistributed found =>
    simp only [lineConfig, other, if_false, lookup_empty] at found
    cases found

def HandlesPoison (state : RipState (Fin 3)) : RipEvent (Fin 3) → Prop
  | .continueReceive index => ∀ task ∈ state.receiving[index]?,
      ∀ entry ∈ task.remaining.head?, infinity ≤ entry.metric + 1
  | _ => True

instance (state : RipState (Fin 3)) (event : RipEvent (Fin 3)) :
    Decidable (HandlesPoison state event) :=
  match event with
  | .continueReceive index => inferInstanceAs (Decidable (∀ task ∈ state.receiving[index]?,
      ∀ entry ∈ task.remaining.head?, infinity ≤ entry.metric + 1))
  | .start _ => .isTrue trivial
  | .stop _ => .isTrue trivial
  | .continueStop _ => .isTrue trivial
  | .interfaceDown _ _ => .isTrue trivial
  | .sendRequest _ => .isTrue trivial
  | .sendUpdate _ => .isTrue trivial
  | .continueSend _ => .isTrue trivial
  | .deliver _ => .isTrue trivial
  | .timeOut _ _ => .isTrue trivial
  | .collect _ _ => .isTrue trivial

/-- When router 0 stops before the network has spread beyond router 1, it is gone. -/
theorem line_stops_unspread : GoneDownstream lineSurroundings.network 0 0 lineNetwork
      (lineAfter (lineLearns ++ .stop 0 :: (linePoisoned ++ lineTriggers))) := by
  have told : ∀ device : Fin 3, device ≠ 0 →
      ∀ node ∈ (lineAfter lineLearns).nodes.lookup device, ∀ route ∈ node.table,
        route.learnedFrom = .peer 0 ∧ Admits (lineSurroundings.filters device) lineNetwork ∧
          device ∈ broadcastReceivers lineSurroundings.network (lineAfter lineLearns).nodes 0 ∧
          node.authKey = "" ∧ ∃ withdrawer ∈ (lineAfter lineLearns).nodes.lookup 0,
            ∃ lost ∈ withdrawer.table, lost.destination = lineNetwork := by
    decide +kernel
  have poisonOnly : Along (step lineSurroundings fun device => (lineConfig device).networks)
      HandlesPoison (lineAfter (lineLearns ++ [.stop 0])) (linePoisoned ++ lineTriggers) := by
    decide +kernel
  refine withdrawn_when_drained lineSurroundings lineConfig 0 0 lineNetwork lineConfig_only
    lineBoot (boot_booted _ _) lineLearns (linePoisoned ++ lineTriggers) (.stop 0) .stop ?_ ?_ (by decide +kernel)
  · intro device downstream node found _ route listed _
    obtain ⟨learned, admits, reached, noKey, withdrawer, withdrawerFound, lost⟩ :=
      told device downstream.1 node found route listed
    exact Or.inr ⟨learned, admits, Or.inr ⟨reached, noKey, withdrawer, withdrawerFound, lost⟩⟩
  · refine poisonOnly.weaken fun state event allPoison => ?_
    cases event with
    | continueReceive index =>
      intro task atIndex entry next _ _ _ _ _ taken
      exact absurd taken.2.1 (Nat.not_lt.mpr (allPoison task atIndex entry next))
    | _ => trivial

/-- When router 0 stops, or the route of router 1 times out, after the network has spread
to router 2, everything is handled and router 2 keeps its route. -/
theorem line_keeps_spread :
    (Drained (lineAfter (lineLearns ++ lineSpreads ++ .stop 0 :: linePoisoned)) ∧
      ¬ GoneDownstream lineSurroundings.network 0 0 lineNetwork
        (lineAfter (lineLearns ++ lineSpreads ++ .stop 0 :: linePoisoned))) ∧
    Drained (lineAfter (lineLearns ++ lineSpreads ++
      .timeOut 1 lineNetwork :: .sendUpdate 1 :: lineTriggers)) ∧
    ¬ GoneDownstream lineSurroundings.network 0 1 lineNetwork
      (lineAfter (lineLearns ++ lineSpreads ++
        .timeOut 1 lineNetwork :: .sendUpdate 1 :: lineTriggers)) := by
  have one : Downstream lineSurroundings.network 0 1 2 :=
    ⟨by decide, .single ⟨by decide +kernel, by decide⟩⟩
  have two : Downstream lineSurroundings.network 0 0 2 :=
    ⟨by decide, .head ⟨by decide +kernel, by decide⟩ one.2⟩
  have kept : ∀ events ∈ [.stop 0 :: linePoisoned, .timeOut 1 lineNetwork :: .sendUpdate 1 ::
        lineTriggers],
      ∃ node ∈ (lineAfter (lineLearns ++ lineSpreads ++ events)).nodes.lookup 2,
        node.enabled = true ∧ ∃ route ∈ node.table,
          route.destination = lineNetwork ∧ route.metric < 16 := by
    decide +kernel
  refine ⟨⟨by decide +kernel, fun gone => ?_⟩, by decide +kernel, fun gone => ?_⟩
  · obtain ⟨node, found, enabled, route, listed, same, usable⟩ :=
      kept _ mem_cons_self
    exact gone 2 two node found enabled route listed same usable
  · obtain ⟨node, found, enabled, route, listed, same, usable⟩ :=
      kept _ (mem_cons_of_mem _ mem_cons_self)
    exact gone 2 one node found enabled route listed same usable

end NetLab.Rip
