import NetLab.Rip.Withdrawal

/-!
# Tables and their timers

A router as it is cut at its await points: responses whose entries are still to be taken, and one
expire timer for each destination that was learned. The timers outlive a restart, and a refreshed
route keeps its state, so a table stays in order exactly as long as no timer fires on a configured
network and no garbage is refreshed.
-/

namespace NetLab.Rip

open List

open NetLab.Library NetLab.Network NetLab.Execution RipNode

variable {Device : Type} [DecidableEq Device] {destination : Prefix}

/-! ## The machine -/

/-- What an expire timer waits for: the time-out of its route, or its collection. -/
inductive TimerPhase where
  | timeout
  | garbage
deriving DecidableEq

/-- A router with what it has under way: sources and remaining entries of responses, timers, and
calls of `stop` that have not ended. -/
structure Router (Device : Type) where
  node : RipNode Device := {}
  responses : List (Device × List RipEntry) := []
  timers : OrderedMap Prefix TimerPhase := .empty
  stopping : Nat := 0

inductive RouterEvent (Device : Type) where
  | start (networks : List Prefix)
  | receive (packet : RipPacket Device)
  | nextEntry (index : Nat) (filters : DeviceFilters)
  | expire (destination : Prefix)
  | collect (destination : Prefix)
  | stop
  | finishStop
  | interfaceDown (peers : List Device)

def RipNode.routeTo (node : RipNode Device) (destination : Prefix) : Option (RipRoute Device) :=
  node.table.find? fun route => route.destination == destination

instance (filters : DeviceFilters) (node : RipNode Device) (source : Device) (entry : RipEntry) :
    Decidable (Takes filters node source entry) :=
  decidable_of_iff (Admits filters entry.destination ∧ entry.metric + 1 < infinity ∧
      (node.routeTo entry.destination).all (fun existing =>
        existing.learnedFrom = .peer source ∨ entry.metric + 1 < existing.metric) = true)
    (by
      unfold Takes routeTo
      cases node.table.find? fun route => route.destination == entry.destination <;> simp)

/-- What happens next at one router. -/
def Router.step (router : Router Device) : RouterEvent Device → Router Device
  | .start networks => { router with node := router.node.start networks }
  | .receive packet =>
    if router.node.enabled = true ∧ packet.command = .response ∧
        (router.node.authKey = "" ∨ packet.authKey = router.node.authKey) then
      { router with responses := router.responses ++ [(packet.srcId, packet.entries)] }
    else router
  | .nextEntry index filters =>
    match router.responses[index]? with
    | none => router
    | some (_, []) => { router with responses := router.responses.eraseIdx index }
    | some (source, entry :: rest) =>
      { router with
        node := (router.node.receiveEntry filters source entry).1
        responses := router.responses.set index (source, rest)
        timers :=
          if Takes filters router.node source entry then
            router.timers.insert entry.destination .timeout
          else router.timers }
  | .expire destination =>
    if router.timers.lookup destination = some .timeout then
      match router.node.routeTo destination with
      | none => { router with timers := router.timers.erase destination }
      | some route =>
        if route.metric < infinity then
          { router with
            node := router.node.timeOut destination
            timers := router.timers.insert destination .garbage }
        else { router with timers := router.timers.erase destination }
    else router
  | .collect destination =>
    if router.timers.lookup destination = some .garbage then
      { router with
        node := router.node.collect destination
        timers := router.timers.erase destination }
    else router
  | .stop => { router with stopping := router.stopping + 1 }
  | .finishStop =>
    if router.stopping = 0 then router
    else
      { router with
        node := { router.node with enabled := false }
        timers := .empty
        stopping := router.stopping - 1 }
  | .interfaceDown peers =>
    if router.node.enabled then
      { router with
        node := { router.node with
          table := router.node.table.filter fun route => !learnedThrough peers route } }
    else router

/-- Something happens at one of the routers. -/
def routersStep (routers : Device → Router Device) (event : Device × RouterEvent Device) :
    Device → Router Device :=
  Function.update routers event.1 ((routers event.1).step event.2)

/-- Routers that have not been started, with their keys. -/
def unstarted (keys : Device → String) (device : Device) : Router Device :=
  { node := { authKey := keys device } }

/-! ## Tables in order -/

/-- The metric of a route fits its source and its state. -/
structure RouteOrder (route : RipRoute Device) : Prop where
  learned : route.learnedFrom ≠ .direct → 1 ≤ route.metric ∧ route.metric ≤ infinity
  garbage : route.state = .garbage ↔ route.metric = infinity

/-- One route for each destination, a direct one for each configured network, and metrics that fit. -/
structure TableOrder (node : RipNode Device) : Prop where
  distinct : Distinct node.table
  configured : ∀ destination ∈ node.networks, ∃ route ∈ node.table,
    route.destination = destination ∧ route.metric = 0 ∧ route.learnedFrom = .direct
  routes : ∀ route ∈ node.table, RouteOrder route

def TablesInOrder (routers : Device → Router Device) : Prop :=
  ∀ device, (routers device).node.enabled = true → TableOrder (routers device).node

def Router.Orderly (router : Router Device) : RouterEvent Device → Prop
  | .nextEntry index filters => ∀ source entry rest,
      router.responses[index]? = some (source, entry :: rest) →
      Takes filters router.node source entry →
      ∀ route, router.node.routeTo entry.destination = some route → route.state = .valid
  | .expire destination => router.timers.lookup destination = some .timeout →
      ∀ route, router.node.routeTo destination = some route → route.learnedFrom ≠ .direct
  | .collect destination => router.timers.lookup destination = some .garbage →
      ∀ route, router.node.routeTo destination = some route → route.learnedFrom ≠ .direct
  | _ => True

def OrderlyEvent (routers : Device → Router Device) (event : Device × RouterEvent Device) : Prop :=
  (routers event.1).node.enabled = true → (routers event.1).Orderly event.2

/-! ## What the handling of an entry does -/

section Entries

variable {filters : DeviceFilters} {node : RipNode Device} {source : Device} {entry : RipEntry}

def RipEntry.route (entry : RipEntry) (source : Device) : RipRoute Device where
  destination := entry.destination
  metric := entry.metric + 1
  nextHop := some source
  learnedFrom := .peer source

theorem receiveEntry_of_new (takes : Takes filters node source entry)
    (absent : node.routeTo entry.destination = none) :
    (node.receiveEntry filters source entry).1 =
      { node with table := addRoute node.table (entry.route source) } := by
  obtain ⟨⟨named, allowed⟩, finite, -⟩ := takes
  have low : min (entry.metric + 1) infinity = entry.metric + 1 := min_eq_left finite.le
  unfold routeTo at absent
  simp [receiveEntry, named, allowed, low, Nat.not_le.mpr finite, absent, RipEntry.route]

theorem receiveEntry_of_known (takes : Takes filters node source entry) {existing : RipRoute Device}
    (found : node.routeTo entry.destination = some existing) :
    ∃ update : RipRoute Device → RipRoute Device, (node.receiveEntry filters source entry).1 =
        { node with
          table := updateFirst (fun route => route.destination == entry.destination) update
            node.table } ∧
      (∀ route, (update route).destination = route.destination) ∧
      (update existing).metric = entry.metric + 1 ∧ (update existing).state = existing.state ∧
      (update existing).learnedFrom = .peer source := by
  obtain ⟨⟨named, allowed⟩, finite, better⟩ := takes
  have low : min (entry.metric + 1) infinity = entry.metric + 1 := min_eq_left finite.le
  by_cases own : existing.learnedFrom = .peer source
  · refine ⟨fun route => { route with metric := entry.metric + 1 }, ?_, fun _ => rfl, rfl, rfl, own⟩
    unfold routeTo at found
    simp [receiveEntry, named, allowed, low, Nat.not_le.mpr finite, found, own]
  · refine ⟨fun route =>
      { route with
        metric := entry.metric + 1
        learnedFrom := .peer source
        nextHop := some source }, ?_, fun _ => rfl, rfl, rfl, rfl⟩
    have less := (better existing found).resolve_left own
    unfold routeTo at found
    simp [receiveEntry, named, allowed, low, Nat.not_le.mpr finite, found, own, less]

theorem receiveEntry_of_not_takes (rejected : ¬ Takes filters node source entry) :
    (node.receiveEntry filters source entry).1 = node ∨ (node.receiveEntry filters source entry).1 =
        { node with
          table := node.table.eraseP fun route =>
            route.destination == entry.destination && route.learnedFrom == .peer source } := by
  unfold receiveEntry
  by_cases unnamed : entry.destination.network = "" ∨ entry.destination.network = "0.0.0.0"
  · exact .inl (by rw [if_pos unnamed])
  rw [if_neg unnamed]
  by_cases denied : ¬ filters.checkPrefixList
      ((filters.distributeLists.lookup (.rip, .inbound)).getD "")
      entry.destination.network entry.destination.length = true
  · exact .inl (by rw [if_pos denied])
  rw [if_neg denied]
  dsimp only
  by_cases unreachable : infinity ≤ min (entry.metric + 1) infinity
  · rw [if_pos unreachable]
    split
    · exact .inr rfl
    · exact .inl rfl
  · rw [if_neg unreachable]
    have finite : entry.metric + 1 < infinity := by omega
    cases found : node.table.find? fun route => route.destination == entry.destination with
    | none =>
      refine absurd ⟨⟨unnamed, not_not.mp denied⟩, finite, fun existing known => ?_⟩ rejected
      cases found.symm.trans known
    | some existing =>
      have worse : ¬ (existing.learnedFrom = .peer source ∨
          entry.metric + 1 < existing.metric) := by
        intro better
        refine rejected ⟨⟨unnamed, not_not.mp denied⟩, finite, fun other known => ?_⟩
        obtain rfl := Option.some.inj (found.symm.trans known)
        exact better
      obtain ⟨foreign, high⟩ := not_or.mp worse
      have low : min (entry.metric + 1) infinity = entry.metric + 1 := min_eq_left finite.le
      exact .inl (by simp [foreign, low, high])

end Entries

/-! ## Steps -/

variable {table : List (RipRoute Device)} {route : RipRoute Device}

section Steps

variable {node : RipNode Device}

omit [DecidableEq Device] in
theorem mem_updateFirst_of_ne {test : RipRoute Device → Bool}
    {update : RipRoute Device → RipRoute Device} {route old : RipRoute Device}
    (member : route ∈ table) (found : table.find? test = some old) (different : route ≠ old) :
    route ∈ updateFirst test update table := by
  induction table with
  | nil => cases member
  | cons head rest ih =>
    cases accepted : test head with
    | true =>
      obtain rfl : head = old := by simpa [accepted] using found
      simp only [updateFirst, accepted, if_true]
      exact mem_cons_of_mem _ ((mem_cons.mp member).resolve_left different)
    | false =>
      simp only [updateFirst, accepted, Bool.false_eq_true, if_false]
      rcases mem_cons.mp member with rfl | later
      · exact mem_cons_self
      · exact mem_cons_of_mem _ (ih later (by simpa [accepted] using found))

omit [DecidableEq Device] in
theorem updateFirst_mem {test : RipRoute Device → Bool} {update : RipRoute Device → RipRoute Device}
    {old : RipRoute Device} (found : table.find? test = some old) :
    update old ∈ updateFirst test update table := by
  induction table with
  | nil => cases found
  | cons head rest ih =>
    cases accepted : test head with
    | true =>
      obtain rfl : head = old := by simpa [accepted] using found
      simp [updateFirst, accepted]
    | false =>
      simp only [updateFirst, accepted, Bool.false_eq_true, if_false]
      exact mem_cons_of_mem _ (ih (by simpa [accepted] using found))

omit [DecidableEq Device] in
theorem Distinct.eq_of_destination (distinct : Distinct table) {route other : RipRoute Device}
    (member : route ∈ table) (member' : other ∈ table)
    (same : route.destination = other.destination) : route = other :=
  inj_on_of_nodup_map distinct member member' same

omit [DecidableEq Device] in
theorem mem_of_routeTo (found : node.routeTo destination = some route) :
    route ∈ node.table ∧ route.destination = destination :=
  ⟨mem_of_find?_eq_some found, by simpa using find?_some found⟩

omit [DecidableEq Device] in
theorem mem_destination_addRoute
    (there : destination = route.destination ∨ destination ∈ table.map RipRoute.destination) :
    destination ∈ (addRoute table route).map RipRoute.destination := by
  unfold addRoute
  split
  · rename_i present
    rw [map_destination_updateFirst fun old same => (beq_iff_eq.mp same).symm]
    rcases there with rfl | there
    · obtain ⟨old, listed, same⟩ := any_eq_true.mp present
      exact mem_map.mpr ⟨old, listed, beq_iff_eq.mp same⟩
    · exact there
  · rcases there with rfl | there
    · simp
    · simp only [map_append, mem_append]
      exact .inl there

omit [DecidableEq Device] in
theorem mem_destination_directTable {networks : List Prefix} (configured : destination ∈ networks) :
    destination ∈ (directTable networks : List (RipRoute Device)).map RipRoute.destination := by
  have general : ∀ (added : List Prefix) (table : List (RipRoute Device)),
      destination ∈ added ∨ destination ∈ table.map RipRoute.destination →
      destination ∈ (added.foldl (fun table destination => addRoute table
        { destination, metric := 0, nextHop := none, learnedFrom := .direct }) table).map
          RipRoute.destination := by
    intro added
    induction added with
    | nil => exact fun table there => there.resolve_left not_mem_nil
    | cons first rest ih =>
      intro table there
      apply ih
      rcases there with here | there
      · rcases mem_cons.mp here with rfl | later
        · exact .inr (mem_destination_addRoute (.inl rfl))
        · exact .inl later
      · exact .inr (mem_destination_addRoute (.inr there))
  exact general networks [] (.inl configured)

omit [DecidableEq Device] in
/-- The routes of a router that has just started have metric 0 and are valid. -/
theorem blank_directTable (networks : List Prefix) :
    ∀ route ∈ (directTable networks : List (RipRoute Device)),
      route.metric = 0 ∧ route.state = .valid := by
  let Blank (table : List (RipRoute Device)) : Prop :=
    ∀ route ∈ table, route.metric = 0 ∧ route.state = .valid
  refine List.foldlRecOn (motive := Blank) networks _ (by simp [Blank]) ?_
  intro table blank destination _ route member
  rcases mem_addRoute member with rfl | old
  · exact ⟨rfl, rfl⟩
  · exact blank route old

def DirectConfigured (node : RipNode Device) : Prop :=
  ∀ route ∈ node.table, route.learnedFrom = .direct → route.destination ∈ node.networks

namespace TableOrder

omit [DecidableEq Device] in
/-- A direct route of a table in order has metric 0. -/
theorem metric_direct (order : TableOrder node) (known : DirectConfigured node)
    (member : route ∈ node.table) (direct : route.learnedFrom = .direct) : route.metric = 0 := by
  obtain ⟨own, listed, same, zero, -⟩ := order.configured _ (known route member direct)
  rwa [← order.distinct.eq_of_destination listed member same]

omit [DecidableEq Device] in
theorem updateFirst_iff (order : TableOrder node) {existing : RipRoute Device}
    (found : node.routeTo destination = some existing) (learned : existing.learnedFrom ≠ .direct)
    {update : RipRoute Device → RipRoute Device}
    (kept : ∀ route, (update route).destination = route.destination) :
    TableOrder { node with
        table := updateFirst (fun route => route.destination == destination) update node.table } ↔
      RouteOrder (update existing) := by
  constructor
  · exact fun ordered => ordered.routes _ (updateFirst_mem found)
  · refine fun fits => ⟨order.distinct.updateFirst fun route _ => kept route, ?_, ?_⟩
    · intro network configured
      obtain ⟨route, listed, same, zero, direct⟩ := order.configured network configured
      have different : route ≠ existing := fun equal => learned (equal ▸ direct)
      exact ⟨route, mem_updateFirst_of_ne listed found different, same, zero, direct⟩
    · intro route member
      rcases mem_updateFirst member with old | ⟨old, known, rfl⟩
      · exact order.routes route old
      · obtain rfl := Option.some.inj (found.symm.trans known)
        exact fits

omit [DecidableEq Device] in
theorem sublist (order : TableOrder node) (lost : table.Sublist node.table)
    (kept : ∀ route ∈ node.table, route.learnedFrom = .direct → route ∈ table) :
    TableOrder { node with table } := by
  refine ⟨order.distinct.sublist lost, ?_, fun route member => order.routes route (lost.subset member)⟩
  intro network configured
  obtain ⟨route, listed, same, zero, direct⟩ := order.configured network configured
  exact ⟨route, kept route listed direct, same, zero, direct⟩

omit [DecidableEq Device] in
theorem learned (order : TableOrder node) (absent : node.routeTo destination = none)
    (new : route.destination = destination) (fits : RouteOrder route) :
    TableOrder { node with table := addRoute node.table route } := by
  have fresh : addRoute node.table route = node.table ++ [route] := by
    have unknown : (node.table.any fun old => old.destination == route.destination) = false := by
      rw [new]
      simpa [routeTo] using absent
    simp [addRoute, unknown]
  refine ⟨order.distinct.addRoute route, ?_, ?_⟩
  · intro network configured
    obtain ⟨own, listed, direct⟩ := order.configured network configured
    exact ⟨own, by simp [fresh, listed], direct⟩
  · intro other member
    rcases mem_addRoute member with rfl | old
    · exact fits
    · exact order.routes other old

omit [DecidableEq Device] in
theorem timeOut_iff (order : TableOrder node) (known : DirectConfigured node)
    (found : node.routeTo destination = some route) (usable : route.metric < infinity) :
    TableOrder (node.timeOut destination) ↔ route.learnedFrom ≠ .direct := by
  have kept : ∀ route : RipRoute Device, (if route.metric < infinity then
      { route with metric := infinity, state := .garbage } else route).destination =
        route.destination := by
    intro route
    split <;> rfl
  constructor
  · intro ordered direct
    have known' : DirectConfigured (node.timeOut destination) := by
      intro other member direct'
      rcases mem_updateFirst member with old | ⟨old, listed, rfl⟩
      · exact known other old direct'
      · obtain rfl := Option.some.inj (found.symm.trans listed)
        rw [kept]
        exact known route (mem_of_routeTo found).1 direct
    have zero := ordered.metric_direct known' (updateFirst_mem found) (by simpa [usable] using direct)
    rw [if_pos usable] at zero
    exact absurd zero (by decide : ¬ infinity = 0)
  · intro learned
    refine (order.updateFirst_iff found learned kept).mpr ?_
    simp only [usable, if_true]
    exact ⟨fun _ => ⟨(by decide : 1 ≤ infinity), le_rfl⟩, by simp⟩

omit [DecidableEq Device] in
theorem collect_iff (order : TableOrder node) (known : DirectConfigured node) :
    TableOrder (node.collect destination) ↔
      ∀ route, node.routeTo destination = some route → route.learnedFrom ≠ .direct := by
  constructor
  · intro ordered route found direct
    obtain ⟨member, same⟩ := mem_of_routeTo found
    obtain ⟨own, listed, sameOwn, -⟩ := ordered.configured _ (known route member direct)
    refine order.distinct.not_mem_eraseP (by simpa using sameOwn.trans same) ?_ listed
    intro other passes
    exact (beq_iff_eq.mp passes).trans (sameOwn.trans same).symm
  · intro learned
    refine order.sublist eraseP_sublist fun route member direct => ?_
    refine (mem_eraseP_of_neg ?_).mpr member
    intro passes
    cases found : node.routeTo destination with
    | none => exact absurd passes (by simpa using find?_eq_none.mp found route member)
    | some other =>
      obtain ⟨listed, same⟩ := mem_of_routeTo found
      have equal := order.distinct.eq_of_destination member listed
        ((beq_iff_eq.mp passes).trans same.symm)
      exact learned other found (equal ▸ direct)

omit [DecidableEq Device] in
theorem start (node : RipNode Device) (networks : List Prefix) :
    TableOrder (node.start networks) := by
  refine ⟨(distinct_directTable networks).1, fun network configured => ?_, fun route member => ?_⟩
  · obtain ⟨route, member, same⟩ := mem_map.mp (mem_destination_directTable configured)
    have blank := blank_directTable networks route member
    exact ⟨route, member, same, blank.1, learnedFrom_directTable member⟩
  · obtain ⟨zero, valid⟩ := blank_directTable networks route member
    refine ⟨fun learned => absurd (learnedFrom_directTable member) learned, ?_⟩
    simp [zero, valid, infinity]

end TableOrder

namespace DirectConfigured

omit [DecidableEq Device] in
theorem start (node : RipNode Device) (networks : List Prefix) :
    DirectConfigured (node.start networks) :=
  fun route member _ => (distinct_directTable networks).2 route member

omit [DecidableEq Device] in
theorem subset (known : DirectConfigured node) (subset : ∀ route ∈ table, route ∈ node.table) :
    DirectConfigured { node with table } :=
  fun route member => known route (subset route member)

omit [DecidableEq Device] in
theorem updateFirst (known : DirectConfigured node) {test : RipRoute Device → Bool}
    {update : RipRoute Device → RipRoute Device}
    (kept : ∀ route, (update route).destination = route.destination)
    (direct : ∀ old, node.table.find? test = some old → (update old).learnedFrom = .direct →
      old.learnedFrom = .direct) :
    DirectConfigured { node with table := Rip.updateFirst test update node.table } := by
  intro route member own
  rcases mem_updateFirst member with old | ⟨old, found, rfl⟩
  · exact known route old own
  · rw [kept]
    exact known old (mem_of_find?_eq_some found) (direct old found own)

theorem receiveEntry (known : DirectConfigured node) (filters : DeviceFilters) (source : Device)
    (entry : RipEntry) : DirectConfigured (node.receiveEntry filters source entry).1 := by
  by_cases takes : Takes filters node source entry
  · cases found : node.routeTo entry.destination with
    | none =>
      rw [receiveEntry_of_new takes found]
      intro route member direct
      rcases mem_addRoute member with rfl | old
      · cases direct
      · exact known route old direct
    | some existing =>
      obtain ⟨update, handled, kept, _, _, learned⟩ := receiveEntry_of_known takes found
      rw [handled]
      refine known.updateFirst kept fun old listed direct => ?_
      obtain rfl := Option.some.inj (found.symm.trans listed)
      cases learned.symm.trans direct
  · rcases receiveEntry_of_not_takes takes with same | poisoned
    · rwa [same]
    · rw [poisoned]
      exact known.subset fun route member => mem_of_mem_eraseP member

omit [DecidableEq Device] in
theorem timeOut (known : DirectConfigured node) (destination : Prefix) :
    DirectConfigured (node.timeOut destination) := by
  refine known.updateFirst (fun route => ?_) fun old _ direct => ?_
  · split <;> rfl
  · split at direct <;> exact direct

theorem step {router : Router Device} (known : DirectConfigured router.node)
    (event : RouterEvent Device) : DirectConfigured (router.step event).node := by
  cases event with
  | start networks => exact start router.node networks
  | receive packet =>
    simp only [Router.step]
    split <;> exact known
  | nextEntry index filters =>
    simp only [Router.step]
    split
    · exact known
    · exact known
    · exact known.receiveEntry _ _ _
  | expire destination =>
    simp only [Router.step]
    split
    · split
      · exact known
      · split
        · exact known.timeOut destination
        · exact known
    · exact known
  | collect destination =>
    simp only [Router.step]
    split
    · exact known.subset fun route member => mem_of_mem_eraseP member
    · exact known
  | stop => exact known
  | finishStop =>
    simp only [Router.step]
    split <;> exact known
  | interfaceDown peers =>
    simp only [Router.step]
    split
    · exact known.subset fun route member => mem_of_mem_filter member
    · exact known

end DirectConfigured

theorem TableOrder.receiveEntry_iff (order : TableOrder node) (known : DirectConfigured node)
    (filters : DeviceFilters) (source : Device) (entry : RipEntry) :
    TableOrder (node.receiveEntry filters source entry).1 ↔ (Takes filters node source entry →
        ∀ route, node.routeTo entry.destination = some route → route.state = .valid) := by
  by_cases takes : Takes filters node source entry
  · have finite : entry.metric + 1 < 16 := takes.2.1
    cases found : node.routeTo entry.destination with
    | none =>
      rw [receiveEntry_of_new takes found]
      have fits : RouteOrder (entry.route source) := by
        refine ⟨fun _ => ⟨Nat.le_add_left _ _, finite.le⟩, ?_⟩
        simp [RipEntry.route, infinity]
        omega
      simpa using order.learned found rfl fits
    | some existing =>
      obtain ⟨update, handled, kept, metric, state, learned⟩ := receiveEntry_of_known takes found
      have notDirect : existing.learnedFrom ≠ .direct := by
        intro direct
        have zero := order.metric_direct known (mem_of_routeTo found).1 direct
        rcases takes.2.2 existing found with own | less
        · cases own.symm.trans direct
        · omega
      rw [handled, order.updateFirst_iff found notDirect kept]
      have fits : RouteOrder (update existing) ↔ existing.state = .valid := by
        constructor
        · rintro ⟨-, garbage⟩
          cases own : existing.state with
          | valid => rfl
          | garbage =>
            have high := garbage.mp (state.trans own)
            rw [metric] at high
            exact absurd high finite.ne
        · intro valid
          refine ⟨fun _ => ⟨?_, ?_⟩, ?_⟩
          · omega
          · exact metric.le.trans finite.le
          · simp [state, valid, metric, finite.ne, infinity]
      simpa [takes] using fits
  · simp only [takes, false_imp_iff, iff_true]
    rcases receiveEntry_of_not_takes takes with same | poisoned
    · rwa [same]
    · rw [poisoned]
      refine order.sublist eraseP_sublist fun route member direct => ?_
      exact (mem_eraseP_of_neg (by simp [direct])).mpr member

theorem enabled_receiveEntry (node : RipNode Device) (filters : DeviceFilters) (source : Device)
    (entry : RipEntry) : (node.receiveEntry filters source entry).1.enabled = node.enabled := by
  obtain ⟨table, handled, -⟩ := node.receiveEntry_handled filters source entry
  rw [handled]

theorem step_inOrder_iff {router : Router Device} (known : DirectConfigured router.node)
    (order : router.node.enabled = true → TableOrder router.node) (event : RouterEvent Device) :
    ((router.step event).node.enabled = true → TableOrder (router.step event).node) ↔
      (router.node.enabled = true → router.Orderly event) := by
  cases event with
  | start networks =>
    exact iff_of_true (fun _ => TableOrder.start router.node networks) fun _ => trivial
  | receive packet =>
    refine iff_of_true ?_ fun _ => trivial
    simp only [Router.step]
    split <;> exact order
  | nextEntry index filters =>
    simp only [Router.step, Router.Orderly]
    cases there : router.responses[index]? with
    | none => exact iff_of_true order (by rintro _ _ _ _ ⟨⟩)
    | some response =>
      obtain ⟨source, entries⟩ := response
      cases entries with
      | nil => exact iff_of_true order (by rintro _ _ _ _ ⟨⟩)
      | cons entry rest =>
        rw [enabled_receiveEntry]
        refine forall_congr' fun enabled => ?_
        rw [(order enabled).receiveEntry_iff known]
        constructor
        · intro valid other taken others same
          obtain ⟨rfl, rfl⟩ : source = other ∧ entry = taken := by simp_all
          exact valid
        · exact fun orderly => orderly source entry rest rfl
  | expire destination =>
    simp only [Router.step, Router.Orderly]
    by_cases waiting : router.timers.lookup destination = some .timeout
    · simp only [waiting, if_true, true_imp_iff]
      cases found : router.node.routeTo destination with
      | none => exact iff_of_true order (by rintro _ _ ⟨⟩)
      | some route =>
        by_cases usable : route.metric < infinity
        · simp only [usable, if_true]
          refine forall_congr' fun enabled => ?_
          simpa using (order enabled).timeOut_iff known found usable
        · simp only [usable, if_false]
          refine iff_of_true order fun enabled other same direct => ?_
          obtain rfl := Option.some.inj same
          have zero := (order enabled).metric_direct known (mem_of_routeTo found).1 direct
          exact usable (by rw [zero]; decide)
    · simp only [waiting, if_false, false_imp_iff, implies_true, iff_true]
      exact order
  | collect destination =>
    simp only [Router.step, Router.Orderly]
    by_cases waiting : router.timers.lookup destination = some .garbage
    · simp only [waiting, if_true, true_imp_iff]
      exact forall_congr' fun enabled => (order enabled).collect_iff known
    · simp only [waiting, if_false, false_imp_iff, implies_true, iff_true]
      exact order
  | stop => exact iff_of_true order fun _ => trivial
  | finishStop =>
    refine iff_of_true ?_ fun _ => trivial
    simp only [Router.step]
    split
    · exact order
    · exact fun enabled => absurd enabled (by simp)
  | interfaceDown peers =>
    refine iff_of_true ?_ fun _ => trivial
    simp only [Router.step]
    split
    · intro enabled
      refine (order enabled).sublist filter_sublist fun route member direct => ?_
      exact mem_filter.mpr ⟨member, by simp [learnedThrough, direct]⟩
    · exact order

end Steps

/-! ## Runs -/

/-- The tables of enabled routers are in order throughout a run if and only if no enabled router
takes an entry for garbage, and none of its timers fires on a direct route. -/
theorem tables_inOrder_iff (keys : Device → String) (events : List (Device × RouterEvent Device)) :
    Throughout routersStep TablesInOrder (unstarted keys) events ↔
      Along routersStep OrderlyEvent (unstarted keys) events := by
  let Known (routers : Device → Router Device) : Prop :=
    ∀ device, DirectConfigured (routers device).node
  have preserved : ∀ routers event, Known routers → Known (routersStep routers event) := by
    intro routers event known device
    by_cases here : device = event.1
    · subst here
      simpa [routersStep] using (known event.1).step event.2
    · simpa [routersStep, here] using known device
  have exactStep : ∀ routers event, Known routers → TablesInOrder routers →
      (TablesInOrder (routersStep routers event) ↔ OrderlyEvent routers event) := by
    intro routers event known order
    have one := step_inOrder_iff (known event.1) (order event.1) event.2
    constructor
    · intro ordered
      exact one.mp (by simpa [routersStep] using ordered event.1)
    · intro orderly device
      by_cases here : device = event.1
      · subst here
        simpa [routersStep] using one.mpr orderly
      · simpa [routersStep, here] using order device
  have known : Known (unstarted keys) := fun _ _ member => absurd member not_mem_nil
  have order : TablesInOrder (unstarted keys) := fun _ enabled => absurd enabled Bool.false_ne_true
  exact throughout_iff_along preserved exactStep known order events

/-- A route times out and is learned again before it is collected: it stays marked as garbage. -/
theorem refreshed_garbage_disorders :
    ¬ Throughout routersStep TablesInOrder (unstarted fun _ : String => "")
      [("r1", .start [⟨"10.0.1.0", 24⟩]),
        ("r1", .receive ⟨.response, "r2", [⟨⟨"10.0.2.0", 24⟩, 0⟩], ""⟩),
        ("r1", .nextEntry 0 {}), ("r1", .expire ⟨"10.0.2.0", 24⟩),
        ("r1", .receive ⟨.response, "r2", [⟨⟨"10.0.2.0", 24⟩, 0⟩], ""⟩),
        ("r1", .nextEntry 1 {})] := by
  intro ordered
  have last := ordered.finish "r1" (by decide)
  let stale : RipRoute String :=
    { destination := ⟨"10.0.2.0", 24⟩
      metric := 1
      nextHop := some "r2"
      learnedFrom := .peer "r2"
      state := .garbage }
  have garbage := (last.routes stale (by decide)).garbage
  exact absurd (garbage.mp rfl) (by decide)

end NetLab.Rip
