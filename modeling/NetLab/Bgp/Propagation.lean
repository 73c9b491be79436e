import NetLab.Bgp.Delivery
import Mathlib.Dynamics.PeriodicPts.Defs

/-!
# Where propagation stops

A propagation repeats rounds until one of them changes nothing, at most 40 times.
When the best paths fit the received routes, that is the same as doing 40 rounds,
so a second propagation changes nothing exactly if the rounds have by then entered
a cycle whose length divides 40. `line_unsettled` is a line of speakers too long
for that.
-/

namespace NetLab.Bgp

open NetLab.Library NetLab.Network
open OrderedMap List Function

namespace BgpEngine

variable {Device : Type} [DecidableEq Device] {filters : FilterEngine Device}

def tables (engine : BgpEngine Device) :
    OrderedMap Device (RibIn Device × List (LocRoute Device)) :=
  engine.nodes.mapValues fun _ node => (node.ribIn, node.locRib)

/-- The state after one round. -/
def roundStep (filters : FilterEngine Device) (engine : BgpEngine Device) : BgpEngine Device :=
  (engine.round filters).1

/-- The best paths of all enabled speakers fit their received routes. -/
def Synced (engine : BgpEngine Device) : Prop := engine.recalcAll = engine

omit [DecidableEq Device] in
theorem eq_of_entries {left right : BgpEngine Device}
    (same : left.nodes.entries = right.nodes.entries) : left = right := by
  cases left
  cases right
  exact congrArg mk (OrderedMap.ext same)

omit [DecidableEq Device] in
theorem synced_recalcAll (engine : BgpEngine Device) : engine.recalcAll.Synced := by
  apply eq_of_entries
  change (engine.nodes.entries.map _).map _ = engine.nodes.entries.map _
  rw [map_map]
  refine map_congr_left fun entry _ => ?_
  by_cases enabled : entry.2.enabled = true
  · simp [enabled, BgpNode.recalcBestPath]
  · simp [enabled]

theorem synced_roundStep (engine : BgpEngine Device) : (engine.roundStep filters).Synced :=
  synced_recalcAll _

variable {engine : BgpEngine Device}

/-- A quiet round leaves a state with fitting best paths as it is. -/
theorem roundStep_of_quiet (synced : engine.Synced) (quiet : (engine.round filters).2 = false) :
    engine.roundStep filters = engine := by
  change (engine.deliverAll filters).1.recalcAll = engine
  rw [(deliverAll_of_quiet quiet).1]
  exact synced

/-- From fitting best paths, stopping early is the same as going on. -/
theorem rounds_eq_iterate (synced : engine.Synced) (guard : Nat) :
    rounds filters guard engine = (roundStep filters)^[guard] engine := by
  induction guard generalizing engine with
  | zero => rfl
  | succ guard ih =>
    unfold rounds
    dsimp only
    rw [iterate_succ_apply]
    split
    case isTrue => exact ih (synced_roundStep engine)
    case isFalse still =>
        have fixed := roundStep_of_quiet synced (by simpa using still)
        rw [fixed, iterate_fixed fixed]
        exact fixed

/-- Number of rounds that count from any state: a first round that changes no table of
received routes is also the last. -/
def effectiveRounds (filters : FilterEngine Device) (engine : BgpEngine Device) : Nat :=
  if (engine.round filters).2 then roundGuard else 1

variable (filters : FilterEngine Device)

theorem propagateBgp_eq_iterate (engine : BgpEngine Device) : engine.propagateBgp filters =
      (roundStep filters)^[engine.effectiveRounds filters] engine := by
  have first : rounds filters roundGuard engine =
      (roundStep filters)^[engine.effectiveRounds filters] engine := by
    unfold effectiveRounds
    change rounds filters (39 + 1) engine = _
    unfold rounds
    dsimp only
    split
    case isTrue changed => exact rounds_eq_iterate (synced_roundStep engine) 39
    case isFalse still => rfl
  have positive : ∃ count, engine.effectiveRounds filters = count + 1 := by
    unfold effectiveRounds
    split
    · exact ⟨39, rfl⟩
    · exact ⟨0, rfl⟩
  obtain ⟨count, count_eq⟩ := positive
  unfold propagateBgp
  rw [first, count_eq, iterate_succ_apply']
  exact synced_roundStep _

theorem synced_propagateBgp (engine : BgpEngine Device) : (engine.propagateBgp filters).Synced :=
  synced_recalcAll _

/-- From fitting best paths a propagation is 40 rounds. -/
theorem propagateBgp_of_synced (synced : engine.Synced) :
    engine.propagateBgp filters = (roundStep filters)^[roundGuard] engine := by
  unfold propagateBgp
  rw [rounds_eq_iterate synced]
  change recalcAll ((roundStep filters)^[39 + 1] engine) = (roundStep filters)^[39 + 1] engine
  rw [iterate_succ_apply']
  exact synced_roundStep _

omit [DecidableEq Device] in
theorem eq_of_tables {left right : BgpEngine Device} (config : left.config = right.config)
    (tables : left.tables = right.tables) : left = right := by
  apply eq_of_entries
  have sameConfig : left.nodes.entries.map _ = right.nodes.entries.map _ :=
    congrArg OrderedMap.entries config
  have sameTables : left.nodes.entries.map _ = right.nodes.entries.map _ :=
    congrArg OrderedMap.entries tables
  revert sameConfig sameTables
  generalize left.nodes.entries = leftEntries
  generalize right.nodes.entries = rightEntries
  intro sameConfig sameTables
  induction leftEntries generalizing rightEntries with
  | nil =>
    cases rightEntries with
    | nil => rfl
    | cons _ _ => cases sameConfig
  | cons entry rest ih =>
    cases rightEntries with
    | nil => cases sameConfig
    | cons other others =>
      obtain ⟨configHere, configRest⟩ := List.cons.inj sameConfig
      obtain ⟨tablesHere, tablesRest⟩ := List.cons.inj sameTables
      rw [ih others configRest tablesRest]
      obtain ⟨device, node⟩ := entry
      obtain ⟨otherDevice, otherNode⟩ := other
      cases node
      cases otherNode
      simp only [BgpNode.blank, Prod.mk.injEq, BgpNode.mk.injEq] at configHere tablesHere ⊢
      simp [configHere, tablesHere]

/-- The rounds that a propagation performs lead into a cycle of rounds whose length
divides the number of rounds that a further propagation performs; a fixpoint is a
cycle of length one. -/
def EntersShortCycle (filters : FilterEngine Device) (engine : BgpEngine Device) : Prop :=
  Function.minimalPeriod (roundStep filters)
    ((roundStep filters)^[engine.effectiveRounds filters] engine) ∣ roundGuard

end BgpEngine

/-! ## A long line of speakers -/

section Line

open BgpEngine

/-- AS number of a speaker on the line. -/
def lineAs (device : Nat) : Nat := 65001 + device

/-- AS path under which a speaker hears of the network of speaker 0. -/
def linePath : Nat → List Nat
  | 0 => []
  | device + 1 => lineAs device :: linePath device

/-- The network of speaker 0. -/
def linePrefix : Prefix := ⟨"10.0.0.0", 8⟩

/-- The route that a speaker's successor holds from it. -/
def lineRoute (device : Nat) : BgpRoute Nat := { nextHop := device, asPath := linePath (device + 1) }

def lineSession (peer : Nat) : BgpSession := { remoteAs := lineAs peer, state := .established }

/-- Sessions of a speaker with its predecessor and its successor. -/
def lineSessions (length device : Nat) : OrderedMap Nat BgpSession :=
  let before : OrderedMap Nat BgpSession := match device with
    | 0 => .empty
    | previous + 1 => OrderedMap.empty.insert previous (lineSession previous)
  if device + 1 < length then before.insert (device + 1) (lineSession (device + 1)) else before

/-- Routes received when the network has reached the first speakers. -/
def lineRib (reached : Nat) : Nat → RibIn Nat
  | 0 => .empty
  | previous + 1 =>
    if previous < reached then OrderedMap.empty.insert (previous, linePrefix) (lineRoute previous)
    else .empty

theorem lineRib_succ (reached previous : Nat) : lineRib reached (previous + 1) =
    if previous < reached then OrderedMap.empty.insert (previous, linePrefix) (lineRoute previous)
    else .empty := rfl

/-- A speaker on the line; the first one originates the network. -/
def lineNode (length reached device : Nat) : BgpNode Nat :=
  { enabled := true
    localAs := some (lineAs device)
    sessions := lineSessions length device
    ribIn := lineRib reached device
    locRib := bestPaths (lineRib reached device)
    networks := if device = 0 then [⟨"10.0.0.0", some 8⟩] else [] }

/-- Speakers in a line, each with established eBGP sessions to its neighbours. -/
def line (length reached : Nat) : BgpEngine Nat :=
  ⟨(List.range length).map fun device => (device, lineNode length reached device), by
    simpa [map_map, comp_def] using nodup_range⟩

variable {length reached device : Nat} {filters : FilterEngine Nat}

theorem lookup_line : (line length reached).nodes.lookup device =
    if device < length then some (lineNode length reached device) else none := by
  split
  case isTrue inside =>
      refine mem_entries_iff.mp (mem_map.mpr ⟨device, ?_, rfl⟩)
      exact mem_range.mpr inside
  case isFalse outside =>
      refine lookup_eq_none_iff.mpr fun member => outside ?_
      obtain ⟨entry, held, rfl⟩ := mem_map.mp member
      obtain ⟨other, inside, rfl⟩ := mem_map.mp held
      exact mem_range.mp inside

theorem node_line (inside : device < length) :
    (line length reached).node device = lineNode length reached device := by
  unfold node
  rw [lookup_line, if_pos inside]
  rfl

theorem lookup_lineSessions (length device peer : Nat) : (lineSessions length device).lookup peer =
    if (peer = device + 1 ∧ peer < length) ∨ peer + 1 = device then some (lineSession peer)
    else none := by
  unfold lineSessions
  cases device with
  | zero =>
    dsimp only
    split
    · rw [lookup_insert]
      split <;> simp_all
    · simp
      omega
  | succ previous =>
    dsimp only
    split
    · rw [lookup_insert, lookup_insert]
      split
      · simp_all
      · split <;> simp_all
    · rw [lookup_insert]
      split
      · simp_all
      · simp
        omega

theorem session_line (inside : device < length) (peer : Nat) :
    (line length reached).session device peer =
      if (peer = device + 1 ∧ peer < length) ∨ peer + 1 = device then some (lineSession peer)
      else none := by
  unfold session
  rw [node_line inside]
  exact lookup_lineSessions _ _ peer

theorem lineAs_injective {first second : Nat} (same : lineAs first = lineAs second) :
    first = second := by
  unfold lineAs at same
  omega

/-- A path holds the numbers of earlier speakers only. -/
theorem lineAs_notMem_linePath {first second : Nat} (later : second ≤ first) :
    lineAs first ∉ linePath second := by
  induction second with
  | zero => simp [linePath]
  | succ second ih =>
    intro member
    rcases mem_cons.mp member with same | rest
    · have := lineAs_injective same
      omega
    · exact ih (by omega) rest

theorem isEbgp_lineNode (length reached : Nat) {device peer : Nat} (different : peer ≠ device) :
    (lineNode length reached device).isEbgp (lineSession peer) = true := by
  refine bne_iff_ne.mpr fun same => different ?_
  exact (lineAs_injective (Option.some.inj same)).symm

/-- The best path of a speaker is the one it received. -/
theorem locRib_lineNode (previous : Nat) : (lineNode length reached (previous + 1)).locRib =
      if previous < reached then [⟨linePrefix, previous, lineRoute previous⟩] else [] := by
  change bestPaths (if previous < reached then
    OrderedMap.empty.insert (previous, linePrefix) (lineRoute previous) else .empty) = _
  split <;> rfl

theorem computeAdverts_line (filters : DeviceFilters) {peer : Nat} (different : peer ≠ device) :
    (lineNode length reached device).computeAdverts filters device peer (lineSession peer) =
      if device ≤ reached ∧ peer + 1 ≠ device then
        [⟨linePrefix, { nextHop := device, asPath := linePath (device + 1) }⟩]
      else [] := by
  have ebgp := isEbgp_lineNode length reached different
  have inside : (lineNode length reached device).leavingConfederation (lineSession peer) = none := by
    simp [BgpNode.leavingConfederation, lineNode]
  cases device with
  | zero =>
    simp only [BgpNode.computeAdverts, BgpNode.ownAdverts, BgpNode.transitAdverts, inside]
    simp [lineNode, lineRib, bestPaths, OrderedMap.values, OrderedMap.empty, lineSession,
      NetworkStatement.destination, linePrefix, linePath]
  | succ previous =>
    simp only [BgpNode.computeAdverts, BgpNode.ownAdverts, BgpNode.transitAdverts,
      BgpNode.advertisedPath, inside, locRib_lineNode, ebgp, BgpNode.passesOn]
    by_cases held : previous < reached
    · by_cases back : previous = peer
      · simp [lineNode, lineSession, back]
      · have passed : peer ≠ previous := fun same => back same.symm
        simp [lineNode, lineSession, held, back, passed, lineRoute, linePath,
          Nat.succ_le_of_lt held]
    · have unheld : ¬ previous + 1 ≤ reached := by omega
      simp [lineNode, held, unheld]

/-- What a speaker is to hold from one of its neighbours. -/
theorem wantedFrom_line {peer : Nat} (inside : device < length) (peerInside : peer < length)
    (adjacent : peer = device + 1 ∨ peer + 1 = device) :
    (line length reached).wantedFrom filters device peer (lineSession peer) =
      if device ≤ reached ∧ peer = device + 1 then
        OrderedMap.empty.insert linePrefix (lineRoute device)
      else .empty := by
  have different : peer ≠ device := by omega
  unfold wantedFrom
  dsimp only
  rw [node_line inside, node_line peerInside, computeAdverts_line _ different,
    isEbgp_lineNode _ _ different, session_line peerInside, if_pos (by omega)]
  by_cases forward : device ≤ reached ∧ peer = device + 1
  · obtain ⟨held, rfl⟩ := forward
    have fresh : lineAs (device + 1) ∉ linePath (device + 1) := lineAs_notMem_linePath le_rfl
    have ahead : device + 1 + 1 ≠ device := by omega
    simp [held, ahead, BgpNode.wantedRoutes, BgpNode.acceptAdvert, lineNode, lineSession, fresh,
      BgpNode.rpkiValidate, BgpNode.coveringRoas, lineRoute]
    cases (linePath (device + 1)).getLast? <;> rfl
  · rw [if_neg forward, if_neg (by omega)]
    rfl

variable {ribIn : RibIn Nat} (filters : FilterEngine Nat)

theorem synchronize_ahead {sender : Nat}
    (current : ribIn = lineRib reached (sender + 1) ∨ ribIn = lineRib (reached + 1) (sender + 1)) :
    ribIn.synchronize sender (if sender ≤ reached then
      OrderedMap.empty.insert linePrefix (lineRoute sender) else .empty) =
      lineRib (reached + 1) (sender + 1) := by
  have settled : RibIn.synchronize (OrderedMap.empty.insert (sender, linePrefix) (lineRoute sender))
      sender (OrderedMap.empty.insert linePrefix (lineRoute sender)) =
      OrderedMap.empty.insert (sender, linePrefix) (lineRoute sender) := by
    refine RibIn.synchronize_of_not_differs ?_
    simp [RibIn.differs, OrderedMap.keys, OrderedMap.insert, OrderedMap.empty,
      OrderedMap.insertEntries, OrderedMap.lookup, OrderedMap.lookupEntries, BgpRoute.outdated,
      lineRoute]
  rw [lineRib_succ, lineRib_succ] at current
  rw [lineRib_succ]
  by_cases held : sender ≤ reached
  · rw [if_pos held, if_pos (Nat.lt_succ_of_le held)]
    rw [if_pos (Nat.lt_succ_of_le held)] at current
    by_cases before : sender < reached
    · rw [if_pos before, or_self] at current
      rw [current, settled]
    · rw [if_neg before] at current
      rcases current with fresh | same
      · rw [fresh]
        rfl
      · rw [same, settled]
  · rw [if_neg held, if_neg (by omega)]
    rw [if_neg (by omega), if_neg (by omega), or_self] at current
    rw [current]
    rfl

/-- A speaker holds nothing from its successor. -/
theorem synchronize_behind (current : ∃ reached, ribIn = lineRib reached device) :
    ribIn.synchronize (device + 1) .empty = ribIn := by
  refine RibIn.synchronize_of_not_differs ?_
  obtain ⟨reached, rfl⟩ := current
  cases device with
  | zero => rfl
  | succ previous =>
    rw [lineRib_succ]
    split
    · simp [RibIn.differs, OrderedMap.keys, OrderedMap.insert, OrderedMap.empty,
        OrderedMap.insertEntries]
      omega
    · rfl

theorem absorb_line {filters : FilterEngine Nat} {hop : Nat × Nat}
    (member : hop ∈ (line length reached).sessionEnds)
    (current : ribIn = lineRib reached device ∨ ribIn = lineRib (reached + 1) device) :
    absorb filters (line length reached) device ribIn hop =
      if hop.1 + 1 = device ∧ hop.2 = device then lineRib (reached + 1) device else ribIn := by
  obtain ⟨sender, owned, held⟩ := mem_flatMap.mp member
  obtain ⟨peer, session, rfl⟩ := mem_map.mp held
  have inside : sender < length := by
    have key := (mem_filter.mp owned).1
    obtain ⟨node, found⟩ := mem_keys_iff.mp key
    rw [lookup_line] at found
    split at found
    · assumption
    · cases found
  have adjacent : (peer = sender + 1 ∧ peer < length) ∨ peer + 1 = sender := by
    obtain ⟨session, found⟩ := mem_keys_iff.mp session
    rw [node_line inside] at found
    have lookup := lookup_lineSessions length sender peer
    by_contra apart
    rw [if_neg apart] at lookup
    cases found.symm.trans lookup
  have peerInside : peer < length := by omega
  unfold absorb
  dsimp only
  rw [session_line inside, if_pos adjacent]
  dsimp only
  by_cases here : peer = device
  · subst here
    rw [if_pos ⟨rfl, rfl⟩, wantedFrom_line inside peerInside (by omega)]
    rcases adjacent with ⟨rfl, -⟩ | rfl
    · rw [if_pos (show sender + 1 = sender + 1 ∧ sender + 1 = sender + 1 from ⟨rfl, rfl⟩)]
      simp only [and_true]
      exact synchronize_ahead current
    · rw [if_neg (by omega), if_neg (by omega)]
      exact synchronize_behind (current.elim (fun same => ⟨_, same⟩) fun same => ⟨_, same⟩)
  · rw [if_neg fun both => here both.2, if_neg fun both => here both.2]

theorem foldl_of_single {State Step : Type} {apply : State → Step → State} {before after : State}
    {steps : List Step} {single : Step → Prop} [DecidablePred single]
    (effect : ∀ step ∈ steps, ∀ state, state = before ∨ state = after →
      apply state step = if single step then after else state) :
    steps.foldl apply before = if ∃ step ∈ steps, single step then after else before := by
  have settled : ∀ rest : List Step, (∀ step ∈ rest, step ∈ steps) →
      rest.foldl apply after = after := by
    intro rest within
    refine RibIn.foldl_eq_self fun step member => ?_
    rw [effect step (within step member) after (.inr rfl)]
    split <;> rfl
  induction steps with
  | nil => simp
  | cons step rest ih =>
    rw [foldl_cons, effect step (mem_cons_self ..) before (.inl rfl)]
    by_cases here : single step
    · rw [if_pos here, if_pos ⟨step, mem_cons_self .., here⟩]
      exact settled rest fun other member => mem_cons_of_mem _ member
    · have tail := ih (fun other member => effect other (mem_cons_of_mem _ member))
        fun others within => settled others fun other member =>
          mem_cons_of_mem _ (within other member)
      rw [if_neg here, tail]
      simp [here]

variable (length reached : Nat)

/-- Every round takes the network one speaker further. -/
theorem roundStep_line : roundStep filters (line length reached) = line length (reached + 1) := by
  have ribs := hasRibs_deliverAll filters (line length reached)
  have table : ∀ device < length, (line length reached).sessionEnds.foldl
      (absorb filters (line length reached) device) ((line length reached).node device).ribIn =
      lineRib (reached + 1) device := by
    intro device inside
    rw [node_line inside]
    have effect : ∀ hop ∈ (line length reached).sessionEnds, ∀ ribIn : RibIn Nat,
        ribIn = lineRib reached device ∨ ribIn = lineRib (reached + 1) device →
        absorb filters (line length reached) device ribIn hop =
          if hop.1 + 1 = device ∧ hop.2 = device then lineRib (reached + 1) device else ribIn :=
      fun _ member _ current => absorb_line member current
    refine (foldl_of_single effect).trans ?_
    cases device with
    | zero => split <;> rfl
    | succ previous =>
      have previousInside : previous < length := by omega
      rw [if_pos]
      refine ⟨(previous, previous + 1), ?_, rfl, rfl⟩
      refine mem_flatMap.mpr ⟨previous, mem_filter.mpr ⟨?_, ?_⟩,
        mem_map.mpr ⟨previous + 1, ?_, rfl⟩⟩
      · exact mem_keys_iff.mpr ⟨_, lookup_line.trans (if_pos previousInside)⟩
      · rw [node_line previousInside]
        rfl
      · rw [node_line previousInside]
        exact mem_keys_iff.mpr ⟨_, (lookup_lineSessions _ _ _).trans (if_pos (.inl ⟨rfl, inside⟩))⟩
  have keys : ∀ count, (line length count).nodes.keys = List.range length := by
    intro count
    simp [line, OrderedMap.keys, comp_def]
  have sameKeys := congrArg OrderedMap.keys (config_round filters (line length reached))
  rw [config, config, keys_mapValues, keys_mapValues, keys] at sameKeys
  have same : (roundStep filters (line length reached)).nodes = (line length (reached + 1)).nodes := by
    refine ext_lookup (sameKeys.trans (keys _).symm) fun device => ?_
    change ((recalcAll _).nodes).lookup device = _
    unfold recalcAll
    dsimp only
    rw [lookup_mapValues, ribs device, lookup_line, lookup_line]
    by_cases inside : device < length
    · rw [if_pos inside, if_pos inside]
      dsimp only
      rw [table device inside]
      rfl
    · rw [if_neg inside, if_neg inside]
      rfl
  exact congrArg mk same

theorem roundStep_iterate_line (count : Nat) :
    (roundStep filters)^[count] (line length reached) = line length (reached + count) := by
  induction count with
  | zero => rfl
  | succ count ih => rw [iterate_succ_apply', ih, roundStep_line, Nat.add_assoc]

theorem synced_line : (line length reached).Synced := by
  apply eq_of_entries
  change ((List.range length).map _).map _ = (List.range length).map _
  rw [map_map]
  exact map_congr_left fun device _ => rfl

/-- A propagation takes the network 40 speakers further, and no more. -/
theorem propagateBgp_line :
    (line length reached).propagateBgp filters = line length (reached + 40) := by
  rw [propagateBgp_of_synced filters (synced_line length reached), roundStep_iterate_line]
  rfl

end Line

end NetLab.Bgp
