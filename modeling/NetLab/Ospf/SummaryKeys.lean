import NetLab.Library.DottedText
import NetLab.Library.Folds
import NetLab.Ospf.Engine

/-!
# Keys of originated LSAs

The database is a map from a text made of the router ID, the type and the link-state ID
of an LSA. That text tells LSAs of different routers or types apart. The link-state ID of
a summary is the address of its network alone, so two networks that differ in nothing but
their length share a key, and the later one takes the place of the earlier one.
-/

namespace NetLab.Ospf

open NetLab.Library NetLab.Network
open OrderedMap

/-! ## The text of a key -/

def LsaType.code : LsaType → Nat
  | router => 1
  | network => 2
  | summary => 3

/-- Text under which an LSA is stored. -/
def LsaKey.render (key : LsaKey) : String :=
  s!"{key.advRouter.render}:{key.lsType.code}:{key.lsId.render}"

theorem LsaType.code_injective : Function.Injective code := by
  intro left right same
  cases left <;> cases right <;> first | rfl | cases same

theorem Address.render_eq_dotted (address : Address) : address.render =
    dotted [address.first, address.second, address.third, address.fourth] := by
  rw [← String.toList_inj]
  simp [render, dotted, joinDots, numeral, List.intercalate, Nat.toString_eq_repr]
  rfl

theorem Address.render_injective : Function.Injective render := by
  intro left right same
  rw [render_eq_dotted, render_eq_dotted, dotted_inj (by simp) (by simp)] at same
  obtain ⟨first, second, third, fourth⟩ := left
  obtain ⟨first', second', third', fourth'⟩ := right
  simpa [Fin.ext_iff] using same

theorem colon_notMem_numeral (value : Nat) : ':' ∉ numeral value := by
  intro member
  have digit := isDigit_of_mem_numeral member
  revert digit
  decide

theorem Address.colon_notMem_render (address : Address) : ':' ∉ address.render.toList := by
  rw [render_eq_dotted]
  simp [dotted, joinDots, List.intercalate, colon_notMem_numeral]

theorem LsaKey.splitOn_render (key : LsaKey) : key.render.toList.splitOn ':' =
    [key.advRouter.render.toList, numeral key.lsType.code, key.lsId.render.toList] := by
  have spelled : key.render.toList = [':'].intercalate
      [key.advRouter.render.toList, numeral key.lsType.code, key.lsId.render.toList] := by
    simp [render, numeral, List.intercalate, Nat.toString_eq_repr]
    rfl
  rw [spelled]
  refine List.splitOn_intercalate ':' ?_ (by simp)
  simp [Address.colon_notMem_render, colon_notMem_numeral]

/-- It determines the router, the type and the link-state ID. -/
theorem LsaKey.render_injective : Function.Injective render := by
  intro left right same
  have fields := congrArg (fun text : String => text.toList.splitOn ':') same
  rw [splitOn_render, splitOn_render] at fields
  obtain ⟨router, rest⟩ := List.cons.inj fields
  obtain ⟨kind, rest⟩ := List.cons.inj rest
  obtain ⟨id, -⟩ := List.cons.inj rest
  obtain ⟨advRouter, lsType, lsId⟩ := left
  obtain ⟨advRouter', lsType', lsId'⟩ := right
  obtain rfl := Address.render_injective (String.toList_inj.mp router)
  obtain rfl := LsaType.code_injective (numeral_injective kind)
  obtain rfl := Address.render_injective (String.toList_inj.mp id)
  rfl

/-! ## Origination -/

variable {Device : Type}

/-- Every LSA is stored under its own router, type and link-state ID. -/
def Keyed (lsdb : Lsdb Device) : Prop :=
  ∀ key lsa, lsdb.lookup key = some lsa → key = ⟨lsa.advRouter, lsa.lsType, lsa.lsId⟩

theorem Keyed.insert {lsdb : Lsdb Device} (keyed : Keyed lsdb) {key : LsaKey}
    {lsa : OspfLsa Device} (own : key = ⟨lsa.advRouter, lsa.lsType, lsa.lsId⟩) :
    Keyed (lsdb.insert key lsa) := by
  intro other held stored
  rw [lookup_insert] at stored
  split at stored
  case isTrue same =>
      cases stored
      exact same.trans own
  case isFalse => exact keyed other held stored

theorem Keyed.empty : Keyed (.empty : Lsdb Device) := fun _ _ held => by cases held

def TouchesOwn (lsType : LsaType) (before after : OspfNode Device) : Prop :=
  ∀ key, key.advRouter ≠ before.routerId ∨ key.lsType ≠ lsType →
    after.lsdb.lookup key = before.lsdb.lookup key

theorem touchesOwn_originate (node : OspfNode Device) (lsType : LsaType) (lsId : Address)
    (links : List (LsaLink Device)) : TouchesOwn lsType node (node.originate lsType lsId links) := by
  intro key other
  refine lookup_insert_of_ne _ _ fun same => ?_
  rw [same] at other
  exact other.elim (fun different => different rfl) fun different => different rfl

theorem lookup_originate (node : OspfNode Device) (lsType : LsaType) (lsId : Address)
    (links : List (LsaLink Device)) :
    (node.originate lsType lsId links).lsdb.lookup ⟨node.routerId, lsType, lsId⟩ = some
      { lsType, lsId, advRouter := node.routerId, seqNum := node.seqNum, links } :=
  lookup_insert_self ..

def OspfNode.areaItems (node : OspfNode Device) : List (AreaId × OspfNetwork) :=
  node.areaNetworks.entries.flatMap fun entry => entry.2.map fun network => (entry.1, network)

def OspfNode.summarize (node : OspfNode Device) (item : AreaId × OspfNetwork) : OspfNode Device :=
  match item.2.length with
  | none => node
  | some length =>
    node.originate .summary item.2.address
      [.summary item.2 (prefixMask length) node.interfaceCost item.1]

theorem generateSummaryLsa_eq {node : OspfNode Device} (border : node.abr = true) :
    node.generateSummaryLsa = node.areaItems.foldl OspfNode.summarize node := if_pos border

theorem mem_areaItems {node : OspfNode Device} {item : AreaId × OspfNetwork} :
    item ∈ node.areaItems ↔
      ∃ networks, node.areaNetworks.lookup item.1 = some networks ∧ item.2 ∈ networks := by
  unfold OspfNode.areaItems
  simp only [List.mem_flatMap, List.mem_map]
  constructor
  · rintro ⟨⟨area, networks⟩, held, network, member, rfl⟩
    exact ⟨networks, mem_entries_iff.mp held, member⟩
  · rintro ⟨networks, held, member⟩
    exact ⟨(item.1, networks), mem_entries_iff.mpr held, item.2, member, rfl⟩

/-- The database holds a summary of a router that advertises exactly a network, with its
prefix length. -/
def Summarized (lsdb : Lsdb Device) (router : Address) (network : OspfNetwork) (length : Nat) :
    Prop :=
  ∃ lsa ∈ lsdb.values, lsa.lsType = .summary ∧ lsa.advRouter = router ∧
    lsa.lsId = network.address ∧
    ∃ metric area, lsa.links = [.summary network (prefixMask length) metric area]

/-- Origination overwrites no network: each configured one has its summary afterwards, and
LSAs of different origin or type have different keys and leave each other alone. -/
structure LosesNoNetwork [DecidableEq Device] (node : OspfNode Device) : Prop where
  summarized : ∀ area networks, node.areaNetworks.lookup area = some networks →
    ∀ network ∈ networks, ∀ length, network.length = some length →
      Summarized node.generateSummaryLsa.lsdb node.routerId network length
  keys : Function.Injective LsaKey.render
  routerLsa : TouchesOwn .router node node.generateRouterLsa
  networkLsa : ∀ device routerIdOf,
    TouchesOwn .network node (node.generateNetworkLsa device routerIdOf)
  summaryLsa : TouchesOwn .summary node node.generateSummaryLsa

/-- No two configured networks have one address and different lengths. -/
def OneLength (node : OspfNode Device) : Prop :=
  ∀ left ∈ node.areaItems, ∀ right ∈ node.areaItems, left.2.address = right.2.address →
    left.2.length ≠ none → right.2.length ≠ none → left.2.length = right.2.length

section Summaries

variable {node state : OspfNode Device}

/-- The entry for an address is the summary of one of the configured networks with it. -/
def Kept (node state : OspfNode Device) (address : Address) : Prop :=
  ∃ item ∈ node.areaItems, item.2.address = address ∧ ∃ length, item.2.length = some length ∧
    ∃ lsa, state.lsdb.lookup ⟨node.routerId, .summary, address⟩ = some lsa ∧
      lsa.lsType = .summary ∧ lsa.advRouter = node.routerId ∧ lsa.lsId = address ∧
      ∃ metric area, lsa.links = [.summary item.2 (prefixMask length) metric area]

/-- What holds while the summaries are originated. -/
structure Summarizing (node state : OspfNode Device) : Prop where
  routerId : state.routerId = node.routerId
  touches : TouchesOwn .summary node state
  keyed : Keyed node.lsdb → Keyed state.lsdb

theorem Summarizing.summarize (summarizing : Summarizing node state)
    (item : AreaId × OspfNetwork) : Summarizing node (state.summarize item) := by
  unfold OspfNode.summarize
  split
  case h_1 => exact summarizing
  case h_2 length _ =>
      refine ⟨summarizing.routerId, fun key other => ?_, fun keyed => (summarizing.keyed keyed).insert rfl⟩
      have moved := touchesOwn_originate state .summary item.2.address
        [.summary item.2 (prefixMask length) state.interfaceCost item.1] key
      rw [summarizing.routerId] at moved
      exact (moved other).trans (summarizing.touches key other)

/-- Summarizing a network leaves its own entry, and an entry of the same kind everywhere
else. -/
theorem Summarizing.kept (summarizing : Summarizing node state) {item : AreaId × OspfNetwork}
    (member : item ∈ node.areaItems) :
    (∀ length, item.2.length = some length → Kept node (state.summarize item) item.2.address) ∧
      ∀ address, Kept node state address → Kept node (state.summarize item) address := by
  unfold OspfNode.summarize
  cases spelled : item.2.length with
  | none => exact ⟨fun _ absent => (nomatch absent), fun _ kept => kept⟩
  | some length =>
    have own : Kept node (state.originate .summary item.2.address
        [.summary item.2 (prefixMask length) state.interfaceCost item.1]) item.2.address := by
      have router := summarizing.routerId
      have stored := lookup_originate state .summary item.2.address
        [.summary item.2 (prefixMask length) state.interfaceCost item.1]
      rw [router] at stored
      exact ⟨item, member, rfl, length, spelled, _, stored, rfl, rfl, rfl, _, _, rfl⟩
    refine ⟨fun _ _ => own, fun address kept => ?_⟩
    by_cases same : address = item.2.address
    · rw [same]
      exact own
    · obtain ⟨other, inside, at', length', spelled', lsa, held, found⟩ := kept
      refine ⟨other, inside, at', length', spelled', lsa, ?_, found⟩
      refine (lookup_insert_of_ne _ _ fun equal => same ?_).trans held
      exact congrArg LsaKey.lsId equal

theorem generateSummaryLsa_kept (node : OspfNode Device) :
    Summarizing node node.generateSummaryLsa ∧ (node.abr = true → ∀ item ∈ node.areaItems,
      ∀ length, item.2.length = some length →
        Kept node node.generateSummaryLsa item.2.address) := by
  have start : Summarizing node node := ⟨rfl, fun _ _ => rfl, id⟩
  by_cases border : node.abr = true
  · rw [generateSummaryLsa_eq border]
    refine (foldl_done (Summarizing node)
      (fun state item => ∀ length, item.2.length = some length → Kept node state item.2.address)
      (fun _ good => good.summarize _) (fun member good => (good.kept member).1) ?_ start).imp_right
      fun kept _ => kept
    intro state item other member good done length spelled
    exact (good.kept member).2 _ (done length spelled)
  · have same : node.generateSummaryLsa = node := if_neg border
    rw [same]
    exact ⟨start, fun isBorder => absurd isBorder border⟩

end Summaries

variable [DecidableEq Device]

theorem touchesOwn_generateNetworkLsa (node : OspfNode Device) (device : Device)
    (routerIdOf : Device → Option Address) :
    TouchesOwn .network node (node.generateNetworkLsa device routerIdOf) := by
  unfold OspfNode.generateNetworkLsa
  split
  · exact touchesOwn_originate node .network _ _
  · exact fun _ _ => rfl

/-- A border router loses no network to another one if and only if its configured networks
have one length for each address. -/
theorem losesNoNetwork_iff {node : OspfNode Device} (border : node.abr = true)
    (keyed : Keyed node.lsdb) : LosesNoNetwork node ↔ OneLength node := by
  obtain ⟨summarizing, kept⟩ := generateSummaryLsa_kept node
  constructor
  · intro loses left leftMember right rightMember address isNetwork isNetwork'
    obtain ⟨length, isLeft⟩ := Option.ne_none_iff_exists'.mp isNetwork
    obtain ⟨other, isRight⟩ := Option.ne_none_iff_exists'.mp isNetwork'
    obtain ⟨networks, held, inside⟩ := mem_areaItems.mp leftMember
    obtain ⟨lsa, stored, kind, router, id, metric, area, links⟩ :=
      loses.summarized left.1 networks held left.2 inside length isLeft
    obtain ⟨networks', held', inside'⟩ := mem_areaItems.mp rightMember
    obtain ⟨lsa', stored', kind', router', id', metric', area', links'⟩ :=
      loses.summarized right.1 networks' held' right.2 inside' other isRight
    -- both are the LSA under the key of their common address
    obtain ⟨key, found⟩ := mem_values_iff.mp stored
    obtain ⟨key', found'⟩ := mem_values_iff.mp stored'
    have own := summarizing.keyed keyed key lsa found
    have own' := summarizing.keyed keyed key' lsa' found'
    have same : key = key' := by
      rw [own, own', kind, kind', router, router', id, id', address]
    rw [← same, found] at found'
    cases found'
    rw [links] at links'
    obtain ⟨link, -⟩ := List.cons.inj links'
    injection link with network
    rw [network]
  · intro one
    refine ⟨fun area networks held network inside length spelled => ?_, LsaKey.render_injective,
      touchesOwn_originate node .router _ _, touchesOwn_generateNetworkLsa node, summarizing.touches⟩
    have member : (area, network) ∈ node.areaItems := mem_areaItems.mpr ⟨networks, held, inside⟩
    obtain ⟨item, isItem, address, other, spelled', lsa, stored, kind, router, id, metric, area',
      links⟩ := kept border (area, network) member length spelled
    have agrees : item.2.length = network.length :=
      one item isItem (area, network) member address (by simp [spelled']) (by simpa using spelled ▸ Option.some_ne_none length)
    have whole : item.2 = network := by
      obtain ⟨_, address', length'⟩ := item
      obtain ⟨address'', length''⟩ := network
      cases address
      cases agrees
      rfl
    obtain rfl : other = length := Option.some.inj (spelled'.symm.trans (agrees.trans spelled))
    rw [whole] at links
    exact ⟨lsa, mem_values_iff.mpr ⟨_, stored⟩, kind, router, id, metric, area', links⟩

local instance priorities : NeZero 256 := ⟨by decide⟩

def borderNode (first second : OspfNetwork) : OspfNode Bool where
  routerId := ⟨1, 1, 1, 1⟩
  abr := true
  areaNetworks := (OrderedMap.empty.insert 0 [first]).insert 1 [second]

/-- Different addresses have different keys. -/
theorem borderNode_losesNoNetwork :
    LosesNoNetwork (borderNode ⟨⟨10, 1, 0, 0⟩, some 16⟩ ⟨⟨10, 2, 0, 0⟩, some 24⟩) :=
  (losesNoNetwork_iff rfl .empty).mpr (by unfold OneLength; decide)

/-- The summary of 10.0.0.0/16 takes the place of the one of 10.0.0.0/8. -/
theorem longer_network_overwrites :
    ¬ LosesNoNetwork (borderNode ⟨⟨10, 0, 0, 0⟩, some 8⟩ ⟨⟨10, 0, 0, 0⟩, some 16⟩) := by
  intro loses
  obtain ⟨lsa, stored, -, -, -, metric, area, links⟩ := loses.summarized 0
    [⟨⟨10, 0, 0, 0⟩, some 8⟩] rfl ⟨⟨10, 0, 0, 0⟩, some 8⟩ List.mem_cons_self 8 rfl
  have only : ∀ lsa ∈ (borderNode ⟨⟨10, 0, 0, 0⟩, some 8⟩
      ⟨⟨10, 0, 0, 0⟩, some 16⟩).generateSummaryLsa.lsdb.values,
      lsa.links = [.summary ⟨⟨10, 0, 0, 0⟩, some 16⟩ (prefixMask 16) 10 1] := by decide
  rw [only lsa stored] at links
  cases links

end NetLab.Ospf
