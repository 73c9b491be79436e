import NetLab.Bgp.Propagation

/-!
# What holds at a fixpoint

A round without change means that every speaker holds from each of its neighbours
exactly what that neighbour advertises to it now and it accepts. The lemmas here
name the advert behind a held route, and the route held for an advert.
-/

namespace NetLab.Bgp

open NetLab.Library NetLab.Network
open OrderedMap List

variable {Device : Type} [DecidableEq Device]

/-! ## Adverts -/

def BgpNode.exportAdvert (node : BgpNode Device) (filters : DeviceFilters) (session : BgpSession)
    (advert : Advert Device) : Option (Advert Device) :=
  let mapped :=
    if session.routeMapOut = "" then advert
    else { advert with route := node.applyRouteMap session.routeMapOut advert.route }
  if session.prefixListOut == "" ||
      filters.checkPrefixList session.prefixListOut mapped.destination.network
        mapped.destination.length then
    some (if session.sendCommunity then mapped
      else { mapped with route := { mapped.route with communities := [] } })
  else none

private theorem map_filter_map {Item : Type} (rewrite : Item → Item) (keep : Item → Bool)
    (finish : Item → Item) (items : List Item) :
    ((items.map rewrite).filter keep).map finish = items.filterMap fun item =>
        if keep (rewrite item) then some (finish (rewrite item)) else none := by
  induction items with
  | nil => rfl
  | cons item rest ih =>
    rw [map_cons, filter_cons, filterMap_cons]
    by_cases kept : keep (rewrite item) = true
    · rw [if_pos kept, if_pos kept, map_cons, ih]
    · rw [if_neg kept, if_neg kept, ih]

theorem BgpNode.computeAdverts_eq (node : BgpNode Device) (filters : DeviceFilters)
    (device neighbor : Device) (session : BgpSession) :
    node.computeAdverts filters device neighbor session =
      (node.ownAdverts device session ++ node.transitAdverts device neighbor session).filterMap
        (node.exportAdvert filters session) :=
  map_filter_map _ _ _ _

omit [DecidableEq Device] in
/-- The outbound policy keeps the destination. -/
theorem BgpNode.exportAdvert_destination {node : BgpNode Device} {filters : DeviceFilters}
    {session : BgpSession} {advert exported : Advert Device}
    (passed : node.exportAdvert filters session advert = some exported) :
    exported.destination = advert.destination := by
  obtain ⟨-, same⟩ := Option.ite_none_right_eq_some.mp passed
  obtain rfl := Option.some.inj same
  split <;> split <;> rfl

omit [DecidableEq Device] in
theorem BgpNode.lookup_wantedRoutes (node : BgpNode Device) (filters : DeviceFilters)
    (sender : Device) (ebgpHop : Bool) (session : Option BgpSession)
    (adverts : List (Advert Device)) (destination : Prefix) :
    (node.wantedRoutes filters sender ebgpHop session adverts).lookup destination =
      (adverts.filterMap fun advert =>
        if advert.destination = destination then
          node.acceptAdvert filters sender ebgpHop session advert
        else none).getLast? := by
  unfold BgpNode.wantedRoutes
  induction adverts using List.reverseRecOn with
  | nil => rfl
  | append_singleton adverts advert ih =>
    rw [foldl_append, filterMap_append, foldl_cons, foldl_nil]
    by_cases here : advert.destination = destination
    · cases accepted : node.acceptAdvert filters sender ebgpHop session advert with
      | none => simp [here, accepted, ih]
      | some route => simp [here, accepted]
    · cases node.acceptAdvert filters sender ebgpHop session advert with
      | none => simp [here, ih]
      | some route => simp [here, lookup_insert, Ne.symm here, ih]

omit [DecidableEq Device] in
theorem BgpNode.exists_advert_of_wanted {node : BgpNode Device} {filters : DeviceFilters}
    {sender : Device} {ebgpHop : Bool} {session : Option BgpSession}
    {adverts : List (Advert Device)} {destination : Prefix} {route : BgpRoute Device}
    (wanted : (node.wantedRoutes filters sender ebgpHop session adverts).lookup destination =
      some route) :
    ∃ advert ∈ adverts, advert.destination = destination ∧
      node.acceptAdvert filters sender ebgpHop session advert = some route := by
  rw [BgpNode.lookup_wantedRoutes] at wanted
  obtain ⟨advert, member, accepted⟩ := mem_filterMap.mp (mem_of_getLast? wanted)
  split at accepted
  case isTrue here => exact ⟨advert, member, here, accepted⟩
  case isFalse => cases accepted

/-! ## Quiet tables -/

theorem RibIn.held_of_not_differs {ribIn : RibIn Device} {sender : Device}
    {wanted : OrderedMap Prefix (BgpRoute Device)} (quiet : ribIn.differs sender wanted = false)
    (destination : Prefix) :
    (∀ held, ribIn.lookup (sender, destination) = some held →
      ∃ route, wanted.lookup destination = some route ∧ held.outdated route = false) ∧
    ∀ route, wanted.lookup destination = some route →
      ∃ held, ribIn.lookup (sender, destination) = some held ∧ held.outdated route = false := by
  simp only [RibIn.differs, Bool.or_eq_false_iff, any_eq_false, decide_eq_true_eq] at quiet
  obtain ⟨nothingGone, nothingNew⟩ := quiet
  have current : ∀ route, wanted.lookup destination = some route →
      ∃ held, ribIn.lookup (sender, destination) = some held ∧ held.outdated route = false := by
    intro route found
    have settled := nothingNew _ (mem_entries_iff.mpr found)
    dsimp only at settled
    cases lookup : ribIn.lookup (sender, destination) with
    | none => simp [lookup] at settled
    | some held =>
      rw [lookup] at settled
      exact ⟨held, rfl, by simpa using settled⟩
  refine ⟨fun held found => ?_, current⟩
  have member := nothingGone _ (mem_keys_iff.mpr ⟨held, found⟩)
  have kept : destination ∈ wanted.keys := by
    by_contra gone
    exact member ⟨rfl, gone⟩
  obtain ⟨route, lookup⟩ := mem_keys_iff.mp kept
  obtain ⟨other, same, fresh⟩ := current route lookup
  obtain rfl := Option.some.inj (found.symm.trans same)
  exact ⟨route, lookup, fresh⟩

omit [DecidableEq Device] in
theorem BgpRoute.of_not_outdated {held wanted : BgpRoute Device}
    (fresh : held.outdated wanted = false) :
    held.asPath = wanted.asPath ∧ held.localPref = wanted.localPref ∧ held.med = wanted.med ∧
      held.communities = wanted.communities ∧ held.rpkiState = wanted.rpkiState ∧
      held.stale = false := by
  simp only [BgpRoute.outdated, Bool.or_eq_false_iff, bne_eq_false_iff_eq] at fresh
  obtain ⟨⟨⟨⟨⟨path, preference⟩, med⟩, communities⟩, rpki⟩, stale⟩ := fresh
  exact ⟨path, preference, med, communities, rpki, stale⟩

namespace BgpEngine

variable {filters : FilterEngine Device} {engine : BgpEngine Device}

/-- A session end over which adverts are delivered: of an enabled speaker,
established, towards a speaker. -/
def Delivers (engine : BgpEngine Device) (device neighbor : Device) (session : BgpSession) : Prop :=
  engine.isEnabled device = true ∧ engine.session device neighbor = some session ∧
    session.state = .established ∧ neighbor ∈ engine.nodes.keys

theorem mem_nodes_of_session {device neighbor : Device} {session : BgpSession}
    (found : engine.session device neighbor = some session) : device ∈ engine.nodes.keys := by
  unfold BgpEngine.session node at found
  cases lookup : engine.nodes.lookup device with
  | none => simp [lookup] at found
  | some node => exact mem_keys_iff.mpr ⟨node, lookup⟩

theorem mem_sessionEnds {device neighbor : Device} : (device, neighbor) ∈ engine.sessionEnds ↔
    engine.isEnabled device = true ∧ ∃ session, engine.session device neighbor = some session := by
  unfold sessionEnds active
  rw [mem_flatMap]
  constructor
  · rintro ⟨owner, member, held⟩
    obtain ⟨peer, key, same⟩ := mem_map.mp held
    obtain ⟨rfl, rfl⟩ := Prod.mk.inj same
    exact ⟨(mem_filter.mp member).2, mem_keys_iff.mp key⟩
  · rintro ⟨enabled, session, found⟩
    exact ⟨device, mem_filter.mpr ⟨mem_nodes_of_session found, enabled⟩,
      mem_map.mpr ⟨neighbor, mem_keys_iff.mpr ⟨session, found⟩, rfl⟩⟩

section

variable {device neighbor : Device} {session : BgpSession}
  (quiet : (engine.round filters).2 = false) (delivers : engine.Delivers device neighbor session)
include quiet delivers

/-- At a fixpoint every table holds exactly what its neighbours want it to hold. -/
theorem not_differs_of_quiet : (engine.node neighbor).ribIn.differs device
      (engine.wantedFrom filters device neighbor session) = false := by
  obtain ⟨enabled, found, up, known⟩ := delivers
  have still := (deliverAll_of_quiet quiet).2 _ (mem_sessionEnds.mpr ⟨enabled, session, found⟩)
  obtain ⟨receiving, lookup⟩ := mem_keys_iff.mp known
  unfold deliver at still
  dsimp only at still
  rw [found, lookup] at still
  dsimp only at still
  rw [if_pos up] at still
  have here : engine.node neighbor = receiving := by
    unfold node
    rw [lookup]
    rfl
  rw [here]
  exact still

theorem exists_advert_of_held {destination : Prefix} {held : BgpRoute Device}
    (found : (engine.node neighbor).ribIn.lookup (device, destination) = some held) :
    ∃ advert ∈ (engine.node device).ownAdverts device session ++
        (engine.node device).transitAdverts device neighbor session,
      ∃ exported, (engine.node device).exportAdvert (filters device) session advert = some exported ∧
      advert.destination = destination ∧
      ∃ route, (engine.node neighbor).acceptAdvert (filters neighbor) device
        ((engine.node device).isEbgp session) (engine.session neighbor device) exported =
          some route ∧ held.outdated route = false := by
  obtain ⟨route, wanted, fresh⟩ :=
    (RibIn.held_of_not_differs (not_differs_of_quiet quiet delivers) destination).1 held found
  unfold wantedFrom at wanted
  obtain ⟨exported, member, named, accepted⟩ := BgpNode.exists_advert_of_wanted wanted
  rw [BgpNode.computeAdverts_eq] at member
  obtain ⟨advert, inside, passed⟩ := mem_filterMap.mp member
  exact ⟨advert, inside, exported, passed,
    (BgpNode.exportAdvert_destination passed).symm.trans named, route, accepted, fresh⟩

end

end BgpEngine

end NetLab.Bgp
