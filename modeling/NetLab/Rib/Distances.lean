import NetLab.Rib.BestRoutes

/-!
# Declared distances

`AD_VALUES` declares 200 for the routes of iBGP sessions, and `get_best_routes` enters
every best path of BGP at 20. The emulator is taken together with the BGP engine here,
whose sessions tell which best paths come from inside the AS; `selectsLeast_iff` says
when the selection is nevertheless the one that the declared distances ask for.
-/

namespace NetLab.Rib

open NetLab.Library NetLab.Network List Emulator Candidate

/-- Administrative distance that is declared for iBGP routes. -/
def internalBgpAd : Nat := 200

/-- The session to the neighbour that sent a best path stays inside the AS. -/
def internalPath (node : Bgp.BgpNode String) (best : Bgp.LocRoute String) : Bool :=
  (node.sessions.lookup best.learnedFrom).any fun session => !node.isEbgp session

/-- What the RIB reads of a best path. -/
def tableRoute (best : Bgp.LocRoute String) : BgpTableRoute :=
  { destination := best.destination, nextHop := best.route.nextHop, med := best.route.med }

/-- What the RIB reads of a speaker. -/
def tableOf (node : Bgp.BgpNode String) : BgpTable :=
  { enabled := node.enabled, locRib := node.locRib.map tableRoute }

def Emulator.withSpeakers (emulator : Emulator) (engine : Bgp.BgpEngine String) : Emulator :=
  { emulator with bgp := engine.nodes.mapValues fun _ node => tableOf node }

/-- A candidate, and whether it comes from a session inside the AS. -/
structure RatedCandidate where
  candidate : Candidate
  internal : Bool := false
deriving DecidableEq

namespace RatedCandidate

def declared (rated : RatedCandidate) : Candidate :=
  if rated.internal then { rated.candidate with ad := internalBgpAd } else rated.candidate

/-- The candidate would be taken at the distance it is entered with: those for its
destination that stand before it are worse, and those behind it no better. -/
def ComesFirst (all : List RatedCandidate) (rated : RatedCandidate) : Prop :=
  ∃ front back, all = front ++ rated :: back ∧
    (∀ other ∈ front, other.candidate.destination = rated.candidate.destination →
      rated.candidate.score < other.candidate.score) ∧
    ∀ other ∈ back, other.candidate.destination = rated.candidate.destination →
      rated.candidate.score ≤ other.candidate.score

/-- A candidate from another session or protocol reads the same. -/
def Doubled (all : List RatedCandidate) (rated : RatedCandidate) : Prop :=
  ∃ other ∈ all, other.internal = false ∧ other.candidate = rated.candidate

/-- At its declared distance no other kind of route to the destination is better. -/
def Deserved (all : List RatedCandidate) (rated : RatedCandidate) : Prop :=
  ∀ other ∈ all, other.internal = false →
    other.candidate.destination = rated.candidate.destination →
      rated.declared.score ≤ other.candidate.score

end RatedCandidate

namespace Emulator

variable (emulator : Emulator) (engine : Bgp.BgpEngine String) (device : String)

/-- The best paths of a device that runs BGP, with what the sessions say of them. -/
def ratedPaths : List (Bgp.LocRoute String × Bool) :=
  match engine.nodes.lookup device with
  | some node =>
    if node.enabled then node.locRib.map fun best => (best, internalPath node best) else []
  | none => []

/-- All candidates whose exit interface is not shut. -/
def ratedCandidates : List RatedCandidate :=
  let learned := (emulator.activeStatics device).map (emulator.staticCandidate device) ++
    (emulator.ripRoutes device).map (emulator.ripCandidate device) ++
    (emulator.ospfRoutes device).filterMap (emulator.ospfCandidate device) ++
    (emulator.eigrpRoutes device).map (emulator.eigrpCandidate device)
  let paths := (ratedPaths engine device).map fun best =>
    RatedCandidate.mk (emulator.bgpCandidate device (tableRoute best.1)) best.2
  (learned.map (RatedCandidate.mk · false) ++ paths).filter fun rated =>
    emulator.exitsUp device rated.candidate

def declaredCandidates : List Candidate :=
  (emulator.ratedCandidates engine device).map RatedCandidate.declared

end Emulator

/-- A route is a candidate, its distance aside. -/
def Candidate.SameRoute (route candidate : Candidate) : Prop :=
  { route with ad := candidate.ad } = candidate

/-- For each destination of a candidate there is one route, and it stands for a candidate
of least distance and metric. -/
structure SelectsLeast (StandsFor : Candidate → Candidate → Prop)
    (candidates routes : List Candidate) : Prop where
  distinct : (routes.map destination).Nodup
  least : ∀ route ∈ routes, ∃ candidate ∈ candidates, StandsFor route candidate ∧
    ∀ other ∈ candidates, other.destination = candidate.destination → candidate.score ≤ other.score
  complete : ∀ candidate ∈ candidates, ∃ route ∈ routes, route.destination = candidate.destination

/-! ## The selection over rated candidates -/

/-- What the rules need to know of the candidates: those of iBGP sessions come from BGP,
and those from BGP are all entered at one distance. -/
structure EnteredAlike (all : List RatedCandidate) : Prop where
  source : ∀ rated ∈ all, rated.internal = true → rated.candidate.source = .bgp
  ad : ∀ rated ∈ all, rated.candidate.source = .bgp → rated.candidate.ad = adValue .bgp

namespace RatedCandidate

variable {all : List RatedCandidate} {rated other : RatedCandidate}

theorem declared_of_internal (internal : rated.internal = true) :
    rated.declared = { rated.candidate with ad := internalBgpAd } := if_pos internal

theorem declared_of_external (external : rated.internal = false) :
    rated.declared = rated.candidate := by
  unfold declared
  rw [external]
  rfl

@[simp] theorem destination_declared :
    rated.declared.destination = rated.candidate.destination := by
  unfold declared
  split <;> rfl

theorem ComesFirst.mem (first : ComesFirst all rated) : rated ∈ all := by
  obtain ⟨front, back, rfl, -⟩ := first
  simp

/-- Nothing is better, at the distances entered, than what comes first. -/
theorem ComesFirst.le (first : ComesFirst all rated) (member : other ∈ all)
    (same : other.candidate.destination = rated.candidate.destination) :
    rated.candidate.score ≤ other.candidate.score := by
  obtain ⟨front, back, rfl, before, behind⟩ := first
  rcases mem_append.mp member with inFront | rest
  · exact (before other inFront same).le
  · rcases mem_cons.mp rest with rfl | inBack
    · exact le_rfl
    · exact behind other inBack same

end RatedCandidate

namespace EnteredAlike

open RatedCandidate

variable {all : List RatedCandidate} {rated other : RatedCandidate}

theorem ad_of_internal (alike : EnteredAlike all) (member : rated ∈ all)
    (internal : rated.internal = true) : rated.candidate.ad = adValue .bgp :=
  alike.ad rated member (alike.source rated member internal)

theorem score_le_declared (alike : EnteredAlike all) (member : rated ∈ all) :
    rated.candidate.score ≤ rated.declared.score := by
  cases internal : rated.internal with
  | false => rw [declared_of_external internal]
  | true =>
    rw [declared_of_internal internal]
    refine (score_lt.mpr (.inl ?_)).le
    rw [alike.ad_of_internal member internal]
    exact (by decide : adValue .bgp < internalBgpAd)

section

variable (alike : EnteredAlike all) (first : ComesFirst all rated)
include alike first

/-- What comes first, at the distances entered, and keeps its distance, is least at the
declared ones. -/
theorem least_of_external (member : other ∈ all)
    (same : other.candidate.destination = rated.candidate.destination) :
    rated.candidate.score ≤ other.declared.score :=
  (first.le member same).trans (alike.score_le_declared member)

/-- An iBGP route that comes first and deserves it is least at the declared distances:
the other iBGP routes are raised as it is. -/
theorem least_of_deserved (internal : rated.internal = true) (deserved : Deserved all rated)
    (member : other ∈ all) (same : other.candidate.destination = rated.candidate.destination) :
    rated.declared.score ≤ other.declared.score := by
  cases otherInternal : other.internal with
  | false =>
    rw [declared_of_external otherInternal]
    exact deserved other member otherInternal same
  | true =>
    have entered := first.le member same
    rw [← not_lt, score_lt, alike.ad_of_internal first.mem internal,
      alike.ad_of_internal member otherInternal] at entered
    rw [declared_of_internal internal, declared_of_internal otherInternal, ← not_lt, score_lt]
    simpa using entered

/-- A route stands for what comes first, its distance aside, exactly if that keeps its
distance, deserves to come first or reads like another. -/
theorem exists_least_iff : (∃ other ∈ all, rated.candidate.SameRoute other.declared ∧ ∀ third ∈ all,
        third.candidate.destination = other.candidate.destination →
          other.declared.score ≤ third.declared.score) ↔
      (rated.internal = true → Deserved all rated ∨ Doubled all rated) := by
  constructor
  · rintro ⟨other, member, same, least⟩ internal
    cases otherInternal : other.internal with
    | false =>
      right
      rw [declared_of_external otherInternal] at same
      have source : other.candidate.source = .bgp := by
        rw [← same]
        exact alike.source rated first.mem internal
      refine ⟨other, member, otherInternal, ?_⟩
      unfold Candidate.SameRoute at same
      rw [alike.ad other member source, ← alike.ad_of_internal first.mem internal] at same
      exact same.symm
    | true =>
      left
      have equal : rated.declared = other.declared := by
        rw [← same, declared_of_internal internal, declared_of_internal otherInternal]
      have destination : rated.candidate.destination = other.candidate.destination := by
        rw [← destination_declared, equal, destination_declared]
      intro third inside external toSame
      rw [equal, ← declared_of_external external]
      exact least third inside (toSame.trans destination)
  · intro holds
    cases internal : rated.internal with
    | false =>
      refine ⟨rated, first.mem, ?_, fun third inside toSame => ?_⟩
      · rw [declared_of_external internal]
        rfl
      · rw [declared_of_external internal]
        exact alike.least_of_external first inside toSame
    | true =>
      rcases holds internal with deserved | ⟨other, member, external, equal⟩
      · refine ⟨rated, first.mem, ?_, fun third inside toSame => ?_⟩
        · rw [declared_of_internal internal]
          rfl
        · exact alike.least_of_deserved first internal deserved inside toSame
      · refine ⟨other, member, ?_, fun third inside toSame => ?_⟩
        · rw [declared_of_external external, equal]
          rfl
        · rw [equal] at toSame
          rw [declared_of_external external, equal]
          exact alike.least_of_external first inside toSame

/-- A route is what comes first, with its distance, exactly if that keeps its distance or
reads like another that does. -/
theorem exists_least_eq_iff : (∃ other ∈ all, rated.candidate = other.declared ∧ ∀ third ∈ all,
        third.candidate.destination = other.candidate.destination →
          other.declared.score ≤ third.declared.score) ↔
      (rated.internal = true → Doubled all rated) := by
  constructor
  · rintro ⟨other, member, same, -⟩ internal
    cases otherInternal : other.internal with
    | false =>
      rw [declared_of_external otherInternal] at same
      exact ⟨other, member, otherInternal, same.symm⟩
    | true =>
      have entered := alike.ad_of_internal first.mem internal
      rw [same, declared_of_internal otherInternal] at entered
      cases entered
  · intro holds
    cases internal : rated.internal with
    | false =>
      refine ⟨rated, first.mem, (declared_of_external internal).symm, ?_⟩
      intro third inside toSame
      rw [declared_of_external internal]
      exact alike.least_of_external first inside toSame
    | true =>
      obtain ⟨other, member, external, equal⟩ := holds internal
      refine ⟨other, member, ?_, fun third inside toSame => ?_⟩
      · rw [declared_of_external external, equal]
      · rw [equal] at toSame
        rw [declared_of_external external, equal]
        exact alike.least_of_external first inside toSame

end

end EnteredAlike

/-! ## What `get_best_routes` selects -/

section Selected

variable (emulator : Emulator) (engine : Bgp.BgpEngine String) (device : String)

theorem searchSegment_withSpeakers (fuel : Nat) (visited queue : List String) :
    (emulator.withSpeakers engine).searchSegment fuel visited queue =
      emulator.searchSegment fuel visited queue := by
  induction fuel generalizing visited queue with
  | zero => rfl
  | succ fuel ih =>
    cases queue with
    | nil => rfl
    | cons peer queue =>
      simp only [searchSegment, ih]
      rfl

/-- The speakers have no part in where a candidate leaves. -/
theorem exitsUp_withSpeakers :
    (emulator.withSpeakers engine).exitsUp device = emulator.exitsUp device := by
  have peers : (emulator.withSpeakers engine).l2SegmentPeers device =
      emulator.l2SegmentPeers device := searchSegment_withSpeakers emulator engine _ _ _
  have resolved : (emulator.withSpeakers engine).resolveLearnedNextHop device =
      emulator.resolveLearnedNextHop device := by
    funext nextHop
    unfold resolveLearnedNextHop
    rw [peers]
    rfl
  funext candidate
  unfold exitsUp exitIface
  rw [resolved]
  rfl

/-- The candidates of `get_best_routes` are the rated ones. -/
theorem bestCandidates_withSpeakers : (emulator.withSpeakers engine).bestCandidates device =
      (emulator.ratedCandidates engine device).map RatedCandidate.candidate := by
  have paths : (emulator.withSpeakers engine).bgpRoutes device =
      (ratedPaths engine device).map fun best => tableRoute best.1 := by
    unfold bgpRoutes ratedPaths withSpeakers
    rw [OrderedMap.lookup_mapValues]
    cases engine.nodes.lookup device with
    | none => rfl
    | some node =>
      simp only [Option.map_some, tableOf]
      cases node.enabled with
      | false => rfl
      | true => simp
  have filtered : ∀ all : List RatedCandidate,
      (all.filter fun rated => emulator.exitsUp device rated.candidate).map
          RatedCandidate.candidate =
        (all.map RatedCandidate.candidate).filter (emulator.exitsUp device) := by
    intro all
    rw [filter_map]
    rfl
  unfold bestCandidates ratedCandidates
  dsimp only
  rw [paths, filtered, exitsUp_withSpeakers, map_append]
  simp only [map_map, Function.comp_def, map_id']
  rfl

theorem source_of_mem_ratedCandidates {rated : RatedCandidate}
    (member : rated ∈ emulator.ratedCandidates engine device) :
    (rated.internal = true → rated.candidate.source = .bgp) ∧
      (rated.candidate.source = .bgp → rated.candidate.ad = adValue .bgp) := by
  unfold ratedCandidates at member
  obtain ⟨inside, -⟩ := mem_filter.mp member
  rcases mem_append.mp inside with learned | path
  · obtain ⟨candidate, collected, rfl⟩ := mem_map.mp learned
    refine ⟨nofun, fun source => ?_⟩
    simp only [mem_append, mem_map, mem_filterMap] at collected
    rcases collected with ((⟨route, -, rfl⟩ | ⟨route, -, rfl⟩) | ⟨route, -, made⟩) | ⟨route, -, rfl⟩
    · unfold staticCandidate at source
      dsimp only at source
      split at source <;> cases source
    · unfold ripCandidate at source
      dsimp only at source
      split at source <;> cases source
    · obtain ⟨-, same⟩ := Option.ite_none_left_eq_some.mp made
      obtain rfl := Option.some.inj same
      dsimp only at source
      split at source <;> cases source
    · cases source
  · obtain ⟨best, -, rfl⟩ := mem_map.mp path
    exact ⟨fun _ => rfl, fun _ => rfl⟩

theorem enteredAlike : EnteredAlike (emulator.ratedCandidates engine device) where
  source _ member := (source_of_mem_ratedCandidates emulator engine device member).1
  ad _ member := (source_of_mem_ratedCandidates emulator engine device member).2

theorem mem_getBestRoutes_iff {route : Candidate} :
    route ∈ (emulator.withSpeakers engine).getBestRoutes device ↔
      ∃ rated : RatedCandidate, rated.ComesFirst (emulator.ratedCandidates engine device) ∧
        rated.candidate = route := by
  unfold getBestRoutes
  rw [bestRoutes_eq, bestCandidates_withSpeakers, mem_values_leastPerKey_iff]
  constructor
  · rintro ⟨front, back, shape, before, behind⟩
    obtain ⟨first, second, split, rfl, inSecond⟩ := map_eq_append_iff.mp shape
    obtain ⟨rated, rest, rfl, rfl, rfl⟩ := map_eq_cons_iff.mp inSecond
    refine ⟨rated, ⟨first, rest, split, fun other member => ?_, fun other member => ?_⟩, rfl⟩
    · exact before other.candidate (mem_map_of_mem member)
    · exact behind other.candidate (mem_map_of_mem member)
  · rintro ⟨rated, ⟨front, back, shape, before, behind⟩, rfl⟩
    refine ⟨front.map RatedCandidate.candidate, back.map RatedCandidate.candidate, ?_, ?_, ?_⟩
    · rw [shape, map_append, map_cons]
    · exact forall_mem_map.mpr before
    · exact forall_mem_map.mpr behind

theorem selectsLeast_iff_first (StandsFor : Candidate → Candidate → Prop) :
    SelectsLeast StandsFor (emulator.declaredCandidates engine device)
        ((emulator.withSpeakers engine).getBestRoutes device) ↔
      ∀ rated : RatedCandidate, rated.ComesFirst (emulator.ratedCandidates engine device) →
        ∃ other ∈ emulator.ratedCandidates engine device, StandsFor rated.candidate other.declared ∧
            ∀ third ∈ emulator.ratedCandidates engine device,
              third.candidate.destination = other.candidate.destination →
                other.declared.score ≤ third.declared.score := by
  constructor
  · intro selects rated first
    obtain ⟨_, member, stands, least⟩ := selects.least rated.candidate
      ((mem_getBestRoutes_iff emulator engine device).mpr ⟨rated, first, rfl⟩)
    obtain ⟨other, inside, rfl⟩ := mem_map.mp member
    refine ⟨other, inside, stands, fun third present same => ?_⟩
    exact least third.declared (mem_map_of_mem present) (by simpa using same)
  · intro holds
    refine ⟨?_, fun route returned => ?_, fun candidate member => ?_⟩
    · unfold getBestRoutes
      rw [bestRoutes_eq, map_values_leastPerKey]
      exact OrderedMap.keys_nodup _
    · obtain ⟨rated, first, rfl⟩ := (mem_getBestRoutes_iff emulator engine device).mp returned
      obtain ⟨other, inside, stands, least⟩ := holds rated first
      refine ⟨other.declared, mem_map_of_mem inside, stands, ?_⟩
      refine forall_mem_map.mpr fun third present same => ?_
      exact least third present (by simpa using same)
    · obtain ⟨rated, present, rfl⟩ := mem_map.mp member
      unfold getBestRoutes
      rw [bestRoutes_eq, bestCandidates_withSpeakers, RatedCandidate.destination_declared]
      exact exists_mem_leastPerKey _ _ (mem_map_of_mem present)

/-- The selection is the one that the declared distances ask for exactly if no iBGP route
gains from the distance 20: each that comes first there is no worse at 200 than all that
is not iBGP, or reads like an eBGP route. The routes carry their declared distances as
well exactly if no iBGP route comes first at all, unless it reads like an eBGP route. -/
theorem selectsLeast_iff :
    (SelectsLeast Candidate.SameRoute (emulator.declaredCandidates engine device)
        ((emulator.withSpeakers engine).getBestRoutes device) ↔
      ∀ rated : RatedCandidate, rated.internal = true →
        rated.ComesFirst (emulator.ratedCandidates engine device) →
          rated.Deserved (emulator.ratedCandidates engine device) ∨
            rated.Doubled (emulator.ratedCandidates engine device)) ∧
    (SelectsLeast Eq (emulator.declaredCandidates engine device)
        ((emulator.withSpeakers engine).getBestRoutes device) ↔
      ∀ rated : RatedCandidate, rated.internal = true →
        rated.ComesFirst (emulator.ratedCandidates engine device) →
          rated.Doubled (emulator.ratedCandidates engine device)) := by
  have alike := enteredAlike emulator engine device
  constructor
  · rw [selectsLeast_iff_first]
    refine forall_congr' fun rated => ?_
    rw [forall_comm]
    exact forall_congr' fun first => alike.exists_least_iff first
  · rw [selectsLeast_iff_first]
    refine forall_congr' fun rated => ?_
    rw [forall_comm]
    exact forall_congr' fun first => alike.exists_least_eq_iff first

end Selected

/-- A router that knows a network from OSPF and from an iBGP neighbour. -/
def twoSources : Emulator where
  network :=
    { links := .empty
      interfaceLinks := fun _ _ => none
      linkIfaces := fun _ _ => []
      downInterfaces := fun _ => []
      subifVlans := fun _ => []
      vlanPorts := fun _ => []
      deviceIps := .empty }
  ospf := OrderedMap.empty.insert "R1"
    { enabled := true
      routerId := "1.1.1.1"
      routes := [{ destination := ⟨"10.0.0.0", 8⟩, via := "R3", nextHop := "R3", metric := 20 }] }

/-- Its speaker, in one AS with the neighbour. -/
def innerSpeaker : Bgp.BgpEngine String where
  nodes := OrderedMap.empty.insert "R1"
    { enabled := true
      localAs := some 65001
      sessions := OrderedMap.empty.insert "R2" { remoteAs := 65001, state := .established }
      locRib :=
        [{ destination := ⟨"10.0.0.0", 8⟩, learnedFrom := "R2", route := { nextHop := "R2" } }] }

/-- The iBGP route is selected, at distance 20, in place of the OSPF route. -/
theorem inner_route_selected :
    ¬ SelectsLeast Candidate.SameRoute (twoSources.declaredCandidates innerSpeaker "R1")
      ((twoSources.withSpeakers innerSpeaker).getBestRoutes "R1") := by
  intro selects
  have inner : mk ⟨"10.0.0.0", 8⟩ "R2" 20 .bgp 0 "" ∈
      (twoSources.withSpeakers innerSpeaker).getBestRoutes "R1" := by decide +kernel
  obtain ⟨candidate, member, same, least⟩ := selects.least _ inner
  have declared : twoSources.declaredCandidates innerSpeaker "R1" =
      [.mk ⟨"10.0.0.0", 8⟩ "R3" 110 .ospf 20 "", .mk ⟨"10.0.0.0", 8⟩ "R2" 200 .bgp 0 ""] := by
    decide +kernel
  rw [declared] at member least
  rcases mem_cons.mp member with rfl | rest
  · unfold Candidate.SameRoute at same
    exact absurd same (by decide)
  · obtain rfl := mem_singleton.mp rest
    have better := least _ (mem_cons_self ..) rfl
    exact absurd better (not_le.mpr (score_lt.mpr (.inl (by decide))))

end NetLab.Rib
