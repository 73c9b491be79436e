import NetLab.Rib.BestRoutes

/-!
# Agreement of the two route selections

`get_ecmp_routes` is meant to start from the candidates of `get_best_routes`. It
leaves out connected networks and BGP, and keeps routes out of shut interfaces and
OSPF routes through the device itself. `selections_agree_iff` says when these
candidates make no difference: when each of them loses to one that both selections
see alike.
-/

namespace NetLab.Rib

open NetLab.Library NetLab.Network Entry Option Emulator

/-! ## The two views of an entry -/

namespace Entry

/-- The source that the entry's table stands for. -/
def label : Entry → RouteSource
  | .static _ => .static
  | .rip _ => .rip
  | .ospf _ => .ospf
  | .eigrp _ => .eigrp
  | .bgp _ => .bgp

theorem rank_eq_iff {first second : Entry} :
    first.rank = second.rank ↔ first.label = second.label := by
  cases first <;> cases second <;> simp [rank, label]

/-- Distance and metric under which the entry competes. -/
def score : Entry → Nat ×ₗ Nat
  | .static route => toLex (route.ad, 0)
  | .rip route =>
    toLex (adValue (if route.learnedFrom = "direct" then .connected else .rip), route.metric)
  | .ospf route =>
    toLex (adValue (if route.via = "direct" then .connected else .ospf), route.metric)
  | .eigrp route => toLex (if route.external then externalEigrpAd else adValue .eigrp, route.fd)
  | .bgp route => toLex (adValue .bgp, route.med)

/-- What `get_ecmp_routes` makes of an entry. -/
theorem of_ecmpView {entry : Entry} {candidate : Candidate}
    (seen : entry.ecmpView = some candidate) :
    candidate.destination = entry.destination ∧ candidate.score = entry.score ∧
      candidate.source = entry.label := by
  cases entry with
  | static route =>
    obtain rfl := Option.some.inj seen
    exact ⟨rfl, rfl, rfl⟩
  | rip route =>
    obtain ⟨learned, same⟩ := ite_none_right_eq_some.mp seen
    obtain rfl := Option.some.inj same
    exact ⟨rfl, by simp [score, Candidate.score, learned], rfl⟩
  | ospf route =>
    obtain ⟨learned, same⟩ := ite_none_right_eq_some.mp seen
    obtain rfl := Option.some.inj same
    exact ⟨rfl, by simp [score, Candidate.score, learned], rfl⟩
  | eigrp route =>
    obtain rfl := Option.some.inj seen
    exact ⟨rfl, rfl, rfl⟩
  | bgp route => cases seen

end Entry

section Views

variable {emulator : Emulator} {device : String} {entry : Entry} {candidate : Candidate}

/-- What `get_best_routes` makes of an entry. -/
theorem of_bestView (seen : emulator.bestView device entry = some candidate) :
    candidate.destination = entry.destination ∧ candidate.score = entry.score := by
  obtain ⟨made, -⟩ := filter_eq_some_iff.mp seen
  cases entry with
  | static route =>
    obtain rfl := Option.some.inj made
    exact ⟨rfl, rfl⟩
  | rip route =>
    obtain rfl := Option.some.inj made
    exact ⟨rfl, rfl⟩
  | ospf route =>
    obtain ⟨-, same⟩ := ite_none_left_eq_some.mp made
    obtain rfl := Option.some.inj same
    exact ⟨rfl, rfl⟩
  | eigrp route =>
    obtain rfl := Option.some.inj made
    exact ⟨rfl, rfl⟩
  | bgp route =>
    obtain rfl := Option.some.inj made
    exact ⟨rfl, rfl⟩

/-- A candidate of `get_best_routes` that is neither connected nor from BGP is one of
`get_ecmp_routes` as well, with the same source and next hop. -/
theorem ecmpView_of_bestView (seen : emulator.bestView device entry = some candidate)
    (learned : candidate.source ≠ .connected) (notBgp : candidate.source ≠ .bgp) :
    ∃ other, entry.ecmpView = some other ∧ other.source = candidate.source ∧
      other.nextHop = candidate.nextHop := by
  obtain ⟨made, -⟩ := filter_eq_some_iff.mp seen
  cases entry with
  | static route =>
    obtain rfl := Option.some.inj made
    refine ⟨_, rfl, ?_, rfl⟩
    unfold staticCandidate at learned ⊢
    dsimp only at learned ⊢
    split at learned
    · exact absurd rfl learned
    · simp_all
  | rip route =>
    obtain rfl := Option.some.inj made
    unfold ripCandidate at learned ⊢
    by_cases direct : route.learnedFrom = "direct"
    · simp [direct] at learned
    · exact ⟨_, if_pos direct, by simp [direct], by simp [direct]⟩
  | ospf route =>
    obtain ⟨-, same⟩ := ite_none_left_eq_some.mp made
    obtain rfl := Option.some.inj same
    by_cases direct : route.via = "direct"
    · simp [direct] at learned
    · exact ⟨_, if_pos direct, by simp [direct], rfl⟩
  | eigrp route =>
    obtain rfl := Option.some.inj made
    exact ⟨_, rfl, rfl, rfl⟩
  | bgp route =>
    obtain rfl := Option.some.inj made
    exact absurd rfl notBgp

end Views

/-- Both selections see the entry alike: with the same source. -/
def Shared (emulator : Emulator) (device : String) (entry : Entry) : Prop :=
  ∃ best ecmp, emulator.bestView device entry = some best ∧ entry.ecmpView = some ecmp ∧
    best.source = ecmp.source

/-! ## The entry that is chosen -/

/-- The entry is the first of those with the destination, among the entries seen, that
have the least distance and metric. -/
def Chosen (view : Entry → Option Candidate) (destination : Prefix) (entries : List Entry)
    (front : List Entry) (entry : Entry) (back : List Entry) : Prop :=
  entries = front ++ entry :: back ∧ entry.destination = destination ∧
    (∀ other ∈ front, (view other).isSome → other.destination = destination →
      entry.score < other.score) ∧
    ∀ other ∈ back, (view other).isSome → other.destination = destination →
      entry.score ≤ other.score

variable {entries : List Entry} {other : Entry}

theorem Chosen.le {view : Entry → Option Candidate} {destination : Prefix} {front back : List Entry}
    {entry : Entry} (chosen : Chosen view destination entries front entry back)
    (member : other ∈ entries) (seen : (view other).isSome)
    (same : other.destination = destination) : entry.score ≤ other.score := by
  obtain ⟨rfl, -, before, behind⟩ := chosen
  rcases List.mem_append.mp member with inFront | rest
  · exact (before other inFront seen same).le
  · rcases List.mem_cons.mp rest with rfl | inBack
    · exact le_rfl
    · exact behind other inBack seen same

theorem Chosen.rank_le {view : Entry → Option Candidate} {destination : Prefix}
    {front back : List Entry} {entry : Entry}
    (sorted : entries.Pairwise fun first second => first.rank ≤ second.rank)
    (chosen : Chosen view destination entries front entry back) (member : other ∈ entries)
    (seen : (view other).isSome) (same : other.destination = destination)
    (tied : other.score = entry.score) : entry.rank ≤ other.rank := by
  obtain ⟨rfl, -, before, -⟩ := chosen
  rcases List.mem_append.mp member with inFront | rest
  · exact absurd tied (before other inFront seen same).ne'
  · rcases List.mem_cons.mp rest with rfl | inBack
    · exact le_rfl
    · exact List.rel_of_pairwise_cons (List.pairwise_append.mp sorted).2.1 inBack

theorem Chosen.mem_front {view : Entry → Option Candidate} {destination : Prefix}
    {front back before after : List Entry} {entry : Entry}
    (chosen : Chosen view destination entries front entry back)
    (shape : entries = before ++ other :: after) (seen : (view other).isSome)
    (same : other.destination = destination) (apart : entry ≠ other)
    (tied : entry.score = other.score) : entry ∈ before := by
  have twice := chosen.1.symm.trans shape
  rcases List.append_eq_append_iff.mp twice with ⟨extra, rfl, rest⟩ | ⟨extra, frontShape, rest⟩
  · cases extra with
    | nil => exact absurd (List.cons.inj rest).1 apart
    | cons head tail =>
      obtain ⟨rfl, -⟩ := List.cons.inj rest
      exact List.mem_append_right _ (List.mem_cons_self ..)
  · cases extra with
    | nil => exact absurd (List.cons.inj rest).1.symm apart
    | cons head tail =>
      obtain ⟨rfl, -⟩ := List.cons.inj rest
      have inFront : other ∈ front :=
        frontShape ▸ List.mem_append_right _ (List.mem_cons_self ..)
      exact absurd tied (chosen.2.2.1 other inFront seen same).ne

theorem exists_chosen {view : Entry → Option Candidate} {destination : Prefix} {least : Candidate}
    (faithful : ∀ entry candidate, view entry = some candidate →
      candidate.destination = entry.destination ∧ candidate.score = entry.score)
    (found : (candidatesFor destination (entries.filterMap view)).argmin Candidate.score =
      some least) :
    ∃ front entry back, Chosen view destination entries front entry back ∧
      view entry = some least := by
  obtain ⟨before, behind, shape, smaller, notSmaller⟩ := argmin_eq_some_iff.mp found
  unfold candidatesFor at shape
  rw [List.filter_filterMap] at shape
  obtain ⟨first, second, rfl, firstSeen, secondSeen⟩ := List.filterMap_eq_append_iff.mp shape
  obtain ⟨unseen, entry, back, rfl, nothing, chosen, backSeen⟩ :=
    List.filterMap_eq_cons_iff.mp secondSeen
  obtain ⟨seen, named⟩ := filter_eq_some_iff.mp chosen
  obtain ⟨destinationSame, scoreSame⟩ := faithful entry least seen
  have visible : ∀ {other : Entry} {candidate : Candidate}, view other = some candidate →
      other.destination = destination →
      ((view other).filter fun candidate => decide (candidate.destination = destination)) =
        some candidate := by
    intro other candidate otherSeen same
    rw [otherSeen]
    exact filter_eq_some_iff.mpr ⟨rfl, by simp [(faithful _ _ otherSeen).1, same]⟩
  refine ⟨first ++ unseen, entry, back, ⟨by simp, ?_, ?_, ?_⟩, seen⟩
  · rw [← destinationSame]
    exact of_decide_eq_true named
  · intro other member otherSeen same
    obtain ⟨candidate, isSeen⟩ := isSome_iff_exists.mp otherSeen
    have kept := visible isSeen same
    rw [← scoreSame, ← (faithful _ _ isSeen).2]
    rcases List.mem_append.mp member with inFirst | inUnseen
    · refine smaller candidate ?_
      rw [← firstSeen]
      exact List.mem_filterMap.mpr ⟨other, inFirst, kept⟩
    · rw [nothing other inUnseen] at kept
      cases kept
  · intro other member otherSeen same
    obtain ⟨candidate, isSeen⟩ := isSome_iff_exists.mp otherSeen
    rw [← scoreSame, ← (faithful _ _ isSeen).2]
    refine notSmaller candidate ?_
    rw [← backSeen]
    exact List.mem_filterMap.mpr ⟨other, member, visible isSeen same⟩

theorem unseen_of_argmin_none {view : Entry → Option Candidate} {destination : Prefix}
    (faithful : ∀ entry candidate, view entry = some candidate →
      candidate.destination = entry.destination ∧ candidate.score = entry.score)
    (none : (candidatesFor destination (entries.filterMap view)).argmin Candidate.score = none)
    (entry : Entry) (member : entry ∈ entries) (seen : (view entry).isSome) :
    entry.destination ≠ destination := by
  intro same
  obtain ⟨candidate, isSeen⟩ := isSome_iff_exists.mp seen
  have inside : candidate ∈ candidatesFor destination (entries.filterMap view) :=
    List.mem_filter.mpr ⟨List.mem_filterMap.mpr ⟨entry, member, isSeen⟩,
      by simp [(faithful _ _ isSeen).1, same]⟩
  rw [List.argmin_eq_none.mp none] at inside
  cases inside

/-! ## Agreement -/

/-- Candidates of `get_ecmp_routes` that tie in a group. -/
def tied (emulator : Emulator) (device : String) (group : EcmpGroup) : List Candidate :=
  (candidatesFor group.destination (emulator.ecmpCandidates device)).filter fun candidate =>
    decide (candidate.ad = group.ad ∧ candidate.metric = group.metric)

/-- The two selections agree about a destination: both omit it, or both list it with the
same distance, metric and source, and the next hop of the best route is among the others
when at most four candidates tie. -/
def Agree (emulator : Emulator) (device : String) (destination : Prefix) : Prop :=
  match (emulator.bestRoutes device).lookup destination,
    (emulator.ecmpGroups device).lookup destination with
  | none, none => True
  | some best, some group =>
    best.ad = group.ad ∧ best.metric = group.metric ∧ best.source = group.source ∧
      ((tied emulator device group).length ≤ maxPaths → best.nextHop ∈ group.nextHops)
  | _, _ => False

/-- A candidate that only one selection considers, or considers in its own way, loses to
one that both see alike: in `get_best_routes` to a better one or one before it, in
`get_ecmp_routes` to a better one or one from the same or an earlier table. -/
structure Defers (emulator : Emulator) (device : String) (destination : Prefix) : Prop where
  best : ∀ front entry back, emulator.entries device = front ++ entry :: back →
    entry.destination = destination → (emulator.bestView device entry).isSome →
    ¬ Shared emulator device entry →
    ∃ other ∈ emulator.entries device, Shared emulator device other ∧
      other.destination = destination ∧
      (other.score < entry.score ∨ (other.score = entry.score ∧ other ∈ front))
  ecmp : ∀ entry ∈ emulator.entries device, entry.destination = destination →
    entry.ecmpView.isSome → ¬ Shared emulator device entry →
    ∃ other ∈ emulator.entries device, Shared emulator device other ∧
      other.destination = destination ∧
      (other.score < entry.score ∨ (other.score = entry.score ∧ other.rank ≤ entry.rank))

theorem mem_foldl_enterHop {nextHops held : List String}
    (room : held.length + nextHops.length ≤ maxPaths) {nextHop : String}
    (member : nextHop ∈ held ∨ nextHop ∈ nextHops) :
    nextHop ∈ nextHops.foldl enterHop held := by
  induction nextHops generalizing held with
  | nil => exact member.elim id fun impossible => absurd impossible List.not_mem_nil
  | cons first rest ih =>
    rw [List.length_cons] at room
    have grows : (enterHop held first).length ≤ held.length + 1 := by
      unfold enterHop
      split <;> simp
    refine ih (by omega) ?_
    have kept : ∀ hop ∈ held, hop ∈ enterHop held first := by
      intro hop inside
      unfold enterHop
      split
      · exact List.mem_append_left _ inside
      · exact inside
    have entered : first ∈ enterHop held first := by
      unfold enterHop
      split
      case isTrue => exact List.mem_append_right _ (List.mem_singleton.mpr rfl)
      case isFalse full =>
          by_contra absent
          exact full ⟨absent, by omega⟩
    rcases member with inHeld | inRest
    · exact .inl (kept _ inHeld)
    · rcases List.mem_cons.mp inRest with rfl | later
      · exact .inl entered
      · exact .inr later

section Agreement

variable {emulator : Emulator} {device : String} {destination : Prefix}

private theorem bestFaithful (emulator : Emulator) (device : String) :
    ∀ entry candidate, emulator.bestView device entry = some candidate →
      candidate.destination = entry.destination ∧ candidate.score = entry.score :=
  fun _ _ => of_bestView

private theorem ecmpFaithful : ∀ (entry : Entry) (candidate : Candidate),
    entry.ecmpView = some candidate →
      candidate.destination = entry.destination ∧ candidate.score = entry.score :=
  fun _ _ seen => ⟨(of_ecmpView seen).1, (of_ecmpView seen).2.1⟩

theorem Shared.seen {entry : Entry} (shared : Shared emulator device entry) :
    (emulator.bestView device entry).isSome ∧ entry.ecmpView.isSome := by
  obtain ⟨best, ecmp, bestSeen, ecmpSeen, -⟩ := shared
  rw [bestSeen, ecmpSeen]
  exact ⟨rfl, rfl⟩

/-- An entry that `get_ecmp_routes` considers is neither connected nor from BGP. -/
theorem label_of_ecmpView {entry : Entry} {candidate : Candidate}
    (seen : entry.ecmpView = some candidate) :
    entry.label ≠ .connected ∧ entry.label ≠ .bgp := by
  cases entry with
  | bgp => cases seen
  | _ => simp [label]

theorem shared_of_source {entry : Entry} {best ecmp : Candidate}
    (bestSeen : emulator.bestView device entry = some best) (ecmpSeen : other.ecmpView = some ecmp)
    (same : best.source = ecmp.source) : Shared emulator device entry := by
  have label := same.trans (of_ecmpView ecmpSeen).2.2
  obtain ⟨learned, notBgp⟩ := label_of_ecmpView ecmpSeen
  rw [← label] at learned notBgp
  obtain ⟨view, seen, source, -⟩ := ecmpView_of_bestView bestSeen learned notBgp
  exact ⟨best, view, bestSeen, seen, source.symm⟩

/-! ### The entries that both selections choose -/

variable {front back front' back' : List Entry} {entry entry' : Entry} {best ecmp : Candidate}

/-- A shared entry that both selections could choose outdoes all that are not shared. -/
theorem defers_of_tie
    (chosen : Chosen (emulator.bestView device) destination (emulator.entries device)
      front entry back)
    (chosen' : Chosen ecmpView destination (emulator.entries device) front' entry' back')
    (shared : Shared emulator device entry) (tie : entry.score = entry'.score)
    (label : entry.label = entry'.label) : Defers emulator device destination := by
  have member : entry ∈ emulator.entries device := chosen.1 ▸ by simp
  refine ⟨?_, ?_⟩
  · intro before other after shape same seen unshared
    refine ⟨entry, member, shared, chosen.2.1, ?_⟩
    rcases (chosen.le (shape ▸ by simp) seen same).lt_or_eq with smaller | equal
    · exact .inl smaller
    · have apart : entry ≠ other := fun here => unshared (here ▸ shared)
      exact .inr ⟨equal, chosen.mem_front shape seen same apart equal⟩
  · intro other inside same seen unshared
    refine ⟨entry, member, shared, chosen.2.1, ?_⟩
    rcases (tie.le.trans (chosen'.le inside seen same)).lt_or_eq with smaller | equal
    · exact .inl smaller
    · have notLater := chosen'.rank_le (emulator.entries_sorted device) inside seen same
        (equal.symm.trans tie)
      exact .inr ⟨equal, (rank_eq_iff.mpr label).le.trans notLater⟩

theorem Defers.shared (defers : Defers emulator device destination)
    (chosen : Chosen (emulator.bestView device) destination (emulator.entries device)
      front entry back)
    (seen : (emulator.bestView device entry).isSome) : Shared emulator device entry := by
  by_contra unshared
  obtain ⟨other, inside, otherShared, same, better⟩ := defers.best front entry back
    chosen.1 chosen.2.1 seen unshared
  rcases better with smaller | ⟨equal, ahead⟩
  · exact absurd (chosen.le inside otherShared.seen.1 same) (not_le.mpr smaller)
  · exact absurd equal (chosen.2.2.1 other ahead otherShared.seen.1 same).ne'

theorem Defers.exists_shared_tie (defers : Defers emulator device destination)
    (chosen' : Chosen ecmpView destination (emulator.entries device) front' entry' back')
    (seen' : entry'.ecmpView.isSome) :
    ∃ other ∈ emulator.entries device, Shared emulator device other ∧
      other.destination = destination ∧ other.score = entry'.score ∧
      other.rank = entry'.rank := by
  have member' : entry' ∈ emulator.entries device := chosen'.1 ▸ by simp
  by_cases shared' : Shared emulator device entry'
  · exact ⟨entry', member', shared', chosen'.2.1, rfl, rfl⟩
  · obtain ⟨other, inside, otherShared, same, better⟩ := defers.ecmp entry' member'
      chosen'.2.1 seen' shared'
    have least := chosen'.le inside otherShared.seen.2 same
    rcases better with smaller | ⟨equal, notLater⟩
    · exact absurd least (not_le.mpr smaller)
    · have notEarlier := chosen'.rank_le (emulator.entries_sorted device) inside
        otherShared.seen.2 same equal
      exact ⟨other, inside, otherShared, same, equal, le_antisymm notLater notEarlier⟩

theorem Defers.tie (defers : Defers emulator device destination)
    (chosen : Chosen (emulator.bestView device) destination (emulator.entries device)
      front entry back)
    (chosen' : Chosen ecmpView destination (emulator.entries device) front' entry' back')
    (seen : (emulator.bestView device entry).isSome) (seen' : entry'.ecmpView.isSome) :
    entry.score = entry'.score ∧ entry.rank = entry'.rank := by
  have sorted := emulator.entries_sorted device
  have member : entry ∈ emulator.entries device := chosen.1 ▸ by simp
  have shared := defers.shared chosen seen
  obtain ⟨other, inside, otherShared, same, equal, rank⟩ := defers.exists_shared_tie chosen' seen'
  have lower := chosen.le inside otherShared.seen.1 same
  have upper := chosen'.le member shared.seen.2 chosen.2.1
  have tie : entry.score = entry'.score := le_antisymm (lower.trans equal.le) upper
  refine ⟨tie, le_antisymm ?_ ?_⟩
  · rw [← rank]
    exact chosen.rank_le sorted inside otherShared.seen.1 same (equal.trans tie.symm)
  · exact chosen'.rank_le sorted member shared.seen.2 chosen.2.1 tie

theorem nextHop_mem_group (member : entry ∈ emulator.entries device)
    (named : entry.destination = destination) (shared : Shared emulator device entry)
    (bestSeen : emulator.bestView device entry = some best) (tied : best.score = ecmp.score)
    (few : ((candidatesFor destination ((emulator.entries device).filterMap
      ecmpView)).filter fun candidate =>
        decide (candidate.score = ecmp.score)).length ≤ maxPaths) :
    best.nextHop ∈ (((candidatesFor destination ((emulator.entries device).filterMap
      ecmpView)).filter fun candidate =>
        decide (candidate.score = ecmp.score)).map Candidate.nextHop).foldl enterHop [] := by
  obtain ⟨view, ecmpOwn, viewSeen, ownSeen, source⟩ := shared
  obtain rfl := Option.some.inj (bestSeen.symm.trans viewSeen)
  obtain ⟨ownNamed, ownScore, ownLabel⟩ := of_ecmpView ownSeen
  obtain ⟨learned, notBgp⟩ := label_of_ecmpView ownSeen
  rw [← ownLabel, ← source] at learned notBgp
  obtain ⟨own, seen, -, hop⟩ := ecmpView_of_bestView bestSeen learned notBgp
  obtain rfl := Option.some.inj (ownSeen.symm.trans seen)
  have inGroup : ecmpOwn ∈ (candidatesFor destination
      ((emulator.entries device).filterMap ecmpView)).filter fun candidate =>
        decide (candidate.score = ecmp.score) := by
    refine List.mem_filter.mpr ⟨List.mem_filter.mpr
      ⟨List.mem_filterMap.mpr ⟨entry, member, ownSeen⟩, ?_⟩, ?_⟩
    · simp [ownNamed, named]
    · simp [ownScore, ← (of_bestView bestSeen).2, tied]
  rw [← hop]
  refine mem_foldl_enterHop ?_ (.inr (List.mem_map_of_mem inGroup))
  simpa using few

/-- The two selections agree about a destination exactly if the candidates that they do
not share lose to shared ones. -/
theorem agree_iff_defers : Agree emulator device destination ↔
    Defers emulator device destination := by
  unfold Agree
  rw [lookup_bestRoutes, lookup_ecmpGroups, emulator.bestCandidates_eq, emulator.ecmpCandidates_eq]
  cases bestFound : (candidatesFor destination ((emulator.entries device).filterMap
      (emulator.bestView device))).argmin Candidate.score with
  | none =>
    have noBest := unseen_of_argmin_none (bestFaithful emulator device) bestFound
    cases ecmpFound : (candidatesFor destination ((emulator.entries device).filterMap
        ecmpView)).argmin Candidate.score with
    | none =>
      have noEcmp := unseen_of_argmin_none ecmpFaithful ecmpFound
      refine iff_of_true trivial ⟨?_, ?_⟩
      · intro front entry back shape same seen
        exact absurd same (noBest _ (shape ▸ by simp) seen)
      · intro entry member same seen
        exact absurd same (noEcmp _ member seen)
    | some ecmp =>
      refine iff_of_false id fun defers => ?_
      obtain ⟨front, entry, back, chosen, seen⟩ := exists_chosen ecmpFaithful ecmpFound
      obtain ⟨other, inside, shared, same, -⟩ :=
        defers.exists_shared_tie chosen (by rw [seen]; rfl)
      exact noBest _ inside shared.seen.1 same
  | some best =>
    obtain ⟨front, entry, back, chosen, bestSeen⟩ :=
      exists_chosen (bestFaithful emulator device) bestFound
    have member : entry ∈ emulator.entries device := chosen.1 ▸ by simp
    have isSeen : (emulator.bestView device entry).isSome := by rw [bestSeen]; rfl
    cases ecmpFound : (candidatesFor destination ((emulator.entries device).filterMap
        ecmpView)).argmin Candidate.score with
    | none =>
      refine iff_of_false id fun defers => ?_
      exact unseen_of_argmin_none ecmpFaithful ecmpFound entry member
        (defers.shared chosen isSeen).seen.2 chosen.2.1
    | some ecmp =>
      obtain ⟨front', entry', back', chosen', ecmpSeen⟩ := exists_chosen ecmpFaithful ecmpFound
      have isSeen' : entry'.ecmpView.isSome := by rw [ecmpSeen]; rfl
      have bestScore := (of_bestView bestSeen).2
      obtain ⟨-, ecmpScore, ecmpLabel⟩ := of_ecmpView ecmpSeen
      have labelled : Shared emulator device entry → best.source = entry.label := by
        rintro ⟨view, own, viewSeen, ownSeen, source⟩
        obtain rfl := Option.some.inj (bestSeen.symm.trans viewSeen)
        exact source.trans (of_ecmpView ownSeen).2.2
      dsimp only [map_some]
      constructor
      · rintro ⟨adSame, metricSame, sourceSame, -⟩
        have tie : entry.score = entry'.score := by
          rw [← bestScore, ← ecmpScore]
          exact Candidate.score_eq.mpr ⟨adSame, metricSame⟩
        have shared := shared_of_source bestSeen ecmpSeen sourceSame
        exact defers_of_tie chosen chosen' shared tie
          ((labelled shared).symm.trans (sourceSame.trans ecmpLabel))
      · intro defers
        have shared := defers.shared chosen isSeen
        obtain ⟨tie, ranks⟩ := defers.tie chosen chosen' isSeen isSeen'
        have tiedScore : best.score = ecmp.score := by rw [bestScore, ecmpScore, tie]
        obtain ⟨adSame, metricSame⟩ := Candidate.score_eq.mp tiedScore
        refine ⟨adSame, metricSame, ?_, fun few => ?_⟩
        · rw [labelled shared, ecmpLabel]
          exact rank_eq_iff.mp ranks
        · refine nextHop_mem_group member chosen.2.1 shared bestSeen tiedScore ?_
          unfold tied at few
          rw [emulator.ecmpCandidates_eq] at few
          simpa [Candidate.score_eq] using few

/-- The two selections agree about every destination exactly if for each destination the
candidates that they do not share lose to shared ones. -/
theorem selections_agree_iff (emulator : Emulator) (device : String) :
    (∀ destination, Agree emulator device destination) ↔
      ∀ destination, Defers emulator device destination :=
  forall_congr' fun _ => agree_iff_defers

end Agreement

/-- A router whose only route is a best path of BGP. -/
def bgpOnly : Emulator where
  network :=
    { links := .empty
      interfaceLinks := fun _ _ => none
      linkIfaces := fun _ _ => []
      downInterfaces := fun _ => []
      subifVlans := fun _ => []
      vlanPorts := fun _ => []
      deviceIps := .empty }
  bgp := OrderedMap.empty.insert "R1"
    { enabled := true, locRib := [{ destination := ⟨"10.0.0.0", 8⟩, nextHop := "R2" }] }

/-- The best route is listed, and there is no equal-cost group for it. -/
theorem bgpOnly_disagrees : ¬ Agree bgpOnly "R1" ⟨"10.0.0.0", 8⟩ := by
  unfold Agree
  have best : ((bgpOnly.bestRoutes "R1").lookup ⟨"10.0.0.0", 8⟩).isSome = true := by
    decide +kernel
  have none : (bgpOnly.ecmpGroups "R1").lookup ⟨"10.0.0.0", 8⟩ = none := by decide +kernel
  obtain ⟨route, found⟩ := isSome_iff_exists.mp best
  rw [found, none]
  exact id

end NetLab.Rib
