import NetLab.Eigrp.Engine
import Mathlib.Data.List.Pairwise

/-!
# EIGRP topology tables

What handling an update does to a table. The first route to a destination decides; a
learned route comes before the direct one, so the offers of one neighbour for one
destination never rise from one entry of an update to the next.
-/

namespace NetLab.Eigrp

open NetLab.Library NetLab.Network List Nat

variable {Device : Type} [DecidableEq Device] {nextHop : NextHop Device} {source : Device}

/-- A table as the engine keeps it: one learned route to a destination at most, before
the direct one, which has the least metric there is. -/
structure WellFormed (topology : List (EigrpRoute Device)) : Prop where
  ordered : topology.Pairwise fun first second => first.destination = second.destination →
    first.learnedFrom ≠ none ∧ second.learnedFrom = none
  direct : ∀ route ∈ topology, route.learnedFrom = none → route.fd = linkCost
  least : ∀ route ∈ topology, linkCost ≤ route.fd

/-- Entries of one destination come with metrics that do not rise. -/
def Falling (entries : List EigrpEntry) : Prop :=
  entries.Pairwise fun first second => first.destination = second.destination →
    second.metric ≤ first.metric

/-- A table has a route to the same destination that is not longer. -/
def Covers (topology : List (EigrpRoute Device)) (route : EigrpRoute Device) : Prop :=
  ∃ other ∈ topology, other.destination = route.destination ∧ other.fd ≤ route.fd

variable {route : EigrpRoute Device}

omit [DecidableEq Device] in
theorem covers_of_mem {topology : List (EigrpRoute Device)} (member : route ∈ topology) :
    Covers topology route :=
  ⟨route, member, rfl, Nat.le_refl _⟩

omit [DecidableEq Device] in
theorem Covers.trans {topology : List (EigrpRoute Device)} {first second : EigrpRoute Device}
    (covers : Covers topology second) (same : second.destination = first.destination)
    (shorter : second.fd ≤ first.fd) : Covers topology first := by
  obtain ⟨other, member, destination, bound⟩ := covers
  exact ⟨other, member, destination.trans same, Nat.le_trans bound shorter⟩

omit [DecidableEq Device] in
theorem WellFormed.learned_unique {topology : List (EigrpRoute Device)}
    (wellFormed : WellFormed topology) {first second : EigrpRoute Device}
    (isFirst : first ∈ topology) (isSecond : second ∈ topology)
    (same : first.destination = second.destination) (learned : first.learnedFrom ≠ none)
    (learned' : second.learnedFrom ≠ none) : first = second := by
  by_contra different
  have apart : topology.Pairwise fun first second => first.destination = second.destination →
      first.learnedFrom = none ∨ second.learnedFrom = none :=
    wellFormed.ordered.imp fun separated same => .inr (separated same).2
  have symmetric : Std.Symm fun first second : EigrpRoute Device =>
      first.destination = second.destination →
        first.learnedFrom = none ∨ second.learnedFrom = none :=
    ⟨fun _ _ separated same => (separated same.symm).symm⟩
  rcases apart.forall isFirst isSecond different same with none | none
  · exact learned none
  · exact learned' none

/-! ## One entry -/

theorem receiveEntry_keeps (nextHop : NextHop Device) (source : Device)
    {topology : List (EigrpRoute Device)} (member : route ∈ topology) (entry : EigrpEntry) :
    route ∈ (receiveEntry nextHop source entry topology).1 ∨
      route.destination = entry.destination ∧ accepts route source entry = true ∧
        offeredRoute nextHop source entry ∈ (receiveEntry nextHop source entry topology).1 := by
  induction topology with
  | nil => cases member
  | cons existing rest ih =>
    unfold receiveEntry
    by_cases same : existing.destination = entry.destination
    · rw [if_pos same]
      dsimp only
      split
      · rename_i replaced
        rcases mem_cons.mp member with rfl | later
        · simp only [Bool.and_eq_true] at replaced
          exact .inr ⟨same, replaced.1, mem_cons_self⟩
        · exact .inl (mem_cons_of_mem _ later)
      · exact .inl member
    · rw [if_neg same]
      rcases mem_cons.mp member with rfl | later
      · exact .inl mem_cons_self
      · rcases ih later with kept | ⟨destination, accepted, offered⟩
        · exact .inl (mem_cons_of_mem _ kept)
        · exact .inr ⟨destination, accepted, mem_cons_of_mem _ offered⟩

theorem mem_receiveEntry {topology : List (EigrpRoute Device)} {entry : EigrpEntry}
    (member : route ∈ (receiveEntry nextHop source entry topology).1) :
    route ∈ topology ∨ route = offeredRoute nextHop source entry := by
  induction topology with
  | nil => exact .inr (mem_singleton.mp member)
  | cons existing rest ih =>
    unfold receiveEntry at member
    by_cases same : existing.destination = entry.destination
    · rw [if_pos same] at member
      dsimp only at member
      split at member
      · rcases mem_cons.mp member with rfl | later
        · exact .inr rfl
        · exact .inl (mem_cons_of_mem _ later)
      · exact .inl member
    · rw [if_neg same] at member
      rcases mem_cons.mp member with rfl | later
      · exact .inl mem_cons_self
      · exact (ih later).imp_left (mem_cons_of_mem _)

/-- Afterwards the table has the offer, or a route from elsewhere that is not longer. -/
theorem receiveEntry_settles (nextHop : NextHop Device) (source : Device)
    {topology : List (EigrpRoute Device)}
    (direct : ∀ route ∈ topology, route.learnedFrom = none → route.fd = linkCost)
    (entry : EigrpEntry) :
    offeredRoute nextHop source entry ∈ (receiveEntry nextHop source entry topology).1 ∨
      ∃ route ∈ (receiveEntry nextHop source entry topology).1,
        route.destination = entry.destination ∧ route.learnedFrom ≠ some source ∧
          route.fd ≤ entry.metric + linkCost := by
  induction topology with
  | nil => exact .inl (mem_singleton.mpr rfl)
  | cons existing rest ih =>
    unfold receiveEntry
    by_cases same : existing.destination = entry.destination
    · rw [if_pos same]
      dsimp only
      split
      · exact .inl mem_cons_self
      · rename_i kept
        by_cases equal : existing = offeredRoute nextHop source entry
        · exact .inl (by rw [← equal]; exact mem_cons_self)
        · refine .inr ⟨existing, mem_cons_self, same, ?_, ?_⟩
          · intro learned
            exact kept (by simp [accepts, learned, equal])
          · cases learned : existing.learnedFrom with
            | none =>
              rw [direct existing mem_cons_self learned]
              exact le_add_left _ _
            | some peer =>
              refine Nat.le_of_not_lt fun longer => kept ?_
              simp [accepts, learned, longer, equal]
    · rw [if_neg same]
      have tail := ih fun route member => direct route (mem_cons_of_mem _ member)
      rcases tail with offered | ⟨route, member, settled⟩
      · exact .inl (mem_cons_of_mem _ offered)
      · exact .inr ⟨route, mem_cons_of_mem _ member, settled⟩

theorem WellFormed.receiveEntry {topology : List (EigrpRoute Device)}
    (wellFormed : WellFormed topology) (entry : EigrpEntry) :
    WellFormed (receiveEntry nextHop source entry topology).1 := by
  refine ⟨?_, fun route member learned => ?_, fun route member => ?_⟩
  · have ordered := wellFormed.ordered
    clear wellFormed
    induction topology with
    | nil => exact pairwise_singleton _ _
    | cons existing rest ih =>
      obtain ⟨ahead, later⟩ := pairwise_cons.mp ordered
      unfold Eigrp.receiveEntry
      by_cases same : existing.destination = entry.destination
      · rw [if_pos same]
        dsimp only
        split
        · refine pairwise_cons.mpr ⟨fun other member equal => ?_, later⟩
          exact ⟨Option.some_ne_none _, (ahead other member (same.trans equal)).2⟩
        · exact ordered
      · rw [if_neg same]
        refine pairwise_cons.mpr ⟨fun other member equal => ?_, ih later⟩
        rcases mem_receiveEntry member with before | rfl
        · exact ahead other before equal
        · exact absurd equal same
  · rcases mem_receiveEntry member with before | rfl
    · exact wellFormed.direct route before learned
    · cases learned
  · rcases mem_receiveEntry member with before | rfl
    · exact wellFormed.least route before
    · exact le_add_left _ _

/-! ## All entries of an update -/

@[simp] theorem receiveEntries_nil (topology : List (EigrpRoute Device)) :
    receiveEntries nextHop source topology [] = (topology, false) := rfl

/-- The table does not depend on the flag the fold carries. -/
theorem receiveEntries_cons (topology : List (EigrpRoute Device)) (entry : EigrpEntry)
    (rest : List EigrpEntry) :
    receiveEntries nextHop source topology (entry :: rest) =
      let next := receiveEntry nextHop source entry topology
      let later := receiveEntries nextHop source next.1 rest
      (later.1, next.2 || later.2) := by
  have carried : ∀ (entries : List EigrpEntry) (handled : List (EigrpRoute Device) × Bool),
      entries.foldl (fun handled entry =>
        let next := receiveEntry nextHop source entry handled.1
        (next.1, handled.2 || next.2)) handled =
        ((receiveEntries nextHop source handled.1 entries).1,
          handled.2 || (receiveEntries nextHop source handled.1 entries).2) := by
    intro entries
    induction entries with
    | nil => intro handled; simp
    | cons entry rest ih =>
      intro handled
      simp only [receiveEntries, foldl_cons] at ih ⊢
      rw [ih, ih (_, false || _)]
      simp [Bool.or_assoc]
  simp only [receiveEntries, foldl_cons]
  rw [carried]
  simp [receiveEntries]

variable {topology : List (EigrpRoute Device)} {entries : List EigrpEntry}

theorem mem_receiveEntries (member : route ∈ (receiveEntries nextHop source topology entries).1) :
    route ∈ topology ∨ ∃ entry ∈ entries, route = offeredRoute nextHop source entry := by
  induction entries generalizing topology with
  | nil => exact .inl member
  | cons entry rest ih =>
    rw [receiveEntries_cons] at member
    rcases ih member with before | ⟨later, isLater, offered⟩
    · rcases mem_receiveEntry before with before | offered
      · exact .inl before
      · exact .inr ⟨entry, mem_cons_self, offered⟩
    · exact .inr ⟨later, mem_cons_of_mem _ isLater, offered⟩

theorem WellFormed.receiveEntries (wellFormed : WellFormed topology) (entries : List EigrpEntry) :
    WellFormed (receiveEntries nextHop source topology entries).1 := by
  induction entries generalizing topology with
  | nil => exact wellFormed
  | cons entry rest ih =>
    rw [receiveEntries_cons]
    exact ih (wellFormed.receiveEntry entry)

theorem receiveEntries_unlisted (member : route ∈ topology)
    (unlisted : ∀ entry ∈ entries, entry.destination ≠ route.destination) :
    route ∈ (receiveEntries nextHop source topology entries).1 := by
  induction entries generalizing topology with
  | nil => exact member
  | cons entry rest ih =>
    rw [receiveEntries_cons]
    refine ih ?_ fun later isLater => unlisted later (mem_cons_of_mem _ isLater)
    rcases receiveEntry_keeps nextHop source member entry with kept | replaced
    · exact kept
    · exact absurd replaced.1.symm (unlisted entry mem_cons_self)

theorem receiveEntries_direct (member : route ∈ topology) (direct : route.learnedFrom = none) :
    route ∈ (receiveEntries nextHop source topology entries).1 := by
  induction entries generalizing topology with
  | nil => exact member
  | cons entry rest ih =>
    rw [receiveEntries_cons]
    apply ih
    rcases receiveEntry_keeps nextHop source member entry with kept | replaced
    · exact kept
    · simp [accepts, direct] at replaced

theorem receiveEntries_covers (member : route ∈ topology) (falling : Falling entries)
    (bounded : ∀ entry ∈ entries, entry.destination = route.destination →
      entry.metric + linkCost ≤ route.fd) :
    Covers (receiveEntries nextHop source topology entries).1 route := by
  induction entries generalizing topology route with
  | nil => exact covers_of_mem member
  | cons entry rest ih =>
    rw [receiveEntries_cons]
    obtain ⟨head, tail⟩ := pairwise_cons.mp falling
    rcases receiveEntry_keeps nextHop source member entry with
      kept | ⟨same, -, offered⟩
    · exact ih kept tail fun later isLater => bounded later (mem_cons_of_mem _ isLater)
    · refine (ih offered tail fun later isLater equal => ?_).trans same.symm
        (bounded entry mem_cons_self same.symm)
      exact Nat.add_le_add_right (head later isLater equal.symm) linkCost

/-- A route from elsewhere stays covered: only shorter offers replace it. -/
theorem receiveEntries_foreign (member : route ∈ topology)
    (foreign : route.learnedFrom ≠ some source) (falling : Falling entries) :
    Covers (receiveEntries nextHop source topology entries).1 route := by
  induction entries generalizing topology with
  | nil => exact covers_of_mem member
  | cons entry rest ih =>
    rw [receiveEntries_cons]
    obtain ⟨head, tail⟩ := pairwise_cons.mp falling
    rcases receiveEntry_keeps nextHop source member entry with
      kept | ⟨same, accepted, offered⟩
    · exact ih kept tail
    · have shorter : entry.metric + linkCost < route.fd := by
        simp only [accepts, Bool.and_eq_true, Bool.or_eq_true, decide_eq_true_eq,
          beq_iff_eq] at accepted
        exact accepted.2.resolve_right foreign
      refine (receiveEntries_covers offered tail fun later isLater equal => ?_).trans same.symm
        (Nat.le_of_lt shorter)
      exact Nat.add_le_add_right (head later isLater equal.symm) linkCost

theorem receiveEntries_settles (wellFormed : WellFormed topology) (falling : Falling entries)
    {entry : EigrpEntry} (listed : entry ∈ entries) :
    Covers (receiveEntries nextHop source topology entries).1
      (offeredRoute nextHop source entry) := by
  induction entries generalizing topology with
  | nil => cases listed
  | cons head rest ih =>
    rw [receiveEntries_cons]
    obtain ⟨ahead, tail⟩ := pairwise_cons.mp falling
    rcases mem_cons.mp listed with rfl | later
    · rcases receiveEntry_settles nextHop source wellFormed.direct entry with
        offered | ⟨route, member, same, foreign, bound⟩
      · refine receiveEntries_covers offered tail fun later isLater equal => ?_
        exact Nat.add_le_add_right (ahead later isLater equal.symm) linkCost
      · exact (receiveEntries_foreign member foreign tail).trans same bound
    · exact ih (wellFormed.receiveEntry head) tail later

/-! ## The route that counts -/

def routeTo (topology : List (EigrpRoute Device)) (destination : Prefix) :
    Option (EigrpRoute Device) :=
  topology.find? fun route => route.destination == destination

/-- What becomes of the first route to the destination of an entry. -/
def outcome (nextHop : NextHop Device) (source : Device) (entry : EigrpEntry) :
    Option (EigrpRoute Device) → EigrpRoute Device
  | none => offeredRoute nextHop source entry
  | some existing =>
    if accepts existing source entry then offeredRoute nextHop source entry else existing

theorem routeTo_receiveEntry (nextHop : NextHop Device) (source : Device)
    (topology : List (EigrpRoute Device)) (entry : EigrpEntry) (destination : Prefix) :
    routeTo (receiveEntry nextHop source entry topology).1 destination =
      if destination = entry.destination then
        some (outcome nextHop source entry (routeTo topology destination))
      else routeTo topology destination := by
  induction topology with
  | nil =>
    by_cases same : destination = entry.destination
    · simp [receiveEntry, routeTo, outcome, offeredRoute, same]
    · simp [receiveEntry, routeTo, offeredRoute, same, Ne.symm same]
  | cons existing rest ih =>
    unfold receiveEntry
    by_cases here : existing.destination = entry.destination
    · rw [if_pos here]
      by_cases same : destination = entry.destination
      · subst same
        have first : routeTo (existing :: rest) entry.destination = some existing := by
          simp [routeTo, here]
        rw [if_pos rfl, first, outcome]
        by_cases accepted : accepts existing source entry = true
        · by_cases equal : existing = offeredRoute nextHop source entry
          · simp [accepted, ← equal, first]
          · have replaced : (accepts existing source entry &&
                existing != offeredRoute nextHop source entry) = true := by
              simp [accepted, equal]
            dsimp only
            rw [if_pos replaced, if_pos accepted]
            simp [routeTo, offeredRoute]
        · simp [accepted, first]
      · rw [if_neg same]
        have apart : ∀ other : EigrpRoute Device, other.destination = entry.destination →
            routeTo (other :: rest) destination = routeTo rest destination := by
          intro other isEntry
          simp [routeTo, isEntry, Ne.symm same]
        dsimp only
        split
        · rw [apart _ rfl, apart _ here]
        · rfl
    · rw [if_neg here]
      by_cases first : existing.destination = destination
      · have other : destination ≠ entry.destination := first ▸ here
        simp [routeTo, first, other]
      · have skips : ∀ others : List (EigrpRoute Device),
            routeTo (existing :: others) destination = routeTo others destination := by
          intro others
          simp [routeTo, first]
        dsimp only
        rw [skips, skips, ih]

theorem receiveEntry_changed {topology : List (EigrpRoute Device)} {entry : EigrpEntry}
    (changed : (receiveEntry nextHop source entry topology).2 = true) :
    routeTo (receiveEntry nextHop source entry topology).1 entry.destination ≠
      routeTo topology entry.destination := by
  induction topology with
  | nil => simp [receiveEntry, routeTo, offeredRoute]
  | cons existing rest ih =>
    unfold receiveEntry at changed ⊢
    by_cases here : existing.destination = entry.destination
    · rw [if_pos here] at changed ⊢
      dsimp only at changed ⊢
      split at changed
      · rename_i replaced
        rw [if_pos replaced]
        simp only [Bool.and_eq_true, bne_iff_ne] at replaced
        simpa [routeTo, here, offeredRoute] using Ne.symm replaced.2
      · cases changed
    · rw [if_neg here] at changed ⊢
      simpa [routeTo, here] using ih changed

theorem routeTo_receiveEntries (nextHop : NextHop Device) (source : Device)
    (topology : List (EigrpRoute Device)) {entries : List EigrpEntry}
    (once : (entries.map EigrpEntry.destination).Nodup) (destination : Prefix) :
    (routeTo (receiveEntries nextHop source topology entries).1 destination =
        routeTo topology destination ∧ ∀ entry ∈ entries, entry.destination ≠ destination) ∨
      ∃ entry ∈ entries, entry.destination = destination ∧
        routeTo (receiveEntries nextHop source topology entries).1 destination =
          some (outcome nextHop source entry (routeTo topology destination)) := by
  induction entries generalizing topology with
  | nil => exact .inl ⟨rfl, fun _ member => by cases member⟩
  | cons entry rest ih =>
    obtain ⟨fresh, later⟩ := nodup_cons.mp once
    rw [receiveEntries_cons]
    dsimp only
    have first := routeTo_receiveEntry nextHop source topology entry destination
    rcases ih (receiveEntry nextHop source entry topology).1 later with
      ⟨kept, unlisted⟩ | ⟨other, isOther, same, decided⟩
    · rw [kept, first]
      by_cases here : destination = entry.destination
      · rw [if_pos here]
        exact .inr ⟨entry, mem_cons_self, here.symm, rfl⟩
      · rw [if_neg here]
        refine .inl ⟨rfl, fun listed member => ?_⟩
        rcases mem_cons.mp member with rfl | inRest
        · exact Ne.symm here
        · exact unlisted listed inRest
    · have apart : destination ≠ entry.destination := by
        rintro rfl
        exact fresh (mem_map.mpr ⟨other, isOther, same⟩)
      rw [if_neg apart] at first
      rw [decided, first]
      exact .inr ⟨other, mem_cons_of_mem _ isOther, same, rfl⟩

theorem receiveEntries_changed (once : (entries.map EigrpEntry.destination).Nodup)
    (changed : (receiveEntries nextHop source topology entries).2 = true) :
    ∃ destination, routeTo (receiveEntries nextHop source topology entries).1 destination ≠
      routeTo topology destination := by
  induction entries generalizing topology with
  | nil => cases changed
  | cons entry rest ih =>
    obtain ⟨fresh, later⟩ := nodup_cons.mp once
    rw [receiveEntries_cons] at changed ⊢
    dsimp only at changed ⊢
    rcases Bool.or_eq_true _ _ ▸ changed with head | tail
    · refine ⟨entry.destination, ?_⟩
      rcases routeTo_receiveEntries nextHop source
        (receiveEntry nextHop source entry topology).1 later entry.destination with
        ⟨kept, -⟩ | ⟨other, isOther, same, -⟩
      · rw [kept]
        exact receiveEntry_changed head
      · exact absurd (mem_map.mpr ⟨other, isOther, same⟩) fresh
    · obtain ⟨destination, differs⟩ := ih later tail
      refine ⟨destination, fun same => differs ?_⟩
      have first := routeTo_receiveEntry nextHop source topology entry destination
      rw [same, first, if_neg ?_]
      rintro rfl
      rcases routeTo_receiveEntries nextHop source
        (receiveEntry nextHop source entry topology).1 later entry.destination with
        ⟨kept, -⟩ | ⟨other, isOther, same', -⟩
      · exact differs kept
      · exact fresh (mem_map.mpr ⟨other, isOther, same'⟩)

omit [DecidableEq Device] in
theorem WellFormed.routeTo_learned (wellFormed : WellFormed topology) (member : route ∈ topology)
    (learned : route.learnedFrom ≠ none) : routeTo topology route.destination = some route := by
  have ordered := wellFormed.ordered
  clear wellFormed
  induction topology with
  | nil => cases member
  | cons existing rest ih =>
    obtain ⟨ahead, later⟩ := pairwise_cons.mp ordered
    rcases mem_cons.mp member with rfl | inRest
    · simp [routeTo]
    · have apart : existing.destination ≠ route.destination := fun same =>
        learned (ahead route inRest same).2
      simpa [routeTo, apart] using ih inRest later

omit [DecidableEq Device] in
theorem routeTo_of_once (member : route ∈ topology)
    (once : (topology.map EigrpRoute.destination).Nodup) :
    routeTo topology route.destination = some route := by
  induction topology with
  | nil => cases member
  | cons existing rest ih =>
    obtain ⟨fresh, later⟩ := nodup_cons.mp once
    rcases mem_cons.mp member with rfl | inRest
    · simp [routeTo]
    · have apart : existing.destination ≠ route.destination := fun same =>
        fresh (mem_map.mpr ⟨route, inRest, same.symm⟩)
      simpa [routeTo, apart] using ih inRest later

/-! ## Updates, starts and losses -/

omit [DecidableEq Device] in
/-- What a table lists does not rise, with anything left out. -/
theorem WellFormed.falling (wellFormed : WellFormed topology)
    (kept : EigrpRoute Device → Bool) :
    Falling ((topology.filter kept).map EigrpRoute.entry) := by
  have listed := List.Pairwise.and_mem.mp wellFormed.ordered
  refine pairwise_map.mpr ((listed.filter kept).imp ?_)
  rintro first second ⟨isFirst, isSecond, separated⟩ same
  have direct := wellFormed.direct second isSecond (separated same).2
  exact Nat.le_trans (Nat.le_of_eq direct) (wellFormed.least first isFirst)

omit [DecidableEq Device] in
theorem wellFormed_nil : WellFormed ([] : List (EigrpRoute Device)) where
  ordered := List.Pairwise.nil
  direct := fun _ member => by cases member
  least := fun _ member => by cases member

omit [DecidableEq Device] in
theorem WellFormed.filter (wellFormed : WellFormed topology) (kept : EigrpRoute Device → Bool) :
    WellFormed (topology.filter kept) where
  ordered := wellFormed.ordered.filter kept
  direct route member := wellFormed.direct route (mem_filter.mp member).1
  least route member := wellFormed.least route (mem_filter.mp member).1

omit [DecidableEq Device] in
theorem mem_addDirect {networks : List Prefix} (member : route ∈ addDirect topology networks) :
    route ∈ topology ∨ ∃ destination ∈ networks, route = directRoute destination := by
  induction networks generalizing topology with
  | nil => exact .inl member
  | cons destination rest ih =>
    rcases ih member with before | ⟨later, isLater, direct⟩
    · dsimp only at before
      split at before
      · exact .inl before
      · rcases mem_append.mp before with before | added
        · exact .inl before
        · exact .inr ⟨destination, mem_cons_self, mem_singleton.mp added⟩
    · exact .inr ⟨later, mem_cons_of_mem _ isLater, direct⟩

omit [DecidableEq Device] in
/-- A start removes nothing. -/
theorem addDirect_subset (networks : List Prefix) : topology ⊆ addDirect topology networks := by
  induction networks generalizing topology with
  | nil => exact List.Subset.refl _
  | cons destination rest ih =>
    refine List.Subset.trans ?_ ih
    dsimp only
    split
    · exact List.Subset.refl _
    · exact subset_append_left _ _

omit [DecidableEq Device] in
theorem WellFormed.addDirect (wellFormed : WellFormed topology) (networks : List Prefix) :
    WellFormed (addDirect topology networks) := by
  induction networks generalizing topology with
  | nil => exact wellFormed
  | cons destination rest ih =>
    refine ih ?_
    dsimp only
    split
    · exact wellFormed
    · rename_i missing
      refine ⟨pairwise_append.mpr ⟨wellFormed.ordered, pairwise_singleton _ _, ?_⟩,
        fun route member learned => ?_, fun route member => ?_⟩
      · intro first isFirst second isSecond same
        rw [mem_singleton.mp isSecond] at same ⊢
        refine ⟨fun direct => missing ?_, rfl⟩
        exact any_eq_true.mpr ⟨first, isFirst, by simp [directRoute] at same; simp [same, direct]⟩
      · rcases mem_append.mp member with before | added
        · exact wellFormed.direct route before learned
        · rw [mem_singleton.mp added]
          rfl
      · rcases mem_append.mp member with before | added
        · exact wellFormed.least route before
        · rw [mem_singleton.mp added]
          exact Nat.le_refl _

end NetLab.Eigrp
