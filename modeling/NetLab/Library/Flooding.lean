import Mathlib.Data.Set.Finite.Lemmas
import Mathlib.Data.Set.Finite.List
import Mathlib.Logic.Function.Iterate

/-!
# Flooding by sweeps

Every vertex holds at most one ranked instance. In a sweep the vertices are visited
in a fixed order and each takes over what its peers hold when it is ranked higher.
`ArrivesBy` says, without running anything, which vertices an instance of the
highest rank has reached after a number of sweeps: one edge for each sweep, and any
number of edges that run along the visiting order. `synchronised_iff` turns this
into an exact criterion for agreement after a bounded number of sweeps.
-/

namespace NetLab.Library.Flooding

open List Function

variable {V I : Type} [DecidableEq V] (rank : I → Nat) {level : Nat}

/-- The higher-ranked of two instances; the own one wins a tie. -/
def newer (own other : Option I) : Option I :=
  match own, other with
  | none, _ => other
  | some _, none => own
  | some current, some offered => if rank current < rank offered then other else own

/-- One vertex takes over what another one holds. -/
def pullFrom (vertex : V) (held : V → Option I) (peer : V) : V → Option I :=
  Function.update held vertex (newer rank (held vertex) (held peer))

/-- One vertex asks all its peers in turn. -/
def visit (peers : V → List V) (held : V → Option I) (vertex : V) : V → Option I :=
  (peers vertex).foldl (pullFrom rank vertex) held

def sweep (order : List V) (peers : V → List V) (held : V → Option I) : V → Option I :=
  order.foldl (visit rank peers) held

/-- `earlier` is visited before `later`. -/
def Before (order : List V) (earlier later : V) : Prop :=
  ∃ front back, order = front ++ later :: back ∧ earlier ∈ front

/-- The vertices that a source reaches within a number of sweeps. -/
inductive ArrivesBy (order : List V) (peers : V → List V) (source : V → Prop) : Nat → V → Prop where
  | source {vertex : V} (sweeps : Nat) (initial : source vertex) :
      ArrivesBy order peers source sweeps vertex
  | wait {sweeps : Nat} {vertex : V} (arrived : ArrivesBy order peers source sweeps vertex) :
      ArrivesBy order peers source (sweeps + 1) vertex
  | nextSweep {sweeps : Nat} {vertex peer : V} (visited : vertex ∈ order)
      (edge : peer ∈ peers vertex) (arrived : ArrivesBy order peers source sweeps peer) :
      ArrivesBy order peers source (sweeps + 1) vertex
  | sameSweep {sweeps : Nat} {vertex peer : V} (before : Before order peer vertex)
      (edge : peer ∈ peers vertex) (arrived : ArrivesBy order peers source (sweeps + 1) peer) :
      ArrivesBy order peers source (sweeps + 1) vertex

/-- A vertex of a region holds an instance that nothing in the region outranks. -/
def Newest (region : V → Prop) (held : V → Option I) (vertex : V) (top : I) : Prop :=
  region vertex ∧ held vertex = some top ∧
    ∀ other offered, region other → held other = some offered → rank offered ≤ rank top

/-- All vertices of a region hold the same thing, as far as `view` shows it, and it is
one of the highest-ranked instances held before. -/
def Synchronised {View : Type} (view : I → View) (region : V → Prop)
    (before after : V → Option I) : Prop :=
  (∀ left right, region left → region right → (after left).map view = (after right).map view) ∧
  (∀ vertex offered other, region vertex → region other → before other = some offered →
    ∃ found, after vertex = some found ∧ rank offered ≤ rank found) ∧
  (∀ vertex found, region vertex → after vertex = some found →
    ∃ other, region other ∧ before other = some found)

/-- The newest instances of a region show the same view, and reach the whole region
within the given number of sweeps. -/
def FloodsWithin {View : Type} (order : List V) (peers : V → List V) (view : I → View)
    (region : V → Prop) (held : V → Option I) (sweeps : Nat) : Prop :=
  (∀ left right leftInstance rightInstance, Newest rank region held left leftInstance →
    Newest rank region held right rightInstance → view leftInstance = view rightInstance) ∧
  ∀ holder found, Newest rank region held holder found → ∀ vertex, region vertex →
    ArrivesBy order peers (fun source => ∃ offered, Newest rank region held source offered)
      sweeps vertex

variable {rank}

/-! ## One sweep -/

variable {own other : Option I}

variable {found : I} {sweeps : Nat}

/-- What a vertex holds after a pull was held by it or by the peer. -/
theorem newer_cases (result : newer rank own other = some found) :
    own = some found ∨ other = some found := by
  unfold newer at result
  split at result
  · exact .inr result
  · exact .inl result
  · split at result
    · exact .inr result
    · exact .inl result

@[simp] theorem newer_none_right (own : Option I) : newer rank own none = own := by
  cases own <;> rfl

theorem newer_le {offered : I} (held : own = some offered ∨ other = some offered) :
    ∃ found, newer rank own other = some found ∧ rank offered ≤ rank found := by
  cases own with
  | none => exact ⟨offered, by simpa [newer] using held, Nat.le_refl _⟩
  | some current =>
    cases other with
    | none => exact ⟨current, rfl, by simp_all⟩
    | some challenger =>
      by_cases outranked : rank current < rank challenger
      · refine ⟨challenger, by simp [newer, outranked], ?_⟩
        rcases held with same | same <;> cases same <;> omega
      · refine ⟨current, by simp [newer, outranked], ?_⟩
        rcases held with same | same <;> cases same <;> omega

/-- An instance that nothing outranks is kept. -/
theorem newer_keep {current : I} (held : own = some current)
    (top : ∀ offered, other = some offered → rank offered ≤ rank current) :
    newer rank own other = some current := by
  subst held
  cases other with
  | none => rfl
  | some offered =>
    have bound := top offered rfl
    simp [newer, Nat.not_lt.mpr bound]

def HoldsRank (rank : I → Nat) (held : V → Option I) (level : Nat) (vertex : V) : Prop :=
  ∃ found, held vertex = some found ∧ rank found = level

def BoundedBy (rank : I → Nat) (region : V → Prop) (held : V → Option I) (level : Nat) : Prop :=
  ∀ vertex found, region vertex → held vertex = some found → rank found ≤ level

theorem newer_holds_iff (ownBound : ∀ found, own = some found → rank found ≤ level)
    (otherBound : ∀ found, other = some found → rank found ≤ level) :
    (∃ found, newer rank own other = some found ∧ rank found = level) ↔
      (∃ found, own = some found ∧ rank found = level) ∨
        ∃ found, other = some found ∧ rank found = level := by
  constructor
  · rintro ⟨found, result, reaches⟩
    rcases newer_cases result with held | held
    · exact .inl ⟨found, held, reaches⟩
    · exact .inr ⟨found, held, reaches⟩
  · have bound : ∀ found, newer rank own other = some found → rank found ≤ level := by
      intro found result
      exact (newer_cases result).elim (ownBound found) (otherBound found)
    rintro (⟨found, held, reaches⟩ | ⟨found, held, reaches⟩)
    · obtain ⟨kept, result, le⟩ : ∃ kept, newer rank own other = some kept ∧ rank found ≤ rank kept :=
        newer_le (.inl held)
      exact ⟨kept, result, le_antisymm (bound kept result) (reaches ▸ le)⟩
    · obtain ⟨kept, result, le⟩ : ∃ kept, newer rank own other = some kept ∧ rank found ≤ rank kept :=
        newer_le (.inr held)
      exact ⟨kept, result, le_antisymm (bound kept result) (reaches ▸ le)⟩

variable {order : List V} {peers : V → List V} {region : V → Prop}

section Sweep

theorem visit_of_ne {held : V → Option I} {vertex other : V} (different : other ≠ vertex) :
    visit rank peers held vertex other = held other := by
  unfold visit
  induction peers vertex generalizing held with
  | nil => rfl
  | cons peer rest ih =>
    rw [foldl_cons, ih]
    exact update_of_ne different _ _

section

variable {motive : (V → Option I) → Prop} {held : V → Option I}
  (pulls : ∀ held vertex peer, peer ∈ peers vertex → motive held → motive (pullFrom rank vertex held peer))
  (initially : motive held)
include pulls initially

/-- A property of held instances that a pull cannot break survives a sweep. Only peers
of visited vertices are asked. -/
theorem sweep_induction : motive (sweep rank order peers held) := by
  have visits : ∀ held vertex, motive held → motive (visit rank peers held vertex) := by
    intro held vertex holds
    unfold visit
    have general : ∀ asked : List V, (∀ peer ∈ asked, peer ∈ peers vertex) → ∀ held, motive held →
        motive (asked.foldl (pullFrom rank vertex) held) := by
      intro asked
      induction asked with
      | nil => exact fun _ _ holds => holds
      | cons peer rest ih =>
        intro subset held holds
        exact ih (fun other member => subset other (mem_cons_of_mem _ member)) _
          (pulls held vertex peer (subset peer mem_cons_self) holds)
    exact general _ (fun _ member => member) held holds
  unfold sweep
  induction order generalizing held with
  | nil => exact initially
  | cons vertex rest ih => exact ih (visits held vertex initially)

theorem iterate_sweep_induction (sweeps : Nat) :
    motive ((sweep rank order peers)^[sweeps] held) := by
  induction sweeps with
  | zero => exact initially
  | succ sweeps ih =>
    rw [iterate_succ_apply']
    exact sweep_induction pulls ih

end

end Sweep

variable {vertex : V}

section Region

variable (closed : ∀ vertex peer, region vertex → peer ∈ peers vertex → region peer)
include closed

theorem origin_of_iterate {held : V → Option I} (inside : region vertex)
    (result : (sweep rank order peers)^[sweeps] held vertex = some found) :
    ∃ other, region other ∧ held other = some found := by
  refine iterate_sweep_induction (motive := fun now => ∀ vertex found, region vertex → now vertex = some found →
      ∃ other, region other ∧ held other = some found) ?_ ?_ sweeps vertex found inside result
  · intro now vertex peer edge holds other found inside result
    by_cases same : other = vertex
    · subst same
      rw [pullFrom, update_self] at result
      rcases newer_cases result with own | taken
      · exact holds other found inside own
      · exact holds peer found (closed other peer inside edge) taken
    · rw [pullFrom, update_of_ne same] at result
      exact holds other found inside result
  · exact fun vertex found inside result => ⟨vertex, inside, result⟩

theorem newest_kept {held : V → Option I} {holder : V} {top : I}
    (newest : Newest rank region held holder top) :
    (sweep rank order peers)^[sweeps] held holder = some top := by
  suffices bounded : (sweep rank order peers)^[sweeps] held holder = some top ∧
      ∀ vertex found, region vertex →
        (sweep rank order peers)^[sweeps] held vertex = some found → rank found ≤ rank top from
    bounded.1
  refine iterate_sweep_induction (motive := fun now => now holder = some top ∧
    ∀ vertex found, region vertex → now vertex = some found → rank found ≤ rank top) ?_
    ⟨newest.2.1, newest.2.2⟩ sweeps
  · rintro now vertex peer edge ⟨keeps, bound⟩
    constructor
    · by_cases same : holder = vertex
      · subst same
        rw [pullFrom, update_self]
        exact newer_keep keeps fun offered taken =>
          bound peer offered (closed holder peer newest.1 edge) taken
      · rw [pullFrom, update_of_ne same]
        exact keeps
    · intro other found inside result
      by_cases same : other = vertex
      · subst same
        rw [pullFrom, update_self] at result
        rcases newer_cases result with own | taken
        · exact bound other found inside own
        · exact bound peer found (closed other peer inside edge) taken
      · rw [pullFrom, update_of_ne same] at result
        exact bound other found inside result

/-! ## Arrival -/

theorem boundedBy_pull {held : V → Option I} {vertex peer : V} (edge : peer ∈ peers vertex)
    (bounded : BoundedBy rank region held level) :
    BoundedBy rank region (pullFrom rank vertex held peer) level := by
  intro other found inside result
  by_cases same : other = vertex
  · subst same
    rw [pullFrom, update_self] at result
    rcases newer_cases result with own | taken
    · exact bounded other found inside own
    · exact bounded peer found (closed other peer inside edge) taken
  · rw [pullFrom, update_of_ne same] at result
    exact bounded other found inside result

theorem visit_holds_iff {held : V → Option I} (inside : region vertex)
    (bounded : BoundedBy rank region held level) (other : V) :
    HoldsRank rank (visit rank peers held vertex) level other ↔ HoldsRank rank held level other ∨
        other = vertex ∧ ∃ peer ∈ peers vertex, HoldsRank rank held level peer := by
  unfold visit
  have general : ∀ asked : List V, (∀ peer ∈ asked, peer ∈ peers vertex) →
      ∀ held, BoundedBy rank region held level → ∀ other,
      (HoldsRank rank (asked.foldl (pullFrom rank vertex) held) level other ↔
        HoldsRank rank held level other ∨
          other = vertex ∧ ∃ peer ∈ asked, HoldsRank rank held level peer) := by
    intro asked
    induction asked with
    | nil => simp
    | cons peer rest ih =>
      intro subset held bounded other
      have edge := subset peer mem_cons_self
      have pulled : ∀ candidate, HoldsRank rank (pullFrom rank vertex held peer) level candidate ↔
          HoldsRank rank held level candidate ∨
            candidate = vertex ∧ HoldsRank rank held level peer := by
        intro candidate
        by_cases same : candidate = vertex
        · subst same
          simp only [HoldsRank, pullFrom, update_self, true_and]
          refine newer_holds_iff ?_ ?_
          · exact fun found => bounded candidate found inside
          · exact fun found => bounded peer found (closed candidate peer inside edge)
        · simp [HoldsRank, pullFrom, same]
      rw [foldl_cons, ih (fun next member => subset next (mem_cons_of_mem _ member)) _
        (boundedBy_pull closed edge bounded)]
      simp only [pulled, mem_cons, exists_eq_or_imp]
      constructor
      · rintro ((own | ⟨same, taken⟩) | ⟨same, next, member, own | ⟨-, taken⟩⟩)
        · exact .inl own
        · exact .inr ⟨same, .inl taken⟩
        · exact .inr ⟨same, .inr ⟨next, member, own⟩⟩
        · exact .inr ⟨same, .inl taken⟩
      · rintro (own | ⟨same, taken | ⟨next, member, taken⟩⟩)
        · exact .inl (.inl own)
        · exact .inl (.inr ⟨same, taken⟩)
        · exact .inr ⟨same, next, member, .inl taken⟩
  exact general _ (fun _ member => member) held bounded other

theorem boundedBy_visit {held : V → Option I} (bounded : BoundedBy rank region held level) :
    BoundedBy rank region (visit rank peers held vertex) level := by
  change BoundedBy rank region (sweep rank [vertex] peers held) level
  exact sweep_induction (motive := fun now => BoundedBy rank region now level)
    (fun _ _ _ edge holds => boundedBy_pull closed edge holds) bounded

end Region

/-! ## Arrival -/

omit [DecidableEq V] in
/-- In an order without repetition, the vertices before one are its front. -/
theorem before_iff_mem {front back : List V} {earlier later : V}
    (distinct : (front ++ later :: back).Nodup) :
    Before (front ++ later :: back) earlier later ↔ earlier ∈ front := by
  constructor
  · rintro ⟨otherFront, otherBack, same, member⟩
    have fresh : later ∉ front ∧ later ∉ back := by
      have parts := nodup_append.mp distinct
      exact ⟨fun inFront => parts.2.2 later inFront later mem_cons_self rfl,
        (nodup_cons.mp parts.2.1).1⟩
    have equal : front = otherFront :=
      ((append_cons_inj_of_notMem fresh.1 fresh.2).mp same).1
    exact equal ▸ member
  · exact fun member => ⟨front, back, rfl, member⟩

omit [DecidableEq V] in
theorem arrivesBy_succ_iff {source : V → Prop} : ArrivesBy order peers source (sweeps + 1) vertex ↔
      ArrivesBy order peers source sweeps vertex ∨ ∃ peer ∈ peers vertex,
          (vertex ∈ order ∧ ArrivesBy order peers source sweeps peer) ∨
            (Before order peer vertex ∧ ArrivesBy order peers source (sweeps + 1) peer) := by
  constructor
  · intro arrived
    cases arrived with
    | source _ initial => exact .inl (.source sweeps initial)
    | wait arrived => exact .inl arrived
    | nextSweep visited edge arrived => exact .inr ⟨_, edge, .inl ⟨visited, arrived⟩⟩
    | sameSweep before edge arrived => exact .inr ⟨_, edge, .inr ⟨before, arrived⟩⟩
  · rintro (arrived | ⟨peer, edge, ⟨visited, arrived⟩ | ⟨before, arrived⟩⟩)
    · exact .wait arrived
    · exact .nextSweep visited edge arrived
    · exact .sameSweep before edge arrived

omit [DecidableEq V] in
theorem ArrivesBy.mono {fewer more : V → Prop} (arrived : ArrivesBy order peers fewer sweeps vertex)
    (included : ∀ source, fewer source → more source) :
    ArrivesBy order peers more sweeps vertex := by
  induction arrived with
  | source sweeps initial => exact .source sweeps (included _ initial)
  | wait _ ih => exact .wait ih
  | nextSweep visited edge _ ih => exact .nextSweep visited edge ih
  | sameSweep before edge _ ih => exact .sameSweep before edge ih

section Arrival

variable (closed : ∀ vertex peer, region vertex → peer ∈ peers vertex → region peer)
  (distinct : order.Nodup)
include closed distinct

/-- One sweep, followed vertex by vertex: a visited vertex has what arrives by the end
of the sweep, the others still have what had arrived before. -/
theorem sweep_holds_iff {held : V → Option I} {level : Nat} {source : V → Prop}
    (bounded : BoundedBy rank region held level) (arrived : ∀ vertex, region vertex →
      (HoldsRank rank held level vertex ↔ ArrivesBy order peers source sweeps vertex))
    (visited rest : List V) (split : order = visited ++ rest) :
    BoundedBy rank region (visited.foldl (visit rank peers) held) level ∧ ∀ vertex, region vertex →
        (HoldsRank rank (visited.foldl (visit rank peers) held) level vertex ↔
          ArrivesBy order peers source sweeps vertex ∨
            vertex ∈ visited ∧ ArrivesBy order peers source (sweeps + 1) vertex) := by
  induction visited using List.reverseRecOn generalizing rest with
  | nil => exact ⟨bounded, by simpa using arrived⟩
  | append_singleton front last ih =>
    have decomposed : order = front ++ last :: rest := by simpa using split
    obtain ⟨frontBounded, front_iff⟩ := ih (last :: rest) decomposed
    rw [foldl_append, foldl_cons, foldl_nil]
    refine ⟨boundedBy_visit closed frontBounded, fun vertex inside => ?_⟩
    by_cases same : vertex = last
    · subst same
      have before_iff : ∀ peer, Before order peer vertex ↔ peer ∈ front := fun peer => by
        rw [decomposed] at distinct ⊢
        exact before_iff_mem distinct
      have member : vertex ∈ order := by simp [decomposed]
      rw [visit_holds_iff closed inside frontBounded, front_iff vertex inside]
      constructor
      · rintro ((arrivedNow | ⟨-, arrivedNow⟩) | ⟨-, peer, edge, holds⟩)
        · exact .inl arrivedNow
        · exact .inr ⟨by simp, arrivedNow⟩
        · rcases (front_iff peer (closed vertex peer inside edge)).mp holds with
            arrivedNow | ⟨inFront, arrivedNow⟩
          · exact .inr ⟨by simp, .nextSweep member edge arrivedNow⟩
          · exact .inr ⟨by simp, .sameSweep ((before_iff peer).mpr inFront) edge arrivedNow⟩
      · rintro (arrivedNow | ⟨-, arrivedNow⟩)
        · exact .inl (.inl arrivedNow)
        · rcases arrivesBy_succ_iff.mp arrivedNow with
            earlier | ⟨peer, edge, ⟨-, arrivedPeer⟩ | ⟨before, arrivedPeer⟩⟩
          · exact .inl (.inl earlier)
          · exact .inr ⟨rfl, peer, edge,
              (front_iff peer (closed vertex peer inside edge)).mpr (.inl arrivedPeer)⟩
          · exact .inr ⟨rfl, peer, edge, (front_iff peer (closed vertex peer inside edge)).mpr
              (.inr ⟨(before_iff peer).mp before, arrivedPeer⟩)⟩
    · have unchanged : visit rank peers (front.foldl (visit rank peers) held) last vertex =
          front.foldl (visit rank peers) held vertex :=
        visit_of_ne same
      have holds_iff : HoldsRank rank
          (visit rank peers (front.foldl (visit rank peers) held) last) level vertex ↔
            HoldsRank rank (front.foldl (visit rank peers) held) level vertex := by
        simp only [HoldsRank, unchanged]
      rw [holds_iff, front_iff vertex inside]
      simp [same]

/-- After a number of sweeps the vertices at the highest level are those that an
instance of that level has reached. Vertices outside the order keep what they hold. -/
theorem iterate_sweep_holds_iff {held : V → Option I} (bounded : BoundedBy rank region held level)
    (sweeps : Nat) :
    BoundedBy rank region ((sweep rank order peers)^[sweeps] held) level ∧ ∀ vertex, region vertex →
        (HoldsRank rank ((sweep rank order peers)^[sweeps] held) level vertex ↔
          ArrivesBy order peers (fun source => region source ∧ HoldsRank rank held level source)
            sweeps vertex) := by
  induction sweeps with
  | zero =>
    refine ⟨bounded, fun vertex inside => ⟨fun holds => .source 0 ⟨inside, holds⟩, ?_⟩⟩
    intro arrived
    cases arrived with
    | source _ initial => exact initial.2
  | succ sweeps ih =>
    rw [iterate_succ_apply']
    obtain ⟨boundedAfter, swept⟩ :=
      sweep_holds_iff closed distinct ih.1 ih.2 order [] (by simp)
    refine ⟨boundedAfter, fun vertex inside => (swept vertex inside).trans ?_⟩
    constructor
    · rintro (arrived | ⟨-, arrived⟩)
      · exact .wait arrived
      · exact arrived
    · intro arrived
      cases arrived with
      | source _ initial => exact .inl (.source sweeps initial)
      | wait earlier => exact .inl earlier
      | nextSweep visited edge earlier =>
        exact .inr ⟨visited, .nextSweep visited edge earlier⟩
      | sameSweep before edge earlier =>
        refine .inr ⟨?_, .sameSweep before edge earlier⟩
        obtain ⟨front, back, same, -⟩ := before
        simp [same]

end Arrival

/-! ## Agreement -/

omit [DecidableEq V] in
theorem exists_newest {held : V → Option I} (finite : ∀ vertex, region vertex → vertex ∈ order)
    (inside : region vertex) (holds : held vertex = some found) :
    ∃ holder top, Newest rank region held holder top := by
  let holders : Set V := {candidate | region candidate ∧ (held candidate).isSome}
  have finiteHolders : holders.Finite :=
    (finite_toSet order).subset fun candidate member => finite candidate member.1
  have nonempty : holders.Nonempty := ⟨vertex, inside, by simp [holds]⟩
  obtain ⟨holder, ⟨holderInside, holderHolds⟩, highest⟩ :=
    Set.exists_max_image holders (fun candidate => (held candidate).elim 0 rank) finiteHolders
      nonempty
  obtain ⟨top, holdsTop⟩ := Option.isSome_iff_exists.mp holderHolds
  refine ⟨holder, top, holderInside, holdsTop, fun other offered otherInside otherHolds => ?_⟩
  simpa [holdsTop, otherHolds] using highest other ⟨otherInside, by simp [otherHolds]⟩

omit [DecidableEq V] in
theorem newest_iff {held : V → Option I} {holder : V} {top : I}
    (newest : Newest rank region held holder top) (source : V) :
    (∃ offered, Newest rank region held source offered) ↔
      region source ∧ HoldsRank rank held (rank top) source := by
  constructor
  · rintro ⟨offered, inside, holds, highest⟩
    exact ⟨inside, offered, holds, le_antisymm (newest.2.2 source offered inside holds)
      (highest holder top newest.1 newest.2.1)⟩
  · rintro ⟨inside, offered, holds, level⟩
    exact ⟨offered, inside, holds, fun other candidate otherInside otherHolds =>
      level ▸ newest.2.2 other candidate otherInside otherHolds⟩

/-- Sweeping synchronises a region exactly when its newest instances agree and
reach all of it in time. -/
theorem synchronised_iff {View : Type} {view : I → View} {held : V → Option I}
    (closed : ∀ vertex peer, region vertex → peer ∈ peers vertex → region peer)
    (distinct : order.Nodup) (finite : ∀ vertex, region vertex → vertex ∈ order) (sweeps : Nat) :
    Synchronised rank view region held ((sweep rank order peers)^[sweeps] held) ↔
      FloodsWithin rank order peers view region held sweeps := by
  constructor
  · rintro ⟨agree, highest, -⟩
    constructor
    · intro left right leftTop rightTop leftNewest rightNewest
      have same := agree left right leftNewest.1 rightNewest.1
      rw [newest_kept closed leftNewest, newest_kept closed rightNewest] at same
      simpa using same
    · intro holder top newest vertex inside
      obtain ⟨bounded, arrives⟩ := iterate_sweep_holds_iff closed distinct newest.2.2 sweeps
      have reached : HoldsRank rank ((sweep rank order peers)^[sweeps] held) (rank top) vertex := by
        obtain ⟨found, holds, le⟩ := highest vertex top holder inside newest.1 newest.2.1
        exact ⟨found, holds, le_antisymm (bounded vertex found inside holds) le⟩
      simpa only [newest_iff newest] using (arrives vertex inside).mp reached
  · rintro ⟨consistent, arrivesBy⟩
    have top_of_found : ∀ vertex other offered, region vertex → region other →
        held other = some offered → ∃ found source, Newest rank region held source found ∧
          (sweep rank order peers)^[sweeps] held vertex = some found := by
      intro vertex other offered inside otherInside otherHolds
      obtain ⟨holder, top, newest⟩ := exists_newest finite otherInside otherHolds
      obtain ⟨-, arrives⟩ := iterate_sweep_holds_iff closed distinct newest.2.2 sweeps
      have reached := arrivesBy holder top newest vertex inside
      simp only [newest_iff newest] at reached
      obtain ⟨found, holds, level⟩ := (arrives vertex inside).mpr reached
      obtain ⟨source, sourceInside, sourceHolds⟩ := origin_of_iterate closed inside holds
      obtain ⟨offered, sourceNewest⟩ :=
        (newest_iff newest source).mpr ⟨sourceInside, found, sourceHolds, level⟩
      cases sourceNewest.2.1.symm.trans sourceHolds
      exact ⟨_, source, sourceNewest, holds⟩
    refine ⟨?_, ?_, ?_⟩
    · intro left right leftInside rightInside
      cases leftHolds : (sweep rank order peers)^[sweeps] held left with
      | none =>
        cases rightHolds : (sweep rank order peers)^[sweeps] held right with
        | none => rfl
        | some found =>
          obtain ⟨other, inside, holds⟩ := origin_of_iterate closed rightInside rightHolds
          obtain ⟨top, -, -, impossible⟩ := top_of_found left other found leftInside inside holds
          simp [leftHolds] at impossible
      | some found =>
        obtain ⟨other, inside, holds⟩ := origin_of_iterate closed leftInside leftHolds
        obtain ⟨leftTop, leftSource, leftNewest, leftIs⟩ :=
          top_of_found left other found leftInside inside holds
        obtain ⟨rightTop, rightSource, rightNewest, rightIs⟩ :=
          top_of_found right other found rightInside inside holds
        have same := consistent leftSource rightSource leftTop rightTop leftNewest rightNewest
        rw [← leftHolds, leftIs, rightIs]
        simp [same]
    · intro vertex offered other inside otherInside otherHolds
      obtain ⟨found, source, newest, holds⟩ :=
        top_of_found vertex other offered inside otherInside otherHolds
      exact ⟨found, holds, newest.2.2 other offered otherInside otherHolds⟩
    · intro vertex found inside holds
      exact origin_of_iterate closed inside holds

end NetLab.Library.Flooding
