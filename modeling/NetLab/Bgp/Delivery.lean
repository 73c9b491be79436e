import NetLab.Bgp.Frame

/-!
# What a round delivers

Synchronizing a table with a sender is described by what a lookup finds
afterwards. A delivery reads only what no delivery writes, so a whole round is
described speaker by speaker, and a round that reports no change leaves every
table as it was.
-/

namespace NetLab.Bgp

open NetLab.Library NetLab.Network
open OrderedMap List

variable {Device : Type} [DecidableEq Device]

omit [DecidableEq Device] in
/-- The route kept for a wanted one: new, refreshed, or as it was. -/
def mergeRoute (current : Option (BgpRoute Device)) (wanted : BgpRoute Device) : BgpRoute Device :=
  match current with
  | none => wanted
  | some current => if current.outdated wanted then current.refresh wanted else current

omit [DecidableEq Device] in
theorem asPath_mergeRoute (current : Option (BgpRoute Device)) (wanted : BgpRoute Device) :
    (mergeRoute current wanted).asPath = wanted.asPath := by
  unfold mergeRoute
  cases current with
  | none => rfl
  | some current =>
    dsimp only
    split
    case isTrue => rfl
    case isFalse same =>
        simp only [BgpRoute.outdated, Bool.or_eq_true, bne_iff_ne, ne_eq, not_or, not_not] at same
        exact same.1.1.1.1.1

namespace RibIn

variable {ribIn : RibIn Device} {sender : Device} {wanted : OrderedMap Prefix (BgpRoute Device)}

theorem lookup_withdraw (key : Device × Prefix) : (ribIn.withdraw sender wanted).lookup key =
      if key.1 = sender → key.2 ∈ wanted.keys then ribIn.lookup key else none := by
  unfold withdraw
  rw [lookup_filter]
  cases ribIn.lookup key with
  | none => simp
  | some route => simp only [Option.filter, decide_eq_true_eq]

theorem lookup_update (entry : Prefix × BgpRoute Device) (key : Device × Prefix) :
    (update sender ribIn entry).lookup key =
      if key = (sender, entry.1) then some (mergeRoute (ribIn.lookup key) entry.2)
      else ribIn.lookup key := by
  unfold update
  cases held : ribIn.lookup (sender, entry.1) with
  | none =>
    dsimp only
    rw [lookup_insert]
    split
    case isTrue here =>
        rw [here, held]
        rfl
    case isFalse => rfl
  | some current =>
    dsimp only
    split
    case isTrue outdated =>
        rw [lookup_insert]
        split
        case isTrue here =>
            rw [here, held]
            simp [mergeRoute, outdated]
        case isFalse => rfl
    case isFalse same =>
        split
        case isTrue here =>
            rw [here, held]
            simp [mergeRoute, same]
        case isFalse => rfl

theorem lookup_foldl_update (entries : List (Prefix × BgpRoute Device)) (ribIn : RibIn Device)
    (distinct : (entries.map Prod.fst).Nodup) (key : Device × Prefix) :
    (entries.foldl (update sender) ribIn).lookup key = if key.1 = sender then
        match OrderedMap.lookupEntries entries key.2 with
        | none => ribIn.lookup key
        | some route => some (mergeRoute (ribIn.lookup key) route)
      else ribIn.lookup key := by
  induction entries generalizing ribIn with
  | nil => simp [OrderedMap.lookupEntries]
  | cons entry rest ih =>
    obtain ⟨fresh, restDistinct⟩ := nodup_cons.mp distinct
    rw [foldl_cons, ih _ restDistinct, lookup_update]
    obtain ⟨from_, destination⟩ := key
    by_cases own : from_ = sender
    · subst own
      by_cases here : entry.1 = destination
      · subst here
        have absent : OrderedMap.lookupEntries rest entry.1 = none := by
          cases found : OrderedMap.lookupEntries rest entry.1 with
          | none => rfl
          | some route =>
            have member := mem_entries_iff
              |>.mpr (show (⟨rest, restDistinct⟩ : OrderedMap _ _).lookup entry.1 = _ from found)
            exact absurd (mem_map.mpr ⟨_, member, rfl⟩) fresh
        simp [OrderedMap.lookupEntries, absent]
      · simp [OrderedMap.lookupEntries, here, Ne.symm here]
    · simp [own]

/-- After synchronizing, a table holds from the sender exactly the wanted routes, and
from everyone else what it held before. -/
theorem lookup_synchronize (key : Device × Prefix) : (ribIn.synchronize sender wanted).lookup key =
      if key.1 = sender then
        (wanted.lookup key.2).map fun route => mergeRoute (ribIn.lookup key) route
      else ribIn.lookup key := by
  unfold synchronize
  rw [lookup_foldl_update _ _ wanted.distinct, lookup_withdraw]
  by_cases own : key.1 = sender
  · rw [if_pos own, if_pos own]
    change (match wanted.lookup key.2 with
      | none => _
      | some route => _) = _
    cases found : wanted.lookup key.2 with
    | none => simp [own, lookup_eq_none_iff.mp found]
    | some route =>
      have member : key.2 ∈ wanted.keys := mem_keys_iff.mpr ⟨route, found⟩
      simp [member]
  · simp [own]

omit [DecidableEq Device] in
/-- Steps that leave a state alone leave it alone together. -/
theorem foldl_eq_self {State Step : Type} {apply : State → Step → State} {state : State}
    {steps : List Step} (unchanged : ∀ step ∈ steps, apply state step = state) :
    steps.foldl apply state = state := by
  induction steps with
  | nil => rfl
  | cons step rest ih =>
    rw [foldl_cons, unchanged step (mem_cons_self ..)]
    exact ih fun other member => unchanged other (mem_cons_of_mem _ member)

theorem synchronize_of_not_differs (quiet : ribIn.differs sender wanted = false) :
    ribIn.synchronize sender wanted = ribIn := by
  simp only [differs, Bool.or_eq_false_iff, any_eq_false, decide_eq_true_eq] at quiet
  obtain ⟨nothingGone, nothingNew⟩ := quiet
  have kept : ribIn.withdraw sender wanted = ribIn := by
    apply OrderedMap.ext
    refine filter_eq_self.mpr fun entry member => decide_eq_true fun own => ?_
    by_contra gone
    exact nothingGone entry.1 (mem_map.mpr ⟨entry, member, rfl⟩) ⟨own, gone⟩
  unfold synchronize
  rw [kept]
  have unchanged : ∀ entry ∈ wanted.entries, update sender ribIn entry = ribIn := by
    intro entry member
    have settled := nothingNew entry member
    unfold update
    cases held : ribIn.lookup (sender, entry.1) with
    | none => simp [held] at settled
    | some current =>
      rw [held] at settled
      dsimp only at settled ⊢
      rw [if_neg settled]
  exact foldl_eq_self unchanged

end RibIn

/-! ## Rounds -/

/-- A speaker with another table of received routes. -/
def BgpNode.withRibIn (node : BgpNode Device) (ribIn : RibIn Device) : BgpNode Device :=
  { node with ribIn := ribIn }

namespace BgpEngine

variable {filters : FilterEngine Device}

/-- What one session end contributes to the table of a receiver. -/
def absorb (filters : FilterEngine Device) (engine : BgpEngine Device) (receiver : Device)
    (ribIn : RibIn Device) (hop : Device × Device) : RibIn Device :=
  match engine.session hop.1 hop.2 with
  | none => ribIn
  | some session =>
    if session.state = .established ∧ hop.2 = receiver then
      ribIn.synchronize hop.1 (engine.wantedFrom filters hop.1 hop.2 session)
    else ribIn

/-- `current` differs from `engine` in the tables of received routes only, and these
are the given ones. -/
def HasRibs (engine current : BgpEngine Device) (ribs : Device → RibIn Device) : Prop :=
  ∀ device, current.nodes.lookup device =
    (engine.nodes.lookup device).map fun node => node.withRibIn (ribs device)

section

variable {engine current : BgpEngine Device} {ribs : Device → RibIn Device}
  (has : HasRibs engine current ribs)
include has

theorem HasRibs.node (device : Device) :
    ∃ ribIn, current.node device = (engine.node device).withRibIn ribIn := by
  unfold BgpEngine.node
  rw [has device]
  cases engine.nodes.lookup device with
  | none => exact ⟨.empty, rfl⟩
  | some node => exact ⟨ribs device, rfl⟩

theorem HasRibs.session (device neighbor : Device) :
    current.session device neighbor = engine.session device neighbor := by
  obtain ⟨ribIn, same⟩ := has.node device
  unfold BgpEngine.session
  rw [same]
  rfl

/-- What is wanted does not depend on the tables of received routes. -/
theorem HasRibs.wantedFrom (device neighbor : Device) (session : BgpSession) :
    current.wantedFrom filters device neighbor session =
      engine.wantedFrom filters device neighbor session := by
  obtain ⟨sending, sendingSame⟩ := has.node device
  obtain ⟨receiving, receivingSame⟩ := has.node neighbor
  unfold BgpEngine.wantedFrom
  rw [sendingSame, receivingSame, has.session]
  rfl

end

/-- One delivery adds to the table of its receiver what its session end contributes. -/
theorem HasRibs.deliver {engine : BgpEngine Device} {progress : BgpEngine Device × Bool}
    {ribs : Device → RibIn Device} (has : HasRibs engine progress.1 ribs)
    (hop : Device × Device) :
    HasRibs engine (deliver filters progress hop).1 fun device =>
      absorb filters engine device (ribs device) hop := by
  intro device
  have here := has device
  have peer := has hop.2
  unfold BgpEngine.deliver absorb
  dsimp only
  rw [has.session, peer]
  cases engine.session hop.1 hop.2 with
  | none => simpa using here
  | some session =>
    cases found : engine.nodes.lookup hop.2 with
    | none =>
      have missing : session.state = .established ∧ hop.2 = device →
          engine.nodes.lookup device = none := fun both => both.2 ▸ found
      rw [Option.map_none]
      dsimp only
      rw [here]
      split
      case isTrue both => simp [missing both]
      case isFalse => rfl
    | some receiving =>
      rw [Option.map_some]
      dsimp only
      by_cases up : session.state = .established
      · rw [if_pos up]
        dsimp only
        rw [lookup_modify, here]
        by_cases own : device = hop.2
        · subst own
          rw [if_pos rfl, found, if_pos ⟨up, rfl⟩, has.wantedFrom]
          rfl
        · rw [if_neg own, if_neg fun both => own both.2.symm]
      · rw [if_neg up, if_neg fun both => up both.1, here]

/-- A round adds to each table what the session ends contribute, in their order. -/
theorem hasRibs_deliverAll (filters : FilterEngine Device) (engine : BgpEngine Device) :
    HasRibs engine (engine.deliverAll filters).1 fun device =>
      engine.sessionEnds.foldl (absorb filters engine device) (engine.node device).ribIn := by
  have folded : ∀ (hops : List (Device × Device)) (progress : BgpEngine Device × Bool)
      (ribs : Device → RibIn Device), HasRibs engine progress.1 ribs →
      HasRibs engine (hops.foldl (BgpEngine.deliver filters) progress).1 fun device =>
        hops.foldl (absorb filters engine device) (ribs device) := by
    intro hops
    induction hops with
    | nil => exact fun _ _ has => has
    | cons hop rest ih => exact fun progress ribs has => ih _ _ (has.deliver hop)
  refine folded engine.sessionEnds (engine, false) (fun device => (engine.node device).ribIn) ?_
  intro device
  unfold BgpEngine.node
  cases found : engine.nodes.lookup device with
  | none => simp [found]
  | some node => simp [found, BgpNode.withRibIn]

/-- A delivery that reports no change leaves everything as it was. -/
theorem deliver_of_quiet {progress : BgpEngine Device × Bool} {hop : Device × Device}
    (quiet : (deliver filters progress hop).2 = false) :
    (deliver filters progress hop).1 = progress.1 ∧ progress.2 = false := by
  revert quiet
  unfold BgpEngine.deliver
  dsimp only
  split
  case h_1 session receiving _ found =>
      split
      case isTrue =>
          intro quiet
          obtain ⟨before, same⟩ := Bool.or_eq_false_iff.mp quiet
          refine ⟨?_, before⟩
          dsimp only
          rw [modify_of_fixed]
          intro node held
          obtain rfl := Option.some.inj (found.symm.trans held)
          rw [RibIn.synchronize_of_not_differs same]
      case isFalse => exact fun quiet => ⟨rfl, quiet⟩
  case h_2 => exact fun quiet => ⟨rfl, quiet⟩

theorem deliverAll_of_quiet {engine : BgpEngine Device}
    (quiet : (engine.deliverAll filters).2 = false) :
    (engine.deliverAll filters).1 = engine ∧
      ∀ hop ∈ engine.sessionEnds, (deliver filters (engine, false) hop).2 = false := by
  have folded : ∀ (hops : List (Device × Device)) (progress : BgpEngine Device × Bool),
      (hops.foldl (BgpEngine.deliver filters) progress).2 = false →
      progress.2 = false ∧ (hops.foldl (BgpEngine.deliver filters) progress).1 = progress.1 ∧
        ∀ hop ∈ hops, (deliver filters (progress.1, false) hop).2 = false := by
    intro hops
    induction hops with
    | nil => exact fun progress still => ⟨still, rfl, fun _ member => (by cases member)⟩
    | cons hop rest ih =>
      intro progress still
      obtain ⟨afterHop, sameRest, quietRest⟩ := ih _ still
      obtain ⟨sameHop, before⟩ := deliver_of_quiet afterHop
      have start : progress = (progress.1, false) := Prod.ext rfl before
      refine ⟨before, sameRest.trans sameHop, fun other member => ?_⟩
      rcases mem_cons.mp member with rfl | later
      · rw [← start]
        exact afterHop
      · rw [← sameHop]
        exact quietRest other later
  exact ⟨(folded _ _ quiet).2.1, (folded _ _ quiet).2.2⟩

end BgpEngine

end NetLab.Bgp
