import NetLab.Library.OrderedMap
import Mathlib.Data.Finset.Card
import Mathlib.Logic.Relation
import Mathlib.Order.WellFoundedSet

/-!
# Track objects

A refresh reads interfaces and routes first and combines lists after that, each once, in the order in
which they were defined. A list that has a later list for a member combines what that one was before.
-/

namespace NetLab.Redundancy

open NetLab.Library List Option
open OrderedMap

variable {object : TrackObject}

inductive TrackState where
  | up
  | down
deriving DecidableEq

inductive BooleanOp where
  | and
  | or
deriving DecidableEq

inductive TrackDefinition where
  | interface (iface kind : String)
  | route (network : String) (prefixLength : Nat)
  | list (op : BooleanOp) (members : List Nat)
deriving DecidableEq

structure TrackObject where
  definition : TrackDefinition
  state : TrackState
deriving DecidableEq

def TrackObject.isList (object : TrackObject) : Bool :=
  match object.definition with
  | .list _ _ => true
  | _ => false

/-- Objects by their numbers, in the order in which they were defined. -/
abbrev TrackObjects := OrderedMap Nat TrackObject

structure InterfaceInfo where
  status : Option String
  ip : Option String
deriving DecidableEq

/-- What a refresh reads of a device: the interfaces whose links are down, the interfaces of its
state, if there is one, and its best routes. -/
structure TrackReadings where
  normIface : String → String
  downInterfaces : List String
  interfaces : Option (OrderedMap String InterfaceInfo)
  bestRoutes : List (String × Nat)

namespace TrackReadings

variable (readings : TrackReadings)

def adminDown (iface kind : String) : Bool :=
  if readings.normIface iface ∈ readings.downInterfaces.map readings.normIface then true
  else
    match readings.interfaces with
    | none => false
    | some interfaces =>
      match interfaces.lookup iface with
      | none => true
      | some info =>
        if info.status ∈ ["down", "administratively down", "notconnect", "disabled"].map some then
          true
        else kind = "ip routing" && info.ip.getD "" = ""

def reread (object : TrackObject) : TrackState :=
  match object.definition with
  | .interface iface kind => if readings.adminDown iface kind then .down else .up
  | .route network prefixLength =>
    if (network, prefixLength) ∈ readings.bestRoutes then .up else .down
  | .list _ _ => object.state

end TrackReadings

/-- Combine the states of members. A list without members is down. -/
def listState (op : BooleanOp) (states : List TrackState) : TrackState :=
  if states = [] then .down
  else
    match op with
    | .and => if states.all (· = .up) then .up else .down
    | .or => if states.any (· = .up) then .up else .down

namespace TrackObjects

def stateOf (objects : TrackObjects) (num : Nat) : Option TrackState :=
  (objects.lookup num).map TrackObject.state

def evaluate (objects : TrackObjects) (object : TrackObject) : TrackState :=
  match object.definition with
  | .list op members => listState op (members.filterMap objects.stateOf)
  | _ => object.state

def evaluateAt (objects : TrackObjects) (num : Nat) : TrackObjects :=
  objects.modify num fun object => { object with state := objects.evaluate object }

def rereadAll (objects : TrackObjects) (readings : TrackReadings) : TrackObjects :=
  objects.mapValues fun _ object => { object with state := readings.reread object }

/-- `refresh`. -/
def refresh (objects : TrackObjects) (readings : TrackReadings) : TrackObjects :=
  objects.keys.foldl evaluateAt (objects.rereadAll readings)

/-! ## What a refresh is for -/

/-- Each list has the and or the or of the states of its members. -/
def Consistent (objects : TrackObjects) : Prop :=
  ∀ num object, objects.lookup num = some object → object.state = objects.evaluate object

/-- After a refresh the lists are consistent, and a second one changes nothing. -/
structure Settles (objects : TrackObjects) (readings : TrackReadings) : Prop where
  consistent : (objects.refresh readings).Consistent
  stable : (objects.refresh readings).refresh readings = objects.refresh readings

def Refers (objects : TrackObjects) (member num : Nat) : Prop :=
  ∃ op members state, objects.lookup num = some ⟨.list op members, state⟩ ∧ member ∈ members

/-- No object is a member of itself, directly or through others. -/
def Acyclic (objects : TrackObjects) : Prop := ∀ num, ¬ Relation.TransGen objects.Refers num num

def given (objects : TrackObjects) (states : Nat → TrackState) (member : Nat) : Option TrackState :=
  (objects.lookup member).map fun _ => states member

def TrueStates (objects : TrackObjects) (readings : TrackReadings) (states : Nat → TrackState) :
    Prop :=
  ∀ num object, objects.lookup num = some object → states num = match object.definition with
      | .list op members => listState op (members.filterMap (objects.given states))
      | _ => readings.reread object

/-- Objects that were defined before another one. -/
def before (objects : TrackObjects) (num : Nat) : List Nat := objects.keys.takeWhile (· ≠ num)

/-- The state of a member as an object finds it: a list that was defined later still has the state
from before the refresh. -/
def found (objects : TrackObjects) (states : Nat → TrackState) (num member : Nat) :
    Option TrackState :=
  (objects.lookup member).map fun object =>
    if object.isList ∧ member ∉ objects.before num then object.state else states member

/-- Lists defined later that still have their states from before make no difference to a list that
has them for members. -/
def StaleHarmless (objects : TrackObjects) (readings : TrackReadings) : Prop :=
  ∃ states, objects.TrueStates readings states ∧
    ∀ num op members state, objects.lookup num = some ⟨.list op members, state⟩ →
      listState op (members.filterMap (objects.found states num)) = states num

/-! ## One pass over the objects -/

variable {objects : TrackObjects} {readings : TrackReadings} {num : Nat}

theorem lookup_evaluateAt (other : Nat) : (objects.evaluateAt num).lookup other =
    if other = num then
      (objects.lookup num).map fun object => { object with state := objects.evaluate object }
    else objects.lookup other := by
  rw [evaluateAt, lookup_modify]
  split
  · rename_i same
    rw [same]
  · rfl

theorem lookup_foldl_of_notMem {nums : List Nat} (missing : num ∉ nums) :
    (nums.foldl evaluateAt objects).lookup num = objects.lookup num := by
  induction nums generalizing objects with
  | nil => rfl
  | cons first rest ih =>
    obtain ⟨apart, missing⟩ := not_or.mp (mt mem_cons.mpr missing)
    rw [foldl_cons, ih missing, lookup_evaluateAt, if_neg apart]

theorem definition_foldl (nums : List Nat) :
    ((nums.foldl evaluateAt objects).lookup num).map TrackObject.definition =
      (objects.lookup num).map TrackObject.definition := by
  induction nums generalizing objects with
  | nil => rfl
  | cons first rest ih =>
    rw [foldl_cons, ih, lookup_evaluateAt]
    split
    · rename_i same
      rw [same, Option.map_map]
      rfl
    · rfl

theorem evaluate_of_read (read : object.isList = false) :
    objects.evaluate object = object.state := by
  obtain ⟨definition, state⟩ := object
  cases definition with
  | interface => rfl
  | route => rfl
  | list => cases read

theorem lookup_foldl_of_read {nums : List Nat} (present : objects.lookup num = some object)
    (read : object.isList = false) : (nums.foldl evaluateAt objects).lookup num = some object := by
  induction nums generalizing objects with
  | nil => exact present
  | cons first rest ih =>
    refine ih ?_
    rw [lookup_evaluateAt]
    split
    · rename_i same
      rw [← same, present, map_some, evaluate_of_read read]
    · exact present

theorem reread_of_isList (isList : object.isList = true) :
    readings.reread object = object.state := by
  obtain ⟨definition, state⟩ := object
  cases definition with
  | interface => cases isList
  | route => cases isList
  | list => rfl

def refreshed (objects : TrackObjects) (readings : TrackReadings) (num : Nat) : TrackState :=
  ((objects.refresh readings).stateOf num).getD .down

theorem lookup_rereadAll : (objects.rereadAll readings).lookup num =
    (objects.lookup num).map fun object => { object with state := readings.reread object } :=
  lookup_mapValues ..

theorem lookup_refresh : (objects.refresh readings).lookup num =
    (objects.lookup num).map fun object =>
      { object with state := objects.refreshed readings num } := by
  have kept : ((objects.keys.foldl evaluateAt (objects.rereadAll readings)).lookup num).map _ = _ :=
    definition_foldl objects.keys
  rw [lookup_rereadAll, Option.map_map] at kept
  unfold refreshed stateOf
  change ((objects.refresh readings).lookup num).map _ = _ at kept
  cases after : (objects.refresh readings).lookup num with
  | none =>
    cases present : objects.lookup num with
    | none => rfl
    | some object =>
      rw [after, present] at kept
      cases kept
  | some object =>
    cases present : objects.lookup num with
    | none =>
      rw [after, present] at kept
      cases kept
    | some old =>
      rw [after, present] at kept
      obtain ⟨definition, state⟩ := object
      have same : definition = old.definition := Option.some.inj kept
      rw [same]
      rfl

theorem keys_refresh : (objects.refresh readings).keys = objects.keys := by
  have kept : ∀ (nums : List Nat) (objects : TrackObjects),
      (nums.foldl evaluateAt objects).keys = objects.keys := by
    intro nums
    induction nums with
    | nil => exact fun _ => rfl
    | cons first rest ih => exact fun objects => (ih _).trans (keys_modify ..)
  exact (kept _ _).trans (keys_mapValues ..)

theorem stateOf_refresh : (objects.refresh readings).stateOf =
    objects.given (objects.refreshed readings) := by
  funext member
  rw [stateOf, lookup_refresh, Option.map_map]
  rfl

theorem refreshed_read (present : objects.lookup num = some object) (read : object.isList = false) :
    objects.refreshed readings num = readings.reread object := by
  have before : (objects.rereadAll readings).lookup num =
      some { object with state := readings.reread object } := by
    rw [lookup_rereadAll, present]
    rfl
  have after : (objects.refresh readings).lookup num =
      some { object with state := readings.reread object } := lookup_foldl_of_read before read
  rw [refreshed, stateOf, after]
  rfl

theorem mem_keys_of_lookup (present : objects.lookup num = some object) : num ∈ objects.keys :=
  mem_keys_iff.mpr ⟨object, present⟩

theorem before_of_keys {front back : List Nat} (split : objects.keys = front ++ num :: back) :
    objects.before num = front := by
  have distinct := split ▸ objects.keys_nodup
  have apart : ∀ other ∈ front, decide (other ≠ num) = true := by
    rintro other inside
    refine decide_eq_true fun same => ?_
    exact (nodup_append.mp distinct).2.2 other inside num mem_cons_self same
  rw [before, split, takeWhile_append_of_pos apart, takeWhile_cons_of_neg (by simp), append_nil]

theorem refreshed_list {op : BooleanOp} {members : List Nat} {state : TrackState}
    (present : objects.lookup num = some ⟨.list op members, state⟩) :
    objects.refreshed readings num =
      listState op (members.filterMap (objects.found (objects.refreshed readings) num)) := by
  obtain ⟨front, back, split⟩ := append_of_mem (mem_keys_of_lookup present)
  have distinct := split ▸ objects.keys_nodup
  have early : num ∉ front := fun inside =>
    (nodup_append.mp distinct).2.2 num inside num mem_cons_self rfl
  have late : num ∉ back := (nodup_cons.mp (nodup_append.mp distinct).2.1).1
  let mid := front.foldl evaluateAt (objects.rereadAll readings)
  have whole : objects.refresh readings = (num :: back).foldl evaluateAt mid := by
    rw [refresh, split, foldl_append]
  have here : mid.lookup num = some ⟨.list op members, state⟩ := by
    rw [lookup_foldl_of_notMem early, lookup_rereadAll, present]
    rfl
  have seen : mid.stateOf = objects.found (objects.refreshed readings) num := by
    funext member
    rw [found, before_of_keys split]
    by_cases inside : member ∈ front
    · have outside : member ∉ num :: back := fun again =>
        (nodup_append.mp distinct).2.2 member inside member again rfl
      have same : (objects.refresh readings).stateOf member = mid.stateOf member := by
        rw [stateOf, stateOf, whole, lookup_foldl_of_notMem outside]
      rw [← same, stateOf_refresh, given]
      simp [inside]
    · rw [stateOf, lookup_foldl_of_notMem inside, lookup_rereadAll, Option.map_map]
      refine map_congr fun object known => ?_
      cases kind : object.isList with
      | true =>
        simp only [inside, not_false_eq_true, and_self, if_true, Function.comp]
        exact reread_of_isList kind
      | false =>
        simp only [Bool.false_eq_true, false_and, if_false, Function.comp]
        exact (refreshed_read known kind).symm
  rw [refreshed, stateOf, whole, foldl_cons, lookup_foldl_of_notMem late, lookup_evaluateAt,
    if_pos rfl, here, ← seen]
  rfl

/-! ## What a refresh leaves -/

theorem consistent_refresh_iff : (objects.refresh readings).Consistent ↔
    objects.TrueStates readings (objects.refreshed readings) := by
  constructor
  · intro consistent num object present
    obtain ⟨definition, state⟩ := object
    have after := consistent num ⟨definition, objects.refreshed readings num⟩ (by
      rw [lookup_refresh, present]
      rfl)
    cases definition with
    | interface => exact refreshed_read present rfl
    | route => exact refreshed_read present rfl
    | list op members =>
      rw [evaluate, stateOf_refresh] at after
      exact after
  · intro isTrue num object present
    rw [lookup_refresh] at present
    obtain ⟨⟨definition, state⟩, known, rfl⟩ := map_eq_some_iff.mp present
    cases definition with
    | interface => rfl
    | route => rfl
    | list op members =>
      rw [evaluate, stateOf_refresh]
      exact isTrue num _ known

theorem refreshed_of_harmless {states : Nat → TrackState} (isTrue : objects.TrueStates readings states)
    (harmless : ∀ num op members state, objects.lookup num = some ⟨.list op members, state⟩ →
      listState op (members.filterMap (objects.found states num)) = states num) :
    ∀ num ∈ objects.keys, objects.refreshed readings num = states num := by
  -- along the order of the definitions, since a list finds the new states of the objects before it
  have along : ∀ front back, objects.keys = front ++ back → ∀ num ∈ front,
      objects.refreshed readings num = states num := by
    intro front
    induction front using List.reverseRecOn with
    | nil => exact fun _ _ num inside => absurd inside not_mem_nil
    | append_singleton front last ih =>
      intro back split num inside
      rw [append_assoc, singleton_append] at split
      rcases mem_append.mp inside with early | here
      · exact ih _ split num early
      obtain rfl := mem_singleton.mp here
      have present : num ∈ objects.keys := split ▸ mem_append_right _ mem_cons_self
      obtain ⟨⟨definition, state⟩, known⟩ := mem_keys_iff.mp present
      cases definition with
      | interface => exact (refreshed_read known rfl).trans (isTrue num _ known).symm
      | route => exact (refreshed_read known rfl).trans (isTrue num _ known).symm
      | list op members =>
        rw [refreshed_list known, ← harmless num op members state known]
        congr 1
        refine filterMap_congr fun member _ => ?_
        rw [found, found, before_of_keys split]
        refine map_congr fun object here => ?_
        by_cases early : member ∈ front
        · rw [if_neg (fun both => both.2 early), if_neg (fun both => both.2 early)]
          exact ih _ split member early
        · cases kind : object.isList with
          | true => simp [early]
          | false =>
            simp only [Bool.false_eq_true, false_and, if_false]
            rw [refreshed_read here kind, isTrue member object here]
            obtain ⟨definition, state⟩ := object
            cases definition with
            | interface => rfl
            | route => rfl
            | list => cases kind
  exact along objects.keys [] (append_nil _).symm

theorem settles_of_true (isTrue : objects.TrueStates readings (objects.refreshed readings)) :
    objects.Settles readings := by
  refine ⟨consistent_refresh_iff.mpr isTrue, ?_⟩
  have again : (objects.refresh readings).TrueStates readings (objects.refreshed readings) := by
    intro num object present
    rw [lookup_refresh] at present
    obtain ⟨⟨definition, state⟩, known, rfl⟩ := map_eq_some_iff.mp present
    have here := isTrue num _ known
    cases definition with
    | interface => exact here
    | route => exact here
    | list op members =>
      refine here.trans (congrArg (listState op) (filterMap_congr fun member _ => ?_))
      rw [given, given, lookup_refresh, Option.map_map]
      rfl
  have fixed := refreshed_of_harmless again fun num op members state present => by
    rw [again num _ present]
    refine congrArg (listState op) (filterMap_congr fun member _ => ?_)
    rw [given, found]
    refine map_congr fun object known => ?_
    split
    · rw [lookup_refresh] at known
      obtain ⟨before, -, rfl⟩ := map_eq_some_iff.mp known
      rfl
    · rfl
  refine ext_lookup keys_refresh fun num => ?_
  rw [lookup_refresh]
  cases present : (objects.refresh readings).lookup num with
  | none => rfl
  | some object =>
    rw [map_some, fixed num (mem_keys_of_lookup present)]
    rw [lookup_refresh] at present
    obtain ⟨before, -, rfl⟩ := map_eq_some_iff.mp present
    rfl

theorem settles_of_inOrder (inOrder : ∀ num op members state,
    objects.lookup num = some ⟨.list op members, state⟩ → ∀ member ∈ members,
      ∀ object, objects.lookup member = some object → object.isList = true →
        member ∈ objects.before num) : objects.Settles readings := by
  refine settles_of_true fun num object present => ?_
  obtain ⟨definition, state⟩ := object
  cases definition with
  | interface => exact refreshed_read present rfl
  | route => exact refreshed_read present rfl
  | list op members =>
    rw [refreshed_list present]
    refine congrArg (listState op) (filterMap_congr fun member inside => ?_)
    refine map_congr fun object known => ?_
    rw [if_neg]
    rintro ⟨isList, late⟩
    exact late (inOrder num op members state present member inside object known isList)

/-! ## Acyclic objects -/

theorem acc_of_unknown (unknown : num ∉ objects.keys) : Acc objects.Refers num :=
  ⟨_, fun _ ⟨_, _, _, present, _⟩ => absurd (mem_keys_of_lookup present) unknown⟩

theorem acc_refers (acyclic : objects.Acyclic) (num : Nat) : Acc objects.Refers num := by
  have : IsStrictOrder Nat (Relation.TransGen objects.Refers) :=
    { irrefl := acyclic, trans := fun _ _ _ => Relation.TransGen.trans }
  have wellFounded : (objects.keys.toFinset : Set Nat).WellFoundedOn
      (Relation.TransGen objects.Refers) := (Finset.finite_toSet _).wellFoundedOn
  have inside : ∀ num : (objects.keys.toFinset : Set Nat), Acc objects.Refers num := by
    refine fun num => WellFounded.induction
      (C := fun num : (objects.keys.toFinset : Set Nat) => Acc objects.Refers num) wellFounded num
      fun num ih => ⟨_, fun member refers => ?_⟩
    by_cases known : member ∈ objects.keys
    · exact ih ⟨member, by simpa using known⟩ (.single refers)
    · exact acc_of_unknown known
  refine ⟨_, fun member refers => ?_⟩
  by_cases known : member ∈ objects.keys
  · exact inside ⟨member, by simpa using known⟩
  · exact acc_of_unknown known

theorem trueStates_unique (acyclic : objects.Acyclic) {states states' : Nat → TrackState}
    (isTrue : objects.TrueStates readings states) (isTrue' : objects.TrueStates readings states') :
    ∀ num ∈ objects.keys, states num = states' num := by
  intro num
  induction acc_refers acyclic num with
  | intro num _ ih =>
    intro present
    obtain ⟨⟨definition, state⟩, known⟩ := mem_keys_iff.mp present
    rw [isTrue num _ known, isTrue' num _ known]
    cases definition with
    | interface => rfl
    | route => rfl
    | list op members =>
      refine congrArg (listState op) (filterMap_congr fun member inside => ?_)
      refine map_congr fun object here => ?_
      exact ih member ⟨op, members, state, known, inside⟩ (mem_keys_of_lookup here)

/-- After a refresh the lists are consistent, and a second one changes nothing, if and only if no
list comes out differently for lists defined later that it finds with the states from before. -/
theorem settles_iff (objects : TrackObjects) (readings : TrackReadings) :
    objects.Settles readings ↔ objects.StaleHarmless readings := by
  constructor
  · intro settles
    have isTrue := consistent_refresh_iff.mp settles.consistent
    exact ⟨_, isTrue, fun num op members state present => (refreshed_list present).symm⟩
  · rintro ⟨states, isTrue, harmless⟩
    have same := refreshed_of_harmless isTrue harmless
    refine settles_of_true fun num object present => ?_
    rw [same num (mem_keys_of_lookup present), isTrue num object present]
    obtain ⟨definition, state⟩ := object
    cases definition with
    | interface => rfl
    | route => rfl
    | list op members =>
      refine congrArg (listState op) (filterMap_congr fun member _ => ?_)
      refine map_congr fun object known => ?_
      exact (same member (mem_keys_of_lookup known)).symm

/-- A list that has a list for a member that was defined after it. -/
def outOfOrder : TrackObjects :=
  ⟨[(1, ⟨.list .and [2], .down⟩), (2, ⟨.list .and [3], .down⟩),
    (3, ⟨.interface "Gi0/1" "line-protocol", .up⟩)], by decide⟩

def allUp : TrackReadings := ⟨id, [], none, []⟩

/-- The first list stays down although its member comes up. -/
theorem outOfOrder_not_settled : outOfOrder.Acyclic ∧ ¬ outOfOrder.Settles allUp := by
  refine ⟨fun num cycle => ?_, fun settles => ?_⟩
  · have lower : ∀ member num, outOfOrder.Refers member num → num < member := by
      rintro member num ⟨op, members, state, present, inside⟩
      have found := mem_entries_iff.mpr present
      simp only [outOfOrder, mem_cons, Prod.mk.injEq, TrackObject.mk.injEq,
        TrackDefinition.list.injEq, not_mem_nil, or_false, reduceCtorEq, false_and,
        and_false] at found
      obtain ⟨rfl, ⟨-, rfl⟩, -⟩ | ⟨rfl, ⟨-, rfl⟩, -⟩ := found
      · rw [mem_singleton.mp inside]
        decide
      · rw [mem_singleton.mp inside]
        decide
    have descends : ∀ {member num}, Relation.TransGen outOfOrder.Refers member num →
        num < member := by
      intro member num path
      induction path with
      | single refers => exact lower _ _ refers
      | tail _ refers ih => exact Nat.lt_trans (lower _ _ refers) ih
    exact absurd (descends cycle) (Nat.lt_irrefl num)
  · exact absurd (settles.consistent 1 ⟨.list .and [2], .down⟩ (by decide)) (by decide)

end TrackObjects

end NetLab.Redundancy
