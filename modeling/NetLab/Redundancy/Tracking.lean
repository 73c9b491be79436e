import NetLab.Library.Execution
import NetLab.Library.OrderedMap
import Mathlib.Algebra.BigOperators.Group.Finset.Basic
import Mathlib.Algebra.Order.Sub.Basic

/-!
# Tracked objects of HSRP groups

A group lowers its priority by the decrements of the objects that are down. Downs, ups and removals
compute the priority anew from the base priority; a new start and a new decrement do not.
-/

namespace NetLab.Redundancy

open NetLab.Library NetLab.Execution Finset
open OrderedMap

variable {Device Iface : Type} [DecidableEq Device] [DecidableEq Iface]

/-- A group on one of its routers, with the priority of its hellos and what it tracks. -/
structure TrackingGroup (Iface : Type) where
  priority : Nat
  basePriority : Nat
  track : OrderedMap Iface Nat
  trackedDown : Finset Iface

namespace TrackingGroup

variable (group : TrackingGroup Iface) (iface : Iface)

/-- The decrement of an object. -/
def decrement : Nat := (group.track.lookup iface).getD 0

/-- What the objects that are counted as down take off. -/
def counted : Nat := ∑ iface ∈ group.trackedDown, group.decrement iface

/-- What the objects that are tracked and down take off. -/
def penalty (down : Finset Iface) : Nat :=
  ∑ iface ∈ group.track.keys.toFinset.filter (· ∈ down), group.decrement iface

/-- The priority as it is computed anew, at least zero. -/
def recount : TrackingGroup Iface := { group with priority := group.basePriority - group.counted }

def setTrack (decrement : Nat) : TrackingGroup Iface :=
  { group with track := group.track.insert iface decrement }

def removeTrack : TrackingGroup Iface :=
  let removed := { group with track := group.track.erase iface }
  if iface ∈ group.trackedDown then
    { removed with trackedDown := group.trackedDown.erase iface }.recount
  else removed

def trackDown : TrackingGroup Iface :=
  if iface ∉ group.track.keys ∨ iface ∈ group.trackedDown then group
  else { group with trackedDown := insert iface group.trackedDown }.recount

def trackUp : TrackingGroup Iface :=
  if iface ∉ group.track.keys ∨ iface ∉ group.trackedDown then group
  else { group with trackedDown := group.trackedDown.erase iface }.recount

def start (existing : Option (TrackingGroup Iface)) (priority : Nat) : TrackingGroup Iface where
  priority := priority
  basePriority := priority
  track := (existing.map TrackingGroup.track).getD .empty
  trackedDown := (existing.map TrackingGroup.trackedDown).getD ∅

end TrackingGroup

/-! ## Runs -/

/-- The groups of the devices, and the objects of each device that are down: the last event of such
an object was a down. -/
structure TrackingWorld (Device Iface : Type) where
  hsrp : Device → OrderedMap Nat (TrackingGroup Iface) := fun _ => .empty
  down : Device → Finset Iface := fun _ => ∅

inductive TrackingEvent (Device Iface : Type) where
  | hsrpStart (device : Device) (groupId priority : Nat)
  | setTrack (device : Device) (groupId : Nat) (iface : Iface) (decrement : Nat)
  | removeTrack (device : Device) (groupId : Nat) (iface : Iface)
  | trackDown (device : Device) (iface : Iface)
  | trackUp (device : Device) (iface : Iface)
deriving DecidableEq

namespace TrackingWorld

variable (world : TrackingWorld Device Iface)

def group (device : Device) (groupId : Nat) : Option (TrackingGroup Iface) :=
  (world.hsrp device).lookup groupId

def setGroups (device : Device) (groups : OrderedMap Nat (TrackingGroup Iface)) :
    TrackingWorld Device Iface :=
  { world with hsrp := Function.update world.hsrp device groups }

def step (world : TrackingWorld Device Iface) :
    TrackingEvent Device Iface → TrackingWorld Device Iface
  | .hsrpStart device groupId priority =>
    world.setGroups device ((world.hsrp device).insert groupId
      (.start (world.group device groupId) priority))
  | .setTrack device groupId iface decrement =>
    world.setGroups device
      ((world.hsrp device).modify groupId fun group => group.setTrack iface decrement)
  | .removeTrack device groupId iface =>
    world.setGroups device ((world.hsrp device).modify groupId fun group => group.removeTrack iface)
  | .trackDown device iface =>
    { world.setGroups device ((world.hsrp device).mapValues fun _ group => group.trackDown iface)
      with down := Function.update world.down device (insert iface (world.down device)) }
  | .trackUp device iface =>
    { world.setGroups device ((world.hsrp device).mapValues fun _ group => group.trackUp iface)
      with down := Function.update world.down device ((world.down device).erase iface) }

/-- The priority of each group is its base priority less the decrements of the objects that are
tracked and down, and at least zero. -/
def Exact : Prop :=
  ∀ device groupId group, world.group device groupId = some group →
    group.priority = group.basePriority - group.penalty (world.down device)

/-- No group is started again with an object down that lowers its new priority, and no object gets
another decrement while it is down. -/
def Recounted : TrackingEvent Device Iface → Prop
  | .hsrpStart device groupId priority => ∀ group ∈ world.group device groupId,
      priority - group.penalty (world.down device) = priority
  | .setTrack device groupId iface decrement => ∀ group ∈ world.group device groupId,
      iface ∈ world.down device → group.decrement iface = decrement
  | _ => True

end TrackingWorld

/-! ## One group -/

namespace TrackingGroup

variable {group : TrackingGroup Iface} {iface : Iface} {down : Finset Iface}

/-- A group counts the objects that are tracked and down, apart from those that take nothing off, and
has the priority that follows. -/
structure Sound (down : Finset Iface) (group : TrackingGroup Iface) : Prop where
  tracked : ∀ iface ∈ group.trackedDown, iface ∈ group.track.keys ∧ iface ∈ down
  counts : ∀ iface ∈ group.track.keys, iface ∈ down → iface ∉ group.trackedDown →
    group.decrement iface = 0
  priority : group.priority = group.basePriority - group.counted

theorem Sound.counted_eq (sound : group.Sound down) : group.counted = group.penalty down := by
  refine sum_subset (fun iface inside => ?_) fun iface inside uncounted => ?_
  · obtain ⟨tracked, isDown⟩ := sound.tracked iface inside
    exact mem_filter.mpr ⟨List.mem_toFinset.mpr tracked, isDown⟩
  · obtain ⟨tracked, isDown⟩ := mem_filter.mp inside
    exact sound.counts iface (List.mem_toFinset.mp tracked) isDown uncounted

theorem Sound.exact (sound : group.Sound down) :
    group.priority = group.basePriority - group.penalty down := by
  rw [sound.priority, sound.counted_eq]

theorem sound_start_none (priority : Nat) : (start none priority).Sound down where
  tracked := by simp [start]
  counts := fun iface tracked => absurd tracked (by simp [start, OrderedMap.keys, OrderedMap.empty])
  priority := by simp [start, counted]

/-- A new start keeps the priority right if the objects that are down do not lower the new one. -/
theorem Sound.start (sound : group.Sound down) {priority : Nat}
    (same : priority - group.penalty down = priority) : (start (some group) priority).Sound down where
  tracked := sound.tracked
  counts := sound.counts
  priority := by
    have kept : (TrackingGroup.start (some group) priority).counted = group.counted := rfl
    rw [kept, sound.counted_eq]
    exact same.symm

theorem decrement_setTrack (other : Iface) (decrement : Nat) :
    (group.setTrack iface decrement).decrement other =
      if other = iface then decrement else group.decrement other := by
  rw [TrackingGroup.decrement, setTrack, lookup_insert]
  split
  · rfl
  · rfl

theorem Sound.setTrack (sound : group.Sound down) {decrement : Nat}
    (same : iface ∈ down → group.decrement iface = decrement) :
    (group.setTrack iface decrement).Sound down := by
  have kept : ∀ other ∈ down, (group.setTrack iface decrement).decrement other =
      group.decrement other := by
    intro other isDown
    rw [decrement_setTrack]
    split
    · rename_i equal
      rw [equal, same (equal ▸ isDown)]
    · rfl
  refine ⟨fun other inside => ?_, fun other tracked isDown uncounted => ?_, ?_⟩
  · obtain ⟨tracked, isDown⟩ := sound.tracked other inside
    exact ⟨mem_keys_insert.mpr (.inr tracked), isDown⟩
  · rw [kept other isDown]
    by_cases known : other ∈ group.track.keys
    · exact sound.counts other known isDown uncounted
    · rw [TrackingGroup.decrement, lookup_eq_none_iff.mpr known]
      rfl
  · have same : (group.setTrack iface decrement).counted = group.counted :=
      sum_congr rfl fun other inside => kept other (sound.tracked other inside).2
    rw [same]
    exact sound.priority

theorem decrement_erase {other : Iface} (apart : other ≠ iface) :
    ({ group with track := group.track.erase iface } : TrackingGroup Iface).decrement other =
      group.decrement other := by
  rw [TrackingGroup.decrement, lookup_erase, if_neg apart]
  rfl

theorem mem_keys_erase {map : OrderedMap Iface Nat} {other : Iface} :
    other ∈ (map.erase iface).keys ↔ other ≠ iface ∧ other ∈ map.keys := by
  rw [mem_keys_iff, mem_keys_iff, lookup_erase]
  by_cases same : other = iface
  · simp [same]
  · simp [same]

theorem Sound.removeTrack (sound : group.Sound down) : (group.removeTrack iface).Sound down := by
  unfold TrackingGroup.removeTrack
  by_cases inside : iface ∈ group.trackedDown
  · rw [if_pos inside]
    refine ⟨fun other counted => ?_, fun other tracked isDown uncounted => ?_, rfl⟩
    · obtain ⟨apart, counted⟩ := mem_erase.mp counted
      obtain ⟨tracked, isDown⟩ := sound.tracked other counted
      exact ⟨mem_keys_erase.mpr ⟨apart, tracked⟩, isDown⟩
    · obtain ⟨apart, tracked⟩ := mem_keys_erase.mp tracked
      have uncounted : other ∉ group.trackedDown := fun counted =>
        uncounted (mem_erase.mpr ⟨apart, counted⟩)
      exact (decrement_erase apart).trans (sound.counts other tracked isDown uncounted)
  · rw [if_neg inside]
    refine ⟨fun other counted => ?_, fun other tracked isDown uncounted => ?_, ?_⟩
    · obtain ⟨tracked, isDown⟩ := sound.tracked other counted
      exact ⟨mem_keys_erase.mpr ⟨fun same => inside (same ▸ counted), tracked⟩, isDown⟩
    · obtain ⟨apart, tracked⟩ := mem_keys_erase.mp tracked
      exact (decrement_erase apart).trans (sound.counts other tracked isDown uncounted)
    · have same : ({ group with track := group.track.erase iface } : TrackingGroup Iface).counted =
          group.counted :=
        sum_congr rfl fun other counted =>
          decrement_erase fun same => inside (same ▸ counted)
      rw [same]
      exact sound.priority

theorem Sound.trackDown (sound : group.Sound down) :
    (group.trackDown iface).Sound (insert iface down) := by
  unfold TrackingGroup.trackDown
  by_cases skipped : iface ∉ group.track.keys ∨ iface ∈ group.trackedDown
  · rw [if_pos skipped]
    refine ⟨fun other counted => ?_, fun other tracked isDown uncounted => ?_, sound.priority⟩
    · obtain ⟨tracked, isDown⟩ := sound.tracked other counted
      exact ⟨tracked, mem_insert_of_mem isDown⟩
    · have apart : other ≠ iface := by
        rintro rfl
        exact skipped.elim (fun unknown => unknown tracked) uncounted
      exact sound.counts other tracked (mem_of_mem_insert_of_ne isDown apart) uncounted
  · obtain ⟨tracked, -⟩ := not_or.mp skipped
    rw [if_neg skipped]
    refine ⟨fun other counted => ?_, fun other tracked isDown uncounted => ?_, rfl⟩
    · rcases mem_insert.mp counted with rfl | counted
      · exact ⟨not_not.mp tracked, mem_insert_self _ _⟩
      · obtain ⟨tracked, isDown⟩ := sound.tracked other counted
        exact ⟨tracked, mem_insert_of_mem isDown⟩
    · obtain ⟨apart, uncounted⟩ := not_or.mp (mt mem_insert.mpr uncounted)
      exact sound.counts other tracked (mem_of_mem_insert_of_ne isDown apart) uncounted

theorem Sound.trackUp (sound : group.Sound down) :
    (group.trackUp iface).Sound (down.erase iface) := by
  unfold TrackingGroup.trackUp
  by_cases skipped : iface ∉ group.track.keys ∨ iface ∉ group.trackedDown
  · rw [if_pos skipped]
    refine ⟨fun other counted => ?_, fun other tracked isDown uncounted => ?_, sound.priority⟩
    · obtain ⟨tracked, isDown⟩ := sound.tracked other counted
      have apart : other ≠ iface := by
        rintro rfl
        exact skipped.elim (fun unknown => unknown tracked) fun uncounted => uncounted counted
      exact ⟨tracked, mem_erase.mpr ⟨apart, isDown⟩⟩
    · exact sound.counts other tracked (mem_of_mem_erase isDown) uncounted
  · rw [if_neg skipped]
    refine ⟨fun other counted => ?_, fun other tracked isDown uncounted => ?_, rfl⟩
    · obtain ⟨apart, counted⟩ := mem_erase.mp counted
      obtain ⟨tracked, isDown⟩ := sound.tracked other counted
      exact ⟨tracked, mem_erase.mpr ⟨apart, isDown⟩⟩
    · obtain ⟨apart, isDown⟩ := mem_erase.mp isDown
      have uncounted : other ∉ group.trackedDown := fun counted =>
        uncounted (mem_erase.mpr ⟨apart, counted⟩)
      exact sound.counts other tracked isDown uncounted

end TrackingGroup

/-! ## All groups -/

namespace TrackingWorld

variable {world : TrackingWorld Device Iface}

def Sound (world : TrackingWorld Device Iface) : Prop :=
  ∀ device groupId group, world.group device groupId = some group → group.Sound (world.down device)

omit [DecidableEq Device] in
theorem Sound.exact (sound : world.Sound) : world.Exact :=
  fun device groupId group found => (sound device groupId group found).exact

theorem sound_update (sound : world.Sound) (device : Device)
    {groups : OrderedMap Nat (TrackingGroup Iface)} {down : Finset Iface}
    (replaced : ∀ groupId group, groups.lookup groupId = some group → group.Sound down) :
    Sound { hsrp := Function.update world.hsrp device groups
            down := Function.update world.down device down } := by
  intro other groupId group found
  by_cases same : other = device
  · subst same
    simp only [TrackingWorld.group, Function.update_self] at found ⊢
    exact replaced groupId group found
  · simp only [TrackingWorld.group, Function.update_of_ne same] at found ⊢
    exact sound other groupId group found

theorem sound_setGroups (sound : world.Sound) {device : Device}
    {groups : OrderedMap Nat (TrackingGroup Iface)}
    (replaced : ∀ groupId group, groups.lookup groupId = some group →
      group.Sound (world.down device)) : (world.setGroups device groups).Sound := by
  have kept := sound_update sound device replaced
  rw [Function.update_eq_self] at kept
  exact kept

theorem sound_modify (sound : world.Sound) {device : Device} {groupId : Nat}
    {change : TrackingGroup Iface → TrackingGroup Iface}
    (changed : ∀ group ∈ world.group device groupId, (change group).Sound (world.down device)) :
    (world.setGroups device ((world.hsrp device).modify groupId change)).Sound := by
  refine sound_setGroups sound fun other group found => ?_
  rw [lookup_modify] at found
  split at found
  · obtain ⟨before, present, rfl⟩ := Option.map_eq_some_iff.mp found
    rename_i same
    exact changed before (same ▸ present)
  · exact sound device other group found

theorem Sound.step (sound : world.Sound) (event : TrackingEvent Device Iface)
    (recounted : world.Recounted event) : (world.step event).Sound := by
  cases event with
  | hsrpStart device groupId priority =>
    refine sound_setGroups sound fun other group found => ?_
    rw [lookup_insert] at found
    split at found
    · obtain rfl := Option.some.inj found
      cases present : world.group device groupId with
      | none => exact TrackingGroup.sound_start_none priority
      | some existing =>
        exact (sound device groupId existing present).start (recounted existing present)
    · exact sound device other group found
  | setTrack device groupId iface decrement =>
    exact sound_modify sound fun group present =>
      (sound device groupId group present).setTrack (recounted group present)
  | removeTrack device groupId iface =>
    exact sound_modify sound fun group present => (sound device groupId group present).removeTrack
  | trackDown device iface =>
    refine sound_update sound device fun groupId group found => ?_
    rw [lookup_mapValues] at found
    obtain ⟨before, present, rfl⟩ := Option.map_eq_some_iff.mp found
    exact (sound device groupId before present).trackDown
  | trackUp device iface =>
    refine sound_update sound device fun groupId group found => ?_
    rw [lookup_mapValues] at found
    obtain ⟨before, present, rfl⟩ := Option.map_eq_some_iff.mp found
    exact (sound device groupId before present).trackUp

/-- Along a run in which no group is started again and no object gets another decrement while an
object that counts is down, the priority of every group is right all the time. -/
theorem exact_throughout (events : List (TrackingEvent Device Iface))
    (recounted : Along step Recounted ({} : TrackingWorld Device Iface) events) :
    Throughout step Exact ({} : TrackingWorld Device Iface) events := by
  have start : ({} : TrackingWorld Device Iface).Sound := fun _ _ _ found => nomatch found
  have preserved : ∀ (world : TrackingWorld Device Iface) event, world.Sound →
      world.Recounted event → (world.step event).Sound :=
    fun _ event sound allowed => sound.step event allowed
  exact (throughout_of_along preserved start recounted).weaken fun _ sound => sound.exact

instance (event : TrackingEvent Device Iface) : Decidable (world.Recounted event) :=
  match event with
  | .hsrpStart device groupId priority =>
    inferInstanceAs (Decidable (∀ group ∈ world.group device groupId,
      priority - group.penalty (world.down device) = priority))
  | .setTrack device groupId iface decrement =>
    inferInstanceAs (Decidable (∀ group ∈ world.group device groupId,
      iface ∈ world.down device → group.decrement iface = decrement))
  | .removeTrack .. | .trackDown .. | .trackUp .. => isTrue trivial

/-- Two objects of a group go down and come back, and one of them is removed in between. -/
def twoObjects : List (TrackingEvent Unit String) :=
  [.hsrpStart () 1 110, .setTrack () 1 "Gi0/1" 20, .setTrack () 1 "Gi0/2" 100,
    .trackDown () "Gi0/1", .trackDown () "Gi0/2", .removeTrack () 1 "Gi0/2", .trackUp () "Gi0/1",
    .hsrpStart () 1 120]

theorem twoObjects_exact : Throughout step Exact ({} : TrackingWorld Unit String) twoObjects :=
  exact_throughout twoObjects (by decide +kernel)

/-- An object that a group tracks goes down. -/
def goesDown : List (TrackingEvent Unit String) :=
  [.hsrpStart () 1 110, .setTrack () 1 "Gi0/1" 20, .trackDown () "Gi0/1"]

/-- A new start forgets the object that is down, and a new decrement does not count yet. -/
theorem restart_and_decrement_not_exact :
    ¬ Throughout step Exact ({} : TrackingWorld Unit String) (goesDown ++ [.hsrpStart () 1 110]) ∧
      ¬ Throughout step Exact ({} : TrackingWorld Unit String)
        (goesDown ++ [.setTrack () 1 "Gi0/1" 30]) := by
  refine ⟨fun exact => ?_, fun exact => ?_⟩
  · exact absurd (exact.finish () 1 _ rfl) (by decide +kernel)
  · exact absurd (exact.finish () 1 _ rfl) (by decide +kernel)

end TrackingWorld

end NetLab.Redundancy
