import Mathlib.Data.Int.CardIntervalMod
import NetLab.Bigip.VirtualServer

/-!
# Fair turns and counted connections

Round-robin gives every member its turns. The count of a member's connections is kept by the thread
of each connection, which takes its connection out again at its end or at an `OSError`; any other
exception ends the thread with the connection still counted.
-/

namespace NetLab.Bigip

open NetLab.Library NetLab.Execution Nat Connection List

/-- The members of consecutive selections. -/
def selections (healthy : HealthyMembers) : (number : Nat) → VirtualServerProxy → List Member
  | 0, _ => []
  | number + 1, proxy =>
    let (next, member) := proxy.balance .roundRobin healthy
    member :: selections healthy number next

inductive ServerEvent where
  | served (event : Event)
  /-- An exception other than `OSError` ends a thread. -/
  | raised (id : Nat)

/-- The thread of a connection is gone. -/
def Connection.drop (proxy : VirtualServerProxy) (connection : Connection) :
    VirtualServerProxy × Connection :=
  (proxy, { connection with phase := .finished })

def World.serve (world : World) : ServerEvent → World
  | .served event => world.handle event
  | .raised id => { world with threads := world.threads.step drop id }

/-- Every member's count is the number of its connections in flight. -/
def World.Accounted (world : World) : Prop :=
  ∀ member, world.proxy.activeOf member = world.threads.count (isCounted member) ∧
    0 ≤ world.proxy.activeOf member

/-- No exception but an `OSError` ends a thread whose connection is counted. -/
def World.EndsUncounted (world : World) : ServerEvent → Prop
  | .served _ => True
  | .raised id => ∀ connection ∈ world.threads.locals[id]?, ∀ member,
      connection.isCounted member = false

theorem accounted_iff {world : World} : world.Accounted ↔ world.CountsConnections :=
  ⟨fun accounted member => (accounted member).1, fun counts member =>
    ⟨counts member, (counts member).symm ▸ Int.natCast_nonneg _⟩⟩

theorem accounted_serve_iff (world : World) (event : ServerEvent) (accounted : world.Accounted) :
    (world.serve event).Accounted ↔ world.EndsUncounted event := by
  rw [accounted_iff] at accounted ⊢
  cases event with
  | served event => exact iff_of_true (accounted.handle event) trivial
  | raised id =>
    cases found : world.threads.locals[id]? with
    | none =>
      have same : world.serve (.raised id) = world := by
        rw [World.serve, Threads.step_of_none found]
      rw [same]
      refine iff_of_true accounted ?_
      rw [World.EndsUncounted, found]
      rintro _ ⟨⟩
    | some connection =>
      have counted (member : Member) :=
        @Threads.count_step _ _ drop _ _ (isCounted member) _ found
      have kept : (world.serve (.raised id)).proxy = world.proxy := Threads.shared_step found
      simp only [World.EndsUncounted, found, Option.mem_def, Option.some.injEq, forall_eq']
      refine forall_congr' fun member => ?_
      have before := accounted member
      have moved := counted member
      have finished : (drop world.threads.shared connection).2.isCounted member = false :=
        rfl
      rw [finished] at moved
      rw [kept, before]
      change _ = ((world.threads.step drop id).count (isCounted member) : Int)
        ↔ _
      cases tested : connection.isCounted member <;> simp [tested] at moved ⊢ <;> omega

/-! ## Turns -/

theorem selections_eq (healthy : HealthyMembers) (number : Nat) (proxy : VirtualServerProxy) :
    selections healthy number proxy = (List.range number).map fun turn =>
      healthy.members.getD (((proxy.nextIndex healthy).toNat + turn) % healthy.members.length)
        ⟨"", 0⟩ := by
  induction number generalizing proxy with
  | zero => rfl
  | succ number ih =>
    have inside := proxy.nextIndex_lt healthy
    have positive : 0 ≤ proxy.nextIndex healthy := Int.emod_nonneg _ (by omega)
    have next : (VirtualServerProxy.nextIndex { proxy with rrIndex := proxy.nextIndex healthy }
        healthy).toNat = ((proxy.nextIndex healthy).toNat + 1) % healthy.members.length := by
      obtain ⟨index, same⟩ := Int.eq_ofNat_of_zero_le positive
      rw [VirtualServerProxy.nextIndex, same]
      exact congrArg Int.toNat (Int.natCast_emod (index + 1) _).symm
    rw [selections, range_succ_eq_map, map_cons, map_map]
    refine congrArg₂ List.cons ?_ ((ih _).trans (map_congr_left fun turn _ => ?_))
    · simp [mod_eq_of_lt inside, inside]
    · simp only [Function.comp_apply, next, mod_add_mod]
      congr 2
      omega

theorem turn_iff {size place : Nat} (inside : place < size) (start turn : Nat) :
    (start + turn) % size = place ↔ turn ≡ place + (size - start % size) [MOD size] := by
  have rest := mod_lt start (by omega : size > 0)
  have around : start + (size - start % size) ≡ 0 [MOD size] := by
    refine modEq_zero_iff_dvd.mpr ⟨start / size + 1, ?_⟩
    have := div_add_mod start size
    rw [mul_add]
    omega
  have moved : start + turn + (size - start % size) ≡ turn [MOD size] := by
    rw [add_right_comm]
    simpa using around.add_right turn
  constructor
  · intro here
    exact moved.symm.trans
      (Nat.ModEq.add_right _ (here.trans (mod_eq_of_lt inside).symm))
  · intro congruent
    have here : start + turn ≡ place [MOD size] :=
      Nat.ModEq.add_right_cancel' _ (moved.trans congruent)
    exact Eq.trans here (mod_eq_of_lt inside)

/-- Of consecutive turns, each place has its share. -/
theorem count_turns {size place : Nat} (inside : place < size) (start number : Nat) :
    ((List.range number).countP fun turn => (start + turn) % size = place) = number / size ∨
      ((List.range number).countP fun turn => (start + turn) % size = place) =
        (number + size - 1) / size := by
  have counts : ((List.range number).countP fun turn => (start + turn) % size = place) =
      number.count (· ≡ place + (size - start % size) [MOD size]) := by
    induction number with
    | zero => rfl
    | succ number ih =>
      rw [range_succ, countP_append, ih, count_succ]
      simp [turn_iff inside start number]
  have whole := div_add_mod number size
  have rest := mod_lt number (by omega : size > 0)
  rw [counts, count_modEq_card _ (by omega)]
  split
  · refine .inr (Nat.div_eq_of_lt_le ?_ ?_).symm <;>
      simp only [mul_comm _ size, mul_add, mul_one] <;> omega
  · exact .inl rfl

/-- Whatever the proxy did before, consecutive selections give every member its share. -/
theorem count_selections (healthy : HealthyMembers) (distinct : healthy.members.Nodup)
    (number : Nat) (proxy : VirtualServerProxy) {member : Member}
    (inside : member ∈ healthy.members) :
    (selections healthy number proxy).count member = number / healthy.members.length ∨
      (selections healthy number proxy).count member =
        (number + healthy.members.length - 1) / healthy.members.length := by
  obtain ⟨place, bound, rfl⟩ := getElem_of_mem inside
  rw [selections_eq, List.count, countP_map]
  have same (turn : Nat) : (healthy.members.getD (turn % healthy.members.length) ⟨"", 0⟩ ==
      healthy.members[place]) = decide (turn % healthy.members.length = place) := by
    have within := mod_lt turn (zero_lt_of_lt bound)
    rw [getD_eq_getElem?_getD, getElem?_eq_getElem within, Option.getD_some,
      Bool.eq_iff_iff, beq_iff_eq, decide_eq_true_iff, distinct.getElem_inj_iff]
  simp only [Function.comp_def, same]
  exact count_turns bound _ number

theorem count_two_members :
    let first : Member := ⟨"10.0.1.1", 80⟩
    let chosen := selections ⟨[first, ⟨"10.0.1.2", 80⟩], by decide⟩ 5 {}
    chosen.count first = 2 ∨ chosen.count first = 3 :=
  count_selections _ (by decide) 5 {} mem_cons_self

/-- The counts are those of the connections in flight throughout a run if and only if no exception
ends a thread whose connection is counted. -/
theorem accounted_throughout_iff (events : List ServerEvent) :
    Throughout World.serve World.Accounted World.initial events ↔
      Along World.serve World.EndsUncounted World.initial events :=
  throughout_iff_along (fun _ _ (_ : True) => trivial)
    (fun world event _ accounted => accounted_serve_iff world event accounted) trivial
    (accounted_iff.mpr countsConnections_initial) events

end NetLab.Bigip
