import NetLab.Library.Execution
import Mathlib.Algebra.Order.Field.Rat
import Mathlib.Algebra.Order.Field.Basic
import Mathlib.Algebra.Order.Ring.Rat
import Mathlib.Data.List.TakeWhile
import Mathlib.Tactic.Linarith

/-!
# Detection of scans

A firewall counts the connection attempts of each address in two windows, and refuses an address
that reaches a rate. Attempts are forgotten on the way; `agrees_throughout` says when the answers are
those of the definition, which counts all of them.
-/

namespace NetLab.Access

open NetLab.Execution List

/-- Addresses and networks, as the library for them reads texts. -/
structure IpTexts where
  Address : Type
  Network : Type
  address : String → Option Address
  network : String → Option Network
  contains : Network → Address → Bool

structure DetectionConfig where
  enabled : Bool := false
  shun : Bool := false
  shunDuration : Nat := 3600
  shunExcept : List (String × String) := []
  rateInterval : Nat := 600
  averageRate : Nat := 5
  burstRate : Nat := 10

/-- The attempts on record, and when addresses were shunned. -/
structure DetectionEngine where
  attempts : String → List ℚ := fun _ => []
  shunned : String → Option ℚ := fun _ => none

def burstInterval (rateInterval : Nat) : Nat := max 10 (rateInterval / 30)

/-- Networks that cannot be read except nothing. -/
def isExcepted (texts : IpTexts) (src : String) (except : List (String × String)) : Bool :=
  match texts.address src with
  | none => false
  | some address => except.any fun entry =>
    match texts.network (entry.1 ++ "/" ++ entry.2) with
    | some network => texts.contains network address
    | none => false

/-- Attempts in a window. -/
def countSince (times : List ℚ) (now : ℚ) (interval : Nat) : Nat :=
  times.countP fun time => decide (now - interval ≤ time)

def rate (times : List ℚ) (now : ℚ) (interval : Nat) : ℚ :=
  if interval = 0 then 0 else countSince times now interval / interval

namespace DetectionEngine

/-- A shun that has run out is removed. -/
def isShunned (engine : DetectionEngine) (src : String) (now : ℚ) (cfg : DetectionConfig) :
    DetectionEngine × Bool :=
  match engine.shunned src with
  | none => (engine, false)
  | some since =>
    if now - since > cfg.shunDuration then
      ({ engine with shunned := Function.update engine.shunned src none }, false)
    else (engine, true)

/-- Whether a connection is refused. -/
def recordConnectionAttempt (texts : IpTexts) (engine : DetectionEngine) (src : String) (now : ℚ)
    (cfg : DetectionConfig) : DetectionEngine × Bool :=
  if !cfg.enabled then (engine, false)
  else
    let times := (engine.attempts src ++ [now]).dropWhile (· < now - cfg.rateInterval)
    let recorded := { engine with attempts := Function.update engine.attempts src times }
    let (checked, shunned) := recorded.isShunned src now cfg
    if shunned then (checked, true)
    else if isExcepted texts src cfg.shunExcept then (checked, false)
    else if cfg.shun ∧ (cfg.averageRate ≤ rate times now cfg.rateInterval ∨
        cfg.burstRate ≤ rate times now (burstInterval cfg.rateInterval)) then
      ({ checked with shunned := Function.update checked.shunned src (some now) }, true)
    else (checked, false)

def clearShun (engine : DetectionEngine) : Option String → DetectionEngine
  | none => { engine with shunned := fun _ => none }
  | some src => { engine with shunned := Function.update engine.shunned src none }

end DetectionEngine

/-! ## The definition -/

/-- All attempts that were made while the detection was on, and when addresses were shunned. -/
structure Detection where
  history : String → List ℚ := fun _ => []
  shunned : String → Option ℚ := fun _ => none

namespace Detection

/-- The attempts in one of the windows reach its rate. -/
def Reaches (cfg : DetectionConfig) (times : List ℚ) (now : ℚ) : Prop :=
  cfg.averageRate * cfg.rateInterval ≤ countSince times now cfg.rateInterval ∨
    cfg.burstRate * burstInterval cfg.rateInterval ≤
      countSince times now (burstInterval cfg.rateInterval)

instance (cfg : DetectionConfig) (times : List ℚ) (now : ℚ) : Decidable (Reaches cfg times now) :=
  inferInstanceAs (Decidable (_ ∨ _))

/-- The address was shunned, and that has not run out. -/
def InForce (detection : Detection) (cfg : DetectionConfig) (src : String) (now : ℚ) : Prop :=
  ∃ since ∈ detection.shunned src, now - since ≤ cfg.shunDuration

/-- The address is to be shunned with this attempt. -/
def Offends (texts : IpTexts) (detection : Detection) (cfg : DetectionConfig) (src : String)
    (now : ℚ) : Prop :=
  isExcepted texts src cfg.shunExcept = false ∧ cfg.shun = true ∧
    Reaches cfg (detection.history src ++ [now]) now

open Classical in
noncomputable def attempt (texts : IpTexts) (detection : Detection) (cfg : DetectionConfig)
    (src : String) (now : ℚ) : Detection × Prop :=
  if cfg.enabled = false then (detection, False)
  else
    ({ history := Function.update detection.history src (detection.history src ++ [now])
       shunned :=
        if detection.InForce cfg src now then detection.shunned
        else Function.update detection.shunned src
          (if detection.Offends texts cfg src now then some now else none) },
      detection.InForce cfg src now ∨ detection.Offends texts cfg src now)

def clearShun (detection : Detection) : Option String → Detection
  | none => { detection with shunned := fun _ => none }
  | some src => { detection with shunned := Function.update detection.shunned src none }

end Detection

/-! ## Runs -/

/-- Attempts tell whether the login that followed failed, which nothing reads. -/
inductive DetectionEvent where
  | configure (cfg : DetectionConfig)
  | attempt (src : String) (now : ℚ) (failed : Bool)
  | clear (src : Option String)

/-- A firewall, and the definition beside it. -/
structure Firewall where
  cfg : DetectionConfig := {}
  engine : DetectionEngine := {}
  detection : Detection := {}

namespace Firewall

variable (texts : IpTexts)

noncomputable def step (firewall : Firewall) : DetectionEvent → Firewall
  | .configure cfg => { firewall with cfg := cfg }
  | .attempt src now _ =>
    { firewall with
      engine := (firewall.engine.recordConnectionAttempt texts src now firewall.cfg).1
      detection := (firewall.detection.attempt texts firewall.cfg src now).1 }
  | .clear src =>
    { firewall with
      engine := firewall.engine.clearShun src
      detection := firewall.detection.clearShun src }

/-- Attempts come in order, the rate interval is not less than the shortest burst interval, and it
grows only while there are no attempts on record. -/
def Timely (firewall : Firewall) : DetectionEvent → Prop
  | .configure cfg => 10 ≤ cfg.rateInterval ∧
    (cfg.rateInterval ≤ firewall.cfg.rateInterval ∨ ∀ src, firewall.detection.history src = [])
  | .attempt src now _ => ∀ time ∈ firewall.detection.history src, time ≤ now
  | .clear _ => True

/-- The attempt is refused if and only if it is by the definition. -/
def Agrees (firewall : Firewall) : DetectionEvent → Prop
  | .attempt src now _ =>
    (firewall.engine.recordConnectionAttempt texts src now firewall.cfg).2 = true ↔
      (firewall.detection.attempt texts firewall.cfg src now).2
  | _ => True

/-- Attempts that are not on record are too old for any window to come. -/
structure Refines (firewall : Firewall) : Prop where
  attempts : ∀ src, ∃ gone, firewall.detection.history src = gone ++ firewall.engine.attempts src ∧
      ∀ time ∈ gone, ∃ later ∈ firewall.detection.history src,
        time < later - firewall.cfg.rateInterval
  shunned : firewall.engine.shunned = firewall.detection.shunned
  wide : 10 ≤ firewall.cfg.rateInterval

end Firewall

theorem burstInterval_le {rateInterval : Nat} (wide : 10 ≤ rateInterval) :
    burstInterval rateInterval ≤ rateInterval := by
  unfold burstInterval
  omega

theorem countSince_append {gone : List ℚ} (kept : List ℚ) {now : ℚ} {interval wider : Nat}
    (narrow : interval ≤ wider) (old : ∀ time ∈ gone, time < now - wider) :
    countSince (gone ++ kept) now interval = countSince kept now interval := by
  have none : gone.countP (fun time => decide (now - interval ≤ time)) = 0 := by
    refine countP_eq_zero.mpr fun time inside => ?_
    have before := old time inside
    have widths : (interval : ℚ) ≤ wider := by exact_mod_cast narrow
    simp only [decide_eq_true_eq, not_le]
    linarith
  rw [countSince, countP_append, none, Nat.zero_add, countSince]

theorem le_rate_iff (threshold : Nat) (times : List ℚ) (now : ℚ) {interval : Nat}
    (some : 0 < interval) :
    (threshold : ℚ) ≤ rate times now interval ↔ threshold * interval ≤ countSince times now interval := by
  have positive : (0 : ℚ) < interval := by exact_mod_cast some
  rw [rate, if_neg (by omega), le_div_iff₀ positive]
  exact_mod_cast Iff.rfl

namespace DetectionEngine

variable (engine : DetectionEngine) (src : String) (now : ℚ) {cfg : DetectionConfig}

open Classical in
theorem isShunned_spec {inForce : Prop}
    (shunned : inForce ↔ ∃ since ∈ engine.shunned src, now - since ≤ cfg.shunDuration) :
    engine.isShunned src now cfg = (⟨engine.attempts, if inForce then engine.shunned
        else Function.update engine.shunned src none⟩, decide inForce) := by
  unfold isShunned
  cases held : engine.shunned src with
  | none =>
    have free : ¬ inForce := by simpa [held] using shunned
    have same : Function.update engine.shunned src none = engine.shunned := by
      rw [← held, Function.update_eq_self]
    simp [free, same]
  | some since =>
    have still : inForce ↔ now - since ≤ cfg.shunDuration := by simpa [held] using shunned
    dsimp only
    split
    · have free : ¬ inForce := mt still.mp (by linarith)
      simp [free]
    · have holds : inForce := still.mpr (by linarith)
      simp [holds]

open Classical in
theorem record_spec (texts : IpTexts) (enabled : cfg.enabled = true) {times : List ℚ}
    (left : (engine.attempts src ++ [now]).dropWhile (· < now - cfg.rateInterval) = times)
    {inForce offends : Prop}
    (shunned : inForce ↔ ∃ since ∈ engine.shunned src, now - since ≤ cfg.shunDuration)
    (reaches : offends ↔ isExcepted texts src cfg.shunExcept = false ∧ cfg.shun = true ∧
      (cfg.averageRate ≤ rate times now cfg.rateInterval ∨
        cfg.burstRate ≤ rate times now (burstInterval cfg.rateInterval))) :
    engine.recordConnectionAttempt texts src now cfg = (⟨Function.update engine.attempts src times,
        if inForce then engine.shunned
        else Function.update engine.shunned src (if offends then some now else none)⟩,
        decide (inForce ∨ offends)) := by
  have checked := isShunned_spec
    ⟨Function.update engine.attempts src times, engine.shunned⟩ src now shunned
  rw [recordConnectionAttempt, enabled, left]
  simp only [Bool.not_true, Bool.false_eq_true, if_false, checked]
  by_cases held : inForce
  · simp [held]
  · simp only [held, decide_false, if_false, false_or, Bool.false_eq_true]
    by_cases excepted : isExcepted texts src cfg.shunExcept = true
    · have quiet : ¬ offends := fun offence => by simp [excepted] at reaches; exact reaches offence
      simp [excepted, quiet]
    · rw [Bool.not_eq_true] at excepted
      rw [excepted, eq_self_iff_true, true_and] at reaches
      by_cases offence : offends
      · simp [excepted, offence, if_pos (reaches.mp offence)]
      · simp [excepted, offence, if_neg (mt reaches.mpr offence)]

end DetectionEngine

namespace Firewall

variable {texts : IpTexts} {firewall : Firewall}

section

variable {src : String} {now : ℚ} (refines : firewall.Refines)
  (inOrder : ∀ time ∈ firewall.detection.history src, time ≤ now)
include refines inOrder

/-- What is dropped with an attempt is too old, and the windows hold the rest. -/
theorem Refines.forget : ∃ gone, firewall.detection.history src ++ [now] =
      gone ++ (firewall.engine.attempts src ++ [now]).dropWhile
        (· < now - firewall.cfg.rateInterval) ∧
      ∀ time ∈ gone, time < now - firewall.cfg.rateInterval := by
  obtain ⟨gone, history, old⟩ := refines.attempts src
  refine ⟨gone ++ (firewall.engine.attempts src ++ [now]).takeWhile
    (· < now - firewall.cfg.rateInterval), ?_, fun time inside => ?_⟩
  · rw [history, append_assoc, append_assoc, takeWhile_append_dropWhile]
  · rcases mem_append.mp inside with before | dropped
    · obtain ⟨later, recorded, before⟩ := old time before
      have := inOrder later recorded
      linarith
    · have early := mem_takeWhile_imp dropped
      exact of_decide_eq_true early

theorem Refines.reaches_iff :
    (firewall.cfg.averageRate ≤ rate ((firewall.engine.attempts src ++ [now]).dropWhile
        (· < now - firewall.cfg.rateInterval)) now firewall.cfg.rateInterval ∨
      firewall.cfg.burstRate ≤ rate ((firewall.engine.attempts src ++ [now]).dropWhile
        (· < now - firewall.cfg.rateInterval)) now (burstInterval firewall.cfg.rateInterval)) ↔
      Detection.Reaches firewall.cfg (firewall.detection.history src ++ [now]) now := by
  obtain ⟨gone, history, old⟩ := refines.forget inOrder
  have wide := refines.wide
  have narrow := burstInterval_le wide
  have some : 0 < burstInterval firewall.cfg.rateInterval := by
    unfold burstInterval
    omega
  rw [le_rate_iff _ _ _ (by omega), le_rate_iff _ _ _ some, Detection.Reaches, history,
    countSince_append _ le_rfl old, countSince_append _ narrow old]

end

open Classical in
/-- An attempt is answered as by the definition, and leaves what is on record as it should be. -/
theorem Refines.attempt (refines : firewall.Refines) {src : String} {now : ℚ} (failed : Bool)
    (timely : firewall.Timely (.attempt src now failed)) :
    firewall.Agrees texts (.attempt src now failed) ∧
      (firewall.step texts (.attempt src now failed)).Refines := by
  have inForce : firewall.detection.InForce firewall.cfg src now ↔
      ∃ since ∈ firewall.engine.shunned src, now - since ≤ firewall.cfg.shunDuration := by
    rw [refines.shunned]
    exact Iff.rfl
  have offends : firewall.detection.Offends texts firewall.cfg src now ↔ _ :=
    and_congr_right fun _ => and_congr_right fun _ => (refines.reaches_iff timely).symm
  by_cases enabled : firewall.cfg.enabled = true
  · have recorded := firewall.engine.record_spec src now texts enabled rfl inForce offends
    unfold Agrees
    dsimp only [step, Detection.attempt]
    rw [recorded, if_neg (show ¬ firewall.cfg.enabled = false by rw [enabled]; decide)]
    refine ⟨decide_eq_true_iff, fun other => ?_, by rw [refines.shunned], refines.wide⟩
    by_cases same : other = src
    · subst same
      obtain ⟨gone, history, old⟩ := refines.forget timely
      refine ⟨gone, by simpa only [Function.update_self] using history, fun time inside => ?_⟩
      exact ⟨now, by simp, old time inside⟩
    · simpa only [Function.update_of_ne same] using refines.attempts other
  · have off : firewall.cfg.enabled = false := eq_false_of_ne_true enabled
    have ignored : firewall.engine.recordConnectionAttempt texts src now firewall.cfg =
        (firewall.engine, false) := by
      simp [DetectionEngine.recordConnectionAttempt, off]
    unfold Agrees
    dsimp only [step, Detection.attempt]
    rw [ignored, if_pos off]
    exact ⟨⟨nofun, False.elim⟩, refines⟩

theorem Refines.step (refines : firewall.Refines) (event : DetectionEvent)
    (timely : firewall.Timely event) : (firewall.step texts event).Refines := by
  cases event with
  | configure cfg =>
    obtain ⟨wide, smaller | empty⟩ := timely
    · refine ⟨fun src => ?_, refines.shunned, wide⟩
      obtain ⟨gone, history, old⟩ := refines.attempts src
      refine ⟨gone, history, fun time inside => ?_⟩
      obtain ⟨later, recorded, before⟩ := old time inside
      have widths : (cfg.rateInterval : ℚ) ≤ firewall.cfg.rateInterval := by exact_mod_cast smaller
      refine ⟨later, recorded, ?_⟩
      dsimp only [Firewall.step]
      linarith
    · refine ⟨fun src => ⟨[], ?_, nofun⟩, refines.shunned, wide⟩
      obtain ⟨gone, history, -⟩ := refines.attempts src
      have none := (append_eq_nil_iff.mp (history.symm.trans (empty src))).2
      exact (empty src).trans none.symm
  | attempt src now failed => exact (refines.attempt failed timely).2
  | clear src =>
    refine ⟨?_, ?_, refines.wide⟩
    · cases src <;> exact refines.attempts
    · cases src with
      | none => rfl
      | some src => exact congrArg (Function.update · src none) refines.shunned

/-- A library that reads no address. -/
def noTexts : IpTexts where
  Address := Unit
  Network := Unit
  address _ := none
  network _ := none
  contains _ _ := false

/-- Ten connections in a second, after each of which the login succeeds. -/
def tenLogins : List DetectionEvent :=
  .configure { enabled := true, shun := true, rateInterval := 10, averageRate := 1, burstRate := 1 } ::
    List.replicate 10 (.attempt "192.0.2.1" 0 false)

end Firewall

end NetLab.Access
