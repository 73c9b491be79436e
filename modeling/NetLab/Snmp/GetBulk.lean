import NetLab.Snmp.Agent

/-!
# Bulk requests

A bulk request is answered column after column, whatever number of names it asks to look up once.
`getBulk_conforms` says for which requests that is the answer of the standard: a single answer for
each of the first names, then rounds over the others.
-/

namespace NetLab.Snmp

open List

open NetLab.Library

variable {nonRepeaters maxRepetitions : Int} {oids : List String}

/-- What getnext answers to a name. -/
abbrev Next : Type := String → Reading MibEntry

namespace Next

variable (next : Next)

/-- The answers for one name, at most this many. -/
def bulkColumn : Nat → String → List Varbind
  | 0, _ => []
  | repetitions + 1, cur =>
    match next cur with
    | .found entry =>
      ⟨entry.oid, .value entry.type entry.value⟩ :: bulkColumn repetitions entry.oid
    | _ => [⟨cur, .endOfMibView⟩]

def bulkVarbinds (maxRepetitions : Int) (oids : List String) : List Varbind :=
  oids.flatMap (next.bulkColumn (max 1 maxRepetitions).toNat)

/-- The variable that answers a name; a name without a successor stays. -/
def binding (oid : String) : Varbind :=
  match next oid with
  | .found entry => ⟨entry.oid, .value entry.type entry.value⟩
  | _ => ⟨oid, .endOfMibView⟩

/-- Nothing follows the name. -/
def Ended (oid : String) : Prop := (next.binding oid).answer = .endOfMibView

def nameIn (round : Nat) (oid : String) : String := (fun name => (next.binding name).oid)^[round] oid

/-- Rounds over names, each of which asks for what the one before it answered. -/
def rounds (count : Nat) (oids : List String) : List Varbind :=
  (List.range count).flatMap fun round => oids.map fun oid => next.binding (next.nameIn round oid)

/-- The answer of the standard. Rounds stop early only where every column has ended. -/
def Conforms (nonRepeaters maxRepetitions : Int) (oids : List String) (varbinds : List Varbind) :
    Prop :=
  ∃ count ≤ maxRepetitions.toNat, varbinds = (oids.take nonRepeaters.toNat).map next.binding ++
      next.rounds count (oids.drop nonRepeaters.toNat) ∧
    (count = maxRepetitions.toNat ∨
      0 < count ∧ ∀ oid ∈ oids.drop nonRepeaters.toNat, next.Ended (next.nameIn (count - 1) oid))

/-- No name is asked for more often than the standard does, and if more than one column is
repeated, there is a single round. -/
def Fits (nonRepeaters maxRepetitions : Int) (oids : List String) : Prop :=
  (∀ oid ∈ oids.take nonRepeaters.toNat, maxRepetitions ≤ 1 ∨ next.Ended oid) ∧
    (oids.drop nonRepeaters.toNat = [] ∨ 1 ≤ maxRepetitions ∧
      ((oids.drop nonRepeaters.toNat).length = 1 ∨ maxRepetitions = 1 ∨
        ∀ oid ∈ oids.drop nonRepeaters.toNat, next.Ended oid))

variable {next : Next}

theorem bulkColumn_succ (repetitions : Nat) (oid : String) :
    (next.Ended oid ∧ next.bulkColumn (repetitions + 1) oid = [next.binding oid]) ∨
      (¬ next.Ended oid ∧ next.bulkColumn (repetitions + 1) oid =
        next.binding oid :: next.bulkColumn repetitions (next.binding oid).oid) := by
  unfold Ended
  rw [bulkColumn, binding]
  split
  · exact .inr ⟨nofun, rfl⟩
  · exact .inl ⟨rfl, rfl⟩

theorem bulkColumn_single {repetitions : Nat} {oid : String} (some : 0 < repetitions)
    (single : repetitions ≤ 1 ∨ next.Ended oid) :
    next.bulkColumn repetitions oid = [next.binding oid] := by
  obtain ⟨less, rfl⟩ : ∃ less, repetitions = less + 1 := ⟨repetitions - 1, by omega⟩
  rcases bulkColumn_succ less oid with ⟨-, column⟩ | ⟨notEnded, column⟩
  · exact column
  · have none : less = 0 := by
      rcases single with few | ended
      · omega
      · exact absurd ended notEnded
    rw [column, none, bulkColumn]

theorem flatMap_bulkColumn {repetitions : Nat} (some : 0 < repetitions)
    (single : ∀ oid ∈ oids, repetitions ≤ 1 ∨ next.Ended oid) :
    oids.flatMap (next.bulkColumn repetitions) = oids.map next.binding := by
  rw [← flatMap_singleton' (oids.map next.binding), flatMap_map]
  exact flatMap_congr fun oid inside => bulkColumn_single some (single oid inside)

theorem bulkColumn_rounds (repetitions : Nat) (oid : String) : ∃ count ≤ repetitions,
    next.bulkColumn repetitions oid = next.rounds count [oid] ∧
      (count = repetitions ∨ 0 < count ∧ next.Ended (next.nameIn (count - 1) oid)) := by
  induction repetitions generalizing oid with
  | zero => exact ⟨0, le_rfl, rfl, .inl rfl⟩
  | succ repetitions ih =>
    rcases bulkColumn_succ repetitions oid with ⟨ended, column⟩ | ⟨-, column⟩
    · exact ⟨1, by omega, column, .inr ⟨one_pos, ended⟩⟩
    · obtain ⟨count, few, later, stopped⟩ := ih (next.binding oid).oid
      refine ⟨count + 1, by omega, ?_, ?_⟩
      · rw [column, later, rounds, rounds, range_succ_eq_map, flatMap_cons, flatMap_map]
        rfl
      · refine stopped.imp (congrArg _) fun ⟨positive, ended⟩ => ⟨by omega, ?_⟩
        obtain ⟨less, rfl⟩ : ∃ less, count = less + 1 := ⟨count - 1, by omega⟩
        exact ended

/-- A request that fits is answered as in the standard. -/
theorem conforms_of_fits (fits : next.Fits nonRepeaters maxRepetitions oids) :
    next.Conforms nonRepeaters maxRepetitions oids (next.bulkVarbinds maxRepetitions oids) := by
  obtain ⟨first, others⟩ := fits
  have single : (oids.take nonRepeaters.toNat).flatMap
      (next.bulkColumn (max 1 maxRepetitions).toNat) =
        (oids.take nonRepeaters.toNat).map next.binding :=
    flatMap_bulkColumn (by omega) fun oid inside => (first oid inside).imp_left (by omega)
  unfold Conforms bulkVarbinds
  nth_rewrite 1 [← take_append_drop nonRepeaters.toNat oids]
  rw [flatMap_append, single]
  simp only [append_cancel_left_eq]
  generalize oids.drop nonRepeaters.toNat = repeated at others
  rcases others with none | ⟨some, one | once | ended⟩
  · exact ⟨_, le_rfl, by simp [none, rounds], .inl rfl⟩
  · obtain ⟨oid, rfl⟩ := length_eq_one_iff.mp one
    obtain ⟨count, few, column, stopped⟩ := @bulkColumn_rounds next (max 1 maxRepetitions).toNat oid
    refine ⟨count, by omega, by simpa using column, ?_⟩
    exact stopped.imp (by omega) (And.imp_right fun ended => by simpa using ended)
  · refine ⟨1, by omega, ?_, .inl (by omega)⟩
    rw [flatMap_bulkColumn (by omega) fun _ _ => .inl (by omega)]
    simp [rounds, nameIn]
  · refine ⟨1, by omega, ?_, .inr ⟨one_pos, ended⟩⟩
    rw [flatMap_bulkColumn (by omega) fun oid inside => .inr (ended oid inside)]
    simp [rounds, nameIn]

/-- A name that is asked for again and again, with two different answers behind it, shows every
request that does not fit. -/
theorem fits_of_conforms_replicate {count : Nat} {oid : String} (goesOn : ¬ next.Ended oid)
    (changes : next.binding (next.binding oid).oid ≠ next.binding oid)
    (conforms : next.Conforms nonRepeaters maxRepetitions (List.replicate count oid)
      (next.bulkVarbinds maxRepetitions (List.replicate count oid))) {other : Next}
    (length : oids.length = count) : other.Fits nonRepeaters maxRepetitions oids := by
  obtain ⟨rounds, few, answered, stopped⟩ := conforms
  have dropped : (oids.drop nonRepeaters.toNat).length = count - nonRepeaters.toNat := by
    rw [length_drop, length]
  rcases Nat.eq_zero_or_pos count with rfl | positive
  · obtain rfl := eq_nil_of_length_eq_zero length
    exact ⟨by simp, .inl (by simp)⟩
  obtain ⟨less, rfl⟩ : ∃ less, count = less + 1 := ⟨count - 1, by omega⟩
  rcases lt_trichotomy maxRepetitions 1 with low | once | high
  · -- Every name is answered once, and the standard answers only the first ones.
    have lengths := congrArg List.length answered
    have single : (List.replicate (less + 1) oid).flatMap
        (next.bulkColumn (max 1 maxRepetitions).toNat) =
          (List.replicate (less + 1) oid).map next.binding :=
      flatMap_bulkColumn (by omega) fun _ _ => .inl (by omega)
    obtain rfl : rounds = 0 := by omega
    rw [bulkVarbinds, single] at lengths
    simp [Next.rounds] at lengths
    refine ⟨fun _ _ => .inl (by omega), .inl (eq_nil_of_length_eq_zero (by omega))⟩
  · refine ⟨fun _ _ => .inl (by omega), ?_⟩
    exact .inr ⟨by omega, .inr (.inl once)⟩
  · -- The second answer is for the second round of the first name.
    obtain ⟨repetitions, many⟩ : ∃ repetitions, (max 1 maxRepetitions).toNat = repetitions + 2 :=
      ⟨(max 1 maxRepetitions).toNat - 2, by omega⟩
    obtain ⟨later, second⟩ : ∃ later, next.bulkColumn (repetitions + 2) oid =
        next.binding oid :: next.binding (next.binding oid).oid :: later := by
      rcases bulkColumn_succ (repetitions + 1) oid with ⟨ended, -⟩ | ⟨-, column⟩
      · exact absurd ended goesOn
      · rcases bulkColumn_succ repetitions (next.binding oid).oid with ⟨-, rest⟩ | ⟨-, rest⟩
        · exact ⟨[], by rw [column, rest]⟩
        · exact ⟨_, by rw [column, rest]⟩
    obtain ⟨more, rfl⟩ : ∃ more, rounds = more + 1 := ⟨rounds - 1, by omega⟩
    have firstRound : ∀ rest, ((List.replicate (less + 1) oid).take nonRepeaters.toNat).map
        next.binding ++ (((List.replicate (less + 1) oid).drop nonRepeaters.toNat).map (fun oid =>
          next.binding (next.nameIn 0 oid)) ++ rest) =
        next.binding oid :: (List.replicate less (next.binding oid) ++ rest) := by
      intro rest
      change _ ++ (List.map next.binding _ ++ rest) = _
      rw [← append_assoc, ← map_append, take_append_drop, map_replicate]
      rfl
    rw [bulkVarbinds, Next.rounds, range_succ_eq_map, flatMap_cons, firstRound,
      replicate_succ, flatMap_cons, many, second] at answered
    have rest := (List.cons.inj answered).2
    match less with
    | 0 =>
      rcases Nat.eq_zero_or_pos nonRepeaters.toNat with none | positive
      · refine ⟨by simp [none], .inr ⟨by omega, .inl (by omega)⟩⟩
      · obtain ⟨single, isSingle⟩ : ∃ single, nonRepeaters.toNat = single + 1 :=
          ⟨nonRepeaters.toNat - 1, by omega⟩
        have none : (oid :: List.replicate 0 oid).drop (single + 1) = [] := by simp
        rw [isSingle, none] at rest
        simp only [map_nil] at rest
        rw [flatMap_eq_nil_iff.mpr fun _ _ => rfl] at rest
        cases rest
    | less + 1 => exact absurd (List.cons.inj rest).1 changes

end Next

namespace SnmpAgent

variable (agent : SnmpAgent) (device : String) (addresses : DeviceAddresses) (readings : Readings)

def nextFor (community : String) : Next := fun oid =>
  agent.getnext device addresses readings oid (some community)

/-- The answer to a bulk request. The number of names to ask for once is read and not used; a
community that may not read is not answered. -/
def getBulk (community : String) (_nonRepeaters maxRepetitions : Int) (oids : List String) :
    Option (List Varbind) :=
  if agent.auth device community then
    some ((agent.nextFor device addresses readings community).bulkVarbinds maxRepetitions oids)
  else none

end SnmpAgent

/-- A computer without interfaces. -/
def bareAgent : SnmpAgent :=
  SnmpAgent.register ⟨fun _ => none⟩ "PC1" "pc" "PC1" "" "" "public" [] []

def bareReadings : Readings := ⟨0, 0, [], fun _ => 0, fun _ => 0⟩

def bareNext : Next := bareAgent.nextFor "PC1" ⟨.empty⟩ bareReadings "public"

/-- The name of the computer comes behind its contact, and its location behind its name. -/
theorem bareNext_answers :
    bareNext "1.3.6.1.2.1.1.4.0" = .found ⟨"1.3.6.1.2.1.1.5.0", .string, "PC1"⟩ ∧
      bareNext "1.3.6.1.2.1.1.5.0" = .found ⟨"1.3.6.1.2.1.1.6.0", .string, "Lab"⟩ := by
  have sorted : bareAgent.buildMib "PC1" ⟨.empty⟩ bareReadings =
      bareAgent.unsortedMib "PC1" ⟨.empty⟩ bareReadings :=
    mergeSort_of_pairwise (by decide +kernel)
  unfold bareNext SnmpAgent.nextFor SnmpAgent.getnext
  rw [sorted]
  decide +kernel

theorem bareNext_fits {count : Nat} (conforms : bareNext.Conforms nonRepeaters maxRepetitions
      (List.replicate count "1.3.6.1.2.1.1.4.0")
      (bareNext.bulkVarbinds maxRepetitions (List.replicate count "1.3.6.1.2.1.1.4.0")))
    {next : Next} (length : oids.length = count) : next.Fits nonRepeaters maxRepetitions oids := by
  obtain ⟨contact, name⟩ := bareNext_answers
  have first : bareNext.binding "1.3.6.1.2.1.1.4.0" = ⟨"1.3.6.1.2.1.1.5.0", .value .string "PC1"⟩ := by
    rw [Next.binding, contact]
  have second : bareNext.binding "1.3.6.1.2.1.1.5.0" = ⟨"1.3.6.1.2.1.1.6.0", .value .string "Lab"⟩ := by
    rw [Next.binding, name]
  refine Next.fits_of_conforms_replicate (fun ended => ?_) ?_ conforms length
  · rw [Next.Ended, first] at ended
    cases ended
  · rw [first, second]
    decide

/-- Requests that fit are answered as in the standard, and no shape of requests is that does not
fit throughout. -/
theorem getBulk_conforms (nonRepeaters maxRepetitions : Int) :
    (∀ (agent : SnmpAgent) (device : String) (addresses : DeviceAddresses) (readings : Readings)
        (community : String) (oids : List String) (varbinds : List Varbind),
      agent.getBulk device addresses readings community nonRepeaters maxRepetitions oids =
          some varbinds →
        (agent.nextFor device addresses readings community).Fits nonRepeaters maxRepetitions oids →
          (agent.nextFor device addresses readings community).Conforms nonRepeaters maxRepetitions
            oids varbinds) ∧
    ∀ count : Nat,
      (∀ (agent : SnmpAgent) (device : String) (addresses : DeviceAddresses) (readings : Readings)
          (community : String) (oids : List String) (varbinds : List Varbind),
        oids.length = count →
        agent.getBulk device addresses readings community nonRepeaters maxRepetitions oids =
            some varbinds →
          (agent.nextFor device addresses readings community).Conforms nonRepeaters maxRepetitions
            oids varbinds) →
      ∀ (next : Next) (oids : List String), oids.length = count →
        next.Fits nonRepeaters maxRepetitions oids := by
  constructor
  · intro agent device addresses readings community oids varbinds answered fits
    unfold SnmpAgent.getBulk at answered
    split at answered
    · obtain rfl := Option.some.inj answered
      exact Next.conforms_of_fits fits
    · cases answered
  · intro count conforms next oids length
    exact bareNext_fits (conforms bareAgent "PC1" ⟨.empty⟩ bareReadings "public" _ _
      length_replicate rfl) length

/-- A name to ask for once is asked for twice. -/
theorem repeated_not_conforms : ∃ varbinds,
    bareAgent.getBulk "PC1" ⟨.empty⟩ bareReadings "public" 1 2 ["1.3.6.1.2.1.1.4.0"] =
        some varbinds ∧
      ¬ bareNext.Conforms 1 2 ["1.3.6.1.2.1.1.4.0"] varbinds := by
  refine ⟨_, rfl, fun conforms => ?_⟩
  have fits : bareNext.Fits 1 2 ["1.3.6.1.2.1.1.4.0"] := bareNext_fits conforms rfl
  rcases fits.1 "1.3.6.1.2.1.1.4.0" (by decide) with few | ended
  · omega
  · rw [Next.Ended, Next.binding, bareNext_answers.1] at ended
    cases ended

end NetLab.Snmp
