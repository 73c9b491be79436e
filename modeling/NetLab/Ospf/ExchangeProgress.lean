import NetLab.Ospf.ExchangeStages

/-!
# Progress of a database exchange

From every pair of stages at which the exchange is not stuck, Hellos, retransmissions and deliveries
lead both ends to be full.
-/

namespace NetLab.Ospf

open NetLab.Execution List

variable {pair : EndPair}

/-! ## Ways to finish -/

def Carries (adjacency : Adjacency) (side : Side) (body : OspfBody) : Prop :=
  ∃ packet, (side, packet) ∈ adjacency.inFlight ∧ packet.body = body

/-- Both ends run, at these stages. -/
structure Runs (pair : EndPair) (adjacency : Adjacency) (high : HighStage) (low : LowStage) :
    Prop where
  inside : InStages pair adjacency high low
  running : ∀ side, adjacency.stopped side = false

section Finishing

variable {adjacency : Adjacency} {high : HighStage} {low : LowStage}

theorem canFinish_step {event : ExchangeEvent} (benign : event.Benign)
    (next : CanFinish pair (exchangeStep pair adjacency event)) : CanFinish pair adjacency := by
  obtain ⟨events, rest, full⟩ := next
  refine ⟨event :: events, fun other member => ?_, full⟩
  rcases mem_cons.mp member with rfl | member
  · exact benign
  · exact rest other member

theorem carries_sent {adjacency : Adjacency} {before : List (Side × OspfPacket)} {side : Side}
    {bodies : List OspfBody} (flight : adjacency.inFlight = before ++ packetsOf pair side bodies) :
    ∀ body ∈ bodies, Carries adjacency side.other body := by
  intro body among
  refine ⟨⟨pair.ip side, pair.routerId side, body⟩, ?_, rfl⟩
  rw [flight]
  exact mem_append_right _ ((mem_packetsOf pair).mpr ⟨body, among, rfl⟩)

/-- Delivery of a packet to the higher end. -/
theorem finish_of_high (distinct : pair.ip .low ≠ pair.ip .high) {body : OspfBody}
    (runs : Runs pair adjacency high low) (carries : Carries adjacency .high body)
    (finish : ∀ next, Runs pair next (high.after (pair.routerId .high) 0 body).1 low →
      (∀ other ∈ (high.after (pair.routerId .high) 0 body).2, Carries next .low other) →
      (next.ends .high).peerId = some (pair.routerId .low) →
      next.ends .low = adjacency.ends .low → CanFinish pair next) :
    CanFinish pair adjacency := by
  obtain ⟨packet, member, rfl⟩ := carries
  obtain ⟨index, found⟩ := mem_iff_getElem?.mp member
  obtain ⟨inside, flight, peer, same⟩ :=
    @InStages.deliver_high _ _ _ _ distinct runs.inside index 0 _ found
  refine @canFinish_step _ _ (.deliver index 0) trivial (finish _ ⟨inside, ?_⟩ ?_ peer same)
  · simpa only [exchangeStep, found] using runs.running
  · exact carries_sent flight

/-- Delivery of a packet to the lower end. -/
theorem finish_of_low (distinct : pair.ip .low ≠ pair.ip .high) {body : OspfBody}
    (runs : Runs pair adjacency high low) (carries : Carries adjacency .low body)
    (finish : ∀ next, Runs pair next high (low.after (pair.routerId .low) 0 body).1 →
      (∀ other ∈ (low.after (pair.routerId .low) 0 body).2, Carries next .high other) →
      (next.ends .low).peerId = some (pair.routerId .high) →
      next.ends .high = adjacency.ends .high → CanFinish pair next) :
    CanFinish pair adjacency := by
  obtain ⟨packet, member, rfl⟩ := carries
  obtain ⟨index, found⟩ := mem_iff_getElem?.mp member
  obtain ⟨inside, flight, peer, same⟩ :=
    @InStages.deliver_low _ _ _ _ distinct runs.inside index 0 _ found
  refine @canFinish_step _ _ (.deliver index 0) trivial (finish _ ⟨inside, ?_⟩ ?_ peer same)
  · simpa only [exchangeStep, found] using runs.running
  · exact carries_sent flight

theorem finish_of_resent (runs : Runs pair adjacency high low)
    (finish : ∀ next, Runs pair next high low →
      (∀ body ∈ high.resent, Carries next .low body) → CanFinish pair next) :
    CanFinish pair adjacency := by
  have stepped : exchangeStep pair adjacency (.retransmit .high) = ⟨adjacency.ends,
      adjacency.stopped, adjacency.inFlight ++ packetsOf pair .high high.resent⟩ := by
    simp [exchangeStep, runs.running, HighStage.retransmission runs.inside.highAt]
  refine @canFinish_step _ _ (.retransmit .high) trivial ?_
  rw [stepped]
  refine finish _ ⟨runs.inside.refill fun entry member => ?_, runs.running⟩
    (@carries_sent pair _ adjacency.inFlight .high _ rfl)
  rw [← HighStage.retransmission runs.inside.highAt] at member
  exact (mem_append.mp member).imp_right (runs.inside.resent_maySend .high entry)

theorem finish_of_hello (side : Side) (runs : Runs pair adjacency high low)
    (finish : ∀ next, Runs pair next high low → next.ends = adjacency.ends →
      Carries next side.other (adjacency.ends side).hello → CanFinish pair next) :
    CanFinish pair adjacency := by
  have stepped : exchangeStep pair adjacency (.hello side) = ⟨adjacency.ends,
      adjacency.stopped, adjacency.inFlight ++ packetsOf pair side [(adjacency.ends side).hello]⟩ := by
    simp [exchangeStep, runs.running]
  refine @canFinish_step _ _ (.hello side) trivial ?_
  rw [stepped]
  refine finish _ ⟨runs.inside.refill fun entry member => ?_, runs.running⟩ rfl
    (@carries_sent pair _ adjacency.inFlight side _ rfl _ mem_cons_self)
  exact (mem_append.mp member).imp_right (runs.inside.hello_maySend side entry)

theorem finish_full {number noted : Nat} (runs : Runs pair adjacency (.full number) (.full noted)) :
    CanFinish pair adjacency := by
  refine ⟨[], nofun, fun side => ?_⟩
  cases side with
  | high => exact runs.inside.highAt.1
  | low => exact runs.inside.lowAt.1

variable (distinct : pair.ip .low ≠ pair.ip .high) {number : Nat}
include distinct

theorem finish_of_answer (runs : Runs pair adjacency (.finishing number) (.full number))
    (carries : Carries adjacency .high (.dbdesc ⟨false, false, false, number + 1⟩)) :
    CanFinish pair adjacency := by
  refine finish_of_high distinct runs carries fun next runs' _ _ _ => ?_
  simp only [HighStage.after, and_self, if_true] at runs'
  exact finish_full runs'

/-- The higher end sends its last description again. -/
theorem finish_finishing (runs : Runs pair adjacency (.finishing number) (.answered number)) :
    CanFinish pair adjacency := by
  refine finish_of_resent runs fun resent sent carries => ?_
  refine finish_of_low distinct sent (carries _ mem_cons_self) fun next runs' answer _ _ => ?_
  simp only [LowStage.after, Bool.false_eq_true, false_and, and_self, if_true, if_false]
    at runs' answer
  exact finish_of_answer distinct runs' (answer _ mem_cons_self)

theorem finish_of_firstAnswer {decided : Bool}
    (runs : Runs pair adjacency (.offering number decided) (.answered number))
    (carries : Carries adjacency .high (.dbdesc ⟨false, false, false, number⟩)) :
    CanFinish pair adjacency := by
  refine finish_of_high distinct runs carries fun next runs' _ _ _ => ?_
  simp only [HighStage.after, and_self, if_true] at runs'
  exact finish_finishing distinct runs'

/-- The lower end hears the first description. -/
theorem finish_of_opening {decided : Bool}
    (runs : Runs pair adjacency (.offering number decided) low)
    (replies : low = .offering ∨ ∃ noted, low = .answered noted)
    (carries : Carries adjacency .low (.dbdesc ⟨true, true, true, number⟩)) :
    CanFinish pair adjacency := by
  refine finish_of_low distinct runs carries fun next runs' answer _ _ => ?_
  rcases replies with rfl | ⟨noted, rfl⟩
  · simp only [LowStage.after, and_self, if_true] at runs' answer
    exact finish_of_firstAnswer distinct runs' (answer _ mem_cons_self)
  · simp only [LowStage.after, and_self, if_true] at runs' answer
    exact finish_of_firstAnswer distinct runs' (answer _ mem_cons_self)

/-- The higher end, which knows that it is the master, sends its first description again. -/
theorem finish_decided (runs : Runs pair adjacency (.offering number true) low)
    (replies : low = .offering ∨ ∃ noted, low = .answered noted) : CanFinish pair adjacency :=
  finish_of_resent runs fun _ sent carries =>
    finish_of_opening distinct sent replies (carries _ mem_cons_self)

theorem finish_of_description {decided : Bool} {dbd : DbDesc}
    (runs : Runs pair adjacency (.offering number decided) low)
    (replies : low = .offering ∨ ∃ noted, low = .answered noted)
    (carries : Carries adjacency .high (.dbdesc dbd)) : CanFinish pair adjacency := by
  refine finish_of_high distinct runs carries fun next runs' _ _ _ => ?_
  simp only [HighStage.after] at runs'
  split at runs'
  · rcases replies with rfl | ⟨noted, rfl⟩
    · exact runs'.inside.fits.elim
    · obtain rfl : number = noted := runs'.inside.fits
      exact finish_finishing distinct runs'
  · exact finish_decided distinct runs' replies

theorem finish_highEarly (runs : Runs pair adjacency .early .offering) :
    CanFinish pair adjacency := by
  refine finish_of_hello .high runs fun greeted sent _ greeting => ?_
  refine finish_of_low distinct sent greeting fun known heard _ peer _ => ?_
  refine finish_of_hello .low heard fun returned replied _ answer => ?_
  have listed : (known.ends .low).hello = .hello [pair.routerId .high] := by
    simp [Faker.hello, peer]
  rw [listed] at answer
  refine finish_of_high distinct replied answer fun next started carries _ _ => ?_
  simp only [HighStage.after, mem_singleton, if_true] at started carries
  exact finish_of_opening distinct started (.inl rfl) (carries _ rfl)

/-- A round of Hellos, after which the lower end offers. -/
theorem finish_lowEarly (runs : Runs pair adjacency high .early) : CanFinish pair adjacency := by
  refine finish_of_hello .low runs fun greeted sent _ greeting => ?_
  refine finish_of_high distinct sent greeting fun known heard _ peer _ => ?_
  refine finish_of_hello .high heard fun returned replied _ answer => ?_
  have listed : (known.ends .high).hello = .hello [pair.routerId .low] := by
    simp [Faker.hello, peer]
  rw [listed] at answer
  refine finish_of_low distinct replied answer fun next started carries _ _ => ?_
  simp only [LowStage.after, mem_singleton, if_true] at started carries
  have offer := carries _ rfl
  have fits := started.inside.fits
  generalize (HighStage.after high (pair.routerId .high) 0 _).1 = reached at started fits
  cases reached with
  | early => exact finish_highEarly distinct started
  | offering number decided => exact finish_of_description distinct started (.inl rfl) offer
  | _ => exact fits.elim

/-- A description that is still under way lets the exchange go on. -/
theorem finish_undecided (runs : Runs pair adjacency (.offering number false) low)
    (replies : low = .offering ∨ ∃ noted, low = .answered noted)
    (useful : ∃ entry ∈ adjacency.inFlight,
      entry.1 = .high ∧ entry.2.body.IsDbdesc ∨ entry.1 = .low ∧ entry.2.body.Opens) :
    CanFinish pair adjacency := by
  obtain ⟨⟨side, packet⟩, member, ⟨rfl, description⟩ | ⟨rfl, opens⟩⟩ := useful
  · cases body : packet.body with
    | dbdesc dbd => exact finish_of_description distinct runs replies ⟨packet, member, body⟩
    | _ => exact absurd description (by simp [body, OspfBody.IsDbdesc])
  · have sent := runs.inside.toLow packet member
    cases body : packet.body with
    | dbdesc dbd =>
      rw [body] at sent
      obtain rfl : dbd = _ := sent
      exact finish_of_opening distinct runs replies ⟨packet, member, body⟩
    | _ => exact absurd opens (by simp [body, OspfBody.Opens])

theorem finish_answered (runs : Runs pair adjacency (.finishing number) (.full number))
    (useful : ∃ entry ∈ adjacency.inFlight,
      entry.1 = .high ∧ entry.2.body.Answers (some (number + 1))) :
    CanFinish pair adjacency := by
  obtain ⟨⟨side, packet⟩, member, rfl, answers⟩ := useful
  have sent := runs.inside.toHigh packet member
  cases body : packet.body with
  | dbdesc dbd =>
    rw [body] at sent answers
    obtain ⟨first, slave, numbered⟩ := answers
    rcases sent with ⟨_, rfl⟩ | rfl | rfl
    · cases first
    · cases numbered
    · exact finish_of_answer distinct runs ⟨packet, member, body⟩
  | _ => exact absurd answers (by simp [body, OspfBody.Answers])

/-- Ends that run become full, unless the exchange is stuck. -/
theorem canFinish_of_runs (runs : Runs pair adjacency high low)
    (free : ¬ StuckAt adjacency.inFlight high low) : CanFinish pair adjacency := by
  have fits := runs.inside.fits
  cases high with
  | early =>
    cases low with
    | early => exact finish_lowEarly distinct runs
    | offering => exact finish_highEarly distinct runs
    | _ => exact fits.elim
  | offering number decided =>
    cases low with
    | early => exact finish_lowEarly distinct runs
    | full noted => exact fits.elim
    | offering =>
      cases decided with
      | true => exact finish_decided distinct runs (.inl rfl)
      | false =>
        refine finish_undecided distinct runs (.inl rfl) ?_
        by_contra spent
        push Not at spent
        exact free spent
    | answered noted =>
      cases decided with
      | true => exact finish_decided distinct runs (.inr ⟨_, rfl⟩)
      | false =>
        refine finish_undecided distinct runs (.inr ⟨_, rfl⟩) ?_
        by_contra spent
        push Not at spent
        exact free spent
  | finishing number =>
    cases low with
    | answered noted =>
      obtain rfl : number = noted := fits
      exact finish_finishing distinct runs
    | full noted =>
      obtain rfl : number = noted := fits
      refine finish_answered distinct runs ?_
      by_contra spent
      push Not at spent
      exact free spent
    | _ => exact fits.elim
  | full number =>
    cases low with
    | full noted => exact finish_full runs
    | _ => exact fits.elim

end Finishing

/-! ## The exchange -/

/-- An end that runs ran before. -/
theorem running_of_step {adjacency : Adjacency} {event : ExchangeEvent} {side : Side}
    (running : (exchangeStep pair adjacency event).stopped side = false) :
    adjacency.stopped side = false := by
  cases event with
  | hello other =>
    simp only [exchangeStep] at running
    split at running <;> exact running
  | retransmit other =>
    simp only [exchangeStep] at running
    split at running <;> exact running
  | deliver index clock =>
    simp only [exchangeStep] at running
    split at running <;> exact running
  | stop other =>
    by_cases same : side = other
    · simp [exchangeStep, same] at running
    · simpa [exchangeStep, same] using running
  | _ => exact running

/-- With stages, an adjacency is sound exactly as long as nothing needed was lost while both ends
run. -/
theorem sound_iff (distinct : pair.ip .low ≠ pair.ip .high) {adjacency : Adjacency}
    (inside : ∃ high low, InStages pair adjacency high low) :
    Sound pair adjacency ↔ ((∀ side, adjacency.stopped side = false) →
      ¬ (OfferLost adjacency ∨ AnswerLost adjacency)) := by
  constructor
  · exact fun sound running => stuck_of_canFinish distinct inside (sound.finishes running)
  · intro free
    obtain ⟨high, low, inside⟩ := inside
    refine ⟨fun masters => inside.master masters.2, inside.full, fun running => ?_⟩
    exact canFinish_of_runs distinct ⟨inside, running⟩ (inside.stuck_iff.not.mp (free running))

theorem down_of_shared (shared : pair.ip .low = pair.ip .high) (adjacency : Adjacency)
    (event : ExchangeEvent)
    (ignored : (∀ side, (adjacency.ends side).state = .down) ∧
      ∀ entry ∈ adjacency.inFlight, entry.2.srcIp = pair.ip entry.1) :
    (∀ side, ((exchangeStep pair adjacency event).ends side).state = .down) ∧
      ∀ entry ∈ (exchangeStep pair adjacency event).inFlight, entry.2.srcIp = pair.ip entry.1 := by
  obtain ⟨down, sources⟩ := ignored
  have new (side : Side) (bodies : List OspfBody) : ∀ entry ∈ packetsOf pair side bodies,
      entry.2.srcIp = pair.ip entry.1 := by
    intro entry member
    obtain ⟨body, -, rfl⟩ := (mem_packetsOf pair).mp member
    cases side with
    | high => exact shared.symm
    | low => exact shared
  cases event with
  | hello side =>
    simp only [exchangeStep]
    split
    · exact ⟨down, sources⟩
    · exact ⟨down, fun entry member =>
        (mem_append.mp member).elim (sources entry) (new side _ entry)⟩
  | retransmit side =>
    simp only [exchangeStep]
    split
    · exact ⟨down, sources⟩
    · exact ⟨down, fun entry member =>
        (mem_append.mp member).elim (sources entry) (new side _ entry)⟩
  | deliver index clock =>
    cases found : adjacency.inFlight[index]? with
    | none => simpa only [exchangeStep, found] using ⟨down, sources⟩
    | some entry =>
      have own := sources entry (mem_of_getElem? found)
      simp only [exchangeStep, found, Faker.onPacket, if_pos own, Function.update_eq_self]
      exact ⟨down, fun entry member => (mem_append.mp member).elim
        (fun old => sources entry (mem_of_mem_eraseIdx old)) (new _ _ entry)⟩
  | duplicate index =>
    refine ⟨down, fun entry member => ?_⟩
    rcases mem_append.mp member with old | copy
    · exact sources entry old
    · exact sources entry (mem_of_getElem? (Option.mem_toList.mp copy))
  | lose index => exact ⟨down, fun entry member => sources entry (mem_of_mem_eraseIdx member)⟩
  | stop side => exact ⟨down, sources⟩

/-- Ends with one address never become full. -/
theorem distinct_of_canFinish (canFinish : CanFinish pair {}) : pair.ip .low ≠ pair.ip .high := by
  intro shared
  obtain ⟨events, -, full⟩ := canFinish
  have ignored := invariant_of_step (down_of_shared shared)
    (⟨fun _ => rfl, nofun⟩ : (∀ side, (({} : Adjacency).ends side).state = .down) ∧
      ∀ entry ∈ ({} : Adjacency).inFlight, entry.2.srcIp = pair.ip entry.1) events
  exact absurd (full .high) (by simp [ignored.1])

variable (pair)

/-- Through every order, delay, duplication and loss the exchange stays sound if and only if the
ends have two addresses and no loss takes what only a lost packet would have moved on. -/
theorem exchange_sound_iff (events : List ExchangeEvent) :
    Throughout (exchangeStep pair) (Sound pair) {} events ↔
      pair.ip .low ≠ pair.ip .high ∧ Along (exchangeStep pair) SparesExchange {} events := by
  by_cases distinct : pair.ip .low ≠ pair.ip .high
  · rw [and_iff_right distinct]
    have preserved : ∀ adjacency event, (∃ high low, InStages pair adjacency high low) →
        ∃ high low, InStages pair (exchangeStep pair adjacency event) high low :=
      inStages_step pair distinct
    have exactStep : ∀ adjacency event, (∃ high low, InStages pair adjacency high low) →
        Sound pair adjacency →
        (Sound pair (exchangeStep pair adjacency event) ↔ SparesExchange adjacency event) := by
      intro adjacency event inside sound
      rw [sound_iff distinct (preserved adjacency event inside)]
      rw [sound_iff distinct inside] at sound
      by_cases lossy : ∃ index, event = .lose index
      · obtain ⟨index, rfl⟩ := lossy
        exact Iff.rfl
      · have spared : ∀ index, event ≠ .lose index := fun index same => lossy ⟨index, same⟩
        rw [stuck_step distinct inside spared]
        refine iff_of_true (fun running => sound fun side => running_of_step (running side)) ?_
        cases event with
        | lose index => exact absurd rfl (spared index)
        | _ => trivial
    refine throughout_iff_along preserved exactStep ⟨_, _, inStages_start pair⟩ ?_ events
    refine (sound_iff distinct ⟨_, _, inStages_start pair⟩).mpr fun _ => ?_
    rw [(inStages_start pair).stuck_iff]
    exact id
  · refine iff_of_false (fun sound => ?_) fun spared => distinct spared.1
    exact distinct (distinct_of_canFinish (sound.start.finishes fun _ => rfl))

/-- Both first descriptions are lost. -/
theorem lost_offers_wedge :
    let pair : EndPair := ⟨fun | .low => 1 | .high => 2, fun | .low => 1 | .high => 2, by decide⟩
    ¬ Sound pair (runFrom (exchangeStep pair) {}
      [.hello .high, .deliver 0 0, .hello .low, .deliver 0 5, .hello .high, .deliver 1 6,
        .lose 0, .lose 0]) := by
  intro pair sound
  have inside := invariant_of_step (inStages_step pair (by decide)) ⟨_, _, inStages_start pair⟩
    [.hello .high, .deliver 0 0, .hello .low, .deliver 0 5, .hello .high, .deliver 1 6,
      .lose 0, .lose 0]
  generalize reached : runFrom (exchangeStep pair) {} _ = adjacency at sound inside
  have running : ∀ side, adjacency.stopped side = false := by
    rw [← reached]
    rintro (- | -) <;> decide
  have waits : (adjacency.ends .high).state = .exStart ∧
      (adjacency.ends .high).isMaster = none ∧ (adjacency.ends .low).state = .exStart := by
    rw [← reached]
    decide
  have empty : adjacency.inFlight = [] := by
    rw [← reached]
    decide
  refine stuck_of_canFinish (by decide) inside (sound.finishes running) (.inl ?_)
  refine ⟨⟨waits.1, waits.2.1⟩, .inl waits.2.2, fun entry member => ?_⟩
  rw [empty] at member
  exact absurd member not_mem_nil

end NetLab.Ospf
