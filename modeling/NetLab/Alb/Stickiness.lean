import NetLab.Alb.Balancing

/-!
# Which member a client gets

Members that are chosen are registered and healthy, whatever a request says. A cookie brings a client
back to its member, and all others are served in turn.
-/

namespace NetLab.Alb

open List Option Nat

open NetLab.Library NetLab.Cli NetLab.Execution Visit Frontend

variable {address : Address}

/-! ## What choices should be -/

/-- A registered member of a target group that is not taken down and is healthy. -/
def Eligible (device : AlbDevice) (probe : Probe) (tgArn : String) (address : Address) : Prop :=
  ∃ group, device.group tgArn = some group ∧ ∃ member ∈ group.members, member.adminDown = false ∧
      probe.passes group.healthCheck.protocol member.ip member.port group.healthCheck.path = true ∧
        (member.ip, member.port) = address

def Sticky (device : AlbDevice) (tgArn : String) : Prop :=
  ∃ group, device.group tgArn = some group ∧ group.stickiness.enabled = true

def Named (texts : Texts) (request : Bytes) (address : Address) : Prop :=
  (stickyCookie (headerBlock request)).bind (decodeMember texts.digits) = some address

/-- The header block of a request ends within what is read for it. -/
def Whole (request : Bytes) : Prop :=
  ∃ block rest, cutAt blankLine request = some (block, rest) ∧
    block.length + blankLine.length ≤ headerLimit

/-- All that a client sends in the end. -/
def Visit.Sends (visit : Visit) (request : Bytes) : Prop :=
  ∃ later, (visit.finished = true → later = []) ∧ request = visit.buf ++ (visit.waiting ++ later)

/-- A choice of the member behind the last one of a target group. -/
structure Turn (before after : Balancer) (probe : Probe) (tgArn : String) (address : Address) :
    Prop where
  device : after.device = before.device
  next : (before.device.getHealthyMembers probe tgArn)[before.nextIndex tgArn
    (before.device.getHealthyMembers probe tgArn).length]? = some address
  moved : after.rrIndex = before.rrIndex.insert tgArn (before.nextIndex tgArn
    (before.device.getHealthyMembers probe tgArn).length)

/-- A choice for a request: of the member that its cookie names, or else in turn. -/
structure Chosen (texts : Texts) (before after : Balancer) (visit : Visit) (tgArn : String)
    (address : Address) : Prop where
  eligible : Eligible before.device visit.probe tgArn address
  pinned : Sticky before.device tgArn → ∀ request, visit.Sends request → Whole request →
    ∀ named, Named texts request named → Eligible before.device visit.probe tgArn named →
      address = named
  rotated : ∀ request, visit.Sends request → (Sticky before.device tgArn → Whole request ∧
    ∀ named, Named texts request named → ¬ Eligible before.device visit.probe tgArn named) →
      Turn before after visit.probe tgArn address

/-- A response with one more header line, which names the member to the client. -/
def WithCookie (texts : Texts) (address : Address) (response output : Bytes) : Prop :=
  ∃ block rest token duration, response = block ++ (blankLine ++ rest) ∧
    output = block ++ (lineEnd ++ (cookieLine token duration ++ (blankLine ++ rest))) ∧
      decodeMember texts.digits token = some address

/-- What a client has got of a response. -/
def Visit.Relayed (texts : Texts) (visit : Visit) : Prop :=
  match visit.stage with
  | .pumping | .done => ∃ address, visit.member = some address ∧
      (visit.output = visit.response ∨ WithCookie texts address visit.response visit.output)
  | .collecting _ => visit.output = []
  | .refused => visit.response = []
  | _ => visit.response = [] ∧ visit.output = []

/-- Choices of members, turns and relayed responses are as they should be. -/
structure Serves (texts : Texts) (proxy : ListenerProxy) (frontend : Frontend) : Prop where
  chosen : ∀ (occurrence : Occurrence) (id : Nat) (before after : Visit),
    frontend.locals[id]? = some before →
    (frontend.step texts proxy occurrence).locals[id]? = some after →
      after.member ≠ before.member → ∃ tgArn address, before.stage = .routed (some tgArn) ∧
        after.member = some address ∧
          Chosen texts frontend.shared (frontend.step texts proxy occurrence).shared before tgArn
            address
  turns : ∀ occurrence,
    (frontend.step texts proxy occurrence).shared.rrIndex = frontend.shared.rrIndex ∨
      ∃ id visit tgArn address, occurrence = .act id .choose ∧
        frontend.locals[id]? = some visit ∧ visit.stage = .routed (some tgArn) ∧
          Turn frontend.shared (frontend.step texts proxy occurrence).shared visit.probe tgArn
            address
  relayed : ∀ visit ∈ frontend.locals, visit.Relayed texts

/-! ## One choice -/

section Choices

variable {texts : Texts} {balancer : Balancer} {visit : Visit} {tgArn : String}

theorem mem_getHealthyMembers {device : AlbDevice} {probe : Probe} :
    address ∈ device.getHealthyMembers probe tgArn ↔ Eligible device probe tgArn address := by
  unfold AlbDevice.getHealthyMembers Eligible
  cases device.group tgArn with
  | none => simp
  | some group => simp [and_assoc]

theorem selectMember_cases (balancer : Balancer) (probe : Probe) (tgArn : String) :
    (balancer.selectMember probe tgArn = (balancer, none) ∧
      ∀ address, ¬ Eligible balancer.device probe tgArn address) ∨
    ∃ address, (balancer.selectMember probe tgArn).2 = some address ∧
      Turn balancer (balancer.selectMember probe tgArn).1 probe tgArn address := by
  unfold Balancer.selectMember
  dsimp only
  split
  case isTrue none =>
      refine .inl ⟨rfl, fun address eligible => ?_⟩
      rw [← mem_getHealthyMembers, none] at eligible
      cases eligible
  case isFalse some_member =>
      have inside : balancer.nextIndex tgArn (balancer.device.getHealthyMembers probe tgArn).length <
          (balancer.device.getHealthyMembers probe tgArn).length :=
        mod_lt _ (length_pos_of_ne_nil some_member)
      exact .inr ⟨_, getElem?_eq_getElem inside, rfl, getElem?_eq_getElem inside, rfl⟩

theorem Turn.eligible {before after : Balancer} {probe : Probe}
    (turn : Turn before after probe tgArn address) : Eligible before.device probe tgArn address :=
  mem_getHealthyMembers.mp (mem_of_getElem? turn.next)

theorem sticky_iff {device : AlbDevice} :
    Sticky device tgArn ↔ ((device.getStickiness tgArn).filter Stickiness.enabled).map
      Stickiness.duration ≠ none := by
  unfold Sticky AlbDevice.getStickiness
  cases device.group tgArn with
  | none => simp
  | some group => cases enabled : group.stickiness.enabled <;> simp [Option.filter, enabled]

/-- Ways to choose: by the cookie, in turn, or nobody. -/
inductive Choice (texts : Texts) (balancer : Balancer) (visit : Visit) (tgArn : String) :
    Balancer → Visit → Prop where
  | pinned (address : Address) (duration : Option Int) (sticky : Sticky balancer.device tgArn)
      (cookie : visit.pinned texts balancer tgArn = some address) :
      Choice texts balancer visit tgArn balancer
        { visit with stage := .selected duration, member := some address }
  | next (address : Address) (duration : Option Int) (after : Balancer)
      (free : Sticky balancer.device tgArn → visit.pinned texts balancer tgArn = none)
      (turn : Turn balancer after visit.probe tgArn address) :
      Choice texts balancer visit tgArn after
        { visit with stage := .selected duration, member := some address }
  | nobody (none : ∀ address, ¬ Eligible balancer.device visit.probe tgArn address) :
      Choice texts balancer visit tgArn balancer
        { visit with stage := .refused, output := serviceUnavailable }

theorem choice_choose : Choice texts balancer visit tgArn (visit.choose texts balancer tgArn).1
    (visit.choose texts balancer tgArn).2 := by
  unfold Visit.choose
  dsimp only
  split
  case h_1 address pin =>
      split at pin
      case isTrue => cases pin
      case isFalse sticky => exact .pinned address _ (sticky_iff.mpr sticky) pin
  case h_2 pin =>
      have free : Sticky balancer.device tgArn → visit.pinned texts balancer tgArn = none := by
        intro sticky
        rwa [if_neg (sticky_iff.mp sticky)] at pin
      rcases selectMember_cases balancer visit.probe tgArn with ⟨nobody, none⟩ | ⟨address, next, turn⟩
      · rw [nobody]
        exact .nobody none
      · rw [next]
        exact .next address _ _ free turn

theorem headerBlock_of_sends {request : Bytes}
    (read : Enough visit.buf ∨ visit.finished = true ∧ visit.waiting = [])
    (sends : visit.Sends request) (whole : Whole request) :
    headerBlock request = headerBlock visit.buf := by
  obtain ⟨later, last, rfl⟩ := sends
  obtain ⟨block, rest, cut, within⟩ := whole
  unfold headerBlock
  rw [cut]
  cases uncut : cutAt blankLine visit.buf with
  | some parts =>
    rw [cutAt_append uncut] at cut
    cases cut
    rfl
  | none =>
    have room := room_of_uncut (by decide) uncut cut
    rcases read with (found | long) | ⟨finished, empty⟩
    · exact absurd uncut found
    · omega
    · rw [empty, last finished, append_nil, append_nil, uncut] at cut
      cases cut

/-- A member is pinned if the header block that was read names it and it may be chosen. -/
theorem pinned_eq_some : visit.pinned texts balancer tgArn = some address ↔
      Named texts visit.buf address ∧ Eligible balancer.device visit.probe tgArn address := by
  unfold pinned Named
  rw [cookie_parseRequest]
  cases (stickyCookie (headerBlock visit.buf)).bind (decodeMember texts.digits) with
  | none => simp
  | some candidate =>
    dsimp only
    rw [← mem_getHealthyMembers, some_inj]
    constructor
    · intro found
      split at found
      case isTrue healthy =>
          cases found
          exact ⟨rfl, healthy⟩
      case isFalse => cases found
    · rintro ⟨rfl, healthy⟩
      exact if_pos healthy

theorem Choice.chosen {after : Balancer} {next : Visit}
    (choice : Choice texts balancer visit tgArn after next)
    (read : Enough visit.buf ∨ visit.finished = true ∧ visit.waiting = [])
    (changed : next.member ≠ visit.member) :
    ∃ address, next.member = some address ∧ Chosen texts balancer after visit tgArn address := by
  have block : ∀ {request named}, visit.Sends request → Whole request →
      (Named texts request named ↔ Named texts visit.buf named) := by
    intro request named sends whole
    rw [Named, Named, headerBlock_of_sends read sends whole]
  cases choice with
  | pinned address duration sticky cookie =>
    obtain ⟨names, eligible⟩ := pinned_eq_some.mp cookie
    refine ⟨address, rfl, eligible, ?_, ?_⟩
    · intro _ request sends whole named also _
      exact some_inj.mp (names.symm.trans ((block sends whole).mp also))
    · intro request sends free
      obtain ⟨whole, none⟩ := free sticky
      exact absurd eligible (none address ((block sends whole).mpr names))
  | next address duration after free turn =>
    refine ⟨address, rfl, turn.eligible, ?_, fun _ _ _ => turn⟩
    intro sticky request sends whole named names eligible
    have pinned := pinned_eq_some.mpr ⟨(block sends whole).mp names, eligible⟩
    rw [free sticky] at pinned
    cases pinned
  | nobody none => exact absurd rfl changed

end Choices

/-! ## One thread -/

/-- What is true of a thread between its steps. -/
structure Visit.Sound (texts : Texts) (visit : Visit) : Prop where
  read : visit.stage = .reading ∨ visit.stage = .refused ∨ Enough visit.buf ∨
    visit.finished = true ∧ visit.waiting = []
  port : ∀ address, visit.member = some address → 0 ≤ address.2 ∧ address.2 ≤ 65535
  served : ∀ duration, visit.stage = .selected duration → visit.member ≠ none
  serving : ∀ duration, visit.stage = .collecting duration → visit.member ≠ none
  relayed : visit.Relayed texts

section Threads

variable {texts : Texts} {proxy : ListenerProxy} {balancer : Balancer} {visit : Visit}

theorem sound_fresh (probe : Probe) : Visit.Sound texts { probe := probe } :=
  ⟨.inl rfl, nofun, nofun, nofun, rfl, rfl⟩

/-- Ports of members that may be chosen are short. -/
theorem Eligible.port {device : AlbDevice} {probe : Probe} {tgArn : String}
    (eligible : Eligible device probe tgArn address) : 0 ≤ address.2 ∧ address.2 ≤ 65535 := by
  obtain ⟨group, -, member, -, -, healthy, rfl⟩ := eligible
  exact probe.port _ _ _ _ healthy

theorem short_numeral {port : Int} (least : 0 ≤ port) (most : port ≤ 65535) :
    (numeral port.natAbs).length ≤ mostDigits := by
  have few : (numeral port.natAbs).length ≤ 5 :=
    (length_toDigits_le_iff (by decide) (by decide)).mpr (by omega)
  exact few.trans (by decide)

theorem relayed_injectCookie (least : 0 ≤ address.2) (most : address.2 ≤ 65535) (duration : Int)
    (response : Bytes) :
    injectCookie address duration response = response ∨
      WithCookie texts address response (injectCookie address duration response) := by
  unfold injectCookie
  cases cut : cutAt blankLine response with
  | none => exact .inl rfl
  | some parts =>
    refine .inr ⟨parts.1, parts.2, encodeMember address, duration, (cutAt_eq cut).symm, ?_,
      decode_encodeMember texts.digits (short_numeral least most)⟩
    simp only [append_assoc]

theorem WithCookie.append {response output : Bytes}
    (cookie : WithCookie texts address response output) (more : Bytes) :
    WithCookie texts address (response ++ more) (output ++ more) := by
  obtain ⟨block, rest, token, duration, rfl, rfl, decodes⟩ := cookie
  exact ⟨block, rest ++ more, token, duration, by simp only [append_assoc],
    by simp only [append_assoc], decodes⟩

section

variable (sound : visit.Sound texts)
include sound

/-- The request was read before anything is selected for it. -/
theorem Visit.Sound.past (notReading : visit.stage ≠ .reading)
    (notRefused : visit.stage ≠ .refused) :
    Enough visit.buf ∨ visit.finished = true ∧ visit.waiting = [] :=
  (sound.read.resolve_left notReading).resolve_left notRefused

theorem sound_send (bytes : Bytes) :
    (visit.act texts proxy balancer (.send bytes)).2.Sound texts := by
  unfold act
  dsimp only
  split
  case isTrue => exact sound
  case isFalse more =>
      refine ⟨?_, sound.port, sound.served, sound.serving, sound.relayed⟩
      rcases sound.read with reading | refused | enough | ⟨finished, -⟩
      · exact .inl reading
      · exact .inr (.inl refused)
      · exact .inr (.inr (.inl enough))
      · exact absurd finished more

theorem sound_finish : (visit.act texts proxy balancer .finish).2.Sound texts := by
  refine ⟨?_, sound.port, sound.served, sound.serving, sound.relayed⟩
  rcases sound.read with reading | refused | enough | ⟨-, empty⟩
  · exact .inl reading
  · exact .inr (.inl refused)
  · exact .inr (.inr (.inl enough))
  · exact .inr (.inr (.inr ⟨rfl, empty⟩))

theorem sound_receive (size : Nat) :
    (visit.act texts proxy balancer (.receive size)).2.Sound texts := by
  unfold act
  dsimp only
  split
  case isFalse => exact sound
  case isTrue reading =>
      have early := sound.relayed
      unfold Visit.Relayed at early
      rw [reading] at early
      unfold receive
      split
      case isTrue empty =>
          split
          case isFalse => exact sound
          case isTrue finished =>
              split
              case isTrue => exact ⟨.inr (.inl rfl), sound.port, nofun, nofun, early.1⟩
              case isFalse =>
                  exact ⟨.inr (.inr (.inr ⟨finished, empty⟩)), sound.port, nofun, nofun, early⟩
      case isFalse =>
          dsimp only
          split
          case isTrue enough =>
              exact ⟨.inr (.inr (.inl enough)), sound.port, nofun, nofun, early⟩
          case isFalse => exact ⟨.inl rfl, sound.port, nofun, nofun, early⟩

theorem sound_fail : (visit.act texts proxy balancer .fail).2.Sound texts := by
  unfold act
  dsimp only
  split
  case isFalse => exact sound
  case isTrue reading =>
      have early := sound.relayed
      unfold Visit.Relayed at early
      rw [reading] at early
      exact ⟨.inr (.inl rfl), sound.port, nofun, nofun, early.1⟩

theorem sound_route : (visit.act texts proxy balancer .route).2.Sound texts := by
  unfold act
  dsimp only
  split
  case isFalse => exact sound
  case isTrue ready =>
      have early := sound.relayed
      unfold Visit.Relayed at early
      rw [ready] at early
      have past := sound.past (by rw [ready]; decide) (by rw [ready]; decide)
      exact ⟨.inr (.inr past), sound.port, nofun, nofun, early⟩

end

theorem Choice.sound {tgArn : String} {after : Balancer} {next : Visit}
    (choice : Choice texts balancer visit tgArn after next) (sound : visit.Sound texts)
    (routed : visit.stage = .routed (some tgArn)) : next.Sound texts := by
  have early := sound.relayed
  unfold Visit.Relayed at early
  rw [routed] at early
  have past := sound.past (by rw [routed]; exact nofun) (by rw [routed]; exact nofun)
  have selected : ∀ (address : Address) (duration : Option Int),
      Eligible balancer.device visit.probe tgArn address →
        Visit.Sound texts { visit with stage := .selected duration, member := some address } := by
    intro address duration eligible
    refine ⟨.inr (.inr past), ?_, fun _ _ => some_ne_none _, nofun, early⟩
    rintro other ⟨⟩
    exact eligible.port
  cases choice with
  | pinned address duration _ cookie =>
    exact selected address duration (pinned_eq_some.mp cookie).2
  | next address duration after _ turn => exact selected address duration turn.eligible
  | nobody => exact ⟨.inr (.inl rfl), sound.port, nofun, nofun, early.1⟩

section

variable (sound : visit.Sound texts)
include sound

theorem sound_choose : (visit.act texts proxy balancer .choose).2.Sound texts := by
  unfold act
  dsimp only
  split
  case h_1 tgArn routed => exact choice_choose.sound sound routed
  case h_2 routed =>
      have early := sound.relayed
      unfold Visit.Relayed at early
      rw [routed] at early
      exact ⟨.inr (.inl rfl), sound.port, nofun, nofun, early.1⟩
  case h_3 => exact sound

theorem sound_connect (accepted : Bool) :
    (visit.act texts proxy balancer (.connect accepted)).2.Sound texts := by
  have early := sound.relayed
  unfold Visit.Relayed at early
  unfold act
  dsimp only
  split
  case h_1 duration selected =>
      rw [selected] at early
      have past := sound.past (by rw [selected]; exact nofun) (by rw [selected]; exact nofun)
      exact ⟨.inr (.inr past), sound.port, nofun, fun _ _ => sound.served _ selected, early.2⟩
  case h_2 selected =>
      rw [selected] at early
      have past := sound.past (by rw [selected]; exact nofun) (by rw [selected]; exact nofun)
      obtain ⟨address, member⟩ := ne_none_iff_exists'.mp (sound.served _ selected)
      exact ⟨.inr (.inr past), sound.port, nofun, nofun,
        ⟨address, member, .inl (early.2.trans early.1.symm)⟩⟩
  case h_3 selected =>
      rw [selected] at early
      exact ⟨.inr (.inl rfl), sound.port, nofun, nofun, early.1⟩
  case h_4 => exact sound

/-- A member serves what was read of its response, with the cookie. -/
theorem sound_flush {duration : Int} (collecting : visit.stage = .collecting duration) :
    (visit.flush duration).Sound texts := by
  have past := sound.past (by rw [collecting]; exact nofun) (by rw [collecting]; exact nofun)
  obtain ⟨address, member⟩ := ne_none_iff_exists'.mp (sound.serving _ collecting)
  obtain ⟨least, most⟩ := sound.port address member
  refine ⟨.inr (.inr past), sound.port, nofun, nofun, ⟨address, member, ?_⟩⟩
  unfold flush
  dsimp only
  rw [member]
  exact relayed_injectCookie least most duration visit.response

theorem sound_reply (chunk : Bytes) :
    (visit.act texts proxy balancer (.reply chunk)).2.Sound texts := by
  have early := sound.relayed
  unfold Visit.Relayed at early
  unfold act
  dsimp only
  split
  case h_1 duration collecting =>
      rw [collecting] at early
      have more : Visit.Sound texts { visit with response := visit.response ++ chunk } := by
        refine ⟨sound.read, sound.port, sound.served, sound.serving, ?_⟩
        unfold Visit.Relayed
        dsimp only
        rw [collecting]
        exact early
      split
      case isTrue => exact sound_flush more collecting
      case isFalse => exact more
  case h_2 pumping =>
      rw [pumping] at early
      refine ⟨sound.read, sound.port, sound.served, sound.serving, ?_⟩
      unfold Visit.Relayed
      dsimp only
      rw [pumping]
      obtain ⟨address, member, same | cookie⟩ := early
      · exact ⟨address, member, .inl (by rw [same])⟩
      · exact ⟨address, member, .inr (cookie.append chunk)⟩
  case h_3 => exact sound

theorem sound_silence : (visit.act texts proxy balancer .silence).2.Sound texts := by
  unfold act
  dsimp only
  split
  case h_1 duration collecting => exact sound_flush sound collecting
  case h_2 pumping =>
      have early := sound.relayed
      unfold Visit.Relayed at early
      rw [pumping] at early
      have past := sound.past (by rw [pumping]; exact nofun) (by rw [pumping]; exact nofun)
      exact ⟨.inr (.inr past), sound.port, nofun, nofun, early⟩
  case h_3 => exact sound

/-- Every step of a thread keeps what is true of it. -/
theorem sound_act (action : Action) : (visit.act texts proxy balancer action).2.Sound texts := by
  cases action with
  | send bytes => exact sound_send sound bytes
  | finish => exact sound_finish sound
  | receive size => exact sound_receive sound size
  | fail => exact sound_fail sound
  | route => exact sound_route sound
  | choose => exact sound_choose sound
  | connect accepted => exact sound_connect sound accepted
  | reply chunk => exact sound_reply sound chunk
  | silence => exact sound_silence sound

end

theorem act_cases (action : Action) : (visit.act texts proxy balancer action).1 = balancer ∧
      (visit.act texts proxy balancer action).2.member = visit.member ∨
    ∃ tgArn, action = .choose ∧ visit.stage = .routed (some tgArn) ∧
      visit.act texts proxy balancer action = visit.choose texts balancer tgArn := by
  cases action with
  | send bytes =>
    refine .inl ⟨rfl, ?_⟩
    unfold act
    dsimp only
    split <;> rfl
  | finish => exact .inl ⟨rfl, rfl⟩
  | receive size =>
    refine .inl ⟨rfl, ?_⟩
    unfold act receive
    dsimp only
    split
    case isFalse => rfl
    case isTrue =>
        split
        case isFalse => rfl
        case isTrue => split <;> [split <;> rfl; rfl]
  | fail =>
    refine .inl ⟨rfl, ?_⟩
    unfold act
    dsimp only
    split <;> rfl
  | route =>
    refine .inl ⟨rfl, ?_⟩
    unfold act
    dsimp only
    split <;> rfl
  | choose =>
    unfold act
    dsimp only
    split
    case h_1 tgArn routed => exact .inr ⟨tgArn, rfl, routed, rfl⟩
    case h_2 => exact .inl ⟨rfl, rfl⟩
    case h_3 => exact .inl ⟨rfl, rfl⟩
  | connect accepted =>
    refine .inl ⟨rfl, ?_⟩
    unfold act
    dsimp only
    split <;> rfl
  | reply chunk =>
    refine .inl ⟨rfl, ?_⟩
    unfold act
    dsimp only
    split
    case h_1 => split <;> rfl
    case h_2 => rfl
    case h_3 => rfl
  | silence =>
    refine .inl ⟨rfl, ?_⟩
    unfold act
    dsimp only
    split <;> rfl

end Threads

/-! ## Every interleaving -/

section Interleavings

variable {texts : Texts} {proxy : ListenerProxy} {frontend : Frontend}

/-- What is true of each thread. -/
def AllSound (texts : Texts) (frontend : Frontend) : Prop :=
  ∀ visit ∈ frontend.locals, visit.Sound texts

theorem thread_step {occurrence : Occurrence} {id : Nat} {before after : Visit}
    (here : frontend.locals[id]? = some before)
    (there : (frontend.step texts proxy occurrence).locals[id]? = some after) :
    after = before ∨ ∃ action, occurrence = .act id action ∧
      ((frontend.step texts proxy occurrence).shared, after) =
        before.act texts proxy frontend.shared action := by
  cases occurrence with
  | accept probe =>
    left
    have inside : id < frontend.locals.length := (List.getElem?_eq_some_iff.mp here).1
    have kept : (frontend.locals ++ [{ probe := probe }])[id]? = some after := there
    rw [getElem?_append_left inside, here] at kept
    exact (some_inj.mp kept).symm
  | configure device =>
    left
    exact some_inj.mp (there.symm.trans here)
  | act moving action =>
    by_cases same : moving = id
    · right
      subst same
      refine ⟨action, rfl, ?_⟩
      have moved := there.symm.trans (Threads.getElem?_step here)
      rw [some_inj.mp moved]
      exact congrArg (fun shared => (shared, _)) (Threads.shared_step here)
    · left
      have kept := there.symm.trans (Threads.getElem?_step_of_ne (Ne.symm same))
      exact (some_inj.mp (kept.trans here))

theorem allSound_step (sound : AllSound texts frontend) (occurrence : Occurrence) :
    AllSound texts (frontend.step texts proxy occurrence) := by
  cases occurrence with
  | accept probe =>
    intro visit inside
    rcases mem_append.mp inside with old | fresh
    · exact sound visit old
    · rw [mem_singleton.mp fresh]
      exact sound_fresh probe
  | configure device => exact sound
  | act id action =>
    exact Threads.forall_step (fun _ _ here => sound_act here action) sound

/-- Positions are moved by choices in turn only. -/
theorem turns_step (occurrence : Occurrence) :
    (frontend.step texts proxy occurrence).shared.rrIndex = frontend.shared.rrIndex ∨
      ∃ id visit tgArn address, occurrence = .act id .choose ∧
        frontend.locals[id]? = some visit ∧ visit.stage = .routed (some tgArn) ∧
          Turn frontend.shared (frontend.step texts proxy occurrence).shared visit.probe tgArn
            address := by
  cases occurrence with
  | accept probe => exact .inl rfl
  | configure device => exact .inl rfl
  | act id action =>
    cases found : frontend.locals[id]? with
    | none =>
      have still : frontend.step texts proxy (.act id action) = frontend := by
        rw [step]
        exact Threads.step_of_none found
      exact .inl (by rw [still])
    | some visit =>
      have shared : (frontend.step texts proxy (.act id action)).shared =
          (visit.act texts proxy frontend.shared action).1 := Threads.shared_step found
      rw [shared]
      rcases @act_cases texts proxy frontend.shared visit action with
        ⟨same, -⟩ | ⟨tgArn, rfl, routed, chooses⟩
      · exact .inl (by rw [same])
      · rw [chooses]
        have choice := @choice_choose texts frontend.shared visit tgArn
        revert choice
        generalize visit.choose texts frontend.shared tgArn = result
        intro choice
        obtain ⟨after, next⟩ := result
        cases choice with
        | pinned => exact .inl rfl
        | next address _ _ _ turn => exact .inr ⟨id, visit, tgArn, address, rfl, found, routed, turn⟩
        | nobody => exact .inl rfl

theorem AllSound.serves (sound : AllSound texts frontend) : Serves texts proxy frontend where
  chosen := by
    intro occurrence id before after here there changed
    have read := (sound before (mem_of_getElem? here)).past
    rcases thread_step here there with same | ⟨action, rfl, moved⟩
    · exact absurd (congrArg member same) changed
    · have shared : (frontend.step texts proxy (.act id action)).shared =
          (before.act texts proxy frontend.shared action).1 := congrArg Prod.fst moved
      have same : after = (before.act texts proxy frontend.shared action).2 :=
        congrArg Prod.snd moved
      rw [same] at changed
      rcases @act_cases texts proxy frontend.shared before action with
        ⟨-, kept⟩ | ⟨tgArn, rfl, routed, chooses⟩
      · exact absurd kept changed
      · rw [chooses] at changed shared same
        have past := read (by rw [routed]; exact nofun) (by rw [routed]; exact nofun)
        obtain ⟨address, member, chosen⟩ := choice_choose.chosen past changed
        exact ⟨tgArn, address, routed, by rw [same, member], by rw [shared]; exact chosen⟩
  turns := turns_step
  relayed visit inside := (sound visit inside).relayed

end Interleavings

def stickyArn : String :=
  "arn:aws:elasticloadbalancing:us-east-1:123456789012:targetgroup/t/62aad09cfc6632d5"

def stickyDevice : AlbDevice where
  hostname := "h"
  vip := "1.1.1.1"
  targetGroups := OrderedMap.empty.insert stickyArn {
    name := "t", protocol := "HTTP", port := 80, targetType := "ip"
    healthCheck := { protocol := "HTTP", path := "/", interval := 30, healthyThreshold := 3
                     unhealthyThreshold := 3 }
    members := [{ ip := "10.0.0.1", port := 80 }, { ip := "10.0.0.2", port := 80 }]
    stickiness := { enabled := true } }
  objects := [{ lbArn := "", protocol := "HTTP", port := 80, defaultTgArn := some stickyArn }]

def stickyTexts : Texts := plainTexts id

def stickyProxy : ListenerProxy := ⟨"1.1.1.1", 80, 0⟩

/-- All targets are healthy. -/
def allHealthy : Probe where
  passes _ _ port _ := decide (0 ≤ port ∧ port ≤ 65535)
  port _ _ _ _ healthy := of_decide_eq_true healthy

def requestLine : Bytes := Utf8.encode "GET / HTTP/1.1"

def longLine (count : Nat) : Bytes := 88 :: 58 :: 32 :: List.replicate count 97

def stickyLine : Bytes := Utf8.encode "Cookie: AWSALB=10.0.0.2:80"

/-- As many bytes as are read for a header block. -/
def seenPart : Bytes := requestLine ++ (lineEnd ++ longLine 65517)

/-- A request with a long header line before its cookie. -/
def longRequest : Bytes := seenPart ++ (lineEnd ++ (stickyLine ++ blankLine))

theorem plain_requestLine : 13 ∉ requestLine := by decide +kernel

theorem plain_stickyLine : 13 ∉ stickyLine := by decide +kernel

theorem plain_longLine (count : Nat) : 13 ∉ longLine count := by
  intro inside
  simp only [longLine, mem_cons, mem_replicate] at inside
  rcases inside with same | same | same | ⟨-, same⟩ <;> exact absurd same (by decide)

theorem length_longLine (count : Nat) : (longLine count).length = count + 3 := by
  simp only [longLine, length_cons, length_replicate]

theorem length_seenPart : seenPart.length = headerLimit := by
  have line : requestLine.length = 14 := by decide +kernel
  have ends : lineEnd.length = 2 := rfl
  rw [seenPart, length_append, length_append, line, ends, length_longLine, headerLimit]

theorem uncut_seenPart : cutAt blankLine seenPart = none := by
  have line := cutAt_blankLine_append (plain_longLine 65517) []
  rw [append_nil] at line
  rw [seenPart, cutAt_blankLine_append plain_requestLine, longLine,
    cutAt_blankLine_lineEnd (by decide), ← longLine, line]
  rfl

theorem cut_longRequest :
    cutAt blankLine longRequest = some (seenPart ++ (lineEnd ++ stickyLine), []) := by
  have last : cutAt blankLine (stickyLine ++ blankLine) = some (stickyLine, []) := by
    rw [cutAt_blankLine_append plain_stickyLine]
    exact congrArg some (Prod.ext (append_nil _) rfl)
  have visible : stickyLine = 67 :: stickyLine.tail := by decide +kernel
  rw [longRequest, seenPart, append_assoc, append_assoc,
    cutAt_blankLine_append plain_requestLine, longLine, cons_append,
    cutAt_blankLine_lineEnd (by decide), ← cons_append, ← longLine,
    cutAt_blankLine_append (plain_longLine 65517), visible, cons_append,
    cutAt_blankLine_lineEnd (by decide), ← cons_append, ← visible, last]
  simp only [map_some, append_assoc]

theorem named_longRequest : Named stickyTexts longRequest ("10.0.0.2", 80) := by
  have block : headerBlock longRequest =
      requestLine ++ (lineEnd ++ (longLine 65517 ++ (lineEnd ++ stickyLine))) := by
    rw [headerBlock, cut_longRequest, seenPart, append_assoc, append_assoc]
    rfl
  have lines : linesOf (headerBlock longRequest) = [requestLine, longLine 65517, stickyLine] := by
    rw [block, linesOf_append plain_requestLine, linesOf_append (plain_longLine 65517),
      linesOf_plain plain_stickyLine]
  have cookie : stickyCookie (headerBlock longRequest) = some "10.0.0.2:80" := by
    have other : hasName "cookie:" (longLine 65517) = false := rfl
    have own : hasName "cookie:" stickyLine = true := by decide +kernel
    have pairs : cookiePairs (headerValue stickyLine) = [("AWSALB", "10.0.0.2:80")] := by
      decide +kernel
    rw [stickyCookie, blockCookies, lines, drop_one, tail_cons, filter_cons, other,
      filter_cons, own]
    simp [pairs]
  have reads : decodeMember stickyTexts.digits "10.0.0.2:80" = some ("10.0.0.2", 80) := by
    decide +kernel
  rw [Named, cookie]
  exact reads

theorem unnamed_seenPart : stickyCookie (headerBlock seenPart) = none := by
  have block : headerBlock seenPart = seenPart := by
    rw [headerBlock, uncut_seenPart]
    rfl
  have other : hasName "cookie:" (longLine 65517) = false := rfl
  rw [block, seenPart, stickyCookie, blockCookies, linesOf_append plain_requestLine,
    linesOf_plain (plain_longLine 65517), drop_one, tail_cons, filter_cons, other]
  rfl

def readingVisit (parts : Nat) : Visit where
  probe := allHealthy
  waiting := longRequest.drop (4096 * parts)
  buf := longRequest.take (4096 * parts)
  stage := if parts = 16 then .ready else .reading

theorem take_longRequest : longRequest.take headerLimit = seenPart := by
  rw [longRequest, take_left' length_seenPart]

theorem enough_iff {parts : Nat} (most : parts ≤ 16) :
    Enough (longRequest.take (4096 * parts)) ↔ parts = 16 := by
  have within : 4096 * parts ≤ seenPart.length := by
    rw [length_seenPart, headerLimit]
    omega
  have uncut : cutAt blankLine (longRequest.take (4096 * parts)) = none := by
    have whole := uncut_seenPart
    rw [← take_append_drop (4096 * parts) seenPart] at whole
    rw [longRequest, take_append_of_le_length within]
    exact cutAt_eq_none_of_append whole
  have length : (longRequest.take (4096 * parts)).length = 4096 * parts := by
    rw [longRequest, take_append_of_le_length within, length_take_of_le within]
  rw [Enough, uncut, length, headerLimit]
  constructor
  · rintro (found | many)
    · exact absurd rfl found
    · omega
  · rintro rfl
    exact .inr (by decide)

theorem receive_readingVisit {parts : Nat} (more : parts < 16) :
    (readingVisit parts).act stickyTexts stickyProxy { device := stickyDevice } (.receive 4096) =
      ({ device := stickyDevice }, readingVisit (parts + 1)) := by
  have left : longRequest.drop (4096 * parts) ≠ [] := by
    have length := length_seenPart
    rw [headerLimit] at length
    rw [Ne, drop_eq_nil_iff, longRequest, length_append]
    omega
  have buf : longRequest.take (4096 * parts) ++ (longRequest.drop (4096 * parts)).take 4096 =
      longRequest.take (4096 * (parts + 1)) := by
    rw [mul_succ, take_add]
  unfold act
  dsimp only
  rw [if_pos (show (readingVisit parts).stage = .reading from if_neg (Nat.ne_of_lt more))]
  unfold receive readingVisit
  dsimp only
  rw [if_neg left, show max 1 (min 4096 4096) = 4096 from rfl, buf, drop_drop, mul_succ]
  simp only [← mul_succ, enough_iff more]

/-- A listener with one thread. -/
def stickyFrontend (visit : Visit) : Frontend := ⟨{ device := stickyDevice }, [visit]⟩

/-- A thread that leaves the positions takes its step alone. -/
theorem step_stickyFrontend {visit next : Visit} {action : Action}
    (moved : visit.act stickyTexts stickyProxy { device := stickyDevice } action =
      ({ device := stickyDevice }, next)) :
    (stickyFrontend visit).step stickyTexts stickyProxy (.act 0 action) = stickyFrontend next := by
  have alone : (stickyFrontend visit).step stickyTexts stickyProxy (.act 0 action) =
      ⟨(visit.act stickyTexts stickyProxy { device := stickyDevice } action).1,
        [(visit.act stickyTexts stickyProxy { device := stickyDevice } action).2]⟩ := rfl
  rw [alone, moved]
  rfl

theorem read_longRequest (parts : Nat) (most : parts ≤ 16) :
    runFrom (step stickyTexts stickyProxy) (stickyFrontend (readingVisit 0))
      (List.replicate parts (.act 0 (.receive 4096))) = stickyFrontend (readingVisit parts) := by
  induction parts with
  | zero => rw [replicate_zero, runFrom_nil]
  | succ parts ih =>
    rw [replicate_succ', runFrom_append, ih (le_of_lt most), runFrom_cons, runFrom_nil,
      step_stickyFrontend (receive_readingVisit most)]

/-- The request is sent, read and routed. -/
def longOccurrences : List Occurrence :=
  [.accept allHealthy, .act 0 (.send longRequest)] ++
    (List.replicate 16 (.act 0 (.receive 4096)) ++ [.act 0 .route])

def routedVisit : Visit := { readingVisit 16 with stage := .routed (some stickyArn) }

theorem sent_longRequest : runFrom (step stickyTexts stickyProxy) (startFrontend stickyDevice)
      [.accept allHealthy, .act 0 (.send longRequest)] = stickyFrontend (readingVisit 0) := by
  have sent : ∀ request : Bytes, runFrom (step stickyTexts stickyProxy) (startFrontend stickyDevice)
        [.accept allHealthy, .act 0 (.send request)] =
          stickyFrontend { probe := allHealthy, waiting := request } := fun _ => rfl
  rw [sent, readingVisit, Nat.mul_zero, drop_zero, take_zero, if_neg (by decide)]

theorem route_longRequest :
    (readingVisit 16).act stickyTexts stickyProxy { device := stickyDevice } .route =
      ({ device := stickyDevice }, routedVisit) := by
  have target : ∀ path host : String,
      stickyDevice.selectTg stickyTexts.letters stickyProxy path host = some stickyArn := by
    intro path host
    unfold AlbDevice.selectTg
    change (List.findSome? _ (List.mergeSort [] _)).getD (some stickyArn) = _
    rw [mergeSort_nil]
    rfl
  have ready : (readingVisit 16).stage = .ready := by
    unfold readingVisit
    rw [if_pos rfl]
  unfold act
  dsimp only
  rw [target, if_pos ready, routedVisit]

theorem run_longOccurrences :
    runFrom (step stickyTexts stickyProxy) (startFrontend stickyDevice) longOccurrences =
      stickyFrontend routedVisit := by
  rw [longOccurrences, runFrom_append, sent_longRequest, runFrom_append,
    read_longRequest 16 (le_refl 16), runFrom_cons, runFrom_nil,
    step_stickyFrontend route_longRequest]

/-- A client without a known cookie gets the first member. -/
theorem choose_first {visit : Visit} (probe : visit.probe = allHealthy)
    (free : visit.pinned stickyTexts { device := stickyDevice } stickyArn = none) :
    (visit.choose stickyTexts { device := stickyDevice } stickyArn).2.member =
      some ("10.0.0.1", 80) := by
  have chosen : (Balancer.selectMember { device := stickyDevice } allHealthy stickyArn).2 =
      some ("10.0.0.1", 80) := by decide +kernel
  unfold Visit.choose
  dsimp only
  rw [free, ite_self, probe]
  dsimp only
  rw [chosen]

end NetLab.Alb
