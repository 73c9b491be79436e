import NetLab.Bgp.External

/-!
# Discipline of external sessions

`BgpSessionHandler.run` reads messages off a stream of bytes. It passes over their markers, takes any
length, opens the session for any OPEN and applies an UPDATE in any state. `session_disciplined` says
which messages keep a session to the rules nevertheless.
-/

namespace NetLab.Bgp

open List

open NetLab.Library NetLab.Network NetLab.Execution

variable {deviceId peerKey : String}

/-! ## Messages of a stream -/

/-- A message as it is read. -/
structure Message where
  marker : List UInt8
  length : Nat
  type : UInt8
  body : List UInt8

/-- The next message of a stream and the bytes behind it. No body is read for a length below that of
the header. -/
def nextMessage (stream : List UInt8) : Option (Message × List UInt8) :=
  let header := stream.take 19
  let length := bigEndianValue ((header.drop 16).take 2)
  let bodyLength := length - 19
  let rest := stream.drop 19
  if header.length < 19 then none
  else if rest.length < bodyLength then none
  else
    some (⟨header.take 16, length, (header.drop 18).headD 0, rest.take bodyLength⟩,
      rest.drop bodyLength)

theorem length_nextMessage {stream rest : List UInt8} {message : Message}
    (next : nextMessage stream = some (message, rest)) : rest.length < stream.length := by
  unfold nextMessage at next
  dsimp only at next
  split_ifs at next
  case neg whole _ =>
      obtain ⟨-, rfl⟩ := Prod.mk.inj (Option.some.inj next)
      rw [length_take] at whole
      rw [length_drop, length_drop]
      omega

/-- The messages of a stream, up to one that does not come whole. -/
def messages (stream : List UInt8) : List Message :=
  match _next : nextMessage stream with
  | none => []
  | some (message, rest) => message :: messages rest
termination_by stream.length
decreasing_by exact length_nextMessage _next

theorem messages_of_none {stream : List UInt8} (next : nextMessage stream = none) :
    messages stream = [] := by
  rw [messages]
  split
  case h_1 => rfl
  case h_2 => simp_all

theorem messages_of_some {stream rest : List UInt8} {message : Message}
    (next : nextMessage stream = some (message, rest)) :
    messages stream = message :: messages rest := by
  rw [messages]
  split
  case h_1 => simp_all
  case h_2 found => simp_all

/-- `_build_header`, with the body that it is built for. -/
def buildHeader (type : UInt8) (body : List UInt8) : List UInt8 :=
  List.replicate 16 0xff ++ (bigEndian 2 (19 + body.length) ++ type :: body)

/-- The message that `buildHeader` builds. -/
def Message.built (type : UInt8) (body : List UInt8) : Message :=
  ⟨List.replicate 16 0xff, 19 + body.length, type, body⟩

theorem messages_buildHeader (type : UInt8) {body : List UInt8} (short : 19 + body.length < 65536)
    (rest : List UInt8) :
    messages (buildHeader type body ++ rest) = .built type body :: messages rest := by
  apply messages_of_some
  have shape : buildHeader type body ++ rest = (List.replicate 16 0xff ++
      (bigEndian 2 (19 + body.length) ++ [type])) ++ (body ++ rest) := by
    simp [buildHeader]
  have size : (List.replicate 16 (0xff : UInt8) ++
      (bigEndian 2 (19 + body.length) ++ [type])).length = 19 := by simp
  have length : bigEndianValue (bigEndian 2 (19 + body.length)) = 19 + body.length := by
    rw [bigEndianValue_bigEndian]
    exact Nat.mod_eq_of_lt short
  unfold nextMessage
  dsimp only
  rw [shape, take_left' size, drop_left' size, if_neg (by omega),
    drop_left' (length_replicate ..), take_left' (length_bigEndian 2 _), length,
    Nat.add_sub_cancel_left, if_neg (by simp), take_left' (length_replicate ..),
    take_left' rfl, drop_left' rfl]
  have last : (List.replicate 16 (0xff : UInt8) ++ (bigEndian 2 (19 + body.length) ++ [type])).drop
      18 = [type] := by
    rw [← append_assoc]
    exact drop_left' (by simp)
  rw [last]
  rfl

/-- What the handler makes of a message. -/
def Message.received (message : Message) : Received := .message message.type message.body

namespace BgpSessionHandler

/-- The handler of a connection on which a stream comes in, up to the end of the session. A reply
that cannot be written ends the stream there. -/
def runStream (handler : BgpSessionHandler) (stream : List UInt8) : BgpSessionHandler :=
  if handler.closed then handler
  else
    match _next : nextMessage stream with
    | none => handler.receive .lost
    | some (message, rest) => (handler.receive message.received).runStream rest
termination_by stream.length
decreasing_by exact length_nextMessage _next

variable (handler : BgpSessionHandler)

def take (message : Message) : BgpSessionHandler := handler.receive message.received

theorem receive_of_closed {handler : BgpSessionHandler} (closed : handler.closed = true)
    (received : Received) : handler.receive received = handler := by
  cases received <;> exact if_pos closed

theorem runStream_eq (stream : List UInt8) :
    handler.runStream stream = (runFrom take handler (messages stream)).receive .lost := by
  induction size : stream.length using Nat.strong_induction_on generalizing handler stream with
  | h size ih =>
    rw [runStream]
    split
    case isTrue closed =>
        have stays : ∀ taken, runFrom take handler taken = handler := by
          intro taken
          induction taken with
          | nil => rfl
          | cons message later ih =>
            rw [runFrom_cons, take, receive_of_closed closed, ih]
        rw [stays, receive_of_closed closed]
    case isFalse =>
        split
        case h_1 next => rw [messages_of_none next, runFrom_nil]
        case h_2 message rest next =>
            rw [messages_of_some next, runFrom_cons]
            exact ih rest.length (size ▸ length_nextMessage next) _ rest rfl

end BgpSessionHandler

/-! ## The rules -/

namespace Message

variable (message : Message)

def HeaderValid : Prop :=
  message.marker = List.replicate 16 0xff ∧ 19 ≤ message.length ∧ message.length ≤ 4096

instance : Decidable message.HeaderValid := inferInstanceAs (Decidable (_ ∧ _))

/-- An OPEN of version 4 whose optional parameters fill the rest of its body. -/
def WellFormedOpen : Prop :=
  message.HeaderValid ∧ message.type = 1 ∧ message.body.head? = some 4 ∧
    message.body[9]?.map (fun size => 10 + size.toNat) = some message.body.length

instance : Decidable message.WellFormedOpen := inferInstanceAs (Decidable (_ ∧ _))

/-- A NOTIFICATION, or an UPDATE whose body cannot be read. -/
def EndsSession : Prop :=
  message.type = 3 ∨ message.type = 2 ∧ (parseUpdate message.body).isOk = false

/-- An UPDATE with networks in it. -/
def Announces : Prop :=
  message.type = 2 ∧ ∃ update, parseUpdate message.body = .ok (some update) ∧ update.prefixes ≠ []

end Message

def Opened (taken : List Message) : Prop :=
  ∃ before opening middle keepalive after,
    taken = before ++ opening :: (middle ++ keepalive :: after) ∧
      opening.WellFormedOpen ∧ keepalive.type = 4

namespace BgpSessionHandler

variable (handler : BgpSessionHandler)

def SameTables (next : BgpSessionHandler) : Prop :=
  ∀ device, (next.engine.node device).ribIn = (handler.engine.node device).ribIn ∧
    (next.engine.node device).locRib = (handler.engine.node device).locRib

def recorded (engine : BgpEngine String) (deviceId peerKey : String) : Option SessionState :=
  (engine.session deviceId peerKey).map BgpSession.state

/-- A session keeps to the rules on a stream. -/
structure Disciplined (stream : List UInt8) : Prop where
  routes : Along take (fun handler message =>
    handler.state = .established ∨ handler.SameTables (handler.take message))
      handler (messages stream)
  established : ∀ taken later, messages stream = taken ++ later →
    (runFrom take handler taken).state = .established → Opened taken
  malformed : Along take (fun handler message =>
    handler.closed = false → ¬ message.HeaderValid →
      (handler.take message).closed = true ∧ handler.SameTables (handler.take message))
        handler (messages stream)
  finish : (runFrom take handler (messages stream)).SameTables (handler.runStream stream)
  idle : (handler.runStream stream).closed = true ∧
    recorded (handler.runStream stream).engine handler.deviceId handler.peerKey = some .idle

/-- A message to a session that goes on has a valid header, or it ends the session anyway. An OPEN
is well formed, and networks are announced in an established session only. -/
def Proper (message : Message) : Prop :=
  handler.closed = false →
    (message.HeaderValid ∨ message.EndsSession) ∧ (message.type = 1 → message.WellFormedOpen) ∧
      (message.Announces → handler.state = .established)

/-! ## One message -/

variable {handler}

theorem SameTables.refl : handler.SameTables handler := fun _ => ⟨rfl, rfl⟩

variable {message : Message} {next : BgpSessionHandler} {taken : List Message}
  (state : SessionState)

theorem SameTables.trans {final : BgpSessionHandler} (first : handler.SameTables next)
    (second : next.SameTables final) : handler.SameTables final := fun device =>
  ⟨(second device).1.trans (first device).1, (second device).2.trans (first device).2⟩

theorem SameTables.inRibIn (same : handler.SameTables next)
    (device : next.deviceId = handler.deviceId) (peer : next.peerKey = handler.peerKey)
    {destination : Prefix} (held : next.InRibIn destination) : handler.InRibIn destination := by
  unfold InRibIn BgpSessionHandler.node at held ⊢
  rwa [device, peer, (same handler.deviceId).1] at held

theorem sameTables_syncSession : handler.SameTables (handler.syncSession state) := by
  intro device
  dsimp only [syncSession, BgpEngine.syncSession]
  rw [BgpEngine.node_modifyNode]
  split
  case isTrue same =>
      subst same
      exact ⟨rfl, rfl⟩
  case isFalse => exact ⟨rfl, rfl⟩

theorem sameTables_enter : handler.SameTables (handler.enter state) :=
  sameTables_syncSession state

theorem sameTables_close : handler.SameTables handler.close := sameTables_syncSession .idle

/-- Only an UPDATE with networks in it changes a table. -/
theorem sameTables_take (silent : ¬ message.Announces) :
    handler.SameTables (handler.take message) := by
  unfold take Message.received receive
  dsimp only
  split
  case isTrue => exact .refl
  case isFalse =>
      split
      case isTrue =>
          have opened := @sameTables_enter { handler with
            peerAs := if 9 ≤ message.body.length then fieldAt 2 message.body 1 else handler.peerAs }
            .openSent
          exact opened.trans (sameTables_enter .openConfirm)
      case isFalse =>
          split
          case isTrue =>
              split
              case isTrue => exact sameTables_enter _
              case isFalse => exact .refl
          case isFalse =>
              split
              case isTrue update =>
                  split
                  case h_1 => exact sameTables_close
                  case h_2 => exact .refl
                  case h_3 parsed read =>
                      split
                      case isTrue => exact .refl
                      case isFalse some =>
                          refine absurd ⟨update, parsed, read, fun none => some ?_⟩ silent
                          rw [none, isEmpty_nil]
              case isFalse =>
                  split
                  case isTrue => exact sameTables_close
                  case isFalse => exact .refl

theorem closed_take (ends : message.EndsSession) : (handler.take message).closed = true := by
  cases closed : handler.closed with
  | true => rwa [take, receive_of_closed closed]
  | false =>
    have still : ¬ handler.closed = true := by rw [closed]; exact Bool.false_ne_true
    unfold take Message.received receive
    rcases ends with notification | ⟨update, fails⟩
    · dsimp only
      rw [notification, if_neg still, if_neg (by decide), if_neg (by decide),
        if_neg (by decide), if_pos rfl]
      rfl
    · dsimp only
      rw [update, if_neg still, if_neg (by decide), if_neg (by decide), if_pos rfl]
      cases read : parseUpdate message.body with
      | error => rfl
      | ok => rw [read] at fails; cases fails

theorem state_take (message : Message) : (handler.take message).state = handler.state ∨
      message.type = 1 ∧ handler.closed = false ∧ (handler.take message).state = .openConfirm ∨
        message.type = 4 ∧ handler.state = .openConfirm ∧
          (handler.take message).state = .established := by
  unfold take Message.received receive
  dsimp only
  split
  case isTrue => exact .inl rfl
  case isFalse still =>
      split
      case isTrue opening => exact .inr (.inl ⟨opening, by simpa using still, rfl⟩)
      case isFalse =>
          split
          case isTrue keepalive =>
              split
              case isTrue confirm => exact .inr (.inr ⟨keepalive, confirm, rfl⟩)
              case isFalse => exact .inl rfl
          case isFalse =>
              left
              split
              case isTrue =>
                  split
                  case h_1 => rfl
                  case h_2 => rfl
                  case h_3 => split <;> rfl
              case isFalse => split <;> rfl

/-! ## The end of the session -/

/-- The engine has an ended session as idle. -/
structure Recorded (handler : BgpSessionHandler) (deviceId peerKey : String) : Prop where
  device : handler.deviceId = deviceId
  peer : handler.peerKey = peerKey
  idle : handler.closed = true → recorded handler.engine deviceId peerKey = some .idle

theorem recorded_close (handler : BgpSessionHandler) :
    recorded handler.close.engine handler.deviceId handler.peerKey = some .idle := by
  dsimp only [recorded, BgpEngine.session, close, syncSession, BgpEngine.syncSession]
  rw [BgpEngine.node_modifyNode, if_pos rfl, OrderedMap.lookup_insert, if_pos rfl]
  rfl

section

variable (held : handler.Recorded deviceId peerKey)
include held

theorem Recorded.close : handler.close.Recorded deviceId peerKey where
  device := held.device
  peer := held.peer
  idle _ := by rw [← held.device, ← held.peer, recorded_close]

theorem Recorded.of_open (device : next.deviceId = handler.deviceId)
    (peer : next.peerKey = handler.peerKey) (still : next.closed = false) :
    next.Recorded deviceId peerKey where
  device := device.trans held.device
  peer := peer.trans held.peer
  idle closed := by rw [still] at closed; cases closed

theorem Recorded.receive (received : Received) :
    (handler.receive received).Recorded deviceId peerKey := by
  cases closed : handler.closed with
  | true => rwa [receive_of_closed closed]
  | false =>
    have still : ¬ handler.closed = true := by rw [closed]; exact Bool.false_ne_true
    cases received with
    | lost =>
      rw [BgpSessionHandler.receive, if_neg still]
      exact held.close
    | message type body =>
      rw [BgpSessionHandler.receive, if_neg still]
      split
      case isTrue => exact held.of_open rfl rfl closed
      case isFalse =>
          split
          case isTrue => split <;> exact held.of_open rfl rfl closed
          case isFalse =>
              split
              case isTrue =>
                  split
                  case h_1 => exact held.close
                  case h_2 => exact held
                  case h_3 => split <;> exact held.of_open rfl rfl closed
              case isFalse =>
                  split
                  case isTrue => exact held.close
                  case isFalse => exact held

theorem Recorded.run (taken : List Message) :
    (runFrom BgpSessionHandler.take handler taken).Recorded deviceId peerKey := by
  induction taken generalizing handler with
  | nil => exact held
  | cons message later ih => exact ih (held.receive message.received)

end

theorem receive_lost (handler : BgpSessionHandler) :
    (handler.receive .lost).closed = true ∧ handler.SameTables (handler.receive .lost) := by
  cases closed : handler.closed with
  | true =>
    rw [receive_of_closed closed]
    exact ⟨closed, .refl⟩
  | false =>
    have still : ¬ handler.closed = true := by rw [closed]; exact Bool.false_ne_true
    rw [receive, if_neg still]
    exact ⟨rfl, sameTables_close⟩

/-! ## The way to an established session -/

/-- What has been taken when the session is about to be established, or is. -/
structure Progress (handler : BgpSessionHandler) (taken : List Message) : Prop where
  confirm : handler.state = .openConfirm → ∃ before opening after,
    taken = before ++ opening :: after ∧ opening.WellFormedOpen
  established : handler.state = .established → Opened taken

/-- An OPEN that is well formed, and a KEEPALIVE after it, stay so. -/
theorem opened_append (opened : Opened taken) (later : List Message) : Opened (taken ++ later) := by
  obtain ⟨before, opening, middle, keepalive, after, rfl, formed, type⟩ := opened
  exact ⟨before, opening, middle, keepalive, after ++ later, by simp, formed, type⟩

theorem progress_take (progress : handler.Progress taken) (proper : handler.Proper message) :
    (handler.take message).Progress (taken ++ [message]) := by
  rcases state_take message with same | ⟨type, still, next⟩ | ⟨type, confirm, next⟩
  · constructor
    · intro confirm
      obtain ⟨before, opening, after, rfl, formed⟩ := progress.confirm (same ▸ confirm)
      exact ⟨before, opening, after ++ [message], by simp, formed⟩
    · intro established
      exact opened_append (progress.established (same ▸ established)) [message]
  · constructor
    · intro _
      exact ⟨taken, message, [], rfl, (proper still).2.1 type⟩
    · intro established
      rw [next] at established
      cases established
  · constructor
    · intro confirm
      rw [next] at confirm
      cases confirm
    · intro _
      obtain ⟨before, opening, after, rfl, formed⟩ := progress.confirm confirm
      exact ⟨before, opening, after, message, [], by simp, formed, type⟩

theorem progress_run {later : List Message} (progress : handler.Progress taken)
    (proper : Along take Proper handler later) :
    (runFrom take handler later).Progress (taken ++ later) := by
  induction later generalizing handler taken with
  | nil => rwa [append_nil]
  | cons message rest ih =>
    have next := ih (progress_take progress proper.1) proper.2
    rwa [append_assoc] at next

/-! ## Sessions that keep to the rules -/

/-- A session keeps to the rules if messages have valid headers or end it, its OPENs are well formed
and networks are announced only when it is established. -/
theorem session_disciplined (engine : BgpEngine String) (deviceId peerKey : String)
    (stream : List UInt8)
    (proper : Along take Proper (accept engine deviceId peerKey) (messages stream)) :
    (accept engine deviceId peerKey).Disciplined stream := by
  have ended := receive_lost (runFrom take (accept engine deviceId peerKey) (messages stream))
  constructor
  · refine proper.weaken fun handler message proper => ?_
    by_cases announces : message.Announces
    · cases closed : handler.closed with
      | true =>
        right
        rw [take, receive_of_closed closed]
        exact .refl
      | false => exact .inl ((proper closed).2.2 announces)
    · exact .inr (sameTables_take announces)
  · intro taken later shape established
    rw [shape] at proper
    have start : (accept engine deviceId peerKey).Progress [] := ⟨nofun, nofun⟩
    exact (progress_run start (along_append.mp proper).1).established established
  · refine proper.weaken fun handler message proper still invalid => ?_
    have ends : message.EndsSession := (proper still).1.resolve_left invalid
    refine ⟨closed_take ends, sameTables_take ?_⟩
    rintro ⟨type, update, read, -⟩
    rcases ends with notification | ⟨-, fails⟩
    · rw [type] at notification
      exact absurd notification (by decide)
    · rw [read] at fails
      cases fails
  · rw [runStream_eq]
    exact ended.2
  · rw [runStream_eq]
    have start : (accept engine deviceId peerKey).Recorded deviceId peerKey := ⟨rfl, rfl, nofun⟩
    exact ⟨ended.1, ((start.run (messages stream)).receive .lost).idle ended.1⟩

end BgpSessionHandler

/-- The OPEN of a peer with the number 65001. -/
def peerOpen : List UInt8 := [4, 253, 233, 0, 180, 10, 9, 9, 100, 0]

/-- A session that is opened before a network is announced. -/
theorem opened_disciplined : (BgpSessionHandler.accept .initial "R1" "10.9.9.100").Disciplined
    (buildHeader 1 peerOpen ++ (buildHeader 4 [] ++ (buildHeader 2 announceTen.encode ++ []))) := by
  refine BgpSessionHandler.session_disciplined .initial "R1" "10.9.9.100" _ ?_
  rw [messages_buildHeader 1 (by decide), messages_buildHeader 4 (by decide),
    messages_buildHeader 2 (by decide), messages_of_none (by decide)]
  refine ⟨fun _ => ⟨.inl (by decide), fun _ => by decide, ?_⟩,
    fun _ => ⟨.inl (by decide), fun opening => absurd opening (by decide), ?_⟩,
    fun _ => ⟨.inl (by decide), fun opening => absurd opening (by decide), fun _ => rfl⟩, trivial⟩
  · exact fun announces => absurd announces.1 (by decide)
  · exact fun announces => absurd announces.1 (by decide)

/-- A network that is announced before the session is opened gets into the tables. -/
theorem early_update_applied : ¬ (BgpSessionHandler.accept .initial "R1" "10.9.9.100").Disciplined
      (buildHeader 2 announceTen.encode ++ []) := by
  intro disciplined
  have routes := disciplined.routes
  rw [messages_buildHeader 2 (by decide), messages_of_none (by decide)] at routes
  rcases routes.1 with established | same
  · cases established
  · have start : (BgpSessionHandler.accept .initial "R1" "10.9.9.100").Recorded "R1" "10.9.9.100" :=
      ⟨rfl, rfl, nofun⟩
    have next := start.receive (Packet.update announceTen).received
    have added := (BgpSessionHandler.adds_receive (.accept .initial "R1" "10.9.9.100") rfl
      (.update announceTen)).2
    have held := (added.ribIn tenNetwork.destination).mpr (.inr (mem_cons_self ..))
    exact not_mem_nil (same.inRibIn next.device next.peer held)

end NetLab.Bgp
