import NetLab.Bgp.BestPaths
import NetLab.Bgp.Wire

/-!
# Sessions with external speakers

`BgpSessionHandler` accepts a connection of a real BGP speaker and writes what it
announces into the tables of a device. It never takes a route out again: withdrawn routes
are passed over, and the end of a session only resets its state. `external_tables_iff`
says when the tables are right nevertheless.
-/

namespace NetLab.Bgp

open NetLab.Library NetLab.Network NetLab.Execution List

/-- The handler of one connection. -/
structure BgpSessionHandler where
  engine : BgpEngine String
  deviceId : String
  peerKey : String
  peerAs : Option Nat := none
  state : SessionState := .idle
  closed : Bool := false

/-- What the handler reads: a message of some type, or the end or loss of the connection. -/
inductive Received where
  | message (type : UInt8) (body : List UInt8)
  | lost

namespace BgpSessionHandler

variable (handler : BgpSessionHandler)

/-- `_sync_session`. -/
def syncSession (state : SessionState) : BgpSessionHandler :=
  { handler with
    engine := handler.engine.syncSession handler.deviceId handler.peerKey handler.peerAs state }

/-- The handler enters a state and writes it into the engine. -/
def enter (state : SessionState) : BgpSessionHandler :=
  { handler.syncSession state with state := state }

/-- The handler of a new connection, which waits for an OPEN. -/
def accept (engine : BgpEngine String) (deviceId peerKey : String) : BgpSessionHandler :=
  enter { engine := engine, deviceId := deviceId, peerKey := peerKey } .active

/-- The session ends. -/
def close : BgpSessionHandler := { handler.syncSession .idle with closed := true }

/-- `_apply_update`. -/
def applyUpdate (update : ParsedUpdate String) : BgpSessionHandler :=
  { handler with engine := handler.engine.applyUpdate handler.deviceId handler.peerKey update }

/-- The body of the loop of `run`. An error of the parser ends the session, too. -/
def receive : Received → BgpSessionHandler
  | .lost => if handler.closed then handler else handler.close
  | .message type body =>
    if handler.closed then handler
    else if type = 1 then
      let peerAs := if 9 ≤ body.length then fieldAt 2 body 1 else handler.peerAs
      ({ handler with peerAs := peerAs }.enter .openSent).enter .openConfirm
    else if type = 4 then
      if handler.state = .openConfirm then handler.enter .established else handler
    else if type = 2 then
      match parseUpdate body with
      | .error _ => handler.close
      | .ok none => handler
      | .ok (some update) =>
        if update.prefixes.isEmpty then handler else handler.applyUpdate update
    else if type = 3 then handler.close
    else handler

/-- The handler after what it has read. -/
def run (received : List Received) : BgpSessionHandler := runFrom receive handler received

/-- The tables of the device. -/
def node : BgpNode String := handler.engine.node handler.deviceId

/-- `rib_in` holds a network from the peer. -/
def InRibIn (destination : Prefix) : Prop :=
  (handler.peerKey, destination) ∈ handler.node.ribIn.keys

/-- `loc_rib` holds a network from the peer. -/
def InLocRib (destination : Prefix) : Prop :=
  ∃ best ∈ handler.node.locRib, best.learnedFrom = handler.peerKey ∧ best.destination = destination

/-- Both tables hold exactly these networks from the peer. -/
structure HoldsExactly (destinations : List Prefix) : Prop where
  ribIn : ∀ destination, handler.InRibIn destination ↔ destination ∈ destinations
  locRib : ∀ destination, handler.InLocRib destination ↔ destination ∈ destinations

end BgpSessionHandler

/-! ## What a peer announces -/

/-- A well-formed UPDATE, or a message of another type that does not end the session. -/
inductive Packet where
  | update (message : UpdateMessage)
  | other (type : UInt8) (body : List UInt8) (benign : type ≠ 2 ∧ type ≠ 3)

namespace Packet

/-- What the handler reads of a packet. -/
def received : Packet → Received
  | .update message => .message 2 message.encode
  | .other type body _ => .message type body

def announced : Packet → List Prefix
  | .update message => message.announcedPrefixes
  | .other _ _ _ => []

def withdrawn : Packet → List Prefix
  | .update message => message.withdrawnPrefixes
  | .other _ _ _ => []

end Packet

/-- Networks that a peer has announced and not withdrawn later. -/
def standing (packets : List Packet) : List Prefix :=
  packets.foldl (fun held packet =>
    (held.filter fun destination => decide (destination ∉ packet.withdrawn)) ++ packet.announced) []

theorem mem_standing_append {packets : List Packet} {last : Packet} {destination : Prefix} :
    destination ∈ standing (packets ++ [last]) ↔
      (destination ∈ standing packets ∧ destination ∉ last.withdrawn) ∨
        destination ∈ last.announced := by
  unfold standing
  rw [foldl_append, foldl_cons, foldl_nil, mem_append, mem_filter, decide_eq_true_eq]

/-- Every packet withdraws only networks that no earlier one announced or that it announces
itself. -/
def WithdrawsNothingHeld (packets : List Packet) : Prop :=
  ∀ front packet back, packets = front ++ packet :: back → ∀ destination ∈ packet.withdrawn,
    destination ∈ packet.announced ∨ ∀ earlier ∈ front, destination ∉ earlier.announced

theorem WithdrawsNothingHeld.mem_standing {packets : List Packet}
    (keeps : WithdrawsNothingHeld packets) (destination : Prefix) :
    destination ∈ standing packets ↔ destination ∈ packets.flatMap Packet.announced := by
  induction packets using List.reverseRecOn with
  | nil => exact Iff.rfl
  | append_singleton packets last ih =>
    have before : WithdrawsNothingHeld packets := by
      rintro front packet back rfl
      exact keeps front packet (back ++ [last]) (by simp)
    rw [mem_standing_append, ih before, flatMap_append, mem_append, flatMap_singleton]
    refine ⟨Or.imp_left And.left, ?_⟩
    rintro (old | new)
    · by_cases withdrawn : destination ∈ last.withdrawn
      · rcases keeps packets last [] rfl destination withdrawn with new | never
        · exact .inr new
        · obtain ⟨earlier, member, announced⟩ := mem_flatMap.mp old
          exact absurd announced (never earlier member)
      · exact .inl ⟨old, withdrawn⟩
    · exact .inr new

theorem announced_stand_iff (packets : List Packet) :
    (∀ count destination, destination ∈ (packets.take count).flatMap Packet.announced ↔
        destination ∈ standing (packets.take count)) ↔ WithdrawsNothingHeld packets := by
  constructor
  · rintro stand front packet back rfl destination withdrawn
    by_contra held
    obtain ⟨silent, earlier⟩ := not_or.mp held
    push Not at earlier
    obtain ⟨earlier, member, announced⟩ := earlier
    have shape : (front ++ packet :: back).take (front.length + 1) = front ++ [packet] := by
      simp [take_append]
    have stands := (stand (front.length + 1) destination).mp (by
      rw [shape, flatMap_append]
      exact mem_append_left _ (mem_flatMap.mpr ⟨earlier, member, announced⟩))
    rw [shape, mem_standing_append] at stands
    rcases stands with ⟨-, kept⟩ | new
    · exact kept withdrawn
    · exact silent new
  · intro keeps count destination
    have before : WithdrawsNothingHeld (packets.take count) := by
      intro front packet back shape
      refine keeps front packet (back ++ packets.drop count) ?_
      rw [← cons_append, ← append_assoc, ← shape, take_append_drop]
    exact (before.mem_standing destination).symm

/-- Ways in which a session ends: by a NOTIFICATION, by the end or loss of the connection,
or by an UPDATE that cannot be read. -/
inductive Ending where
  | notification (body : List UInt8)
  | lost
  | unreadable (body : List UInt8) (error : WireError) (fails : parseUpdate body = .error error)

/-- What the handler reads at the end of a session. -/
def Ending.received : Ending → Received
  | .notification body => .message 3 body
  | .lost => .lost
  | .unreadable body _ _ => .message 2 body

/-! ## The tables of a session -/

namespace BgpSessionHandler

variable {handler : BgpSessionHandler}

/-- The tables hold these networks from the peer and what they held before. -/
structure Adds (handler next : BgpSessionHandler) (destinations : List Prefix) : Prop where
  ribIn : ∀ destination,
    next.InRibIn destination ↔ handler.InRibIn destination ∨ destination ∈ destinations
  locRib : ∀ destination,
    next.InLocRib destination ↔ handler.InLocRib destination ∨ destination ∈ destinations

variable {next : BgpSessionHandler}

/-- Nothing is added where the tables stay as they are. -/
theorem adds_of_same (peerKey : next.peerKey = handler.peerKey)
    (ribIn : next.node.ribIn = handler.node.ribIn)
    (locRib : next.node.locRib = handler.node.locRib) : Adds handler next [] where
  ribIn := fun destination => by simp [InRibIn, peerKey, ribIn]
  locRib := fun destination => by simp [InLocRib, peerKey, locRib]

theorem Adds.trans {final : BgpSessionHandler} {first second : List Prefix}
    (adds : Adds handler next first) (adds' : Adds next final second) :
    Adds handler final (first ++ second) where
  ribIn := fun destination => by rw [adds'.ribIn, adds.ribIn, mem_append, or_assoc]
  locRib := fun destination => by rw [adds'.locRib, adds.locRib, mem_append, or_assoc]

variable {destinations : List Prefix} (handler : BgpSessionHandler) (state : SessionState)

theorem adds_syncSession : Adds handler (handler.syncSession state) [] := by
  have node : (handler.syncSession state).node.ribIn = handler.node.ribIn ∧
      (handler.syncSession state).node.locRib = handler.node.locRib := by
    unfold BgpSessionHandler.node syncSession BgpEngine.syncSession
    dsimp only
    rw [BgpEngine.node_modifyNode, if_pos rfl]
    exact ⟨rfl, rfl⟩
  exact adds_of_same rfl node.1 node.2

theorem adds_enter : Adds handler (handler.enter state) [] :=
  (adds_syncSession handler state).trans (adds_of_same rfl rfl rfl)

theorem adds_close : Adds handler handler.close [] :=
  (adds_syncSession handler .idle).trans (adds_of_same rfl rfl rfl)

theorem adds_applyUpdate (update : ParsedUpdate String) :
    Adds handler (handler.applyUpdate update) update.prefixes := by
  have node : (handler.applyUpdate update).node =
      update.prefixes.foldl (announce handler.peerKey update) handler.node := by
    unfold BgpSessionHandler.node applyUpdate BgpEngine.applyUpdate
    dsimp only
    rw [BgpEngine.node_modifyNode, if_pos rfl]
  have peerKey : (handler.applyUpdate update).peerKey = handler.peerKey := rfl
  refine ⟨fun destination => ?_, fun destination => ?_⟩
  · unfold InRibIn
    rw [node, peerKey, OrderedMap.mem_keys_iff, OrderedMap.mem_keys_iff, lookup_foldl_announce]
    by_cases announced : destination ∈ update.prefixes
    · simp [announced]
    · simp [announced]
  · have split : ∀ locRib : List (LocRoute String),
        (∃ best ∈ locRib, best.learnedFrom = handler.peerKey ∧ best.destination = destination) ↔
          ∃ best ∈ locRib.filter fun best => decide (best.destination = destination),
            best.learnedFrom = handler.peerKey := by
      intro locRib
      simp [and_assoc, and_comm]
    unfold InLocRib
    rw [node, peerKey, split, split, locRib_foldl_announce]
    by_cases announced : destination ∈ update.prefixes
    · simp [announced]
    · simp [announced]

theorem adds_receive (isOpen : handler.closed = false) (packet : Packet) :
    (handler.receive packet.received).closed = false ∧
      Adds handler (handler.receive packet.received) packet.announced := by
  have closed : ¬ handler.closed = true := by simp [isOpen]
  cases packet with
  | update message =>
    obtain ⟨update, parsed, prefixes⟩ := parseUpdate_encode message
    dsimp only [Packet.received, Packet.announced, receive]
    rw [if_neg closed, if_neg (by decide), if_neg (by decide), if_pos rfl, parsed, ← prefixes]
    dsimp only
    split
    case isTrue empty =>
        rw [isEmpty_iff.mp empty]
        exact ⟨isOpen, adds_of_same rfl rfl rfl⟩
    case isFalse => exact ⟨isOpen, adds_applyUpdate handler update⟩
  | other type body benign =>
    dsimp only [Packet.received, Packet.announced, receive]
    rw [if_neg closed]
    split
    case isTrue =>
        have named : Adds handler { handler with
            peerAs := if 9 ≤ body.length then fieldAt 2 body 1 else handler.peerAs } [] :=
          adds_of_same rfl rfl rfl
        exact ⟨isOpen, (named.trans (adds_enter _ .openSent)).trans (adds_enter _ .openConfirm)⟩
    case isFalse =>
        split
        case isTrue =>
            split
            case isTrue => exact ⟨isOpen, adds_enter handler .established⟩
            case isFalse => exact ⟨isOpen, adds_of_same rfl rfl rfl⟩
        case isFalse =>
            rw [if_neg benign.1, if_neg benign.2]
            exact ⟨isOpen, adds_of_same rfl rfl rfl⟩

theorem adds_run (isOpen : handler.closed = false) (packets : List Packet) :
    (handler.run (packets.map Packet.received)).closed = false ∧
      Adds handler (handler.run (packets.map Packet.received))
        (packets.flatMap Packet.announced) := by
  induction packets generalizing handler with
  | nil => exact ⟨isOpen, adds_of_same rfl rfl rfl⟩
  | cons packet rest ih =>
    obtain ⟨stillOpen, first⟩ := adds_receive handler isOpen packet
    obtain ⟨openAfter, later⟩ := ih (handler.receive packet.received) stillOpen
    exact ⟨openAfter, first.trans later⟩

/-- At the end of a session the tables stay as they are. -/
theorem adds_ending (isOpen : handler.closed = false) (ending : Ending) :
    (handler.receive ending.received).closed = true ∧
      Adds handler (handler.receive ending.received) [] := by
  have closed : ¬ handler.closed = true := by simp [isOpen]
  have closes : handler.receive ending.received = handler.close := by
    cases ending with
    | notification body =>
      dsimp only [Ending.received, receive]
      rw [if_neg closed, if_neg (by decide), if_neg (by decide), if_neg (by decide), if_pos rfl]
    | lost => exact if_neg closed
    | unreadable body error fails =>
      dsimp only [Ending.received, receive]
      rw [if_neg closed, if_neg (by decide), if_neg (by decide), if_pos rfl, fails]
  rw [closes]
  exact ⟨rfl, adds_close handler⟩

variable {handler : BgpSessionHandler}

theorem run_of_closed (isClosed : handler.closed = true) (received : List Received) :
    handler.run received = handler := by
  induction received with
  | nil => rfl
  | cons first rest ih =>
    have unchanged : handler.receive first = handler := by
      cases first <;> exact if_pos isClosed
    unfold run at ih ⊢
    rw [runFrom_cons, unchanged, ih]

theorem HoldsExactly.congr {others : List Prefix}
    (same : ∀ destination, destination ∈ destinations ↔ destination ∈ others)
    (exactly : handler.HoldsExactly destinations) : handler.HoldsExactly others where
  ribIn := fun destination => (exactly.ribIn destination).trans (same destination)
  locRib := fun destination => (exactly.locRib destination).trans (same destination)

theorem HoldsExactly.adds (vacant : handler.HoldsExactly [])
    (added : Adds handler next destinations) :
    next.HoldsExactly destinations where
  ribIn := fun destination => by simp [added.ribIn, vacant.ribIn]
  locRib := fun destination => by simp [added.locRib, vacant.locRib]

/-- Tables hold nothing after an addition only if they held nothing and nothing was added. -/
theorem Adds.vacant_iff (added : Adds handler next destinations) :
    next.HoldsExactly [] ↔ handler.HoldsExactly [] ∧ destinations = [] := by
  constructor
  · intro vacant
    have nothing : ∀ destination, destination ∉ destinations := fun destination member =>
      not_mem_nil ((vacant.ribIn destination).mp ((added.ribIn destination).mpr (.inr member)))
    refine ⟨⟨fun destination => ?_, fun destination => ?_⟩, eq_nil_iff_forall_not_mem.mpr nothing⟩
    · exact iff_of_false (fun held => not_mem_nil
        ((vacant.ribIn destination).mp ((added.ribIn destination).mpr (.inl held))))
        not_mem_nil
    · exact iff_of_false (fun held => not_mem_nil
        ((vacant.locRib destination).mp ((added.locRib destination).mpr (.inl held))))
        not_mem_nil
  · rintro ⟨vacant, rfl⟩
    exact vacant.adds added

/-- While a session lasts, the tables hold for the peer what it has announced and not
withdrawn exactly if they held nothing of it at the start and it withdraws nothing that it
announced before; after the session they hold nothing of it exactly if it never announced
anything. -/
theorem external_tables_iff (engine : BgpEngine String) (deviceId peerKey : String)
    (packets : List Packet) :
    ((∀ count, ((accept engine deviceId peerKey).run
        ((packets.take count).map Packet.received)).HoldsExactly (standing (packets.take count))) ↔
      (accept engine deviceId peerKey).HoldsExactly [] ∧ WithdrawsNothingHeld packets) ∧
    ∀ (ending : Ending) (later : List Received), (((accept engine deviceId peerKey).run
          (packets.map Packet.received ++ ending.received :: later)).HoldsExactly [] ↔
        (accept engine deviceId peerKey).HoldsExactly [] ∧
          ∀ packet ∈ packets, packet.announced = []) := by
  have isOpen : (accept engine deviceId peerKey).closed = false := rfl
  generalize accept engine deviceId peerKey = start at isOpen
  constructor
  · constructor
    · intro holds
      have vacant : start.HoldsExactly [] := holds 0
      refine ⟨vacant, (announced_stand_iff packets).mp fun count destination => ?_⟩
      have exactly := vacant.adds (adds_run start isOpen (packets.take count)).2
      exact (exactly.ribIn destination).symm.trans ((holds count).ribIn destination)
    · rintro ⟨vacant, keeps⟩ count
      exact (vacant.adds (adds_run start isOpen (packets.take count)).2).congr fun destination =>
        (announced_stand_iff packets).mpr keeps count destination
  · intro ending later
    obtain ⟨stillOpen, added⟩ := adds_run start isOpen packets
    obtain ⟨closed, kept⟩ := adds_ending _ stillOpen ending
    have final : start.run (packets.map Packet.received ++ ending.received :: later) =
        (start.run (packets.map Packet.received)).receive ending.received := by
      unfold run
      rw [runFrom_append, runFrom_cons]
      exact run_of_closed closed later
    rw [final, (added.trans kept).vacant_iff, append_nil, flatMap_eq_nil_iff]

end BgpSessionHandler

/-- The network 10.0.0.0/8. -/
def tenNetwork : Nlri where
  length := 8
  bytes := [10]
  short := by decide
  sized := by decide

def announceTen : UpdateMessage where
  attributes :=
    [{ flags := 0x40, code := 1, value := [0], sized := by decide,
        path := fun same => absurd same (by decide) },
      { flags := 0x40, code := 2, value := [2, 1, 0, 0, 253, 233], sized := by decide,
        path := fun _ => ⟨[{ kind := 2, numbers := [65001], short := by decide }], by decide⟩ },
      { flags := 0x40, code := 3, value := [10, 9, 9, 100], sized := by decide,
        path := fun same => absurd same (by decide) }]
  announced := [tenNetwork]
  withdrawnSized := by decide
  attributesSized := by decide

def withdrawTen : UpdateMessage where
  withdrawn := [tenNetwork]
  withdrawnSized := by decide
  attributesSized := by decide

/-- A network that a peer has withdrawn stays in the tables, also after the session. -/
theorem withdrawn_network_held :
    let start := BgpSessionHandler.accept .initial "R1" "10.9.9.100"
    let packets := [Packet.update announceTen, .update withdrawTen]
    ¬ (start.run (packets.map Packet.received)).HoldsExactly (standing packets) ∧
      ¬ (start.run (packets.map Packet.received ++ [.lost])).HoldsExactly [] := by
  intro start packets
  obtain ⟨stillOpen, added⟩ := BgpSessionHandler.adds_run start rfl packets
  obtain ⟨-, kept⟩ := BgpSessionHandler.adds_ending _ stillOpen .lost
  have nothing : standing packets = [] := by
    simp [packets, standing, Packet.withdrawn, Packet.announced, announceTen, withdrawTen,
      UpdateMessage.withdrawnPrefixes, UpdateMessage.announcedPrefixes]
  have announced : packets.flatMap Packet.announced ≠ [] := by
    intro none
    have first := flatMap_eq_nil_iff.mp none (.update announceTen) (mem_cons_self ..)
    cases first
  refine ⟨fun exactly => ?_, fun exactly => ?_⟩
  · rw [nothing] at exactly
    exact announced (added.vacant_iff.mp exactly).2
  · have final : start.run (packets.map Packet.received ++ [.lost]) =
        (start.run (packets.map Packet.received)).receive .lost := by
      unfold BgpSessionHandler.run
      rw [runFrom_append]
      rfl
    rw [final] at exactly
    have none := ((added.trans kept).vacant_iff.mp exactly).2
    exact announced (append_eq_nil_iff.mp none).1

end NetLab.Bgp
