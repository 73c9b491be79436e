import NetLab.Netconf.Framing

/-!
# Hostile chunks

The size in a header is read by a converter that takes signs, blanks and underscores. A size may so
lead the loop back. `orderly_iff` says for which buffers it is a parser of chunks all the same.
-/

namespace NetLab.Netconf

open NetLab.Library NetLab.Snmp List

/-! ## Rounds -/

/-- What a round of the loop comes to. -/
inductive Round where
  | waits
  | ends (found : Nat)
  | chunk (header : List UInt8) (found : Nat) (size : Int)
deriving DecidableEq

/-- The round of `unframe_chunked` at a position. -/
def readRound (buf : List UInt8) (position : Int) : Round :=
  if mark.isPrefixOf (sliceFrom buf position) = false then .waits
  else
    match findByte buf newline (position + 2) with
    | none => .waits
    | some found =>
      let header := slice buf (position + 2) found
      if header = ascii ['#'] then .ends found
      else
        match byteInt header with
        | none => .waits
        | some size =>
          if buf.length < found + 1 + size then .waits else .chunk header found size

/-- Positions that the loop comes to. -/
inductive Visited (buf : List UInt8) : Int → Prop where
  | start : Visited buf 0
  | next {position : Int} {header : List UInt8} {found : Nat} {size : Int}
      (here : Visited buf position) (round : readRound buf position = .chunk header found size) :
      Visited buf (found + 1 + size)

/-! ## What parsing should be -/

/-- A chunk whose size is a positive number in plain digits. -/
structure PlainChunk where
  digits : List Char
  data : List UInt8
  numeric : isNumeral digits = true
  size : numeralValue digits = data.length
  some_data : data ≠ []

def PlainChunk.bytes (chunk : PlainChunk) : List UInt8 :=
  mark ++ (ascii chunk.digits ++ newline :: chunk.data)

def Framed (buf rest : List UInt8) : Prop :=
  ∃ chunks : List PlainChunk, buf = chunks.flatMap PlainChunk.bytes ++ (endOfChunks ++ rest)

/-- Parsing stops, goes forward only, and takes nothing but framed messages. -/
structure Orderly (buf : List UInt8) : Prop where
  stops : ∃ fuel, unframeChunked fuel buf ≠ none
  forward : ∀ position header found size, Visited buf position →
    readRound buf position = .chunk header found size → position < found + 1 + size
  framed : ∀ fuel message rest, unframeChunked fuel buf = some (some message, rest) →
    Framed buf rest

/-- No size that is read leads back over its header, and if an end of chunks is come to, all sizes
that are read are positive and in plain digits. -/
structure CleanSizes (buf : List UInt8) : Prop where
  ahead : ∀ position header found size, Visited buf position →
    readRound buf position = .chunk header found size → -(header.length + 3 : Int) < size
  plain : (∃ position found, Visited buf position ∧ readRound buf position = .ends found) →
    ∀ position header found size, Visited buf position →
      readRound buf position = .chunk header found size →
        0 < size ∧ ∃ digits, isNumeral digits = true ∧ header = ascii digits

/-! ## One round -/

section Rounds

variable {buf : List UInt8}

theorem unframeLoop_succ (fuel : Nat) (out : List UInt8) (position : Int) :
    unframeLoop (fuel + 1) buf out position = match readRound buf position with
      | .waits => some (none, buf)
      | .ends found => some (some (Utf8.decode out), sliceFrom buf (found + 1))
      | .chunk _ found size =>
        unframeLoop fuel buf (out ++ slice buf (found + 1) (found + 1 + size))
          (found + 1 + size) := by
  rw [unframeLoop]
  unfold readRound
  change (if mark.isPrefixOf _ = false then _ else _) = _
  split
  case isTrue => rfl
  case isFalse =>
      cases findByte buf newline (position + 2) with
      | none => rfl
      | some found =>
        dsimp only
        split
        case isTrue => rfl
        case isFalse =>
            cases byteInt (slice buf (position + 2) found) with
            | none => rfl
            | some size =>
              dsimp only
              split <;> rfl

/-- The first line break ends a header without any. -/
theorem split_of_idxOf {bytes : List UInt8} {index : Nat}
    (found : bytes.idxOf? newline = some index) :
    ∃ header rest, newline ∉ header ∧ bytes = header ++ newline :: rest := by
  induction bytes generalizing index with
  | nil => cases found
  | cons first later ih =>
    rw [idxOf?_cons] at found
    split at found
    case isTrue same => exact ⟨[], later, not_mem_nil, by rw [beq_iff_eq.mp same]; rfl⟩
    case isFalse different =>
        obtain ⟨place, found, -⟩ := Option.map_eq_some_iff.mp found
        obtain ⟨header, rest, oneLine, rfl⟩ := ih found
        refine ⟨first :: header, rest, ?_, rfl⟩
        rw [mem_cons, not_or]
        exact ⟨fun same => different (beq_iff_eq.mpr same.symm), oneLine⟩

theorem split_of_round {position : Nat} (busy : readRound buf position ≠ .waits) :
    ∃ front header rest, front.length = position ∧ newline ∉ header ∧
      buf = front ++ (mark ++ (header ++ newline :: rest)) := by
  unfold readRound at busy
  split at busy
  case isTrue => exact absurd rfl busy
  case isFalse starts =>
      have leads : mark <+: buf.drop position := by
        have begins := Bool.eq_true_of_not_eq_false starts
        rw [sliceFrom, clip_natCast] at begins
        exact isPrefixOf_iff_prefix.mp begins
      obtain ⟨tail, behind⟩ := leads
      have inside : position ≤ buf.length := by
        have length := congrArg List.length behind
        rw [length_append, length_drop] at length
        have two : mark.length = 2 := rfl
        omega
      obtain ⟨front, rfl, rfl⟩ : ∃ front, front.length = position ∧ front ++ (mark ++ tail) = buf :=
        ⟨buf.take position, length_take_of_le inside, by
          rw [behind, take_append_drop]⟩
      rw [length_mark, ← append_assoc, findByte_append] at busy
      cases found : tail.idxOf? newline with
      | none =>
        rw [found] at busy
        exact absurd rfl busy
      | some index =>
        obtain ⟨header, rest, oneLine, rfl⟩ := split_of_idxOf found
        exact ⟨front, header, rest, rfl, oneLine, rfl⟩

theorem readRound_header {front header rest : List UInt8} (oneLine : newline ∉ header) :
    readRound (front ++ (mark ++ (header ++ newline :: rest))) front.length =
      if header = ascii ['#'] then .ends (front ++ (mark ++ header)).length
      else
        match byteInt header with
        | none => .waits
        | some size =>
          if (front ++ (mark ++ (header ++ newline :: rest))).length <
              (front ++ (mark ++ header)).length + 1 + size then .waits
          else .chunk header (front ++ (mark ++ header)).length size := by
  have starts := startsWith_mark front (header ++ newline :: rest)
  unfold readRound
  rw [show mark = ascii ['\n', '#'] from rfl] at starts ⊢
  rw [starts, if_neg (by decide)]
  rw [show ascii ['\n', '#'] = mark from rfl, findByte_header oneLine]
  dsimp only
  rw [slice_header]

theorem chunk_found {position : Nat} {header : List UInt8} {found : Nat} {size : Int}
    (round : readRound buf position = .chunk header found size) :
    found = position + 2 + header.length ∧ found + 1 + size ≤ buf.length := by
  obtain ⟨front, text, rest, rfl, oneLine, rfl⟩ := split_of_round (by rw [round]; exact nofun)
  rw [readRound_header oneLine] at round
  split at round
  case isTrue => cases round
  case isFalse =>
      split at round
      case h_1 => cases round
      case h_2 =>
          split at round
          case isTrue => cases round
          case isFalse fits =>
              cases round
              refine ⟨?_, Int.not_lt.mp fits⟩
              have two : mark.length = 2 := rfl
              rw [length_append, length_append, two]
              omega

end Rounds

/-! ## Going forward -/

section Forward

variable {buf : List UInt8}

theorem position_natural (ahead : ∀ position header found size, Visited buf position →
      readRound buf position = .chunk header found size → -(header.length + 3 : Int) < size)
    {position : Int} (here : Visited buf position) :
    ∃ place : Nat, position = place ∧ place ≤ buf.length := by
  induction here with
  | start => exact ⟨0, rfl, Nat.zero_le _⟩
  | next here round ih =>
    obtain ⟨place, rfl, -⟩ := ih
    have least := ahead _ _ _ _ here round
    obtain ⟨found, most⟩ := chunk_found round
    exact ⟨_, (Int.toNat_of_nonneg (by omega)).symm, by omega⟩

theorem forward_iff : (∀ position header found size, Visited buf position →
      readRound buf position = .chunk header found size → position < found + 1 + size) ↔
    ∀ position header found size, Visited buf position →
      readRound buf position = .chunk header found size → -(header.length + 3 : Int) < size := by
  constructor
  · intro forward
    have natural : ∀ position, Visited buf position → 0 ≤ position := by
      intro position here
      induction here with
      | start => exact Int.le_refl 0
      | next here round ih => exact Int.le_of_lt (Int.lt_of_le_of_lt ih (forward _ _ _ _ here round))
    intro position header found size here round
    obtain ⟨place, rfl⟩ := Int.eq_ofNat_of_zero_le (natural position here)
    have least := forward _ _ _ _ here round
    have shape := (chunk_found round).1
    omega
  · intro ahead position header found size here round
    obtain ⟨place, rfl, -⟩ := position_natural ahead here
    have least := ahead _ _ _ _ here round
    have shape := (chunk_found round).1
    omega

/-- Going forward, the loop stops at the end of the buffer at the latest. -/
theorem stops_of_ahead (ahead : ∀ position header found size, Visited buf position →
      readRound buf position = .chunk header found size → -(header.length + 3 : Int) < size)
    (fuel : Nat) {place : Nat} (here : Visited buf place) (enough : buf.length < fuel + place)
    (out : List UInt8) : unframeLoop fuel buf out place ≠ none := by
  have inside : place ≤ buf.length := by
    obtain ⟨other, same, most⟩ := position_natural ahead here
    omega
  induction fuel generalizing place out with
  | zero => omega
  | succ fuel ih =>
    rw [unframeLoop_succ]
    cases round : readRound buf place with
    | waits => exact Option.some_ne_none _
    | ends found => exact Option.some_ne_none _
    | chunk header found size =>
      have least := forward_iff.mpr ahead _ _ _ _ here round
      have next := Visited.next here round
      obtain ⟨other, same, most⟩ := position_natural ahead next
      dsimp only
      rw [same] at next least ⊢
      exact ih next (by omega) _ most

end Forward

/-! ## Framed messages -/

section Framed

variable {buf front rest : List UInt8}

theorem readRound_end : readRound (front ++ (endOfChunks ++ rest)) front.length =
    .ends (front ++ (mark ++ ascii ['#'])).length := by
  have shape : endOfChunks ++ rest = mark ++ (ascii ['#'] ++ newline :: rest) := rfl
  rw [shape, readRound_header (by decide), if_pos rfl]

variable {found : Nat} (fuel : Nat) (chunk : PlainChunk)

theorem PlainChunk.bytes_append (rest : List UInt8) : chunk.bytes ++ rest =
    mark ++ (ascii chunk.digits ++ newline :: (chunk.data ++ rest)) := by
  simp only [PlainChunk.bytes, append_assoc, cons_append]

theorem readRound_plain : readRound (front ++ (chunk.bytes ++ rest)) front.length =
      .chunk (ascii chunk.digits) (front ++ (mark ++ ascii chunk.digits)).length
        chunk.data.length := by
  rw [chunk.bytes_append, readRound_header (notMem_digits chunk.numeric (by decide)),
    if_neg (digits_ne_end chunk.numeric), byteInt_digits chunk.numeric, chunk.size]
  refine if_neg ?_
  simp only [length_append, length_cons]
  omega

theorem PlainChunk.position :
    (((front ++ (mark ++ ascii chunk.digits)).length : Nat) + 1 + chunk.data.length : Int) =
      (front ++ chunk.bytes).length := by
  simp only [PlainChunk.bytes, length_append, length_cons]
  omega

theorem ends_found (round : readRound (front ++ rest) front.length = .ends found) :
    ∃ later, rest = endOfChunks ++ later ∧ sliceFrom (front ++ rest) (found + 1) = later := by
  obtain ⟨other, header, later, length, oneLine, whole⟩ :=
    split_of_round (by rw [round]; exact nofun)
  obtain ⟨rfl, rfl⟩ := append_inj whole length.symm
  rw [readRound_header oneLine] at round
  split at round
  case isFalse => split at round <;> [cases round; split at round <;> cases round]
  case isTrue same =>
      cases round
      refine ⟨later, by rw [same]; rfl, ?_⟩
      rw [length_found, regroup, sliceFrom_append]

theorem plain_found {digits : List Char} {size : Int} (numeric : isNumeral digits = true)
    (positive : 0 < size)
    (round : readRound (front ++ rest) front.length = .chunk (ascii digits) found size) :
    ∃ (chunk : PlainChunk) (later : List UInt8), rest = chunk.bytes ++ later ∧
      (found + 1 + size : Int) = (front ++ chunk.bytes).length := by
  obtain ⟨other, header, later, length, oneLine, whole⟩ :=
    split_of_round (by rw [round]; exact nofun)
  obtain ⟨rfl, rfl⟩ := append_inj whole length.symm
  rw [readRound_header oneLine] at round
  split at round
  case isTrue => cases round
  case isFalse =>
      split at round
      case h_1 => cases round
      case h_2 size value =>
          split at round
          case isTrue => cases round
          case isFalse fits =>
              cases round
              rw [byteInt_digits numeric] at value
              cases value
              have room : numeralValue digits ≤ later.length := by
                simp only [length_append, length_cons] at fits
                omega
              let chunk : PlainChunk :=
                { digits := digits, data := later.take (numeralValue digits), numeric := numeric
                  size := (length_take_of_le room).symm
                  some_data := by
                    intro none
                    have zero := congrArg List.length none
                    rw [length_take_of_le room, length_nil] at zero
                    omega }
              refine ⟨chunk, later.drop (numeralValue digits), ?_, ?_⟩
              · rw [chunk.bytes_append, take_append_drop]
              · rw [← chunk.position, ← chunk.size]

theorem exists_end {out : List UInt8} {position : Int} (here : Visited buf position)
    {message : String} (taken : unframeLoop fuel buf out position = some (some message, rest)) :
    ∃ position found, Visited buf position ∧ readRound buf position = .ends found := by
  induction fuel generalizing position out with
  | zero => cases taken
  | succ fuel ih =>
    rw [unframeLoop_succ] at taken
    cases round : readRound buf position with
    | waits =>
      rw [round] at taken
      cases taken
    | ends found => exact ⟨position, found, here, round⟩
    | chunk header found size =>
      rw [round] at taken
      exact ih (.next here round) taken

theorem framed_of_plain {out : List UInt8} {behind : List UInt8} {message : String}
    (plain : ∀ position header found size, Visited buf position →
      readRound buf position = .chunk header found size →
        0 < size ∧ ∃ digits, isNumeral digits = true ∧ header = ascii digits)
    (whole : buf = front ++ behind) (here : Visited buf front.length)
    (taken : unframeLoop fuel buf out front.length = some (some message, rest)) :
    ∃ chunks : List PlainChunk,
      behind = chunks.flatMap PlainChunk.bytes ++ (endOfChunks ++ rest) := by
  induction fuel generalizing front behind out with
  | zero => cases taken
  | succ fuel ih =>
    rw [unframeLoop_succ] at taken
    cases round : readRound buf front.length with
    | waits =>
      rw [round] at taken
      cases taken
    | ends found =>
      rw [round] at taken
      rw [whole] at round
      obtain ⟨later, shape, same⟩ := ends_found round
      rw [← whole] at same
      cases taken
      exact ⟨[], by rw [same]; exact shape⟩
    | chunk header found size =>
      rw [round] at taken
      obtain ⟨positive, digits, numeric, rfl⟩ := plain _ _ _ _ here round
      have next := Visited.next here round
      rw [whole] at round
      obtain ⟨chunk, later, rfl, position⟩ := plain_found numeric positive round
      dsimp only at taken
      rw [position] at taken next
      rw [← append_assoc] at whole
      obtain ⟨chunks, rfl⟩ := ih whole next taken
      exact ⟨chunk :: chunks, by rw [flatMap_cons, append_assoc]⟩

theorem visited_framed {chunks : List PlainChunk} {position : Int}
    (here : Visited (chunks.flatMap PlainChunk.bytes ++ (endOfChunks ++ rest)) position) :
    ∃ before after, chunks = before ++ after ∧
      position = (before.flatMap PlainChunk.bytes).length := by
  induction here with
  | start => exact ⟨[], chunks, rfl, rfl⟩
  | next here round ih =>
    obtain ⟨before, after, rfl, rfl⟩ := ih
    rw [flatMap_append, append_assoc] at round
    cases after with
    | nil =>
      rw [flatMap_nil, nil_append, readRound_end] at round
      cases round
    | cons chunk after =>
      rw [flatMap_cons, append_assoc, readRound_plain] at round
      cases round
      refine ⟨before ++ [chunk], after, by simp, ?_⟩
      rw [flatMap_append, flatMap_singleton]
      exact chunk.position

theorem plain_of_framed (framed : Framed buf rest) {position : Int} {header : List UInt8}
    {size : Int} (here : Visited buf position)
    (round : readRound buf position = .chunk header found size) :
    0 < size ∧ ∃ digits, isNumeral digits = true ∧ header = ascii digits := by
  obtain ⟨chunks, rfl⟩ := framed
  obtain ⟨before, after, rfl, rfl⟩ := visited_framed here
  rw [flatMap_append, append_assoc] at round
  cases after with
  | nil =>
    rw [flatMap_nil, nil_append, readRound_end] at round
    cases round
  | cons chunk after =>
    rw [flatMap_cons, append_assoc, readRound_plain] at round
    cases round
    exact ⟨Int.natCast_pos.mpr (length_pos_of_ne_nil chunk.some_data), chunk.digits,
      chunk.numeric, rfl⟩

theorem stops_through {fuel : Nat} {position : Int} (here : Visited buf position)
    (stops : unframeLoop fuel buf [] 0 ≠ none) :
    ∃ left out, unframeLoop left buf out position ≠ none ∧
      unframeLoop left buf out position = unframeLoop fuel buf [] 0 := by
  induction here with
  | start => exact ⟨fuel, [], stops, rfl⟩
  | next here round ih =>
    obtain ⟨left, out, goes, same⟩ := ih
    cases left with
    | zero => exact absurd rfl goes
    | succ left =>
      rw [unframeLoop_succ, round] at goes same
      exact ⟨left, _, goes, same⟩

end Framed

/-! ## Every buffer -/

/-- Parsing is orderly for exactly those buffers whose sizes are clean. -/
theorem orderly_iff (buf : List UInt8) : Orderly buf ↔ CleanSizes buf := by
  constructor
  · intro orderly
    refine ⟨forward_iff.mp orderly.forward, ?_⟩
    rintro ⟨last, found, there, ends⟩ position header place size here round
    obtain ⟨fuel, stops⟩ := orderly.stops
    obtain ⟨left, out, goes, same⟩ := stops_through there stops
    cases left with
    | zero => exact absurd rfl goes
    | succ left =>
      rw [unframeLoop_succ, ends] at same
      exact plain_of_framed (orderly.framed fuel _ _ same.symm) here round
  · intro clean
    refine ⟨⟨buf.length + 1, ?_⟩, forward_iff.mpr clean.ahead, ?_⟩
    · exact stops_of_ahead clean.ahead (buf.length + 1) .start (Nat.lt_succ_self _) []
    · intro fuel message rest taken
      have plain := clean.plain (exists_end fuel .start taken)
      exact @framed_of_plain buf [] rest fuel [] buf message plain rfl .start taken

/-- A size that leads back to its own header is read again and again. -/
theorem minus_five_loops : (∀ fuel, unframeChunked fuel (ascii "\n#-5\n".toList) = none) ∧
      ¬ Orderly (ascii "\n#-5\n".toList) := by
  have again : readRound (ascii "\n#-5\n".toList) 0 = .chunk (ascii "-5".toList) 4 (-5) := by
    decide +kernel
  have loops : ∀ fuel out, unframeLoop fuel (ascii "\n#-5\n".toList) out 0 = none := by
    intro fuel
    induction fuel with
    | zero => exact fun _ => rfl
    | succ fuel ih =>
      intro out
      rw [unframeLoop_succ, again]
      exact ih _
  refine ⟨fun fuel => loops fuel [], fun orderly => ?_⟩
  obtain ⟨fuel, stops⟩ := orderly.stops
  exact stops (loops fuel [])

end NetLab.Netconf
