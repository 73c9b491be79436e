import Mathlib.Data.List.Basic
import NetLab.Library.Blanks
import NetLab.Library.Utf8

/-!
# Lines over Telnet

The reader of a Telnet session takes lines and skips option negotiations, byte by byte.
`transparent_iff` says where negotiations may stand, and for which data, without a change to the
lines.
-/

namespace NetLab.Cli.Telnet

open NetLab.Library List

def iac : UInt8 := 255
def dont : UInt8 := 254
def do_ : UInt8 := 253
def wont : UInt8 := 252
def will : UInt8 := 251
def sb : UInt8 := 250
def se : UInt8 := 240

/-- What the reader waits for, with the line so far. -/
inductive Reader where
  | line (buf : List UInt8)
  | lineEnd
  | command (buf : List UInt8)
  | option (buf : List UInt8)
  | sub (buf : List UInt8)
  | subCommand (buf : List UInt8)
deriving DecidableEq

/-- The text of a line. -/
def finish (buf : List UInt8) : String := strip (Utf8.decode buf)

namespace Reader

/-- A byte is read, and may complete a line. The byte behind a carriage return is dropped, whatever
it is. -/
def readByte : Reader → UInt8 → Reader × List String
  | .line buf, byte =>
    if byte = iac then (.command buf, [])
    else if byte = 13 then (.lineEnd, [finish buf])
    else if byte = 10 then (.line [], [finish buf])
    else if byte = 8 ∨ byte = 127 then (.line buf.dropLast, [])
    else if byte = 3 then (.line [], [""])
    else if byte < 32 then (.line buf, [])
    else (.line (buf ++ [byte]), [])
  | .lineEnd, _ => (.line [], [])
  | .command buf, byte =>
    if byte = do_ ∨ byte = dont ∨ byte = will ∨ byte = wont then (.option buf, [])
    else if byte = sb then (.sub buf, [])
    else (.line buf, [])
  | .option buf, _ => (.line buf, [])
  | .sub buf, byte => if byte = iac then (.subCommand buf, []) else (.sub buf, [])
  | .subCommand buf, byte => if byte = se then (.line buf, []) else (.sub buf, [])

/-- The lines of a stream, and what the reader waits for behind it. -/
def read (reader : Reader) : List UInt8 → Reader × List String
  | [] => (reader, [])
  | byte :: rest =>
    (((reader.readByte byte).1.read rest).1,
      (reader.readByte byte).2 ++ ((reader.readByte byte).1.read rest).2)

def holding (reader : Reader) (byte : UInt8) : Reader :=
  match reader with
  | .line buf => .line (buf ++ [byte])
  | .lineEnd => .line []
  | other => other

end Reader

/-! ## Streams -/

/-- A complete negotiation. -/
inductive Negotiation where
  | option (verb : UInt8) (isVerb : verb = do_ ∨ verb = dont ∨ verb = will ∨ verb = wont)
    (code : UInt8)
  | sub (body : List UInt8)

/-- A byte of data as it is sent. -/
def escape (byte : UInt8) : List UInt8 := if byte = iac then [iac, iac] else [byte]

def Negotiation.bytes : Negotiation → List UInt8
  | .option verb _ code => [iac, verb, code]
  | .sub body => iac :: sb :: (body.flatMap escape ++ [iac, se])

/-- Data, with places for negotiations where there is no byte. -/
abbrev Skeleton : Type := List (Option UInt8)

/-- The stream is the data with negotiations at the places. -/
inductive Fills : Skeleton → List UInt8 → Prop where
  | nil : Fills [] []
  | data {rest : Skeleton} {stream : List UInt8} (byte : UInt8) (fills : Fills rest stream) :
      Fills (some byte :: rest) (escape byte ++ stream)
  | place {rest : Skeleton} {stream : List UInt8} (negotiations : List Negotiation)
      (fills : Fills rest stream) :
      Fills (none :: rest) (negotiations.flatMap Negotiation.bytes ++ stream)

/-- The data alone. -/
def unfilled (skeleton : Skeleton) : List UInt8 :=
  skeleton.flatMap fun byte => (byte.map escape).getD []

/-- Negotiations change no line, and an escaped byte is delivered. -/
structure Transparent (skeleton : Skeleton) : Prop where
  lines : ∀ stream, Fills skeleton stream →
    (Reader.read (.line []) stream).2 = (Reader.read (.line []) (unfilled skeleton)).2
  delivers : ∀ before after, skeleton = before ++ some iac :: after →
    (Reader.read (.line []) (unfilled before ++ escape iac)).1 =
      (Reader.read (.line []) (unfilled before)).1.holding iac

/-- No place is directly behind a carriage return that ends a line: one that is not itself dropped
behind another. -/
def clearFrom : (afterReturn : Bool) → Skeleton → Bool
  | _, [] => true
  | afterReturn, none :: rest => !afterReturn && clearFrom afterReturn rest
  | afterReturn, some byte :: rest => clearFrom (!afterReturn && byte = 13) rest

def Clear (skeleton : Skeleton) : Prop := clearFrom false skeleton = true ∧ some iac ∉ skeleton

instance (skeleton : Skeleton) : Decidable (Clear skeleton) := inferInstanceAs (Decidable (_ ∧ _))

/-! ## Reading -/

section Reading

open Reader

theorem read_append (reader : Reader) (front back : List UInt8) : reader.read (front ++ back) =
      (((reader.read front).1.read back).1,
        (reader.read front).2 ++ ((reader.read front).1.read back).2) := by
  induction front generalizing reader with
  | nil => rfl
  | cons byte rest ih =>
    simp only [cons_append, Reader.read, ih, append_assoc]

variable {skeleton : Skeleton} {afterReturn : Bool} {reader : Reader} (buf : List UInt8)

theorem read_negotiation (negotiation : Negotiation) :
    Reader.read (.line buf) negotiation.bytes = (.line buf, []) := by
  cases negotiation with
  | option verb isVerb code =>
    simp [Negotiation.bytes, Reader.read, readByte, isVerb]
  | sub body =>
    have inside : Reader.read (.sub buf) (body.flatMap escape) = (.sub buf, []) := by
      induction body with
      | nil => rfl
      | cons byte rest ih =>
        rw [flatMap_cons, read_append, escape]
        by_cases escaped : byte = iac
        · simp [escaped, Reader.read, readByte, iac, se, ih]
        · simp [escaped, Reader.read, readByte, ih]
    have opened : Reader.read (.line buf) [iac, sb] = (.sub buf, []) := by
      simp [Reader.read, readByte, iac, sb, do_, dont, will, wont]
    change Reader.read (.line buf) ([iac, sb] ++ (body.flatMap escape ++ [iac, se])) = _
    rw [read_append, opened, read_append, inside]
    simp [Reader.read, readByte]

theorem read_negotiations (negotiations : List Negotiation) :
    Reader.read (.line buf) (negotiations.flatMap Negotiation.bytes) = (.line buf, []) := by
  induction negotiations with
  | nil => rfl
  | cons negotiation rest ih => rw [flatMap_cons, read_append, read_negotiation, ih]; rfl

/-- The reader reads data, behind a carriage return or not. -/
def Awaits (afterReturn : Bool) : Reader → Prop
  | .line _ => afterReturn = false
  | .lineEnd => afterReturn = true
  | _ => False

theorem awaits_readByte (awaits : Awaits afterReturn reader) {byte : UInt8} (plain : byte ≠ iac) :
    Awaits (!afterReturn && byte = 13) (reader.readByte byte).1 := by
  cases reader with
  | line buf =>
    obtain rfl : afterReturn = false := awaits
    by_cases isReturn : byte = 13
    · simp [readByte, isReturn, iac, Awaits]
    · simp only [readByte, if_neg plain, if_neg isReturn]
      split_ifs <;> simp [Awaits, isReturn]
  | lineEnd =>
    obtain rfl : afterReturn = true := awaits
    simp [readByte, Awaits]
  | command | option | sub | subCommand => cases awaits

theorem awaits_line : Awaits false (.line buf) := rfl

theorem unfilled_data {byte : UInt8} (plain : byte ≠ iac) (rest : Skeleton) :
    unfilled (some byte :: rest) = byte :: unfilled rest := by
  simp [unfilled, escape, plain]

theorem read_of_fills {stream : List UInt8} (fills : Fills skeleton stream)
    (plain : some iac ∉ skeleton) (clear : clearFrom afterReturn skeleton = true)
    (awaits : Awaits afterReturn reader) :
    reader.read stream = reader.read (unfilled skeleton) := by
  induction fills generalizing afterReturn reader with
  | nil => rfl
  | @data rest stream byte fills ih =>
    obtain ⟨notIac, plain⟩ := not_or.mp (mt mem_cons.mpr plain)
    have other : byte ≠ iac := fun same => notIac (congrArg some same.symm)
    rw [unfilled_data other, escape, if_neg other]
    change reader.read (byte :: stream) = _
    rw [Reader.read, Reader.read, ih plain clear (awaits_readByte awaits other)]
  | @place rest stream negotiations fills ih =>
    obtain ⟨notReturn, clear⟩ := Bool.and_eq_true_iff.mp clear
    cases reader with
    | line buf =>
      rw [read_append, read_negotiations, ih (fun inside => plain (.tail _ inside)) clear awaits]
      rfl
    | lineEnd =>
      obtain rfl : afterReturn = true := awaits
      cases notReturn
    | command | option | sub | subCommand => cases awaits

theorem length_read {stream : List UInt8} (plain : iac ∉ stream) (buf : List UInt8) :
    (Reader.read (.line buf) stream).2.length = (Reader.read (.line []) stream).2.length ∧
      (Reader.read .lineEnd stream).2.length ≤ (Reader.read (.line []) stream).2.length ∧
        (Reader.read (.line []) stream).2.length ≤ (Reader.read .lineEnd stream).2.length + 1 := by
  induction stream generalizing buf with
  | nil => exact ⟨rfl, Nat.le_refl _, Nat.zero_le _⟩
  | cons byte rest ih =>
    obtain ⟨notIac, plain⟩ := not_or.mp (mt mem_cons.mpr plain)
    have one : ∀ held, (Reader.read (.line held) (byte :: rest)).2.length =
        if byte = 13 then 1 + (Reader.read .lineEnd rest).2.length
        else if byte = 10 ∨ byte = 3 then 1 + (Reader.read (.line []) rest).2.length
        else (Reader.read (.line []) rest).2.length := by
      intro held
      by_cases isReturn : byte = 13
      · simp [Reader.read, readByte, isReturn, iac, Nat.add_comm]
      simp only [Reader.read, readByte, if_neg (Ne.symm notIac), if_neg isReturn, length_append]
      split_ifs with lineFeed erase cancel control <;> simp_all
    have behind : (Reader.read .lineEnd (byte :: rest)).2.length =
        (Reader.read (.line []) rest).2.length := by simp [Reader.read, readByte]
    obtain ⟨-, fewer, more⟩ := ih plain []
    rw [one, one, behind]
    refine ⟨rfl, ?_⟩
    split_ifs <;> omega

theorem fills_unfilled (skeleton : Skeleton) : Fills skeleton (unfilled skeleton) := by
  induction skeleton with
  | nil => exact .nil
  | cons byte rest ih =>
    cases byte with
    | none => exact .place [] ih
    | some byte => exact .data byte ih

/-- A negotiation of which the first byte is dropped can end a line. -/
def willSuppress : Negotiation := .option will (.inr (.inr (.inl rfl))) 3

theorem clear_of_lines (plain : some iac ∉ skeleton) (awaits : Awaits afterReturn reader)
    (same : ∀ stream, Fills skeleton stream →
      (reader.read stream).2 = (reader.read (unfilled skeleton)).2) :
    clearFrom afterReturn skeleton = true := by
  induction skeleton generalizing afterReturn reader with
  | nil => rfl
  | cons byte rest ih =>
    obtain ⟨notIac, others⟩ := not_or.mp (mt mem_cons.mpr plain)
    cases byte with
    | none =>
      cases reader with
      | line buf =>
        obtain rfl : afterReturn = false := awaits
        exact ih others (awaits_line buf) fun stream fills => same stream (.place [] fills)
      | lineEnd =>
        have data : iac ∉ unfilled rest := by
          intro inside
          obtain ⟨byte, isByte, inside⟩ := mem_flatMap.mp inside
          cases byte with
          | none => cases inside
          | some byte =>
            have other : byte ≠ iac := fun equal => others (equal ▸ isByte)
            rw [Option.map_some, Option.getD_some, escape, if_neg other] at inside
            exact other (mem_singleton.mp inside).symm
        have lengths := congrArg List.length (same _ (.place [willSuppress] (fills_unfilled rest)))
        have interrupted : Reader.read .lineEnd [iac, will, 3] = (.line [], [""]) := by
          simp [Reader.read, readByte, will, iac]
        change (Reader.read .lineEnd ([iac, will, 3] ++ unfilled rest)).2.length =
          (Reader.read .lineEnd (unfilled rest)).2.length at lengths
        rw [read_append, interrupted] at lengths
        obtain ⟨-, fewer, -⟩ := length_read data []
        simp only [length_append, length_singleton] at lengths
        omega
      | command | option | sub | subCommand => cases awaits
    | some byte =>
      have other : byte ≠ iac := fun equal => notIac (congrArg some equal.symm)
      refine ih others (awaits_readByte awaits other) fun stream fills => ?_
      have whole := same _ (.data byte fills)
      rw [unfilled_data other, escape, if_neg other] at whole
      exact append_cancel_left whole

theorem awaits_read (plain : some iac ∉ skeleton) :
    ∃ afterReturn, Awaits afterReturn (Reader.read (.line []) (unfilled skeleton)).1 := by
  have any : ∀ {afterReturn : Bool} {reader : Reader}, Awaits afterReturn reader →
      ∃ afterReturn, Awaits afterReturn (reader.read (unfilled skeleton)).1 := by
    induction skeleton with
    | nil => exact fun awaits => ⟨_, awaits⟩
    | cons byte rest ih =>
      obtain ⟨notIac, others⟩ := not_or.mp (mt mem_cons.mpr plain)
      intro afterReturn reader awaits
      cases byte with
      | none => exact ih others awaits
      | some byte =>
        have other : byte ≠ iac := fun equal => notIac (congrArg some equal.symm)
        rw [unfilled_data other]
        exact ih others (awaits_readByte awaits other)
  exact any (awaits_line [])

/-- Negotiations at the places are skipped and escaped bytes are delivered, if and only if no place is
directly behind a carriage return that ends a line, and no byte has to be escaped. -/
theorem transparent_iff (skeleton : Skeleton) : Transparent skeleton ↔ Clear skeleton := by
  constructor
  · intro transparent
    have plain : some iac ∉ skeleton := by
      intro inside
      obtain ⟨before, after, split, plain⟩ := eq_append_cons_of_mem inside
      have delivered := transparent.delivers before after split
      rw [read_append] at delivered
      obtain ⟨afterReturn, awaits⟩ := awaits_read plain
      cases reached : (Reader.read (.line []) (unfilled before)).1 with
      | line buf => simp [reached, Reader.read, readByte, holding, escape, iac, do_, dont, will, wont,
          sb] at delivered
      | lineEnd => simp [reached, Reader.read, readByte, holding, escape] at delivered
      | command | option | sub | subCommand =>
        rw [reached] at awaits
        cases awaits
    exact ⟨clear_of_lines plain (awaits_line []) transparent.lines, plain⟩
  · rintro ⟨clear, plain⟩
    refine ⟨fun stream fills => by rw [read_of_fills fills plain clear (awaits_line [])], ?_⟩
    rintro before after rfl
    exact absurd (mem_append_right _ mem_cons_self) plain

/-- A negotiation between the two bytes of a line end becomes input. -/
theorem interrupted_lineEnd :
    ¬ Transparent [some 0x61, some 0x0d, none, some 0x0a, some 0x62, some 0x0a] := by
  intro transparent
  have filled := transparent.lines ([0x61, 0x0d] ++ ([iac, will, 1] ++ [0x0a, 0x62, 0x0a]))
    (.data _ (.data _ (.place [.option will (.inr (.inr (.inl rfl))) 1]
      (.data _ (.data _ (.data _ .nil))))))
  have lengths := congrArg List.length filled
  revert lengths
  decide

end Reading

end NetLab.Cli.Telnet
