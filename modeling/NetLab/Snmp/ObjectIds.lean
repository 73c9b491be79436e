import NetLab.Snmp.Wire

/-!
# Object identifiers over the wire

The encoder packs the first two arcs into one byte and the decoder divides that byte by
forty, whatever the first arc is. `roundTrips_iff` says which identifiers survive.
-/

namespace NetLab.Snmp

open NetLab.Library

/-- An object identifier: the second arc is below forty unless the first one is two. -/
structure Oid where
  first : Nat
  second : Nat
  rest : List Nat
  root : first ≤ 2
  below : first < 2 → second < 40
deriving DecidableEq

namespace Oid

def arcs (oid : Oid) : List Nat := oid.first :: oid.second :: oid.rest

/-- The text of an object identifier. -/
def text (oid : Oid) : String := dotted oid.arcs

end Oid

def RoundTrips (text : String) : Prop := (oidContents text).map decodeOid = .ok text

instance (text : String) : Decidable (RoundTrips text) :=
  inferInstanceAs (Decidable ((oidContents text).map decodeOid = .ok text))

/-! ## Reading numerals -/

@[simp] theorem pyDigits_numeral (value : Nat) : pyDigits (numeral value) = some value := by
  have plain : '_' ∉ numeral value := fun member => by
    have digit := isDigit_of_mem_numeral member
    revert digit
    decide
  simp [pyDigits, List.splitOn_eq_singleton plain]

theorem mapM_numerals (arcs : List Nat) : (arcs.map numeral).mapM pyDigits = some arcs := by
  induction arcs with
  | nil => rfl
  | cons arc arcs ih => simp [ih]

theorem oidArcs_dotted {arcs : List Nat} (nonempty : arcs ≠ []) :
    oidArcs (dotted arcs) = some arcs := by
  have kept : ((arcs.map numeral).filter fun field => !field.isEmpty) = arcs.map numeral := by
    refine List.filter_eq_self.mpr fun field member => ?_
    obtain ⟨value, -, rfl⟩ := List.mem_map.mp member
    simp [numeral_ne_nil]
  unfold oidArcs
  rw [dotFields_dotted nonempty, kept, mapM_numerals]

/-! ## Encoding and decoding -/

section Packed

variable (first second : Nat) (rest : List Nat)

/-- The encoder fails exactly when the first two arcs do not fit into a byte. -/
theorem oidContents_dotted : oidContents (dotted (first :: second :: rest)) =
    if first * 40 + second < 256 then
      .ok (UInt8.ofNat (first * 40 + second) :: rest.flatMap base128)
    else .error .value := by
  simp [oidContents, oidArcs_dotted]

theorem decodeOid_packed {packed : Nat} (fits : packed < 256) :
    decodeOid (UInt8.ofNat packed :: rest.flatMap base128) =
      dotted (packed / 40 :: packed % 40 :: rest) := by
  have byte : (UInt8.ofNat packed).toNat = packed := by
    rw [UInt8.toNat_ofNat', Nat.mod_eq_of_lt fits]
  rw [decodeOid, byte, readBase128_flatMap]

/-- Any two first arcs survive if they fit into a byte and the second is below forty. -/
theorem roundTrips_dotted_iff :
    RoundTrips (dotted (first :: second :: rest)) ↔ second < 40 ∧ first * 40 + second < 256 := by
  unfold RoundTrips
  rw [oidContents_dotted]
  by_cases fits : first * 40 + second < 256
  · rw [if_pos fits, Except.map, Except.ok.injEq, decodeOid_packed rest fits,
      dotted_inj (List.cons_ne_nil _ _) (List.cons_ne_nil _ _)]
    simp only [List.cons.injEq, and_true, fits]
    omega
  · simp [fits, Except.map]

end Packed

/-- Identifiers are told apart by their contents. -/
theorem oidContents_injective {left right : Oid} {contents : List UInt8}
    (leftContents : oidContents left.text = .ok contents)
    (rightContents : oidContents right.text = .ok contents) : left = right := by
  obtain ⟨first, second, rest, root, below⟩ := left
  obtain ⟨first', second', rest', root', below'⟩ := right
  simp only [Oid.text, Oid.arcs, oidContents_dotted] at leftContents rightContents
  split at leftContents
  case isFalse => cases leftContents
  case isTrue fits =>
      split at rightContents
      case isFalse => cases rightContents
      case isTrue fits' =>
          have same := Except.ok.inj (leftContents.trans rightContents.symm)
          obtain ⟨packed, tails⟩ := List.cons.inj same
          have packed := congrArg UInt8.toNat packed
          rw [UInt8.toNat_ofNat', UInt8.toNat_ofNat', Nat.mod_eq_of_lt fits,
            Nat.mod_eq_of_lt fits'] at packed
          have rests : rest = rest' := by
            rw [← readBase128_flatMap rest, tails, readBase128_flatMap]
          have firsts : first = first' := by omega
          have seconds : second = second' := by omega
          subst rests firsts seconds
          rfl

/-- The first identifier below the joint arc whose second arc is too large. -/
def jointOid : Oid := ⟨2, 40, [1], by decide, by decide⟩

end NetLab.Snmp
