import NetLab.Library.BigEndian
import NetLab.Library.Integers
import NetLab.Library.LeadingBits

/-!
# RIP packets

The route injector builds the packets that the listener of an emulated device reads. Both versions
have one format; version 1 leaves the mask empty, and an empty mask is read as that of the class.
-/

namespace NetLab.Rip

open NetLab.Library List

/-- The bytes of an IPv4 address. -/
abbrev AddressBytes : Type := {bytes : List UInt8 // bytes.length = 4}

/-- Dotted form of an address. -/
def dottedBytes (bytes : List UInt8) : String := dotted (bytes.map UInt8.toNat)

/-- A route that is injected. Its addresses stand for their dotted forms, its mask is that of a
prefix length. -/
structure InjectedRoute where
  network : AddressBytes
  length : Nat
  nexthop : AddressBytes
  metric : Nat
  tag : Nat
  short : length ≤ 32
  metricFits : metric < 2 ^ 32
  tagFits : tag < 2 ^ 16

/-- `rip_build_rte`. -/
def ripBuildRte (version : Nat) (route : InjectedRoute) : List UInt8 :=
  let tag := if version = 1 then 0 else route.tag
  let mask := if version = 1 then 0 else leadingMask 32 route.length
  let nexthop := if version = 1 then bigEndian 4 0 else route.nexthop.1
  bigEndian 2 2 ++ bigEndian 2 tag ++ route.network.1 ++ bigEndian 4 mask ++ nexthop ++
    bigEndian 4 route.metric

/-- `rip_build_packet`, if the routes are not too many and the header has room for the values. -/
def ripBuildPacket (routes : List InjectedRoute) (version command : Nat) : Option (List UInt8) :=
  if routes.length ≤ 25 ∧ command < 256 ∧ version < 256 then
    some (bigEndian 1 command ++ bigEndian 1 version ++ bigEndian 2 0 ++
      routes.flatMap (ripBuildRte version))
  else none

/-- An entry as the listener gives it on. -/
structure ReadEntry where
  network : String
  length : Nat
  metric : Nat
deriving DecidableEq

structure ReadPacket where
  command : Nat
  version : Nat
  entries : List ReadEntry
deriving DecidableEq

/-- `_classful_prefix`. -/
def classfulPrefix (network : String) : Nat :=
  match ((dotFields network).head?).bind (readInt plainDigits) with
  | none => 24
  | some first => if first < 128 then 8 else if first < 192 then 16 else 24

/-- `bin(mask).count('1')`. -/
def countOnes (mask : Nat) : Nat := (List.range 32).countP mask.testBit

/-- One entry of `parse_rip_packet`, unless its address family is another one. -/
def readEntry (bytes : List UInt8) : Option ReadEntry :=
  let network := dottedBytes ((bytes.drop 4).take 4)
  let mask := bigEndianValue ((bytes.drop 8).take 4)
  if bigEndianValue (bytes.take 2) = 2 then
    some { network
           length := if mask ≠ 0 then countOnes mask else classfulPrefix network
           metric := bigEndianValue ((bytes.drop 16).take 4) }
  else none

def readEntries (bytes : List UInt8) : List ReadEntry :=
  if 20 ≤ bytes.length then (readEntry (bytes.take 20)).toList ++ readEntries (bytes.drop 20) else []
termination_by bytes.length
decreasing_by rw [length_drop]; omega

/-- `parse_rip_packet`. -/
def parseRipPacket (data : List UInt8) : Option ReadPacket :=
  if data.length < 4 then none
  else some
    { command := bigEndianValue (data.take 1), version := bigEndianValue ((data.drop 1).take 1)
      entries := readEntries (data.drop 4) }

/-- What a route is read as: a default route, or any in version 1, with the mask of its class. -/
def InjectedRoute.readBack (version : Nat) (route : InjectedRoute) : ReadEntry where
  network := dottedBytes route.network.1
  length := if version = 1 ∨ route.length = 0 then classfulPrefix (dottedBytes route.network.1)
    else route.length
  metric := route.metric

/-! ## Reading what is built -/

theorem countOnes_leadingMask {length : Nat} (short : length ≤ 32) :
    countOnes (leadingMask 32 length) = length := by
  have all : ∀ length ≤ 32, countOnes (leadingMask 32 length) = length := by decide +kernel
  exact all length short

theorem leadingMask_bounds {length : Nat} (short : length ≤ 32) :
    leadingMask 32 length < 256 ^ 4 ∧ (leadingMask 32 length = 0 ↔ length = 0) := by
  have all : ∀ length ≤ 32, leadingMask 32 length < 256 ^ 4 ∧
      (leadingMask 32 length = 0 ↔ length = 0) := by decide +kernel
  exact all length short

variable (version : Nat) (route : InjectedRoute)

theorem length_nexthop :
    (if version = 1 then bigEndian 4 0 else route.nexthop.1).length = 4 := by
  split
  · exact length_bigEndian 4 0
  · exact route.nexthop.2

theorem length_ripBuildRte : (ripBuildRte version route).length = 20 := by
  simp [ripBuildRte, length_nexthop, route.network.2]

theorem readEntry_append {family tag network mask nexthop metric : List UInt8}
    (familySize : family.length = 2) (tagSize : tag.length = 2) (networkSize : network.length = 4)
    (maskSize : mask.length = 4) (nexthopSize : nexthop.length = 4) (metricSize : metric.length = 4) :
    readEntry (family ++ tag ++ network ++ mask ++ nexthop ++ metric) =
      if bigEndianValue family = 2 then
        some ⟨dottedBytes network, if bigEndianValue mask ≠ 0 then countOnes (bigEndianValue mask)
          else classfulPrefix (dottedBytes network), bigEndianValue metric⟩
      else none := by
  have whole {field : List UInt8} {size : Nat} (fits : field.length = size) :
      field.take size = field := take_of_length_le (by omega)
  have past {field : List UInt8} {size : Nat} (beyond : field.length ≤ size) :
      field.drop size = [] := drop_of_length_le beyond
  simp [readEntry, drop_append, familySize, tagSize, networkSize, maskSize, nexthopSize,
    whole metricSize, past]

theorem readEntry_ripBuildRte :
    readEntry (ripBuildRte version route) = some (route.readBack version) := by
  obtain ⟨small, empty⟩ := leadingMask_bounds route.short
  have metric : bigEndianValue (bigEndian 4 route.metric) = route.metric := by
    rw [bigEndianValue_bigEndian]
    exact Nat.mod_eq_of_lt route.metricFits
  have mask : bigEndianValue
      (bigEndian 4 (if version = 1 then 0 else leadingMask 32 route.length)) =
        if version = 1 then 0 else leadingMask 32 route.length := by
    rw [bigEndianValue_bigEndian]
    exact Nat.mod_eq_of_lt (by split <;> omega)
  rw [ripBuildRte, readEntry_append (length_bigEndian 2 2) (length_bigEndian 2 _) route.network.2
    (length_bigEndian 4 _) (length_nexthop version route) (length_bigEndian 4 _), mask, metric,
    if_pos (by decide), InjectedRoute.readBack]
  by_cases first : version = 1
  · simp [first]
  · by_cases zero : route.length = 0
    · rw [empty.mpr zero]
      simp [zero]
    · simp [first, zero, mt empty.mp zero, countOnes_leadingMask route.short]

/-- Of entries that are cut somewhere, the whole ones are read. -/
theorem readEntries_take (routes : List InjectedRoute) (count : Nat) :
    readEntries ((routes.flatMap (ripBuildRte version)).take count) =
      (routes.map (InjectedRoute.readBack version)).take (count / 20) := by
  induction routes generalizing count with
  | nil => simp [readEntries]
  | cons route rest ih =>
    rw [flatMap_cons]
    have size := length_ripBuildRte version route
    by_cases whole : 20 ≤ count
    · rw [readEntries, if_pos (by simp [size]; omega), take_take, Nat.min_eq_left whole,
        take_left' size, readEntry_ripBuildRte, drop_take, drop_left' size, ih,
        show count / 20 = (count - 20) / 20 + 1 by omega]
      rfl
    · rw [readEntries, if_neg (by simp; omega), Nat.div_eq_of_lt (by omega)]
      rfl

/-- Packets are read back, and of one that is cut the entries before the cut. -/
theorem parseRipPacket_build (routes : List InjectedRoute) (command : Nat)
    (few : routes.length ≤ 25) (commandFits : command < 256) (versionFits : version < 256) :
    ∃ packet, ripBuildPacket routes version command = some packet ∧
      parseRipPacket packet =
        some ⟨command, version, routes.map (InjectedRoute.readBack version)⟩ ∧
      ∀ count, 4 ≤ count → parseRipPacket (packet.take count) =
        some ⟨command, version,
          (routes.map (InjectedRoute.readBack version)).take ((count - 4) / 20)⟩ := by
  have small {value : Nat} (fits : value < 256) : bigEndianValue [UInt8.ofNat value] = value := by
    rw [← bigEndian_one, bigEndianValue_bigEndian]
    exact Nat.mod_eq_of_lt fits
  have read (body : List UInt8) : parseRipPacket
      (bigEndian 1 command ++ bigEndian 1 version ++ bigEndian 2 0 ++ body) =
        some ⟨command, version, readEntries body⟩ := by
    simp [parseRipPacket, bigEndian_one, small commandFits, small versionFits]
  have size : (bigEndian 1 command ++ bigEndian 1 version ++ bigEndian 2 0).length = 4 := by simp
  refine ⟨_, if_pos ⟨few, commandFits, versionFits⟩, ?_, fun count long => ?_⟩
  · rw [read]
    have whole := readEntries_take version routes (routes.flatMap (ripBuildRte version)).length
    have total : (routes.flatMap (ripBuildRte version)).length = routes.length * 20 := by
      simp [length_flatMap, length_ripBuildRte]
    rw [take_length, total, Nat.mul_div_cancel _ (by decide),
      take_of_length_le (by rw [length_map])] at whole
    rw [whole]
  · obtain ⟨rest, rfl⟩ := Nat.exists_eq_add_of_le long
    rw [take_append, size, take_of_length_le (by omega), Nat.add_sub_cancel_left, read,
      readEntries_take]

/-- The default route, as version 2 carries it. -/
def defaultRoute : InjectedRoute where
  network := ⟨[0, 0, 0, 0], rfl⟩
  length := 0
  nexthop := ⟨[0, 0, 0, 0], rfl⟩
  metric := 1
  tag := 0
  short := by decide
  metricFits := by decide
  tagFits := by decide

example :
    (ripBuildPacket [defaultRoute] 2 2).bind parseRipPacket = some ⟨2, 2, [⟨"0.0.0.0", 8, 1⟩]⟩ := by
  decide +kernel

theorem defaultRoute_built : ∃ packet, ripBuildPacket [defaultRoute] 2 2 = some packet ∧
    parseRipPacket packet = some ⟨2, 2, [defaultRoute.readBack 2]⟩ :=
  let ⟨packet, built, read, _⟩ :=
    parseRipPacket_build 2 [defaultRoute] 2 (by decide) (by decide) (by decide)
  ⟨packet, built, read⟩

end NetLab.Rip
