import NetLab.Bgp.Wire
import Mathlib.Data.List.Induction

/-!
# Which bodies are read as an UPDATE

A body is well formed if some message encodes to it, and a reader is to give exactly what the
message says, and nothing for any other body. `_parse_update` compares the two outer lengths with
the body, and no other one with what stands around it, so it does that exactly for well-formed bodies
and for those in which an outer length does not fit.
-/

namespace NetLab.Bgp

open NetLab.Library NetLab.Network List

def lastValue (attributes : List PathAttribute) (code : UInt8) (test : List UInt8 → Bool) :
    Option (List UInt8) :=
  ((attributes.filter fun attr => attr.code == code && test attr.value).getLast?).map
    PathAttribute.value

def originOf (value : List UInt8) : Origin :=
  if value.head? = some 1 then .egp else if value.head? = some 2 then .incomplete else .igp

/-- An update has the attributes of a message: the AS path of all segments, and of other attributes
the last one of the right size, or a default. -/
structure HasAttributes (attributes : List PathAttribute) (update : ParsedUpdate String) :
    Prop where
  asPath : ∃ segments : List Segment,
    (attributes.flatMap fun attr => if attr.code = 2 then attr.value else []) =
        segments.flatMap Segment.encode ∧
      update.asPath = segments.flatMap fun segment => segment.numbers.map UInt32.toNat
  origin : update.origin = ((lastValue attributes 1 fun value => !value.isEmpty).map originOf).getD .igp
  nextHop : update.nextHop = (lastValue attributes 3 fun value => value.length == 4).map inetNtoa
  med : update.med =
    ((lastValue attributes 4 fun value => value.length == 4).map bigEndianValue).getD 0
  localPref : update.localPref =
    ((lastValue attributes 5 fun value => value.length == 4).map bigEndianValue).getD 100

/-- An update says what a message says. -/
structure UpdateMessage.Means (message : UpdateMessage) (update : ParsedUpdate String) : Prop where
  prefixes : update.prefixes = message.announcedPrefixes
  attributes : HasAttributes message.attributes update

/-- A body is read if and only if it is well formed, and then as what it says; nothing is raised. -/
structure ParsedExactly (body : List UInt8) : Prop where
  wellFormed : ∀ message : UpdateMessage, body = message.encode →
    ∃ update, parseUpdate body = .ok (some update) ∧ message.Means update
  malformed : (∀ message : UpdateMessage, body ≠ message.encode) → parseUpdate body = .ok none

def OuterLengthsFit (body : List UInt8) : Prop :=
  ∃ withdrawnLength attrsLength, fieldAt 2 body 0 = some withdrawnLength ∧
    fieldAt 2 body (2 + withdrawnLength) = some attrsLength ∧
      2 + withdrawnLength + 2 + attrsLength ≤ body.length

/-! ## Reading attributes -/

variable (attributes : List PathAttribute) (attr : PathAttribute)

theorem effect_eq (read : ParsedUpdate String) : ∃ segments : List Segment,
      (if attr.code = 2 then attr.value else []) = segments.flatMap Segment.encode ∧
      attr.effect read = { read with
          asPath := read.asPath ++ segments.flatMap fun segment => segment.numbers.map UInt32.toNat
          origin := if attr.code = 1 ∧ attr.value ≠ [] then originOf attr.value else read.origin
          nextHop := if attr.code = 3 ∧ attr.value.length = 4 then some (inetNtoa attr.value)
            else read.nextHop
          med := if attr.code = 4 ∧ attr.value.length = 4 then bigEndianValue attr.value
            else read.med
          localPref := if attr.code = 5 ∧ attr.value.length = 4 then bigEndianValue attr.value
            else read.localPref } := by
  unfold PathAttribute.effect ParsedUpdate.read
  by_cases path : attr.code = 2
  · obtain ⟨segments, same⟩ := attr.path path
    refine ⟨segments, by rw [if_pos path, same], ?_⟩
    rw [if_neg fun both => by simp [path] at both, if_pos path, same, readAsPath_encode]
    simp [path]
  · refine ⟨[], by rw [if_neg path]; rfl, ?_⟩
    rw [if_neg path]
    by_cases origin : attr.code = 1 ∧ attr.value ≠ []
    · simp [origin, originOf]
    · rw [if_neg origin, if_neg origin]
      by_cases hop : attr.code = 3 ∧ attr.value.length = 4
      · simp [hop]
      · rw [if_neg hop, if_neg hop]
        by_cases med : attr.code = 4 ∧ attr.value.length = 4
        · simp [med]
        · rw [if_neg med, if_neg med]
          by_cases preference : attr.code = 5 ∧ attr.value.length = 4
          · simp [preference]
          · simp [preference]

theorem lastValue_append (code : UInt8) (test : List UInt8 → Bool) :
    lastValue (attributes ++ [attr]) code test =
      if attr.code = code ∧ test attr.value = true then some attr.value
      else lastValue attributes code test := by
  unfold lastValue
  rw [filter_append, filter_singleton]
  by_cases here : attr.code = code ∧ test attr.value = true
  · simp [here]
  · have fails : (attr.code == code && test attr.value) = false := by simpa using here
    rw [if_neg here, fails, cond_false, append_nil]

theorem hasAttributes_foldl :
    HasAttributes attributes (attributes.foldl (fun read attr => attr.effect read) {}) := by
  induction attributes using List.reverseRecOn with
  | nil => exact ⟨⟨[], rfl, rfl⟩, rfl, rfl, rfl, rfl⟩
  | append_singleton attributes attr ih =>
    rw [foldl_append, foldl_cons, foldl_nil]
    obtain ⟨segments, added, effect⟩ :=
      effect_eq attr (attributes.foldl (fun read attr => attr.effect read) {})
    obtain ⟨before, path, numbers⟩ := ih.asPath
    rw [effect]
    refine ⟨⟨before ++ segments, ?_, ?_⟩, ?_, ?_, ?_, ?_⟩
    · rw [flatMap_append, path, flatMap_singleton, added, flatMap_append]
    · simp only [numbers, flatMap_append]
    · simp only [lastValue_append, ih.origin, Bool.not_eq_true', isEmpty_eq_false_iff]
      split <;> rfl
    · simp only [lastValue_append, ih.nextHop, beq_iff_eq]
      split <;> rfl
    · simp only [lastValue_append, ih.med, beq_iff_eq]
      split <;> rfl
    · simp only [lastValue_append, ih.localPref, beq_iff_eq]
      split <;> rfl

theorem means_parsed (message : UpdateMessage) : message.Means message.parsed := by
  obtain ⟨asPath, origin, nextHop, med, localPref⟩ := hasAttributes_foldl message.attributes
  exact ⟨rfl, asPath, origin, nextHop, med, localPref⟩

/-! ## Bodies that are not read -/

theorem parseUpdate_eq_none_iff (body : List UInt8) :
    parseUpdate body = .ok none ↔ ¬ OuterLengthsFit body := by
  have present (position : Nat) (inside : position + 2 ≤ body.length) :
      fieldAt 2 body position = some (bigEndianValue ((body.drop position).take 2)) := by
    have size : ((body.drop position).take 2).length = 2 := by
      rw [length_take, length_drop]
      omega
    simp [fieldAt, size]
  unfold parseUpdate
  by_cases short : body.length < 4
  · refine iff_of_true (by rw [if_pos short]) ?_
    rintro ⟨withdrawnLength, attrsLength, -, -, fits⟩
    omega
  rw [if_neg short]
  generalize withdrawn : bigEndianValue ((body.drop 0).take 2) = withdrawnLength
  have first : fieldAt 2 body 0 = some withdrawnLength := by
    rw [present 0 (by omega), withdrawn]
  have unpacked : unpackAt 2 body 0 = .ok withdrawnLength := by rw [unpackAt, first]
  rw [unpacked]
  dsimp only [bind, Except.bind]
  by_cases long : body.length < 2 + withdrawnLength + 2
  · refine iff_of_true (by rw [if_pos long]; rfl) ?_
    rintro ⟨other, attrsLength, same, -, fits⟩
    obtain rfl := Option.some.inj (first.symm.trans same)
    omega
  rw [if_neg long]
  generalize attrs : bigEndianValue ((body.drop (2 + withdrawnLength)).take 2) = attrsLength
  have second : fieldAt 2 body (2 + withdrawnLength) = some attrsLength := by
    rw [present _ (by omega), attrs]
  have unpacked' : unpackAt 2 body (2 + withdrawnLength) = .ok attrsLength := by
    rw [unpackAt, second]
  rw [unpacked']
  dsimp only
  by_cases beyond : body.length < 2 + withdrawnLength + 2 + attrsLength
  · refine iff_of_true (by rw [if_pos beyond]; rfl) ?_
    rintro ⟨other, other', same, same', fits⟩
    obtain rfl := Option.some.inj (first.symm.trans same)
    obtain rfl := Option.some.inj (second.symm.trans same')
    omega
  rw [if_neg beyond]
  refine iff_of_false ?_ (not_not.mpr ⟨withdrawnLength, attrsLength, first, second, by omega⟩)
  -- whatever the rest holds, the outcome is an error or an update
  generalize parseAttributes body _ _ _ = attributes
  cases attributes with
  | error error => exact nofun
  | ok attributes =>
    generalize parsePrefixes _ = prefixes
    cases prefixes <;> exact nofun

/-- A body is read as what it says, or not at all, if and only if it is well formed or an outer length
does not fit. -/
theorem parsedExactly_iff (body : List UInt8) : ParsedExactly body ↔
      (∃ message : UpdateMessage, body = message.encode) ∨ ¬ OuterLengthsFit body := by
  constructor
  · intro exactly
    rw [← parseUpdate_eq_none_iff]
    by_cases formed : ∃ message : UpdateMessage, body = message.encode
    · exact .inl formed
    · exact .inr (exactly.malformed (not_exists.mp formed))
  · intro either
    refine ⟨?_, fun malformed => ?_⟩
    · rintro message rfl
      exact ⟨message.parsed, parseUpdate_encode_eq message, means_parsed message⟩
    · rw [parseUpdate_eq_none_iff]
      exact either.resolve_left (not_exists.mpr malformed)

/-- A network whose bytes are cut off is announced as another one. -/
theorem cut_network_read : ¬ ParsedExactly [0, 0, 0, 0, 24, 10] := by
  intro exactly
  by_cases formed : ∃ message : UpdateMessage, [0, 0, 0, 0, 24, 10] = message.encode
  · obtain ⟨message, encoded⟩ := formed
    unfold UpdateMessage.encode at encoded
    generalize message.withdrawn.flatMap Nlri.encode = withdrawn at encoded
    generalize message.attributes.flatMap PathAttribute.encode = attributes at encoded
    have size := congrArg List.length encoded
    simp only [length_append, length_bigEndian, length_cons, length_nil] at size
    -- both outer lengths are zero, so the network takes the last two bytes
    obtain rfl : withdrawn = [] := by
      have first := congrArg (List.take 2) encoded
      rw [take_left' (length_bigEndian 2 _)] at first
      have value := congrArg bigEndianValue first
      rw [bigEndianValue_bigEndian, Nat.mod_eq_of_lt (by omega)] at value
      exact eq_nil_of_length_eq_zero value.symm
    rw [length_nil, nil_append] at encoded
    obtain rfl : attributes = [] := by
      have second := congrArg (fun body => (body.drop 2).take 2) encoded
      simp only [drop_left' (length_bigEndian 2 0), take_left' (length_bigEndian 2 _)] at second
      have value := congrArg bigEndianValue second
      rw [bigEndianValue_bigEndian, Nat.mod_eq_of_lt (by omega)] at value
      exact eq_nil_of_length_eq_zero value.symm
    have networks : [24, 10] = message.announced.flatMap Nlri.encode := by
      have rest := congrArg (List.drop 4) encoded
      simpa [bigEndian] using rest
    cases announced : message.announced with
    | nil =>
      rw [announced] at networks
      cases networks
    | cons first later =>
      rw [announced, flatMap_cons, Nlri.encode, cons_append] at networks
      obtain ⟨head, tail⟩ := List.cons.inj networks
      have short := first.short
      have length : 24 = first.length := by
        have value := congrArg UInt8.toNat head
        rwa [UInt8.toNat_ofNat', Nat.mod_eq_of_lt (by omega)] at value
      have sized := first.sized
      have cut := congrArg List.length tail
      rw [← length] at sized
      simp only [length_append, length_cons, length_nil] at cut
      omega
  · have unread := exactly.malformed (not_exists.mp formed)
    rw [parseUpdate_eq_none_iff] at unread
    exact unread ⟨0, 0, rfl, rfl, by decide⟩

end NetLab.Bgp
