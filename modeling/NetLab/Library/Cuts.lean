import Mathlib.Data.List.Infix

/-!
# Cutting at a mark

A list is cut at the first place where a mark stands. What comes behind does not move the cut.
-/

namespace NetLab.Library

open List Option

variable {Item : Type} [DecidableEq Item]

def cutAt (mark : List Item) : List Item → Option (List Item × List Item)
  | [] => none
  | item :: rest =>
    if mark <+: item :: rest then some ([], (item :: rest).drop mark.length)
    else (cutAt mark rest).map fun parts => (item :: parts.1, parts.2)

variable {mark list more before behind : List Item}

theorem cutAt_eq (cut : cutAt mark list = some (before, behind)) :
    before ++ (mark ++ behind) = list := by
  induction list generalizing before behind with
  | nil => cases cut
  | cons item rest ih =>
    rw [cutAt] at cut
    split at cut
    case isTrue leads =>
        cases cut
        exact prefix_iff_eq_append.mp leads
    case isFalse =>
        obtain ⟨parts, found, same⟩ := map_eq_some_iff.mp cut
        cases same
        rw [cons_append, ih found]

theorem cutAt_append (cut : cutAt mark list = some (before, behind)) (more : List Item) :
    cutAt mark (list ++ more) = some (before, behind ++ more) := by
  induction list generalizing before behind with
  | nil => cases cut
  | cons item rest ih =>
    have whole := congrArg List.length (cutAt_eq cut)
    simp only [length_append, length_cons] at whole
    rw [cutAt] at cut
    rw [cons_append, cutAt, ← cons_append]
    split at cut
    case isTrue leads =>
        cases cut
        rw [if_pos (leads.trans (prefix_append (item :: rest) more)),
          drop_append_of_le_length leads.length_le]
    case isFalse fails =>
        obtain ⟨parts, found, same⟩ := map_eq_some_iff.mp cut
        cases same
        have still : ¬ mark <+: item :: rest ++ more := fun leads =>
          fails (prefix_of_prefix_length_le leads (prefix_append (item :: rest) more)
            (by rw [length_cons]; omega))
        rw [if_neg still, ih found]
        rfl

theorem cutAt_eq_none_of_append (uncut : cutAt mark (list ++ more) = none) :
    cutAt mark list = none := by
  cases cut : cutAt mark list with
  | none => rfl
  | some parts =>
    rw [cutAt_append cut more] at uncut
    cases uncut

theorem cutAt_ne_none (some_mark : mark ≠ []) (before behind : List Item) :
    cutAt mark (before ++ (mark ++ behind)) ≠ none := by
  induction before with
  | nil =>
    cases mark with
    | nil => exact absurd rfl some_mark
    | cons first later =>
      rw [nil_append, cons_append, cutAt, ← cons_append, if_pos (prefix_append _ _)]
      exact some_ne_none _
  | cons item rest ih =>
    rw [cons_append, cutAt]
    split
    case isTrue => exact some_ne_none _
    case isFalse => exact mt map_eq_none_iff.mp ih

theorem room_of_uncut (some_mark : mark ≠ []) (uncut : cutAt mark list = none)
    (cut : cutAt mark (list ++ more) = some (before, behind)) :
    list.length < before.length + mark.length := by
  by_contra room
  have whole := cutAt_eq cut
  rw [← append_assoc] at whole
  have inside : before ++ mark <+: list :=
    prefix_of_prefix_length_le (whole ▸ prefix_append (before ++ mark) behind)
      (prefix_append list more) (by rw [length_append]; omega)
  obtain ⟨rest, rfl⟩ := inside
  rw [append_assoc] at uncut
  exact cutAt_ne_none some_mark before rest uncut

end NetLab.Library
