/- # Laying a text over a mask, slot by slot

A text laid over two rows of slots, one behind the other, is laid over the first row, and
what is left of it over the second. So the slots of a mask can be looked at one at a time,
and all that a slot knows of the slots before it is how many characters they have taken. It
takes the next character if it accepts it; otherwise it stays unfilled, and the next slot is
offered the same character.

Which character each slot takes is all there is to say about a placement: the value, the
first gap and the number of characters placed are read off it (`place_eq`).
-/

import Mathlib.Data.Nat.Count
import MaskedField.Proofs.Mask.Fitting

namespace MaskedField

namespace Placement

/-- One placement behind another. -/
def append (front back : Placement) : Placement where
  value := front.value ++ back.value
  firstGap? := front.firstGap?.or (back.firstGap?.map (front.value.length + ·))
  consumed := front.consumed + back.consumed

/-- What comes of a single slot that takes a character or none. -/
def single (slot : Slot) (taken? : Option Char) : Placement where
  value := [taken?.getD slot.unfilled]
  firstGap? := if slot.isEditable && taken?.isNone then some 0 else none
  consumed := if taken?.isSome then 1 else 0

variable (front back : Placement)

theorem nothing_append : nothing.append back = back := by
  simp [append, nothing]

theorem behindLiteral_append (shown : Char) :
    (front.behindLiteral shown).append back = (front.append back).behindLiteral shown := by
  simp [append, behindLiteral, Option.map_or, Function.comp_def, Nat.add_right_comm]

theorem behindFilled_append (c : Char) :
    (front.behindFilled c).append back = (front.append back).behindFilled c := by
  simp [append, behindFilled, Option.map_or, Function.comp_def, Nat.add_right_comm]

theorem behindGap_append : front.behindGap.append back = (front.append back).behindGap := by
  simp [append, behindGap]

theorem firstGap?_append_single (slot : Slot) (taken? : Option Char) :
    (front.append (single slot taken?)).firstGap? =
      front.firstGap?.or
        (if slot.isEditable && taken?.isNone then some front.value.length else none) := by
  by_cases hgap : (slot.isEditable && taken?.isNone) = true
  · simp [append, single, hgap]
  · simp [append, single, hgap]

end Placement

/-- A row behind another one gets what the first leaves of the text. -/
theorem layOver_append (front back : List Slot) (text : List Char) :
    layOver (front ++ back) text =
      (layOver front text).append (layOver back (text.drop (layOver front text).consumed)) := by
  fun_induction layOver front text with
  | case1 text => exact (Placement.nothing_append _).symm
  | case2 shown slots text ih =>
    rw [List.cons_append, layOver, ih, Placement.behindLiteral_append]
    rfl
  | case3 slot slots hliteral ih =>
    rw [List.cons_append, layOver, ih, Placement.behindGap_append]
    · rfl
    · exact hliteral
  | case4 slot slots c text hliteral haccepts ih =>
    rw [List.cons_append, layOver, if_pos haccepts, ih, Placement.behindFilled_append]
    · rfl
    · exact hliteral
  | case5 slot slots c text hliteral hrefused ih =>
    rw [List.cons_append, layOver, if_neg hrefused, ih, Placement.behindGap_append]
    · rfl
    · exact hliteral

/-- A slot on its own takes the first character of the text if it accepts it. -/
theorem layOver_singleton (slot : Slot) (text : List Char) :
    layOver [slot] text = .single slot (text.head?.filter slot.accepts) := by
  cases slot with
  | literal shown => cases text <;> rfl
  | unclassified source => cases text <;> rfl
  | placeholder charClass =>
    cases text with
    | nil => rfl
    | cons c text =>
      rw [layOver, List.head?_cons, Option.filter_some]
      · split <;> rfl
      · exact fun shown => Slot.noConfusion

namespace Mask

variable (mask : Mask) (text : List Char)

/-- How many characters of the text the slots before a position take. -/
def reached (position : Nat) : Nat :=
  (layOver (mask.slots.take position) text).consumed

/-- The character of the text that the slot at a position takes. -/
def taken? (position : Nat) : Option Char :=
  text[mask.reached text position]?.filter (mask.accepts position)

/-- The position can be edited but takes nothing. -/
def isGap (position : Nat) : Bool :=
  mask.isEditable position && (mask.taken? text position).isNone

section Step

variable {mask text} {position : Nat} {c : Char}

theorem taken?_eq_some_iff :
    mask.taken? text position = some c ↔
      text[mask.reached text position]? = some c ∧ mask.accepts position c = true :=
  Option.filter_eq_some_iff

theorem isEditable_of_taken? (htaken : mask.taken? text position = some c) :
    mask.isEditable position = true :=
  isEditable_of_accepts (taken?_eq_some_iff.1 htaken).2

theorem taken?_eq_none_of_slot? (hslot : mask.slot? position = none) :
    mask.taken? text position = none := by
  simp [taken?, accepts, hslot]

/-- The step from one slot to the next. -/
theorem layOver_take_succ {slot : Slot} (hslot : mask.slot? position = some slot) :
    layOver (mask.slots.take (position + 1)) text =
      (layOver (mask.slots.take position) text).append
        (.single slot (mask.taken? text position)) := by
  have haccepts : mask.accepts position = slot.accepts := by
    funext c
    rw [accepts, hslot, Option.any_some]
  rw [List.take_add_one, ← slot?, hslot, Option.toList_some, layOver_append, layOver_singleton,
    List.head?_drop, taken?, haccepts, reached]

end Step

/-- What comes of the slots before a position, told by what each of them takes. -/
theorem layOver_take (position : Nat) :
    layOver (mask.slots.take position) text =
      ⟨(mask.slots.take position).mapIdx fun index slot =>
          (mask.taken? text index).getD slot.unfilled,
        (List.range position).find? (mask.isGap text),
        Nat.count (fun index => (mask.taken? text index).isSome) position⟩ := by
  -- The slot at a position knows the slots before it by their count alone, so that the step
  -- adds a single slot to each of the three parts.
  induction position with
  | zero => rfl
  | succ position ih =>
    rw [List.take_add_one, List.range_succ, List.find?_append, List.find?_singleton,
      Nat.count_succ, isGap, isEditable, ← slot?]
    cases hslot : mask.slot? position with
    | none =>
      -- Behind the last slot nothing is added.
      rw [taken?_eq_none_of_slot? hslot, Option.toList_none, List.append_nil, ih]
      simp
    | some slot =>
      have hinside : position < mask.slots.length := (List.getElem?_eq_some_iff.1 hslot).1
      have hlength : (mask.slots.take position).length = position :=
        List.length_take_of_le (Nat.le_of_lt hinside)
      have hstep : layOver (mask.slots.take (position + 1)) text = _ := layOver_take_succ hslot
      rw [List.take_add_one, ← slot?, hslot, ih] at hstep
      rw [hstep, Option.toList_some, List.mapIdx_append, hlength]
      refine Placement.ext ?_ ?_ rfl
      · simp [Placement.append, Placement.single]
      · rw [Placement.firstGap?_append_single, List.length_mapIdx, hlength]
        rfl

/-- A placement is known as soon as it is known what each slot takes. -/
theorem place_eq :
    mask.place text =
      ⟨mask.slots.mapIdx fun index slot => (mask.taken? text index).getD slot.unfilled,
        (List.range mask.length).find? (mask.isGap text),
        Nat.count (fun index => (mask.taken? text index).isSome) mask.length⟩ := by
  have hall : mask.slots.take mask.length = mask.slots := List.take_length
  have hplace := mask.layOver_take text mask.length
  rwa [hall] at hplace

theorem place_congr {mask : Mask} {text other : List Char}
    (hsame : ∀ position, mask.taken? text position = mask.taken? other position) :
    mask.place text = mask.place other := by
  have hgap : mask.isGap text = mask.isGap other := by
    funext position
    rw [isGap, isGap, hsame]
  rw [place_eq, place_eq, funext hsame, hgap]

theorem getElem?_value_place (position : Nat) :
    (mask.place text).value[position]? =
      (mask.slot? position).map fun slot => (mask.taken? text position).getD slot.unfilled := by
  rw [place_eq, List.getElem?_mapIdx, slot?]

section Value

variable {mask text} {position : Nat} {c : Char}

theorem getElem?_value_of_taken? (htaken : mask.taken? text position = some c) :
    (mask.place text).value[position]? = some c := by
  obtain ⟨slot, hslot, -⟩ := (Option.any_eq_true _ _).1 (taken?_eq_some_iff.1 htaken).2
  rw [getElem?_value_place, hslot, htaken, Option.map_some, Option.getD_some]

/-- A slot that stays unfilled shows its literal or the blank. -/
theorem getElem?_value_of_taken?_eq_none {slot : Slot} (hslot : mask.slot? position = some slot)
    (hnone : mask.taken? text position = none) :
    (mask.place text).value[position]? = some slot.unfilled := by
  rw [getElem?_value_place, hslot, hnone, Option.map_some, Option.getD_none]

/-- A gap shows the blank. -/
theorem getElem?_value_of_isGap (hgap : mask.isGap text position = true) :
    (mask.place text).value[position]? = some blank := by
  obtain ⟨heditable, hnone⟩ := Bool.and_eq_true_iff.1 hgap
  obtain ⟨slot, hslot, hslotEditable⟩ := (Option.any_eq_true _ _).1 heditable
  rw [getElem?_value_of_taken?_eq_none hslot (Option.isNone_iff_eq_none.1 hnone),
    Slot.unfilled_of_isEditable hslotEditable]

end Value

section Cursor

theorem cursor_place :
    (mask.place text).cursor =
      ((List.range mask.length).find? (mask.isGap text)).getD mask.length := by
  rw [Placement.cursor, (mask.fits_place text).length_eq, place_eq]

/-- The cursor is at a gap unless there is none. -/
theorem isGap_cursor_or :
    mask.isGap text (mask.place text).cursor = true ∨
      (mask.place text).cursor = mask.length := by
  rw [cursor_place]
  cases hfound : (List.range mask.length).find? (mask.isGap text) with
  | none => exact .inr rfl
  | some gap => exact .inl (List.find?_some hfound)

variable {mask text} {position : Nat}

/-- No gap is before the cursor. -/
theorem cursor_le_of_isGap (hgap : mask.isGap text position = true) :
    (mask.place text).cursor ≤ position := by
  have hinside : position < mask.length :=
    lt_length_of_isEditable (Bool.and_eq_true_iff.1 hgap).1
  rw [cursor_place]
  cases hfound : (List.range mask.length).find? (mask.isGap text) with
  | none =>
    have hnone := List.find?_eq_none.1 hfound position (List.mem_range.2 hinside)
    exact absurd hgap hnone
  | some gap =>
    apply Nat.le_of_not_lt
    intro hbefore
    have hearlier := (List.find?_range_eq_some.1 hfound).2.2 position hbefore
    simp [hgap] at hearlier

end Cursor

end Mask
end MaskedField
