/- # Taking the literals off

Without its literals a value is the text of its editable slots, in order. For a complete
value this bare text fills the mask: laid over it, every character goes back to the slot
that it was taken from, the literals show themselves, and nothing is left over. So the
literals of a complete value say nothing that the mask does not say.

A value with a slot left unfilled is not considered. Its bare text has a blank in it,
which a slot need not accept.
-/

import MaskedField.Proofs.Mask.Filling

namespace MaskedField

/-- The characters of a value at the editable positions of a row, in order. -/
def bareText (slots : List Slot) (value : List Char) : List Char :=
  (editablePositions slots).filterMap fun position => value[position]?

theorem bareText_cons (slot : Slot) (slots : List Slot) (c : Char) (value : List Char) :
    bareText (slot :: slots) (c :: value) =
      (if slot.isEditable then [c] else []) ++ bareText slots value := by
  have hbehind : (fun position => (c :: value)[position]?) ∘ (· + 1) =
      fun position : Nat => value[position]? := rfl
  rw [bareText, editablePositions_cons, List.filterMap_append, List.filterMap_map, hbehind,
    bareText]
  cases slot.isEditable <;> rfl

section Completed

variable {slots : List Slot} {value : List Char}

/-- The bare text of a complete value fills the row. -/
theorem fills_bareText (hcompleted : List.Forall₂ Slot.Completes slots value) :
    Fills slots (bareText slots value) := by
  induction hcompleted with
  | nil => exact .done []
  | @cons slot c slots value hcompletes _ ih =>
    rw [bareText_cons]
    cases slot with
    | literal shown => exact .passed shown ih
    | placeholder charClass => exact .taken hcompletes ih
    | unclassified source => exact hcompletes.elim

/-- Laid over the row, it gives the value back and leaves no gap. -/
theorem layOver_bareText (hcompleted : List.Forall₂ Slot.Completes slots value) :
    layOver slots (bareText slots value) = ⟨value, none, (bareText slots value).length⟩ := by
  induction hcompleted with
  | nil => rfl
  | @cons slot c slots value hcompletes _ ih =>
    rw [bareText_cons]
    cases slot with
    | literal shown =>
      obtain rfl : c = shown := hcompletes
      exact congrArg (Placement.behindLiteral c) ih
    | placeholder charClass =>
      have hlaid : layOver (.placeholder charClass :: slots) (c :: bareText slots value) =
          (layOver slots (bareText slots value)).behindFilled c := if_pos hcompletes
      rw [ih] at hlaid
      exact hlaid
    | unclassified source => exact hcompletes.elim

theorem bareText_sublist (hcompleted : List.Forall₂ Slot.Completes slots value) :
    (bareText slots value).Sublist value := by
  induction hcompleted with
  | nil => exact .slnil
  | @cons slot c slots value hcompletes _ ih =>
    rw [bareText_cons]
    split
    · exact ih.cons_cons c
    · exact ih.cons c

end Completed

namespace Mask

/-- The value without its literals. -/
def bare (mask : Mask) (value : List Char) : List Char :=
  bareText mask.slots value

variable {mask : Mask} {value : List Char}

theorem Completed.place_bare (hcompleted : mask.Completed value) :
    mask.place (mask.bare value) = ⟨value, none, (mask.bare value).length⟩ :=
  layOver_bareText hcompleted

/-- If the bare text completes the mask too, nothing was taken off. -/
theorem Completed.bare_eq (hcompleted : mask.Completed value)
    (hbare : mask.Completed (mask.bare value)) : mask.bare value = value :=
  (bareText_sublist hcompleted).eq_of_length
    (hbare.fits.length_eq.trans hcompleted.fits.length_eq.symm)

end Mask
end MaskedField
