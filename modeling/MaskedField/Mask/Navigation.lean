/- # Moving between editable slots

The cursor of a field rests on editable slots. From any position, on a literal or
past the end as well, the next editable slot is the least one after it and the
previous one the greatest before it.
-/

import MaskedField.Mask.Basic

namespace MaskedField

/-- The position of the last element of a list that satisfies `isWanted`. -/
def lastIndex? {α : Type} (isWanted : α → Bool) : List α → Option Nat
  | [] => none
  | x :: rest =>
    match lastIndex? isWanted rest with
    | some index => some (index + 1)
    | none => if isWanted x then some 0 else none

namespace Mask

/-- The first editable position. -/
def firstEditable? (mask : Mask) : Option Nat :=
  mask.slots.findIdx? Slot.isEditable

/-- The greatest editable position before a position. -/
def previousEditable? (mask : Mask) (position : Nat) : Option Nat :=
  lastIndex? Slot.isEditable (mask.slots.take position)

/-- The least editable position after a position. -/
def nextEditable? (mask : Mask) (position : Nat) : Option Nat :=
  ((mask.slots.drop (position + 1)).findIdx? Slot.isEditable).map (position + 1 + ·)

end Mask
end MaskedField
