/- # Laying text over a mask

Pasted text is laid over the editable slots from left to right. A slot takes the
next character of the text if it accepts it; if not, the slot stays blank and the
same character is offered to the next editable slot. Literals show themselves
and use up nothing, so a text that already contains them does not line up with
the mask.
-/

import MaskedField.Mask.Basic

namespace MaskedField

/-- What came of laying a text over a row of slots. -/
@[ext]
structure Placement where
  /-- One character for each slot. -/
  value : List Char
  /-- The first editable slot that stayed blank. -/
  firstGap? : Option Nat
  /-- How many characters of the text were placed. -/
  consumed : Nat
  deriving DecidableEq

namespace Placement

/-- Nothing laid over no slots. -/
def nothing : Placement :=
  ⟨[], none, 0⟩

/-- Put a literal in front. -/
def behindLiteral (shown : Char) (rest : Placement) : Placement :=
  ⟨shown :: rest.value, rest.firstGap?.map (· + 1), rest.consumed⟩

/-- Put a slot in front that took a character. -/
def behindFilled (c : Char) (rest : Placement) : Placement :=
  ⟨c :: rest.value, rest.firstGap?.map (· + 1), rest.consumed + 1⟩

/-- Put a slot in front that stayed blank. -/
def behindGap (rest : Placement) : Placement :=
  ⟨blank :: rest.value, some 0, rest.consumed⟩

/-- Where the cursor goes: to the first gap, or behind the last slot. -/
def cursor (placement : Placement) : Nat :=
  placement.firstGap?.getD placement.value.length

end Placement

/-- Lay a text over a row of slots. -/
def layOver : List Slot → List Char → Placement
  | [], _ => .nothing
  | .literal shown :: slots, text => (layOver slots text).behindLiteral shown
  | _ :: slots, [] => (layOver slots []).behindGap
  | slot :: slots, c :: text =>
    if slot.accepts c then (layOver slots text).behindFilled c
    else (layOver slots (c :: text)).behindGap

/-- Lay a pasted text over the mask. -/
def Mask.place (mask : Mask) (text : List Char) : Placement :=
  layOver mask.slots text

end MaskedField
