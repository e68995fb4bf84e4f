/- # Masks

A mask is compiled from a text, one slot for each character, so that every
position of the mask lines up with one character of the field's value. Compiling
always succeeds; the strict form refuses a text with a character that has no
meaning and names the first one.
-/

import MaskedField.Mask.Slot

namespace MaskedField

/-- Why a mask cannot be used. -/
inductive MaskError where
  /-- A strict mask has a character without a meaning. -/
  | unclassified (position : Nat) (source : Char)
  /-- The engine objects to the expression that recognises complete values. -/
  | expressionRefused (objection : String)
  deriving DecidableEq

/-- A mask with its slots. -/
@[ext]
structure Mask where
  /-- The text the mask was compiled from. -/
  source : List Char
  /-- One slot for each character of the text. -/
  slots : List Slot := source.map Slot.classify
  /-- The slots are the ones that the text describes. -/
  slots_eq : slots = source.map Slot.classify := by rfl

namespace Mask

/-- Compile a mask; characters without a meaning become slots that nothing fills. -/
def compile (source : List Char) : Mask :=
  { source }

/-- The first slot without a meaning, counting positions from `start`. -/
def firstUnclassified? (start : Nat) : List Slot → Option MaskError
  | [] => none
  | .unclassified source :: _ => some (.unclassified start source)
  | _ :: rest => firstUnclassified? (start + 1) rest

/-- Compile a mask in which every character has a meaning. -/
def compileStrict (source : List Char) : Except MaskError Mask :=
  match firstUnclassified? 0 (compile source).slots with
  | some error => .error error
  | none => .ok (compile source)

/-- The number of slots. -/
def length (mask : Mask) : Nat :=
  mask.slots.length

/-- The slot at a position. -/
def slot? (mask : Mask) (position : Nat) : Option Slot :=
  mask.slots[position]?

/-- The position exists and can be edited. -/
def isEditable (mask : Mask) (position : Nat) : Bool :=
  (mask.slot? position).any Slot.isEditable

/-- The position exists and accepts the character. -/
def accepts (mask : Mask) (position : Nat) (c : Char) : Bool :=
  (mask.slot? position).any (Slot.accepts · c)

/-- The mask has a character without a meaning. -/
def hasUnclassified (mask : Mask) : Bool :=
  mask.slots.any Slot.isUnclassified

/-- The value that shows every literal and leaves the rest blank. -/
def placeholder (mask : Mask) : List Char :=
  mask.slots.map Slot.unfilled

@[simp] theorem length_placeholder (mask : Mask) : mask.placeholder.length = mask.length := by
  simp [placeholder, length]

end Mask

namespace MaskError

/-- The position that the error is about; an error about the whole mask is at its
start. -/
def position : MaskError → Nat
  | unclassified position _ => position
  | expressionRefused _ => 0

end MaskError
end MaskedField
