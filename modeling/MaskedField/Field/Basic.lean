/- # The state of a field

A field holds its value, the position of its cursor, and whether the whole value
is selected. Every position of a value that is not empty belongs to the slot of
the mask at the same place, so positions count characters.
-/

import MaskedField.Mask.Slot

namespace MaskedField

/-- Replace the character at a position of a text, if the text reaches that far. -/
def overwrite? : List Char → Nat → Char → Option (List Char)
  | [], _, _ => none
  | _ :: rest, 0, c => some (c :: rest)
  | d :: rest, position + 1, c => (overwrite? rest position c).map (d :: ·)

/-- Overwriting succeeds exactly inside the text, and changes nothing else there. -/
theorem overwrite?_eq (text : List Char) (position : Nat) (c : Char) :
    overwrite? text position c =
      if position < text.length then some (text.set position c) else none := by
  induction text generalizing position with
  | nil => simp [overwrite?]
  | cons d rest ih =>
    cases position with
    | zero => simp [overwrite?]
    | succ position =>
      rw [overwrite?, ih]
      by_cases hinside : position < rest.length <;> simp [hinside]

/-- The position of the first blank of a text. -/
def firstBlank? (text : List Char) : Option Nat :=
  text.findIdx? (· == blank)

/-- How far a field has come. -/
inductive Phase where
  | empty
  | editing
  | complete
  deriving DecidableEq

/-- The word for a phase. -/
def Phase.word : Phase → List Char
  | empty => "empty".toList
  | editing => "editing".toList
  | complete => "complete".toList

/-- The state of one field. -/
@[ext]
structure Field where
  value : List Char
  cursor : Nat
  /-- The host has reported that the whole value is selected. -/
  wholeSelected : Bool
  deriving DecidableEq

namespace Field

/-- A field before anything has happened to it. -/
def fresh : Field :=
  ⟨[], 0, false⟩

/-- A field that holds a value, with the cursor behind it. -/
def ofValue (value : List Char) : Field :=
  ⟨value, value.length, false⟩

/-- An empty value, one with blanks left, or one without. -/
def phase (field : Field) : Phase :=
  if field.value.isEmpty then .empty
  else if field.value.contains blank then .editing
  else .complete

end Field
end MaskedField
