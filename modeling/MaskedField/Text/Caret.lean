/- # Carets in bytes and in characters

A host may count its caret in UTF-8 bytes; the field counts in characters. A byte
offset inside a character, or past the end, stands for the nearest character
boundary before it.
-/

namespace MaskedField.Text

/-- The number of bytes that write a text. -/
def byteLength : List Char → Nat
  | [] => 0
  | c :: rest => c.utf8Size + byteLength rest

/-- The last character boundary at or before a byte offset. -/
def clampToBoundary : List Char → Nat → Nat
  | [], _ => 0
  | c :: rest, offset =>
    if offset < c.utf8Size then 0 else c.utf8Size + clampToBoundary rest (offset - c.utf8Size)

/-- The number of whole characters before a byte offset. -/
def charOffset : List Char → Nat → Nat
  | [], _ => 0
  | c :: rest, offset =>
    if offset < c.utf8Size then 0 else 1 + charOffset rest (offset - c.utf8Size)

/-- The byte offset of a character position; positions past the end are at the
end. -/
def byteOffset (text : List Char) (position : Nat) : Nat :=
  byteLength (text.take position)

/-- The characters before a byte offset end at its boundary. -/
theorem byteOffset_charOffset (text : List Char) (offset : Nat) :
    byteOffset text (charOffset text offset) = clampToBoundary text offset := by
  induction text generalizing offset with
  | nil => simp [byteOffset, byteLength, clampToBoundary]
  | cons c rest ih =>
    unfold charOffset clampToBoundary
    split
    · simp [byteOffset, byteLength]
    · rw [← ih, Nat.add_comm 1]
      simp [byteOffset, byteLength]

end MaskedField.Text
