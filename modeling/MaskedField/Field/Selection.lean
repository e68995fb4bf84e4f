/- # Selections

What a host reports as selected: a range of caret positions. Positions come from
outside, so they are 64-bit words; a range is kept with its smaller end first.
-/

namespace MaskedField

/-- A range of caret positions, in order. -/
structure Selection where
  start : UInt64
  stop : UInt64
  start_le_stop : start ≤ stop
  deriving DecidableEq

namespace Selection

/-- The range between two positions, whichever comes first. -/
def between (first second : UInt64) : Selection :=
  if h : first ≤ second then ⟨first, second, h⟩
  else ⟨second, first, UInt64.le_of_lt (UInt64.not_le.1 h)⟩

/-- A caret without extent. -/
def caret (position : UInt64) : Selection :=
  ⟨position, position, UInt64.le_refl _⟩

/-- The number of positions covered. -/
def length (range : Selection) : Nat :=
  range.stop.toNat - range.start.toNat

/-- The range is a caret without extent. -/
def isCaret (range : Selection) : Bool :=
  range.start == range.stop

/-- The range covers a text of the given length from end to end; no range covers
an empty text. -/
def coversAll (range : Selection) (length : Nat) : Bool :=
  0 < length && range.start.toNat == 0 && range.stop.toNat == length

end Selection
end MaskedField
