/- # Physical lines

A document is cut at its line feeds. One carriage return in front of a line feed
belongs to the line's end; a last line that no line feed ends keeps its own
carriage return, and an empty piece after the last line feed is no line.

The same rule cuts a list of characters and a list of bytes, so it is stated once
for any alphabet with two marked letters.
-/

namespace MaskedField.Text

variable {α : Type} [BEq α]

/-- A line without one carriage return at its end. -/
def dropReturn (carriageReturn : α) (line : List α) : List α :=
  if line.getLast? == some carriageReturn then line.dropLast else line

/-- Read the pieces between line feeds as lines: all but the last were ended by
a line feed. -/
def closeLines (carriageReturn : α) : List (List α) → List (List α)
  | [] => []
  | [last] => if last.isEmpty then [] else [last]
  | line :: rest => dropReturn carriageReturn line :: closeLines carriageReturn rest

/-- The lines of a document over any alphabet. -/
def linesOf (lineFeed carriageReturn : α) (document : List α) : List (List α) :=
  closeLines carriageReturn (document.splitOn lineFeed)

/-- The lines of a text. -/
def lines (text : List Char) : List (List Char) :=
  linesOf '\n' '\r' text

/-- The lines of a file, before its bytes are read as characters. -/
def byteLines (bytes : List UInt8) : List (List UInt8) :=
  linesOf 10 13 bytes

end MaskedField.Text
