/- # Blank characters

The characters that separate words on a line, and the three ways in which lines
are cut at them: removing what stands in front, cutting into words, and removing
the end-of-line marks that a line may still carry.

Blank means the Unicode property `White_Space`. It is wider than the class that
`Char.isWhitespace` knows, so the set is listed here range by range.
-/

namespace MaskedField.Text

/-- The code points with the property `White_Space`, as closed ranges. -/
def blankRanges : List (Nat × Nat) :=
  [(0x9, 0xd), (0x20, 0x20), (0x85, 0x85), (0xa0, 0xa0), (0x1680, 0x1680), (0x2000, 0x200a),
    (0x2028, 0x2029), (0x202f, 0x202f), (0x205f, 0x205f), (0x3000, 0x3000)]

/-- A character that separates words. -/
def isBlank (c : Char) : Bool :=
  blankRanges.any fun range => range.1 ≤ c.toNat && c.toNat ≤ range.2

/-- A line without the blanks in front of its first word. -/
def trimStart (line : List Char) : List Char :=
  line.dropWhile isBlank

/-- The maximal runs of characters that are not blank, in order. -/
def words (line : List Char) : List (List Char) :=
  (line.splitOnP isBlank).filter fun word => !word.isEmpty

/-- A list without its longest tail of elements that satisfy `isDropped`. -/
def dropTrailing {α : Type} (isDropped : α → Bool) (list : List α) : List α :=
  (list.reverse.dropWhile isDropped).reverse

/-- A carriage return or a line feed. -/
def isLineEnd (c : Char) : Bool :=
  c == '\r' || c == '\n'

/-- A line without the carriage returns and line feeds at its end. -/
def dropLineEnds (line : List Char) : List Char :=
  dropTrailing isLineEnd line

end MaskedField.Text
