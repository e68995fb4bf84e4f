/- # Patterns

A small language of regular expressions: what a pattern asks for is a row of
items, each of which takes one character from a set or asks to stand at the very
start or the very end of the text. A text matches when the row fits somewhere in
it. Start and end are absolute; a line feed at the end of a text is a character
like any other.
-/

namespace MaskedField
namespace Pattern

/-- A set of characters that one item accepts. -/
inductive CharSet where
  | exactly (c : Char)
  | between (low high : Char)
  | anything
  deriving DecidableEq

/-- One item of a pattern. -/
inductive Item where
  /-- The match starts where the text starts. -/
  | textStart
  /-- The match ends where the text ends. -/
  | textEnd
  /-- The next character is in the set. -/
  | oneOf (set : CharSet)
  deriving DecidableEq

end Pattern

/-- A row of items that have to fit one after another. -/
abbrev Pattern := List Pattern.Item

namespace Pattern

/-- A character is in the set. -/
def CharSet.contains : CharSet → Char → Bool
  | exactly wanted, c => c == wanted
  | between low high, c => low ≤ c && c ≤ high
  | anything, _ => true

/-- The items fit the text from its beginning; `atStart` says whether the text
begins where the whole text does. -/
def fitsHere (atStart : Bool) : Pattern → List Char → Bool
  | [], _ => true
  | .textStart :: items, text => atStart && fitsHere atStart items text
  | .textEnd :: items, text => text.isEmpty && fitsHere atStart items text
  | .oneOf _ :: _, [] => false
  | .oneOf set :: items, c :: text => set.contains c && fitsHere false items text

/-- The items fit the text from its beginning or from a later character. -/
def fitsFrom (atStart : Bool) (pattern : Pattern) : List Char → Bool
  | [] => fitsHere atStart pattern []
  | c :: text => fitsHere atStart pattern (c :: text) || fitsFrom false pattern text

/-- The pattern matches somewhere in the text. -/
def isMatch (pattern : Pattern) (text : List Char) : Bool :=
  fitsFrom true pattern text

end Pattern
end MaskedField
