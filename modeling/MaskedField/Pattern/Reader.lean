/- # Reading patterns

The written form of patterns: `^` and `$` for the two ends of the text, a
bracketed range, the dotted group that takes any character at all, and characters
that stand for themselves, after a backslash where they would mean something
else. Groups that only hold items together are read and forgotten, since nothing
repeats them. Everything else that such notations know is refused.
-/

import MaskedField.Pattern.Basic

namespace MaskedField.Pattern

/-- The characters that mean something else unless a backslash precedes them. -/
def metacharacters : List Char :=
  ['\\', '.', '+', '*', '?', '(', ')', '|', '[', ']', '\x7b', '\x7d', '^', '$', '#', '&', '-', '~']

/-- Write a character so that it stands for itself. -/
def escape (c : Char) : List Char :=
  if metacharacters.contains c then ['\\', c] else [c]

/-- Read the items of a pattern inside `depth` open groups. -/
def readItems? (depth : Nat) : List Char → Option Pattern
  | [] => if depth = 0 then some [] else none
  | '(' :: '?' :: 's' :: ':' :: '.' :: ')' :: rest =>
    (readItems? depth rest).map (.oneOf .anything :: ·)
  | '(' :: '?' :: ':' :: rest => readItems? (depth + 1) rest
  | ')' :: rest => if depth = 0 then none else readItems? (depth - 1) rest
  | '^' :: rest => (readItems? depth rest).map (.textStart :: ·)
  | '$' :: rest => (readItems? depth rest).map (.textEnd :: ·)
  | '[' :: low :: '-' :: high :: ']' :: rest =>
    if low ≤ high then (readItems? depth rest).map (.oneOf (.between low high) :: ·) else none
  | '\\' :: c :: rest =>
    if metacharacters.contains c then (readItems? depth rest).map (.oneOf (.exactly c) :: ·)
    else none
  | c :: rest =>
    if metacharacters.contains c then none
    else (readItems? depth rest).map (.oneOf (.exactly c) :: ·)

/-- The pattern that a text writes. -/
def read? (text : List Char) : Option Pattern :=
  readItems? 0 text

end MaskedField.Pattern
