/- # Transcripts

A transcript has one entry for each step of a scenario: the value and the cursor
after it, with a bar between them. Bars, backslashes and control characters of
the value are escaped, so an entry is a single line and its last bar is the one
in front of the cursor.

Two transcripts are compared step by step. A step that only one of them has is
shown, and compared, as the mark for an absent entry.
-/

import MaskedField.Text.Decimal
import MaskedField.Text.Quoted

namespace MaskedField.Transcript

/-- A control character: general category `Cc`. -/
def isControl (c : Char) : Bool :=
  c.toNat < 0x20 || (0x7f ≤ c.toNat && c.toNat < 0xa0)

/-- One character of a value inside an entry. -/
def escapeChar (c : Char) : List Char :=
  if c = '|' then ['\\', '|']
  else if c = '\\' then ['\\', '\\']
  else if c = '\t' then ['\\', 't']
  else if c = '\r' then ['\\', 'r']
  else if c = '\n' then ['\\', 'n']
  else if isControl c then Text.codePointEscape c
  else [c]

/-- The entry for a value and a cursor. -/
def entry (value : List Char) (cursor : Nat) : List Char :=
  value.flatMap escapeChar ++ '|' :: Text.Decimal.print cursor

/-- The mark for an entry that is absent. -/
def absent : List Char :=
  "<none>".toList

/-- One step of a comparison. -/
structure Step where
  /-- The number of the step; steps are numbered from one. -/
  number : Nat
  expected : List Char
  actual : List Char
  deriving DecidableEq

/-- The step is marked as a difference. -/
def Step.isMarked (step : Step) : Bool :=
  step.expected != step.actual

/-- A number in a column of three places. -/
def column (number : Nat) : List Char :=
  let digits := Text.Decimal.print number
  List.replicate (3 - digits.length) ' ' ++ digits

/-- The line of a step, with the line feed that ends it. -/
def Step.line (step : Step) : List Char :=
  if step.isMarked then
    "  ! step ".toList ++ column step.number ++ ": want ".toList ++ step.expected ++
      ", got ".toList ++ step.actual ++ ['\n']
  else "    step ".toList ++ column step.number ++ ": ".toList ++ step.actual ++ ['\n']

/-- Compare two transcripts step by step, up to the end of the longer one. -/
def compare (expected actual : List (List Char)) : List Step :=
  (List.range (max expected.length actual.length)).map fun index =>
    ⟨index + 1, expected[index]?.getD absent, actual[index]?.getD absent⟩

/-- The listing of a comparison. -/
def difference (expected actual : List (List Char)) : List Char :=
  (compare expected actual).flatMap Step.line

end MaskedField.Transcript
