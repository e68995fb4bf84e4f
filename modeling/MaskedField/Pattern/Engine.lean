/- # Engines that prepare patterns

Before texts are matched against an expression, an engine prepares it, and it may object
to one that is too large for it. What it objects to is its own affair: everything that
depends on it takes the engine as an argument, and the theory holds for any engine. All
that is asked of an engine is that what it does prepare is matched as the pattern that the
expression reads as.

The engine that the program runs with has a limit for the bytes of a prepared pattern. The
limit and the words are those it documents. What an item takes is an estimate, made from
the longest rows of placeholders that are still prepared, and fixed runs are all that it is
used for: no general result is about this engine.
-/

import MaskedField.Pattern.Reader

namespace MaskedField.Pattern

/-- What prepares expressions for matching. -/
structure Engine where
  /-- What the engine objects to in an expression, in words; nothing if it prepares it. -/
  objection? : List Char → Option String

namespace Engine

/-- The bytes that an item is taken to need. One that takes any character has to know
every form of its bytes. -/
def itemSize : Item → Nat
  | .oneOf .anything => 964
  | .oneOf (.between _ _) => 72
  | .oneOf (.exactly _) => 32
  | .textStart => 32
  | .textEnd => 32

/-- The bytes that a pattern is taken to need, with those that every pattern does. -/
def size (pattern : Pattern) : Nat :=
  pattern.foldl (fun total item => total + itemSize item) 128

/-- The bytes that a prepared pattern may have. -/
def sizeLimit : Nat := 10485760

/-- The engine of the program. -/
def bounded : Engine where
  objection? expression :=
    (read? expression).bind fun pattern =>
      if size pattern ≤ sizeLimit then none
      else some s!"Compiled regex exceeds size limit of {sizeLimit} bytes."

end Engine
end MaskedField.Pattern
