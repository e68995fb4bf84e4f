/- # Events

Everything that a host can tell a masked field: that it gained or lost the focus,
what is selected, that a key was pressed, that text was pasted, and a run of
characters typed one after another.
-/

import MaskedField.Field.Keystroke
import MaskedField.Field.Selection

namespace MaskedField

/-- One thing that happens to a field. -/
inductive Event where
  | focus
  | blur
  | select (range : Selection)
  /-- A key, at a position of the host's choice or at the field's own cursor. -/
  | key (stroke : Keystroke) (position? : Option UInt64)
  | paste (text : List Char)
  | type (text : List Char)
  deriving DecidableEq

end MaskedField
