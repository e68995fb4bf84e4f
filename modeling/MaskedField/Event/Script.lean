/- # Scripts

A script is a document with one event on a line. Blank lines, and lines whose
first character that is not blank is a number sign, are skipped. The first line
that is not an event decides that the script cannot be read.
-/

import MaskedField.Event.Reader
import MaskedField.Text.Lines

namespace MaskedField.Event

/-- The line holds an event: it is neither blank nor a comment. -/
def isEventLine (line : List Char) : Bool :=
  match Text.trimStart line with
  | [] => false
  | c :: _ => c != '#'

/-- The events of a script. -/
def readScript (script : List Char) : Except ReadError (List Event) :=
  ((Text.lines script).filter isEventLine).mapM read

end MaskedField.Event
