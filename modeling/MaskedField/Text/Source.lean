/- # Texts from outside

A file, or standard input, is there as bytes or it is not there; its bytes may or
may not be a text. Whoever asks for its text learns the first of the causes that
stands in the way.
-/

import MaskedField.Text.Utf8

namespace MaskedField.Text

/-- Why a text cannot be had. -/
inductive SourceError where
  | missing
  | directory
  | denied
  /-- The bytes are not well-formed UTF-8. -/
  | malformed
  deriving DecidableEq

/-- The cause as a message. -/
def SourceError.message : SourceError → String
  | missing => "No such file or directory (os error 2)"
  | directory => "Is a directory (os error 21)"
  | denied => "Permission denied (os error 13)"
  | malformed => "stream did not contain valid UTF-8"

/-- The text of some bytes. -/
def ofBytes (bytes : List UInt8) : Except SourceError (List Char) :=
  match Utf8.decode? bytes with
  | some text => .ok text
  | none => .error .malformed

/-- The text of a file that may not be there. -/
def ofFile (contents : Except SourceError (List UInt8)) : Except SourceError (List Char) :=
  contents.bind ofBytes

end MaskedField.Text
