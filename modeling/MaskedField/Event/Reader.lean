/- # Reading events

A line is read without its end marks and without the blanks in front. The command
is what stands before the first space; the text of a paste or of a typed run is
everything after that space, verbatim, while the other commands take words
separated by blanks.

A keystroke is written as words joined by plus signs. Every word before the last
has to be a modifier; a plus sign at the very end belongs to the name of the key.
-/

import MaskedField.Event.Basic
import MaskedField.Text.Blank
import MaskedField.Text.Decimal
import MaskedField.Text.Quoted

namespace MaskedField

/-- A word in lower case; letters outside ASCII keep their case. -/
def lowerCase (word : List Char) : List Char :=
  word.map Char.toLower

/-- The modifier that a word names, in any case. -/
def Modifier.ofWord? (word : List Char) : Option Modifier :=
  let word := lowerCase word
  if word = "ctrl".toList || word = "control".toList then some .ctrl
  else if word = "meta".toList || word = "cmd".toList || word = "super".toList then some .command
  else if word = "alt".toList || word = "option".toList then some .alt
  else if word = "shift".toList then some .shift
  else none

/-- The key that a name of more than one character stands for, in any case; a
name without a meaning of its own is kept as it is. -/
def Key.ofLongName (name : List Char) : Key :=
  let word := lowerCase name
  if word = "space".toList then .char ' '
  else if word = "left".toList || word = "arrowleft".toList then .arrowLeft
  else if word = "right".toList || word = "arrowright".toList then .arrowRight
  else if word = "backspace".toList then .backspace
  else if word = "delete".toList || word = "del".toList then .delete
  else if word = "tab".toList then .tab
  else .named name

/-- The key that a name stands for; a single character is its own name. -/
def Key.ofName : List Char → Key
  | [c] => .char c
  | name => ofLongName name

/-- Read the words of a keystroke, with some modifiers held already. -/
def Keystroke.ofWords? (held : Modifiers) : List (List Char) → Option Keystroke
  | [] => none
  | [name] => some ⟨Key.ofName name, held⟩
  | [name, []] => some ⟨Key.ofName (name ++ ['+']), held⟩
  | word :: rest =>
    match Modifier.ofWord? word with
    | some modifier => ofWords? (held.hold modifier) rest
    | none => none

/-- The keystroke that a word writes. -/
def Keystroke.read? (word : List Char) : Option Keystroke :=
  ofWords? .none (word.splitOn '+')

/-- The position that a word writes: an at sign and an offset. -/
def readPosition? : List Char → Option UInt64
  | '@' :: digits => Text.Decimal.readOffset? digits
  | _ => none

namespace Event

/-- Why a line is not an event. -/
inductive Reason where
  | selectNeedsOffsets
  | keyNeedsName
  | malformedPosition
  | trailingInput
  | unknownModifier
  | unknownEvent
  deriving DecidableEq

/-- The reason as a message. -/
def Reason.text : Reason → String
  | selectNeedsOffsets => "select expects two offsets"
  | keyNeedsName => "key expects a key name"
  | malformedPosition => "key position must look like @N"
  | trailingInput => "unexpected trailing input after key"
  | unknownModifier => "unknown modifier"
  | unknownEvent => "unknown event"

/-- A line that is not an event, with the reason. -/
structure ReadError where
  line : List Char
  reason : Reason
  deriving DecidableEq

/-- The error as a message: the reason, and the line between quotation marks. -/
def ReadError.message (error : ReadError) : String :=
  error.reason.text ++ ": " ++ Text.quoted error.line

/-- Read what a selection needs: exactly two offsets, in either order. -/
def readSelect (rest : List Char) : Except Reason Event :=
  match (Text.words rest).map Text.Decimal.readOffset? with
  | [some first, some second] => .ok (.select (.between first second))
  | _ => .error .selectNeedsOffsets

/-- Read a keystroke whose position is already known. -/
def readStroke (word : List Char) (position? : Option UInt64) : Except Reason Event :=
  match Keystroke.read? word with
  | some stroke => .ok (.key stroke position?)
  | none => .error .unknownModifier

/-- Read what a key needs: a keystroke and perhaps a position. Of several faults
the position counts first and the modifiers last. -/
def readKey (rest : List Char) : Except Reason Event :=
  match Text.words rest with
  | [] => .error .keyNeedsName
  | [word] => readStroke word none
  | word :: position :: more =>
    match readPosition? position with
    | none => .error .malformedPosition
    | some offset => if more.isEmpty then readStroke word (some offset) else .error .trailingInput

/-- Read an event from its command and the rest of the line. -/
def readCommand (command rest : List Char) : Except Reason Event :=
  if command = "focus".toList then .ok .focus
  else if command = "blur".toList then .ok .blur
  else if command = "paste".toList then .ok (.paste rest)
  else if command = "type".toList then .ok (.type rest)
  else if command = "select".toList then readSelect rest
  else if command = "key".toList then readKey rest
  else .error .unknownEvent

/-- The part of a line before its first space. -/
def commandOf (line : List Char) : List Char :=
  line.takeWhile (· != ' ')

/-- The part of a line after its first space. -/
def restOf (line : List Char) : List Char :=
  (line.dropWhile (· != ' ')).drop 1

/-- Read a line as an event. -/
def read (line : List Char) : Except ReadError Event :=
  let line := Text.dropLineEnds line
  let trimmed := Text.trimStart line
  match readCommand (commandOf trimmed) (restOf trimmed) with
  | .ok event => .ok event
  | .error reason => .error ⟨line, reason⟩

end Event
end MaskedField
