/- # Writing events

Each event has a one-line form: a command, and after one space what the command
needs. The modifiers of a key stand in front of it in a fixed order, each with a
plus sign.
-/

import MaskedField.Event.Basic
import MaskedField.Text.Decimal

namespace MaskedField

/-- The word that holds down a modifier, with its plus sign. -/
def Modifier.label : Modifier → List Char
  | .ctrl => "ctrl+".toList
  | .command => "meta+".toList
  | .alt => "alt+".toList
  | .shift => "shift+".toList

/-- The modifiers in the order in which they are written. -/
def Modifier.all : List Modifier :=
  [.ctrl, .command, .alt, .shift]

/-- The labels of the modifiers that are held. -/
def Modifiers.print (held : Modifiers) : List Char :=
  (Modifier.all.filter held.holds).flatMap Modifier.label

/-- The name that a key is written with. -/
def Key.print : Key → List Char
  | .char c => if c = ' ' then "space".toList else [c]
  | .arrowLeft => "left".toList
  | .arrowRight => "right".toList
  | .backspace => "backspace".toList
  | .delete => "delete".toList
  | .tab => "tab".toList
  | .named name => name

/-- The position of a keystroke, after a space, if it has one. -/
def printPosition : Option UInt64 → List Char
  | none => []
  | some position => " @".toList ++ Text.Decimal.print position.toNat

namespace Event

/-- The one-line form of an event. -/
def print : Event → List Char
  | focus => "focus".toList
  | blur => "blur".toList
  | select range =>
    "select ".toList ++ Text.Decimal.print range.start.toNat ++ ' ' ::
      Text.Decimal.print range.stop.toNat
  | key stroke position? =>
    "key ".toList ++ stroke.modifiers.print ++ stroke.key.print ++ printPosition position?
  | paste text => "paste ".toList ++ text
  | type text => "type ".toList ++ text

end Event
end MaskedField
