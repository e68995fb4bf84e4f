/- # Keystrokes

A keystroke is a key with the modifier keys held down. Control and command make a
shortcut, which is the host's own business; alt and shift do not change what a
key does to the field.
-/

namespace MaskedField

/-- The keys that a field tells apart; any other key has a name. -/
inductive Key where
  | char (c : Char)
  | arrowLeft
  | arrowRight
  | backspace
  | delete
  | tab
  | named (name : List Char)
  deriving DecidableEq

/-- One modifier key. -/
inductive Modifier where
  | ctrl
  | command
  | alt
  | shift
  deriving DecidableEq

/-- The modifier keys that are held down. -/
@[ext]
structure Modifiers where
  ctrl : Bool
  command : Bool
  alt : Bool
  shift : Bool
  deriving DecidableEq

namespace Modifiers

/-- No modifier is held. -/
def none : Modifiers :=
  ⟨false, false, false, false⟩

/-- One more modifier is held. -/
def hold (held : Modifiers) : Modifier → Modifiers
  | .ctrl => { held with ctrl := true }
  | .command => { held with command := true }
  | .alt => { held with alt := true }
  | .shift => { held with shift := true }

/-- The modifier is held. -/
def holds (held : Modifiers) : Modifier → Bool
  | .ctrl => held.ctrl
  | .command => held.command
  | .alt => held.alt
  | .shift => held.shift

/-- The keystroke is a shortcut of the host. -/
def isShortcut (held : Modifiers) : Bool :=
  held.ctrl || held.command

end Modifiers

/-- A key together with the modifiers held. -/
@[ext]
structure Keystroke where
  key : Key
  modifiers : Modifiers
  deriving DecidableEq

namespace Keystroke

/-- A key without modifiers. -/
def plain (key : Key) : Keystroke :=
  ⟨key, .none⟩

/-- The field leaves the keystroke to the host: a shortcut, or the key that moves
to the next field. -/
def isForHost (stroke : Keystroke) : Bool :=
  stroke.modifiers.isShortcut || stroke.key == .tab

end Keystroke

/-- What the host has to do with an event once the field has seen it. -/
inductive Disposition where
  | suppress
  | passThrough
  deriving DecidableEq

namespace Disposition

/-- The word for a disposition. -/
def word : Disposition → List Char
  | suppress => "suppress".toList
  | passThrough => "pass-through".toList

/-- A series of events is suppressed as soon as one of them is. -/
def or : Disposition → Disposition → Disposition
  | passThrough, second => second
  | suppress, _ => suppress

end Disposition
end MaskedField
