/- # Editing a field under a mask

An editor knows a mask and the matcher of its complete values, and says what each
happening does to the state of a field. It never fails: a character that does not
fit is ignored, and a key with nowhere to go does nothing.
-/

import MaskedField.Field.Basic
import MaskedField.Field.Keystroke
import MaskedField.Field.Selection
import MaskedField.Mask.Expression
import MaskedField.Mask.Navigation
import MaskedField.Mask.Placement

namespace MaskedField

/-- A mask that is ready for use, with the matcher of its complete values. -/
structure Editor where
  mask : Mask
  matcher : Pattern
  /-- The matcher is the one that belongs to the mask. -/
  matcher_eq : matcher = mask.pattern

namespace Editor

/-- Prepare a mask for use. -/
def ofMask (engine : Pattern.Engine) (mask : Mask) : Except MaskError Editor :=
  match hmatcher : mask.matcher engine with
  | .ok matcher => .ok ⟨mask, matcher, (Mask.matcher_eq_ok_iff.1 hmatcher).2⟩
  | .error error => .error error

/-- Compile a mask, strictly or not, and prepare it for use. -/
def build (engine : Pattern.Engine) (strict : Bool) (source : List Char) :
    Except MaskError Editor := do
  let mask ← if strict then Mask.compileStrict source else pure (Mask.compile source)
  ofMask engine mask

/-- The text is a complete value: it has the length of the mask and matches. -/
def isComplete (editor : Editor) (text : List Char) : Bool :=
  text.length == editor.mask.length && editor.matcher.isMatch text

/-- The first editable position, or the end of a mask without one. -/
def home (editor : Editor) : Nat :=
  editor.mask.firstEditable?.getD editor.mask.length

/-- The field gains the focus: an empty one shows the placeholder. -/
def focus (editor : Editor) (field : Field) : Field :=
  if field.value.isEmpty then
    { field with value := editor.mask.placeholder, cursor := editor.home }
  else field

/-- The field loses the focus: a value with blanks left is discarded. -/
def blur (_ : Editor) (field : Field) : Field :=
  if field.value.contains blank then .fresh else field

/-- The host reports its selection. -/
def select (_ : Editor) (field : Field) (range : Selection) : Field :=
  { field with wholeSelected := range.coversAll field.value.length }

/-- Enter a character at a position that accepts it, and move on. -/
def insert? (editor : Editor) (field : Field) (c : Char) (position : Nat) : Option Field :=
  if editor.mask.accepts position c then
    (overwrite? field.value position c).map fun value =>
      { field with value, cursor := (editor.mask.nextEditable? position).getD value.length }
  else none

/-- Move to the nearest editable slot before a position. -/
def moveLeft (editor : Editor) (field : Field) (position : Nat) : Field :=
  match editor.mask.previousEditable? position with
  | some previous => { field with cursor := previous }
  | none => field

/-- Move to the nearest editable slot after a position. -/
def moveRight (editor : Editor) (field : Field) (position : Nat) : Field :=
  match editor.mask.nextEditable? position with
  | some next => { field with cursor := next }
  | none => field

/-- Blank the nearest editable slot before a position, and move there. -/
def clearLeft (editor : Editor) (field : Field) (position : Nat) : Field :=
  match editor.mask.previousEditable? position with
  | some previous =>
    match overwrite? field.value previous blank with
    | some value => { field with value, cursor := previous }
    | none => field
  | none => field

/-- Blank the nearest editable slot after a position, and stay at the position. -/
def clearRight (editor : Editor) (field : Field) (position : Nat) : Field :=
  match editor.mask.nextEditable? position with
  | some next =>
    match overwrite? field.value next blank with
    | some value => { field with value, cursor := position }
    | none => field
  | none => field

/-- What a key does at a position once the field is ready for it. -/
def strike (editor : Editor) (field : Field) (key : Key) (position : Nat) : Field :=
  match key with
  | .char c => (editor.insert? field c position).getD field
  | .arrowLeft => editor.moveLeft field position
  | .arrowRight => editor.moveRight field position
  | .backspace => editor.clearLeft field position
  | .delete => editor.clearRight field position
  | .tab => field
  | .named _ => field

/-- Where a new value is entered from the start: the first blank of the
placeholder. -/
def startOver (editor : Editor) : Field :=
  let value := editor.mask.placeholder
  ⟨value, (firstBlank? value).getD editor.mask.length, false⟩

/-- Make the field ready for a key: an empty field gains the focus, and a value
that is wholly selected gives way to the placeholder. Either decides where the
key acts; otherwise it acts where the host says, but not past the end. -/
def ready (editor : Editor) (field : Field) (position : Nat) : Field × Nat :=
  if field.wholeSelected then (editor.startOver, editor.startOver.cursor)
  else if field.value.isEmpty then (editor.focus field, (editor.focus field).cursor)
  else (field, min position field.value.length)

/-- A key is pressed with the host's cursor at a position. -/
def press (editor : Editor) (field : Field) (stroke : Keystroke) (position : Nat) :
    Field × Disposition :=
  if stroke.isForHost then (field, .passThrough)
  else
    let (readied, start) := editor.ready field position
    (editor.strike readied stroke.key start, .suppress)

/-- Text is pasted: a complete value is taken as it is, any other text is laid
over the mask. The old value is forgotten either way. -/
def paste (editor : Editor) (_ : Field) (text : List Char) : Field :=
  if editor.isComplete text then
    ⟨text, (firstBlank? text).getD editor.mask.length, false⟩
  else
    ⟨(editor.mask.place text).value, (editor.mask.place text).cursor, false⟩

end Editor
end MaskedField
