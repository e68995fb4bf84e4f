/- # Events applied to a field

An editor applies every kind of event to the state of a field. Focus, blur and
selection are the host's to carry out as well; a paste never is. A typed run
stands for its characters pressed one after another at the field's own cursor.
-/

import MaskedField.Event.Basic
import MaskedField.Field.Editor

namespace MaskedField.Editor

/-- Press the characters of a text one after another. -/
def typeText (editor : Editor) (field : Field) (text : List Char) : Field × Disposition :=
  text.foldl
    (fun (current, disposition) c =>
      let (next, own) := editor.press current (.plain (.char c)) current.cursor
      (next, disposition.or own))
    (field, .passThrough)

/-- Apply one event. -/
def apply (editor : Editor) (field : Field) : Event → Field × Disposition
  | .focus => (editor.focus field, .passThrough)
  | .blur => (editor.blur field, .passThrough)
  | .select range => (editor.select field range, .passThrough)
  | .key stroke position? =>
    editor.press field stroke ((position?.map UInt64.toNat).getD field.cursor)
  | .paste text => (editor.paste field text, .suppress)
  | .type text => editor.typeText field text

/-- Apply events one after another. -/
def run (editor : Editor) (field : Field) (events : List Event) : Field :=
  events.foldl (fun current event => (editor.apply current event).1) field

end MaskedField.Editor
