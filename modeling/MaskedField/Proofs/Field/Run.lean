/- # Runs of events

What holds of a field before an event and survives it holds after every run. A
typed run of characters is a run of its own, of keystrokes at the field's cursor,
so there are two inductions, and no theory of what survives needs another.
-/

import MaskedField.Field.Session

namespace MaskedField.Editor

variable (editor : Editor)

theorem run_append (field : Field) (front back : List Event) :
    editor.run field (front ++ back) = editor.run (editor.run field front) back :=
  List.foldl_append

/-- What survives each event of a run survives the run. -/
theorem run_preserves_of_mem {P : Field → Prop} {events : List Event}
    (hstep : ∀ event ∈ events, ∀ field, P field → P (editor.apply field event).1)
    (field : Field) (hfield : P field) : P (editor.run field events) := by
  induction events generalizing field with
  | nil => exact hfield
  | cons event events ih =>
    have hnext := hstep event List.mem_cons_self field hfield
    exact ih (fun later hlater => hstep later (List.mem_cons_of_mem event hlater)) _ hnext

/-- What survives every event survives every run. -/
theorem run_preserves {P : Field → Prop}
    (hstep : ∀ field event, P field → P (editor.apply field event).1) (events : List Event)
    (field : Field) (hfield : P field) : P (editor.run field events) :=
  editor.run_preserves_of_mem (fun event _ field => hstep field event) field hfield

/-- The field after a typed run does not depend on the dispositions on the way. -/
theorem typeText_fst (field : Field) (text : List Char) :
    (editor.typeText field text).1 =
      text.foldl (fun current c => (editor.press current (.plain (.char c)) current.cursor).1)
        field := by
  unfold typeText
  generalize Disposition.passThrough = disposition
  induction text generalizing field disposition with
  | nil => rfl
  | cons c text ih => exact ih _ _

/-- What survives each character of a text, pressed at the field's own cursor, survives
the typed run. -/
theorem typeText_preserves_of_mem {P : Field → Prop} {text : List Char}
    (hpress : ∀ c ∈ text, ∀ field, P field →
      P (editor.press field (.plain (.char c)) field.cursor).1)
    (field : Field) (hfield : P field) : P (editor.typeText field text).1 := by
  rw [typeText_fst]
  induction text generalizing field with
  | nil => exact hfield
  | cons c text ih =>
    have hnext := hpress c List.mem_cons_self field hfield
    exact ih (fun later hlater => hpress later (List.mem_cons_of_mem c hlater)) _ hnext

/-- What survives every character survives every typed run. -/
theorem typeText_preserves {P : Field → Prop}
    (hpress : ∀ field c, P field → P (editor.press field (.plain (.char c)) field.cursor).1)
    (text : List Char) (field : Field) (hfield : P field) :
    P (editor.typeText field text).1 :=
  editor.typeText_preserves_of_mem (fun c _ field => hpress field c) field hfield

end MaskedField.Editor
