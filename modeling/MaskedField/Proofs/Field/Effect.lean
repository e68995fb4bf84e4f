/- # What an event does

An event either edits the field, and then the field is ready for the next key, or it has
one of four plain effects: the placeholder comes up, a value with a blank is discarded, a
selection is recorded, or nothing changes. Theories about the history of a field rest on
this list and not on the events themselves.

An event edits even if nothing comes of it. A key without a use still makes an empty field
show the placeholder, and a selected value give way to it.
-/

import MaskedField.Proofs.Field.Shape

namespace MaskedField

namespace Event

/-- Something is entered: a key that the field takes, a paste of any text, or a typed run
with characters in it. -/
def edits : Event → Bool
  | .key stroke _ => !stroke.isForHost
  | .paste _ => true
  | .type text => !text.isEmpty
  | .focus | .blur | .select _ => false

/-- The event leaves alone a field that shows the value. -/
def spares (value : List Char) : Event → Bool
  | .focus => true
  | .blur => !value.contains blank
  | .key stroke _ => stroke.isForHost
  | .type text => text.isEmpty
  | .select _ | .paste _ => false

/-- An event that spares the value enters nothing. -/
theorem edits_of_spares {event : Event} {value : List Char}
    (hspares : event.spares value = true) : event.edits = false := by
  cases event with
  | focus => rfl
  | blur => rfl
  | select range => cases hspares
  | key stroke position? =>
    rw [edits, Bool.not_eq_false']
    exact hspares
  | paste text => cases hspares
  | type text =>
    rw [edits, Bool.not_eq_false']
    exact hspares

end Event

/-- What an event can make of a field that has its shape. -/
inductive Affected (mask : Mask) (field : Field) : Event → Field → Prop where
  /-- The field is ready for a key, so that nothing is selected. -/
  | edited {event : Event} {next : Field} (hedits : event.edits = true)
      (hactive : next.Active mask) : Affected mask field event next
  /-- The focus comes to an empty field. -/
  | shown {next : Field} (hempty : field.value = []) (hactive : next.Active mask) :
      Affected mask field .focus next
  /-- The focus leaves a value with a blank. -/
  | discarded (hblank : blank ∈ field.value) : Affected mask field .blur .fresh
  /-- The host reports a selection; the value and the cursor stay. -/
  | selected (range : Selection) :
      Affected mask field (.select range)
        { field with wholeSelected := range.coversAll field.value.length }
  /-- The event spares the value. The focus comes to no empty field. -/
  | kept {event : Event} (hspares : event.spares field.value = true)
      (hfocus : event = .focus → field.value ≠ []) : Affected mask field event field

namespace Editor

variable (editor : Editor) {field : Field}

/-- After a typed run with characters in it the field is ready for a key: the first one
makes it so, and the others keep it so. -/
theorem active_typeText (hshaped : field.Shaped editor.mask) {text : List Char}
    (hsome : text ≠ []) : (editor.typeText field text).1.Active editor.mask := by
  cases text with
  | nil => exact absurd rfl hsome
  | cons c text =>
    have hpress (current : Field) (d : Char) (hcurrent : current.Shaped editor.mask) :
        (editor.press current (.plain (.char d)) current.cursor).1.Active editor.mask :=
      editor.active_press hcurrent rfl current.cursor
    have hrun := editor.typeText_preserves
      (fun current d hcurrent => hpress current d hcurrent.shaped) text _ (hpress field c hshaped)
    rw [typeText_fst] at hrun ⊢
    exact hrun

/-- Every event has one of the effects. -/
theorem affected_apply (hshaped : field.Shaped editor.mask) (event : Event) :
    Affected editor.mask field event (editor.apply field event).1 := by
  cases event with
  | focus =>
    by_cases hempty : field.value = []
    · obtain rfl := hshaped.eq_fresh hempty
      exact .shown rfl editor.active_focus_fresh
    · have hkept : editor.focus field = field := if_neg (by simpa using hempty)
      rw [apply, hkept]
      exact .kept rfl fun _ => hempty
  | blur =>
    by_cases hblank : blank ∈ field.value
    · rw [apply, editor.blur_of_mem hblank]
      exact .discarded hblank
    · rw [apply, editor.blur_of_not_mem hblank]
      exact .kept (by simpa [Event.spares] using hblank) fun hfocus => nomatch hfocus
  | select range => exact .selected range
  | key stroke position? =>
    cases hhost : stroke.isForHost with
    | true =>
      rw [apply, press_fst, if_pos hhost]
      exact .kept hhost fun hfocus => nomatch hfocus
    | false =>
      exact .edited (by simpa [Event.edits] using hhost) (editor.active_press hshaped hhost _)
  | paste text => exact .edited rfl (editor.active_paste field text)
  | type text =>
    by_cases hsome : text = []
    · subst hsome
      exact .kept rfl fun hfocus => nomatch hfocus
    · exact .edited (by simpa [Event.edits] using hsome) (editor.active_typeText hshaped hsome)

end Editor
end MaskedField
