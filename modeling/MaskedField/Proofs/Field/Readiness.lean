/- # Making a field ready for a key

A key acts on a field that shows a value of which nothing is selected, and it makes any
other field such a field first. That is written in two ways: an empty field gains the
focus, with the cursor at the first editable slot, and a value that is wholly selected
gives way to the placeholder, with the cursor at its first blank. Both come to the same,
a fresh field with the focus. Nothing is left in it of a selected value, nor of the
position that the host gives, so a key pressed over a selection cannot tell what was
selected.

The equations below say what pressing a key does; the theories of the editor rest on
them. Keys that are left to the host do not make the field ready: they keep the
selection, and with it the value.
-/

import MaskedField.Field.Editor
import MaskedField.Proofs.Mask.Blanks

namespace MaskedField

theorem Keystroke.isForHost_eq_false {stroke : Keystroke}
    (hshortcut : stroke.modifiers.isShortcut = false) (htab : stroke.key ≠ .tab) :
    stroke.isForHost = false := by
  rw [isForHost, hshortcut, Bool.false_or]
  exact beq_eq_false_iff_ne.2 htab

/-- A field has nothing for a key to act on, or it shows a value that is not selected. -/
theorem Field.anew_or_shown (field : Field) :
    (field.wholeSelected = true ∨ field.value = []) ∨
      (field.wholeSelected = false ∧ field.value ≠ []) := by
  by_cases hanew : field.wholeSelected = true ∨ field.value = []
  · exact .inl hanew
  · rw [not_or, Bool.not_eq_true] at hanew
    exact .inr hanew

namespace Editor

variable (editor : Editor) {field : Field} {stroke : Keystroke}

/-- The first blank of the placeholder is where the focus puts the cursor. -/
theorem startOver_eq : editor.startOver = editor.focus .fresh := by
  have hcursor : editor.startOver.cursor = editor.home := by
    rw [startOver, home, Mask.firstBlank?_placeholder]
  exact Field.ext rfl hcursor rfl

/-- A field with nothing to act on is made ready as a fresh one that gains the focus. -/
theorem ready_anew (hanew : field.wholeSelected = true ∨ field.value = []) (position : Nat) :
    editor.ready field position = (editor.focus .fresh, editor.home) := by
  cases hselected : field.wholeSelected with
  | true =>
    rw [ready, if_pos hselected, startOver_eq]
    rfl
  | false =>
    have hempty : field.value = [] := hanew.resolve_left (Bool.eq_false_iff.1 hselected)
    have hfocus : editor.focus field = editor.focus .fresh := by
      rw [focus, hempty]
      exact Field.ext rfl rfl hselected
    rw [ready, if_neg (Bool.eq_false_iff.1 hselected), hempty, hfocus]
    rfl

/-- A field that shows a value is ready as it is, at the host's position or the end. -/
theorem ready_shown (hunselected : field.wholeSelected = false) (hsome : field.value ≠ [])
    (position : Nat) :
    editor.ready field position = (field, min position field.value.length) := by
  rw [ready, if_neg (Bool.eq_false_iff.1 hunselected), if_neg fun hempty =>
    hsome (List.isEmpty_iff.1 hempty)]

/-- The field after a key, whoever it was for. -/
theorem press_fst (field : Field) (stroke : Keystroke) (position : Nat) :
    (editor.press field stroke position).1 =
      if stroke.isForHost then field
      else editor.strike (editor.ready field position).1 stroke.key
        (editor.ready field position).2 := by
  rw [press]
  split <;> rfl

/-- A key that is pressed while the field shows a value of which nothing is selected. -/
theorem press_shown (hunselected : field.wholeSelected = false) (hsome : field.value ≠ [])
    (stroke : Keystroke) (position : Nat) :
    (editor.press field stroke position).1 =
      if stroke.isForHost then field
      else editor.strike field stroke.key (min position field.value.length) := by
  rw [press_fst, editor.ready_shown hunselected hsome]

/-- The field takes a key at the position itself if that is inside the value or its end. -/
theorem press_inside (hunselected : field.wholeSelected = false) (hsome : field.value ≠ [])
    (key : Key) (htab : key ≠ .tab) {held : Modifiers} (hheld : held.isShortcut = false)
    {position : Nat} (hposition : position ≤ field.value.length) :
    (editor.press field ⟨key, held⟩ position).1 = editor.strike field key position := by
  rw [editor.press_shown hunselected hsome, Nat.min_eq_left hposition,
    if_neg (Bool.eq_false_iff.1 (Keystroke.isForHost_eq_false hheld htab))]

theorem press_own (hown : stroke.isForHost = false) (position : Nat) :
    editor.press field stroke position =
      (editor.strike (editor.ready field position).1 stroke.key
        (editor.ready field position).2, .suppress) :=
  if_neg (Bool.eq_false_iff.1 hown)

/-- A key that the field takes leaves a wholly selected field as it leaves a fresh one:
with the same value, cursor and selection, and the host has the same left to do. What the
value was, where the cursor stood and where the host pressed the key make no difference. -/
theorem selection_is_forgotten (field : Field) (stroke : Keystroke)
    (hselected : field.wholeSelected = true)
    (hshortcut : stroke.modifiers.isShortcut = false) (htab : stroke.key ≠ .tab)
    (position other : Nat) :
    editor.press field stroke position = editor.press .fresh stroke other := by
  have hown : stroke.isForHost = false := Keystroke.isForHost_eq_false hshortcut htab
  have hready : editor.ready field position = editor.ready .fresh other := by
    rw [editor.ready_anew (.inl hselected), editor.ready_anew (.inr rfl)]
  rw [editor.press_own hown, editor.press_own hown, hready]

/-- The selected value does not fit the mask, the cursor is past its end, and the key is
pressed elsewhere; a fresh field is left the same. -/
theorem selection_of_a_misfit_is_forgotten :
    let mask := Mask.compile ['(', '9', '*', ')']
    let editor : Editor := ⟨mask, mask.pattern, rfl⟩
    let field : Field := ⟨['x', '_', 'y'], 7, true⟩
    let stroke : Keystroke := ⟨.char '4', ⟨false, false, true, true⟩⟩
    field.wholeSelected = true ∧ stroke.modifiers.isShortcut = false ∧ stroke.key ≠ .tab ∧
      editor.press field stroke 3 = editor.press .fresh stroke 9 ∧
      (editor.press field stroke 3).1 = ⟨['(', '4', '_', ')'], 2, false⟩ := by
  intro mask editor field stroke
  have hforgotten : editor.press field stroke 3 = editor.press .fresh stroke 9 :=
    editor.selection_is_forgotten field stroke rfl rfl (by decide) 3 9
  exact ⟨rfl, rfl, by decide, hforgotten, by decide +kernel⟩

end Editor
end MaskedField
