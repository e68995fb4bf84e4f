/- # Ways to enter a complete value

A complete value without a blank in it can be pasted as it is, pasted without its
literals, or typed without them, and the field is the same afterwards. The three ways
have little in common. The value itself is taken over as soon as the matcher accepts it;
the bare text is laid over the mask, unless the mask has no literals and it is complete
as well; and a typed character waits for nothing but the slot at the cursor.

A blank that fills a slot for any character is excluded. The value would be the same, but
the cursor of a pasted value is at its first blank, whichever slot that is.
-/

import MaskedField.Proofs.Field.Shape
import MaskedField.Proofs.Field.Typing
import MaskedField.Proofs.Mask.Blanks
import MaskedField.Proofs.Mask.Stripping

namespace MaskedField.Editor

variable (editor : Editor) {value : List Char}

/-- A field that shows a value, with the cursor behind the last slot. -/
def filled (value : List Char) : Field :=
  ⟨value, editor.mask.length, false⟩

theorem placed_bare (hcompleted : editor.mask.Completed value) :
    editor.placed (editor.mask.bare value) = editor.filled value := by
  have hlength : value.length = editor.mask.length := hcompleted.fits.length_eq
  rw [placed, hcompleted.place_bare, Placement.cursor, Option.getD_none, hlength, filled]

theorem paste_complete (hcomplete : editor.isComplete value = true) (hfilled : blank ∉ value)
    (field : Field) : editor.paste field value = editor.filled value := by
  rw [paste, if_pos hcomplete, firstBlank?_eq_none_iff.2 hfilled, Option.getD_none, filled]

/-- The bare text of a complete value is pasted as the value is, whether the matcher takes
it for complete or not. -/
theorem paste_bare (hcomplete : editor.isComplete value = true) (hfilled : blank ∉ value)
    (field : Field) : editor.paste field (editor.mask.bare value) = editor.filled value := by
  have hcompleted := (editor.isComplete_iff value).1 hcomplete
  by_cases hbare : editor.isComplete (editor.mask.bare value) = true
  · rw [hcompleted.bare_eq ((editor.isComplete_iff _).1 hbare)]
    exact editor.paste_complete hcomplete hfilled field
  · rw [paste, if_neg hbare]
    exact editor.placed_bare hcompleted

theorem type_bare (hcompleted : editor.mask.Completed value) :
    (editor.typeText (editor.focus .fresh) (editor.mask.bare value)).1 = editor.filled value := by
  have hfills : Fills editor.mask.slots ([] ++ editor.mask.bare value) :=
    fills_bareText hcompleted
  rw [focus_fresh, editor.typeText_of_fills hfills, List.nil_append,
    editor.placed_bare hcompleted]

/-- The focus changes nothing in a field that shows a value, nor in one whose mask has no
slots to show. -/
theorem focus_filled (hlength : value.length = editor.mask.length) :
    editor.focus (editor.filled value) = editor.filled value := by
  by_cases hempty : value = []
  · have hslots : editor.mask.length = 0 := by rw [← hlength, hempty, List.length_nil]
    have hplaceholder : editor.mask.placeholder = value := by
      rw [hempty, ← List.length_eq_zero_iff, Mask.length_placeholder, hslots]
    have hhome : editor.home = editor.mask.length :=
      Nat.le_antisymm editor.rests_home.le (hslots ▸ Nat.zero_le _)
    rw [focus, hplaceholder, hhome]
    exact ite_self _
  · exact if_neg fun hnone => hempty (List.isEmpty_iff.1 hnone)

/-- A complete value without a blank is entered by a paste of the value or of its bare
text, whatever the field held, and by typing the bare text into a fresh field with the
focus: the field shows the value, with the cursor at the end and nothing selected. The
bare text is used up when it is laid over the mask. The loss of the focus and its return
change nothing. -/
theorem entry_ways_agree (value : List Char) (hcomplete : editor.isComplete value = true)
    (hfilled : blank ∉ value) :
    let bare := editor.mask.bare value
    let field : Field := ⟨value, editor.mask.length, false⟩
    (∀ before : Field, (editor.apply before (.paste value)).1 = field) ∧
      (∀ before : Field, (editor.apply before (.paste bare)).1 = field) ∧
      editor.run .fresh [.focus, .type bare] = field ∧
      (editor.mask.place bare).consumed = bare.length ∧
      (editor.apply field .blur).1 = field ∧ (editor.apply field .focus).1 = field := by
  intro bare field
  have hcompleted := (editor.isComplete_iff value).1 hcomplete
  have hconsumed : (editor.mask.place bare).consumed = bare.length := by
    rw [hcompleted.place_bare]
  exact ⟨editor.paste_complete hcomplete hfilled, editor.paste_bare hcomplete hfilled,
    editor.type_bare hcompleted, hconsumed, editor.blur_of_not_mem hfilled,
    editor.focus_filled hcompleted.fits.length_eq⟩

/-- A slot for any character holds what looks like a literal of the mask. -/
theorem entry_ways_agree_on_a_likeness :
    let mask := Mask.compile ['(', '*', ')', '-', 'A']
    let editor : Editor := ⟨mask, mask.pattern, rfl⟩
    let value := ['(', ')', ')', '-', 'Q']
    let field : Field := ⟨value, 5, false⟩
    editor.isComplete value = true ∧ blank ∉ value ∧ mask.bare value = [')', 'Q'] ∧
      (∀ before : Field, (editor.apply before (.paste value)).1 = field) ∧
      (∀ before : Field, (editor.apply before (.paste [')', 'Q'])).1 = field) ∧
      editor.run .fresh [.focus, .type [')', 'Q']] = field ∧
      (mask.place [')', 'Q']).consumed = 2 ∧
      (editor.apply field .blur).1 = field ∧ (editor.apply field .focus).1 = field := by
  intro mask editor value field
  have hcomplete : editor.isComplete value = true := by decide +kernel
  have hfilled : blank ∉ value := by decide
  exact ⟨hcomplete, hfilled, by decide +kernel, editor.entry_ways_agree value hcomplete hfilled⟩

end MaskedField.Editor
