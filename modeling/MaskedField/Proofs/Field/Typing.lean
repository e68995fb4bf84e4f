/- # Typing and placing

Typing drops a character that does not fit and stays at its slot; placing leaves the
slot blank and keeps the character. On the characters that typing accepts the two come
to the same: after every character typed into a focused field, the field shows what has
been accepted so far as placing lays it over the mask, with the cursor at the first gap.
The characters that typing accepts fill the editable slots in order, and for such a text
placing leaves no gap on the way.

What placing makes of a text that typing does not accept in full is not compared.
-/

import MaskedField.Proofs.Field.Readiness
import MaskedField.Proofs.Field.Run
import MaskedField.Proofs.Field.Strike
import MaskedField.Proofs.Mask.Filling

namespace MaskedField.Editor

variable (editor : Editor)

/-- The characters of a text that are accepted as they are pressed one after another,
each by the slot at the field's own cursor. -/
def accepted (field : Field) : List Char → List Char
  | [] => []
  | c :: text =>
    let position := (editor.ready field field.cursor).2
    let next := (editor.press field (.plain (.char c)) field.cursor).1
    if editor.mask.accepts position c then c :: accepted next text else accepted next text

theorem accepted_sublist (field : Field) (text : List Char) :
    (editor.accepted field text).Sublist text := by
  induction text generalizing field with
  | nil => exact .slnil
  | cons c text ih =>
    rw [accepted]
    split
    · exact (ih _).cons_cons c
    · exact (ih _).cons c

/-- The field that shows a text laid over the mask. -/
def placed (text : List Char) : Field :=
  ⟨(editor.mask.place text).value, (editor.mask.place text).cursor, false⟩

theorem length_placed (text : List Char) :
    (editor.placed text).value.length = editor.mask.length :=
  (editor.mask.fits_place text).length_eq

/-- A fresh field that gains the focus shows nothing laid over the mask. -/
theorem focus_fresh : editor.focus .fresh = editor.placed [] := by
  have hvalue : editor.mask.placeholder = (editor.mask.place []).value :=
    (value_layOver_nil _).symm
  have hcursor : editor.home = (editor.mask.place []).cursor := by
    rw [Mask.cursor_place_of_fills (.done _), home, Mask.firstEditable?_eq]
    rfl
  exact Field.ext hvalue hcursor rfl

theorem ready_fresh (position : Nat) :
    editor.ready .fresh position = (editor.placed [], (editor.placed []).cursor) := by
  rw [← focus_fresh]
  exact editor.ready_anew (.inr rfl) position

/-- A key acts on a field that shows a filling text as it is, at its cursor. -/
theorem ready_placed {text : List Char} (hfills : Fills editor.mask.slots text) :
    editor.ready (editor.placed text) (editor.placed text).cursor =
      (editor.placed text, (editor.placed text).cursor) := by
  by_cases hempty : (editor.placed text).value = []
  · -- A mask without slots: the field gains the focus again, and that changes nothing.
    have hlength := editor.length_placed text
    rw [hempty] at hlength
    have hslots : editor.mask.slots = [] := List.length_eq_zero_iff.1 hlength.symm
    rw [hslots] at hfills
    cases hfills
    rw [← focus_fresh] at hempty ⊢
    exact editor.ready_anew (.inr hempty) _
  · have hcursor : (editor.placed text).cursor ≤ editor.mask.length :=
      (editor.mask.rests_place text).le
    rw [editor.ready_shown rfl hempty, length_placed, Nat.min_eq_left hcursor]

/-- If the slot at the cursor accepts anything, the cursor is at the first gap. -/
theorem firstGap?_of_accepts {text : List Char} {c : Char}
    (haccepts : editor.mask.accepts (editor.placed text).cursor c = true) :
    (editor.mask.place text).firstGap? = some (editor.placed text).cursor := by
  cases hgap : (editor.mask.place text).firstGap? with
  | some gap => simp [placed, Placement.cursor, hgap]
  | none =>
    have hend : (editor.placed text).cursor = editor.mask.length := by
      simp [placed, Placement.cursor, hgap, (editor.mask.fits_place text).length_eq]
    have hinside := Mask.lt_length_of_isEditable (Mask.isEditable_of_accepts haccepts)
    exact absurd hend (Nat.ne_of_lt hinside)

/-- An accepted character joins the text that fills the mask. -/
theorem fills_concat {text : List Char} {c : Char} (hfills : Fills editor.mask.slots text)
    (haccepts : editor.mask.accepts (editor.placed text).cursor c = true) :
    Fills editor.mask.slots (text ++ [c]) :=
  (layOver_concat hfills (editor.firstGap?_of_accepts haccepts) haccepts).1

/-- Entering an accepted character at the cursor lays the longer text over the mask. -/
theorem insert?_placed {text : List Char} {c : Char} (hfills : Fills editor.mask.slots text)
    (haccepts : editor.mask.accepts (editor.placed text).cursor c = true) :
    editor.insert? (editor.placed text) c (editor.placed text).cursor =
      some (editor.placed (text ++ [c])) := by
  have hinside : (editor.placed text).cursor < (editor.placed text).value.length :=
    editor.length_placed text ▸
      Mask.lt_length_of_isEditable (Mask.isEditable_of_accepts haccepts)
  have hgap := editor.firstGap?_of_accepts haccepts
  obtain ⟨hmore, hvalue⟩ := layOver_concat hfills hgap haccepts
  have hposition : editor.mask.editablePositions[text.length]? =
      some (editor.placed text).cursor := (firstGap?_of_fills hfills).symm.trans hgap
  have hcursor : (editor.mask.nextEditable? (editor.placed text).cursor).getD editor.mask.length =
      (editor.placed (text ++ [c])).cursor := by
    rw [Mask.nextEditable?_of_getElem? hposition, placed, Mask.cursor_place_of_fills hmore,
      List.length_append, List.length_singleton]
  rw [insert?_eq, if_pos ⟨haccepts, hinside⟩, length_placed, hcursor]
  exact congrArg some (Field.ext hvalue.symm rfl rfl)

/-- A character pressed at the cursor of a field that shows a filling text adds to that
text if it is accepted, and does nothing otherwise. -/
theorem press_placed {text : List Char} (hfills : Fills editor.mask.slots text) (c : Char) :
    (editor.press (editor.placed text) (.plain (.char c)) (editor.placed text).cursor).1 =
      if editor.mask.accepts (editor.placed text).cursor c then editor.placed (text ++ [c])
      else editor.placed text := by
  have hpress :
      (editor.press (editor.placed text) (.plain (.char c)) (editor.placed text).cursor).1 =
        (editor.insert? (editor.placed text) c (editor.placed text).cursor).getD
          (editor.placed text) := by
    rw [editor.press_own rfl, editor.ready_placed hfills]
    rfl
  rw [hpress]
  by_cases haccepts : editor.mask.accepts (editor.placed text).cursor c = true
  · rw [editor.insert?_placed hfills haccepts, if_pos haccepts]
    rfl
  · rw [insert?, if_neg haccepts, if_neg haccepts]
    rfl

/-- Typing into a field that shows a filling text adds the accepted characters to it. -/
theorem typeText_placed {done : List Char} (hfills : Fills editor.mask.slots done)
    (text : List Char) :
    Fills editor.mask.slots (done ++ editor.accepted (editor.placed done) text) ∧
      (editor.typeText (editor.placed done) text).1 =
        editor.placed (done ++ editor.accepted (editor.placed done) text) := by
  rw [typeText_fst]
  induction text generalizing done with
  | nil =>
    rw [accepted, List.append_nil]
    exact ⟨hfills, rfl⟩
  | cons c text ih =>
    rw [List.foldl_cons, accepted, editor.ready_placed hfills, editor.press_placed hfills]
    by_cases haccepts : editor.mask.accepts (editor.placed done).cursor c = true
    · simpa [haccepts] using ih (editor.fills_concat hfills haccepts)
    · simpa [haccepts] using ih hfills

/-- The next character of a text that fills the mask is accepted at the cursor. -/
theorem accepts_of_fills {done text : List Char} {c : Char}
    (hfills : Fills editor.mask.slots (done ++ c :: text)) :
    editor.mask.accepts (editor.placed done).cursor c = true := by
  have hc : (done ++ c :: text)[done.length]? = some c := by simp
  obtain ⟨position, hposition, haccepts⟩ := hfills.accepts_of_getElem? hc
  have hcursor : (editor.placed done).cursor = position := by
    rw [placed, Mask.cursor_place_of_fills hfills.of_append, Mask.editablePositions, hposition,
      Option.getD_some]
  rwa [hcursor]

/-- Of a text that fills the mask nothing is dropped. -/
theorem typeText_of_fills {done text : List Char}
    (hfills : Fills editor.mask.slots (done ++ text)) :
    (editor.typeText (editor.placed done) text).1 = editor.placed (done ++ text) := by
  rw [typeText_fst]
  induction text generalizing done with
  | nil => rw [List.append_nil, List.foldl_nil]
  | cons c text ih =>
    have hmore : Fills editor.mask.slots (done ++ [c] ++ text) := by simpa using hfills
    rw [List.foldl_cons, editor.press_placed hfills.of_append,
      if_pos (editor.accepts_of_fills hfills), ih hmore, List.append_assoc,
      List.singleton_append]

/-- A character pressed in a fresh field acts as if the field had the focus. -/
theorem press_fresh (c : Char) (position : Nat) :
    editor.press .fresh (.plain (.char c)) position =
      editor.press (editor.placed []) (.plain (.char c)) (editor.placed []).cursor := by
  rw [editor.press_own rfl, editor.press_own rfl, editor.ready_fresh,
    editor.ready_placed (.done _)]

theorem accepted_fresh (text : List Char) :
    editor.accepted .fresh text = editor.accepted (editor.placed []) text := by
  cases text with
  | nil => rfl
  | cons c text =>
    rw [accepted, accepted, editor.ready_fresh, editor.ready_placed (.done _),
      editor.press_fresh]

theorem typeText_fresh {text : List Char} (hsome : text ≠ []) :
    (editor.typeText .fresh text).1 = (editor.typeText (editor.placed []) text).1 := by
  cases text with
  | nil => exact absurd rfl hsome
  | cons c text => rw [typeText_fst, typeText_fst, List.foldl_cons, List.foldl_cons, press_fresh]

/-- A text typed into a fresh field with the focus leaves the value and the cursor that
come of laying the accepted characters over the mask. Placing uses them all up: each is
in the editable slot of its own number. A field without the focus gains it with the first
character, so nothing else comes of a text with characters in it. -/
theorem typing_agrees_with_placing (text : List Char) :
    let focused := editor.run .fresh [.focus]
    let accepted := editor.accepted focused text
    let field := editor.run .fresh [.focus, .type text]
    accepted.Sublist text ∧
      field.value = (editor.mask.place accepted).value ∧
      field.cursor = (editor.mask.place accepted).cursor ∧
      (editor.mask.place accepted).consumed = accepted.length ∧
      (∀ (index : Nat) (c : Char), accepted[index]? = some c →
        ∃ position : Nat, editor.mask.editablePositions[index]? = some position ∧
          field.value[position]? = some c) ∧
      editor.accepted .fresh text = accepted ∧
      (text ≠ [] → editor.run .fresh [.type text] = field) := by
  intro focused accepted field
  have hfocused : focused = editor.placed [] := editor.focus_fresh
  have haccepted : accepted = editor.accepted (editor.placed []) text :=
    congrArg (editor.accepted · text) hfocused
  have hfield : field = (editor.typeText (editor.placed []) text).1 :=
    congrArg (fun field => (editor.typeText field text).1) hfocused
  obtain ⟨hfills, hplaced⟩ := editor.typeText_placed (.done _) text
  rw [List.nil_append, ← haccepted] at hfills hplaced
  rw [← hfield] at hplaced
  have hsublist : accepted.Sublist text := editor.accepted_sublist focused text
  have hvalue : field.value = (editor.mask.place accepted).value := congrArg Field.value hplaced
  have hcursor : field.cursor = (editor.mask.place accepted).cursor :=
    congrArg Field.cursor hplaced
  refine ⟨hsublist, hvalue, hcursor, consumed_of_fills hfills, ?_, ?_, ?_⟩
  · intro index c hc
    rw [hvalue]
    exact getElem?_value_of_fills hfills hc
  · exact (editor.accepted_fresh text).trans haccepted.symm
  · intro hsome
    exact (editor.typeText_fresh hsome).trans hfield.symm

-- The letter is dropped, and the second digit goes behind the literal.
example :
    let mask := Mask.compile ['9', '/', '9']
    let editor : Editor := ⟨mask, mask.pattern, rfl⟩
    editor.accepted .fresh ['1', 'x', '2'] = ['1', '2'] ∧
      editor.run .fresh [.type ['1', 'x', '2']] = ⟨['1', '/', '2'], 3, false⟩ := by
  decide +kernel

end MaskedField.Editor
