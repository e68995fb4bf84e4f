/- # What a key does

A key acts at a position of a field that is ready for it, and there are only three
things that can come of it: nothing, a move of the cursor to an editable slot, or
one character written into one editable slot. The theories of the editor rest on
this list and not on the keys themselves.
-/

import MaskedField.Field.Editor
import MaskedField.Proofs.Mask.Navigation

namespace MaskedField

/-- What a key can make of a field at a position. -/
inductive Struck (mask : Mask) (field : Field) (key : Key) (position : Nat) : Field → Prop where
  /-- The key has no use here. -/
  | kept : Struck mask field key position field
  /-- An arrow moves the cursor to an editable slot. -/
  | moved (target : Nat) (heditable : mask.isEditable target = true)
      (hkey : key = .arrowLeft ∨ key = .arrowRight) :
      Struck mask field key position { field with cursor := target }
  /-- One editable slot takes a character that it accepts, or is blanked. Only
  the key that deletes forwards leaves the cursor at a position of the host's
  choice. -/
  | written (target : Nat) (c : Char) (cursor : Nat)
      (hinside : target < field.value.length) (heditable : mask.isEditable target = true)
      (hc : (key = .char c ∧ mask.accepts target c = true) ∨
        (c = blank ∧ (key = .backspace ∨ key = .delete)))
      (hcursor : mask.isEditable cursor = true ∨ cursor = field.value.length ∨
        (key = .delete ∧ cursor = position)) :
      Struck mask field key position { field with value := field.value.set target c, cursor }

namespace Struck

variable {mask : Mask} {field next : Field} {key : Key} {position : Nat}

theorem length_eq (hstruck : Struck mask field key position next) :
    next.value.length = field.value.length := by
  cases hstruck with
  | kept => rfl
  | moved target heditable hkey => rfl
  | written target c cursor hinside heditable hc hcursor => exact List.length_set

theorem wholeSelected_eq (hstruck : Struck mask field key position next) :
    next.wholeSelected = field.wholeSelected := by
  cases hstruck <;> rfl

end Struck

namespace Editor

variable (editor : Editor) (field : Field) (position : Nat)

/-- A character is entered exactly where the mask accepts it and the value reaches. -/
theorem insert?_eq (c : Char) :
    editor.insert? field c position =
      if editor.mask.accepts position c = true ∧ position < field.value.length then
        some { field with
          value := field.value.set position c
          cursor := (editor.mask.nextEditable? position).getD field.value.length }
      else none := by
  rw [insert?, overwrite?_eq]
  by_cases haccepts : editor.mask.accepts position c = true
  · by_cases hinside : position < field.value.length <;> simp [haccepts, hinside]
  · simp [haccepts]

/-- The nearest editable slot in front is blanked if the value reaches that far. -/
theorem clearLeft_of_previous {previous : Nat}
    (hprevious : editor.mask.previousEditable? position = some previous) :
    editor.clearLeft field position =
      if previous < field.value.length then
        { field with value := field.value.set previous blank, cursor := previous }
      else field := by
  simp only [clearLeft, hprevious, overwrite?_eq]
  by_cases hinside : previous < field.value.length <;> simp [hinside]

theorem clearRight_of_next {next : Nat}
    (hnext : editor.mask.nextEditable? position = some next) :
    editor.clearRight field position =
      if next < field.value.length then
        { field with value := field.value.set next blank, cursor := position }
      else field := by
  simp only [clearRight, hnext, overwrite?_eq]
  by_cases hinside : next < field.value.length <;> simp [hinside]

theorem struck_insert? (c : Char) :
    Struck editor.mask field (.char c) position
      ((editor.insert? field c position).getD field) := by
  rw [insert?_eq]
  split
  · next hentered =>
    obtain ⟨haccepts, hinside⟩ := hentered
    apply Struck.written position c _ hinside (Mask.isEditable_of_accepts haccepts)
      (.inl ⟨rfl, haccepts⟩)
    cases hnext : editor.mask.nextEditable? position with
    | none => exact .inr (.inl rfl)
    | some next => exact .inl (Mask.nextEditable?_eq_some_iff.1 hnext).1
  · exact .kept

theorem struck_moveLeft :
    Struck editor.mask field .arrowLeft position (editor.moveLeft field position) := by
  cases hprevious : editor.mask.previousEditable? position with
  | none =>
    rw [moveLeft, hprevious]
    exact .kept
  | some previous =>
    rw [moveLeft, hprevious]
    exact .moved previous (Mask.previousEditable?_eq_some_iff.1 hprevious).1 (.inl rfl)

theorem struck_moveRight :
    Struck editor.mask field .arrowRight position (editor.moveRight field position) := by
  cases hnext : editor.mask.nextEditable? position with
  | none =>
    rw [moveRight, hnext]
    exact .kept
  | some next =>
    rw [moveRight, hnext]
    exact .moved next (Mask.nextEditable?_eq_some_iff.1 hnext).1 (.inr rfl)

theorem struck_clearLeft :
    Struck editor.mask field .backspace position (editor.clearLeft field position) := by
  cases hprevious : editor.mask.previousEditable? position with
  | none =>
    rw [clearLeft, hprevious]
    exact .kept
  | some previous =>
    have heditable := (Mask.previousEditable?_eq_some_iff.1 hprevious).1
    rw [editor.clearLeft_of_previous field position hprevious]
    split
    · next hinside =>
      -- The cursor follows to the slot that was blanked.
      exact .written previous blank previous hinside heditable (.inr ⟨rfl, .inl rfl⟩)
        (.inl heditable)
    · exact .kept

theorem struck_clearRight :
    Struck editor.mask field .delete position (editor.clearRight field position) := by
  cases hnext : editor.mask.nextEditable? position with
  | none =>
    rw [clearRight, hnext]
    exact .kept
  | some next =>
    have heditable := (Mask.nextEditable?_eq_some_iff.1 hnext).1
    rw [editor.clearRight_of_next field position hnext]
    split
    · next hinside =>
      -- The cursor stays where the key was pressed, be it on a literal.
      exact .written next blank position hinside heditable (.inr ⟨rfl, .inr rfl⟩)
        (.inr (.inr ⟨rfl, rfl⟩))
    · exact .kept

/-- Every key does one of the three things. -/
theorem struck_strike (key : Key) :
    Struck editor.mask field key position (editor.strike field key position) := by
  cases key with
  | char c => exact editor.struck_insert? field position c
  | arrowLeft => exact editor.struck_moveLeft field position
  | arrowRight => exact editor.struck_moveRight field position
  | backspace => exact editor.struck_clearLeft field position
  | delete => exact editor.struck_clearRight field position
  | tab => exact .kept
  | named name => exact .kept

end Editor
end MaskedField
