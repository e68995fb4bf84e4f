/- # Edits that undo each other

A character that is deleted can be typed again. After a deletion backwards the cursor is at
the slot that was blanked, and the character fits the slot that it was taken from; after a
deletion forwards the cursor has stayed in front, and the arrow leads to that same slot, which
is the next one for the arrow as it was for the deletion. The other way round, typing moves the
cursor on, and from there, over literals or from behind the last slot, the previous editable
slot is the one that was typed into: going back is the inverse of going on.

A filled slot that is typed over is not considered; what it held before is lost.
-/

import MaskedField.Proofs.Field.Readiness
import MaskedField.Proofs.Field.Strike
import MaskedField.Proofs.Mask.Fitting
import MaskedField.Proofs.Mask.Positions

namespace MaskedField

section Blanking

variable {text : List Char} {slot target : Nat} {removed : Char}

theorem set_of_getElem? (hremoved : text[slot]? = some removed) :
    text.set slot removed = text := by
  obtain ⟨hinside, rfl⟩ := List.getElem?_eq_some_iff.1 hremoved
  exact List.set_getElem_self hinside

/-- A character that is gone after a slot was blanked was in that slot, and no blank. -/
theorem of_removed (hremoved : text[slot]? = some removed)
    (hgone : (text.set target blank)[slot]? ≠ some removed) :
    slot = target ∧ removed ≠ blank := by
  have hinside : slot < text.length := (List.getElem?_eq_some_iff.1 hremoved).1
  by_cases hslot : slot = target
  · subst hslot
    rw [List.getElem?_set_self hinside] at hgone
    exact ⟨rfl, fun hblank => hgone (congrArg some hblank.symm)⟩
  · rw [List.getElem?_set_ne (Ne.symm hslot)] at hgone
    exact absurd hremoved hgone

end Blanking

namespace Editor

variable (editor : Editor) {field : Field} {slot : Nat} {c removed : Char}

/-- A character that was removed from a slot can be typed into it again. -/
theorem value_retype (hfits : editor.mask.Fits field.value)
    (heditable : editor.mask.isEditable slot = true) (hremoved : field.value[slot]? = some removed)
    (hfilled : removed ≠ blank) {erased : Field}
    (herased : erased.value = field.value.set slot blank)
    (hunselected : erased.wholeSelected = false) {held : Modifiers}
    (hheld : held.isShortcut = false) :
    (editor.press erased ⟨.char removed, held⟩ slot).1.value = field.value := by
  have hlength : erased.value.length = field.value.length := by rw [herased, List.length_set]
  have hinside : slot < erased.value.length :=
    hlength ▸ (List.getElem?_eq_some_iff.1 hremoved).1
  have haccepts : editor.mask.accepts slot removed = true :=
    hfits.accepts_of_ne_blank heditable hremoved hfilled
  have hsome : erased.value ≠ [] := List.ne_nil_of_length_pos (Nat.zero_lt_of_lt hinside)
  rw [editor.press_inside hunselected hsome _ Key.noConfusion hheld (Nat.le_of_lt hinside), strike,
    insert?_eq, if_pos ⟨haccepts, hinside⟩, Option.getD_some, herased, List.set_set,
    set_of_getElem? hremoved]

section Shown

variable (hsome : field.value ≠ []) (hfits : editor.mask.Fits field.value)
  (hunselected : field.wholeSelected = false)
include hsome hfits hunselected

/-- A character that a deletion backwards has removed was in the slot where the cursor is. -/
theorem erased_of_backspace {held : Modifiers} {position : Nat} {erased : Field}
    (herased : erased = (editor.press field ⟨.backspace, held⟩ position).1)
    (hremoved : field.value[slot]? = some removed) (hgone : erased.value[slot]? ≠ some removed) :
    editor.mask.isEditable slot = true ∧ removed ≠ blank ∧
      erased = { field with value := field.value.set slot blank, cursor := slot } := by
  have hkept : erased ≠ field := fun hsame => hgone (hsame ▸ hremoved)
  rw [editor.press_shown hunselected hsome] at herased
  split at herased
  · exact absurd herased hkept
  · cases hprevious : editor.mask.previousEditable? (min position field.value.length) with
    | none =>
      rw [strike, clearLeft, hprevious] at herased
      exact absurd herased hkept
    | some previous =>
      have heditable := (Mask.previousEditable?_eq_some_iff.1 hprevious).1
      rw [strike, editor.clearLeft_of_previous field _ hprevious,
        if_pos (hfits.length_eq ▸ Mask.lt_length_of_isEditable heditable)] at herased
      rw [herased] at hgone
      obtain ⟨rfl, hfilled⟩ := of_removed hremoved hgone
      exact ⟨heditable, hfilled, herased⟩

/-- One that a deletion forwards has removed was in the next slot behind the cursor. -/
theorem erased_of_delete {held : Modifiers} {position : Nat} {erased : Field}
    (herased : erased = (editor.press field ⟨.delete, held⟩ position).1)
    (hremoved : field.value[slot]? = some removed) (hgone : erased.value[slot]? ≠ some removed) :
    ∃ start ≤ field.value.length, editor.mask.nextEditable? start = some slot ∧
      removed ≠ blank ∧
      erased = { field with value := field.value.set slot blank, cursor := start } := by
  have hkept : erased ≠ field := fun hsame => hgone (hsame ▸ hremoved)
  rw [editor.press_shown hunselected hsome] at herased
  split at herased
  · exact absurd herased hkept
  · cases hnext : editor.mask.nextEditable? (min position field.value.length) with
    | none =>
      rw [strike, clearRight, hnext] at herased
      exact absurd herased hkept
    | some next =>
      have heditable := (Mask.nextEditable?_eq_some_iff.1 hnext).1
      rw [strike, editor.clearRight_of_next field _ hnext,
        if_pos (hfits.length_eq ▸ Mask.lt_length_of_isEditable heditable)] at herased
      rw [herased] at hgone
      obtain ⟨rfl, hfilled⟩ := of_removed hremoved hgone
      exact ⟨_, Nat.min_le_right _ _, hnext, hfilled, herased⟩

/-- A character that a slot accepts is entered there, and the cursor moves on to a place from
which the way back leads to the slot. -/
theorem exists_cursor_of_accepts {held : Modifiers} (hheld : held.isShortcut = false)
    {typed : Field} (htyped : typed = (editor.press field ⟨.char c, held⟩ slot).1)
    (haccepts : editor.mask.accepts slot c = true) :
    ∃ cursor ≤ field.value.length, editor.mask.previousEditable? cursor = some slot ∧
      typed = { field with value := field.value.set slot c, cursor } := by
  have heditable := Mask.isEditable_of_accepts haccepts
  have hinside : slot < field.value.length :=
    hfits.length_eq ▸ Mask.lt_length_of_isEditable heditable
  have hrests : editor.mask.Rests
      ((editor.mask.nextEditable? slot).getD editor.mask.length) :=
    Mask.rests_getD fun _ hnext => (Mask.nextEditable?_eq_some_iff.1 hnext).1
  refine ⟨_, hfits.length_eq ▸ hrests.le, Mask.previousEditable?_of_next heditable, ?_⟩
  rw [htyped, editor.press_inside hunselected hsome _ Key.noConfusion hheld (Nat.le_of_lt hinside),
    strike, insert?_eq, if_pos ⟨haccepts, hinside⟩, Option.getD_some, hfits.length_eq]

end Shown

/-- In a field that shows a value that fits, of which nothing is selected, whatever modifiers
are held with the keys: a character that is deleted backwards comes back when it is typed at
the new cursor, and one that is deleted forwards when it is typed after an arrow to the right.
A character that is typed into a blank slot at the cursor is taken back by deleting backwards,
and the cursor returns with it. -/
theorem edits_undo_each_other (field : Field) (hsome : field.value ≠ [])
    (hfits : editor.mask.Fits field.value) (hunselected : field.wholeSelected = false)
    (held : Key → Modifiers) (hheld : ∀ key, (held key).isShortcut = false) :
    let pressed (current : Field) (key : Key) (position : Nat) : Field :=
      (editor.press current ⟨key, held key⟩ position).1
    (∀ (position slot : Nat) (removed : Char),
      let erased := pressed field .backspace position
      field.value[slot]? = some removed → erased.value[slot]? ≠ some removed →
        (pressed erased (.char removed) erased.cursor).value = field.value) ∧
      (∀ (position slot : Nat) (removed : Char),
        let erased := pressed field .delete position
        field.value[slot]? = some removed → erased.value[slot]? ≠ some removed →
          let moved := pressed erased .arrowRight erased.cursor
          (pressed moved (.char removed) moved.cursor).value = field.value) ∧
      ∀ c, field.value[field.cursor]? = some blank →
        editor.mask.accepts field.cursor c = true →
          let typed := pressed field (.char c) field.cursor
          typed.value = field.value.set field.cursor c ∧
            pressed typed .backspace typed.cursor = field := by
  intro pressed
  refine ⟨?_, ?_, ?_⟩
  · intro position slot removed erased hremoved hgone
    obtain ⟨heditable, hfilled, herased⟩ :=
      editor.erased_of_backspace hsome hfits hunselected (Eq.refl erased) hremoved hgone
    have hcursor : erased.cursor = slot := congrArg Field.cursor herased
    rw [hcursor]
    exact editor.value_retype hfits heditable hremoved hfilled (congrArg Field.value herased)
      (herased ▸ hunselected) (hheld _)
  · intro position slot removed erased hremoved hgone moved
    obtain ⟨start, hstart, hnext, hfilled, herased⟩ :=
      editor.erased_of_delete hsome hfits hunselected (Eq.refl erased) hremoved hgone
    -- The arrow starts where the key deleted, so it finds the same slot.
    have hmoved : moved = { erased with cursor := slot } := by
      have hshown : erased.value ≠ [] := by simpa [herased] using hsome
      have hinside : erased.cursor ≤ erased.value.length := by simpa [herased] using hstart
      have hslot : editor.mask.nextEditable? erased.cursor = some slot := by rwa [herased]
      have harrow := editor.press_inside (herased ▸ hunselected) hshown .arrowRight
        Key.noConfusion (hheld .arrowRight) hinside
      rwa [strike, moveRight, hslot] at harrow
    have hcursor : moved.cursor = slot := congrArg Field.cursor hmoved
    rw [hcursor]
    refine editor.value_retype hfits (Mask.nextEditable?_eq_some_iff.1 hnext).1 hremoved hfilled
      ?_ ?_ (hheld _)
    · rw [hmoved, herased]
    · rw [hmoved, herased]
      exact hunselected
  · intro c hblank haccepts typed
    obtain ⟨cursor, hcursor, hprevious, htyped⟩ :=
      editor.exists_cursor_of_accepts hsome hfits hunselected (hheld _) (Eq.refl typed) haccepts
    have hshown : typed.value ≠ [] := by simpa [htyped] using hsome
    have hend : typed.cursor ≤ typed.value.length := by simpa [htyped] using hcursor
    have hslot : editor.mask.previousEditable? typed.cursor = some field.cursor := by
      rwa [htyped]
    have hinside : field.cursor < typed.value.length := by
      simpa [htyped] using (List.getElem?_eq_some_iff.1 hblank).1
    have hback := editor.press_inside (htyped ▸ hunselected) hshown .backspace
      Key.noConfusion (hheld .backspace) hend
    rw [strike, editor.clearLeft_of_previous _ _ hslot, if_pos hinside] at hback
    refine ⟨congrArg Field.value htyped, hback.trans ?_⟩
    rw [htyped]
    refine Field.ext ?_ rfl rfl
    rw [List.set_set, set_of_getElem? hblank]

/-- The last editable slot has a literal on either side. Keys far behind the end and on the
literal in front delete from it, and what is typed into it takes the cursor behind the last
literal, from where the way back leads over it. -/
theorem edits_undo_each_other_between_literals :
    let mask := Mask.compile ['9', '(', '*', ')']
    let editor : Editor := ⟨mask, mask.pattern, rfl⟩
    let filled : Field := ⟨['1', '(', 'x', ')'], 7, false⟩
    let unfilled : Field := ⟨['1', '(', '_', ')'], 2, false⟩
    let held : Key → Modifiers := fun _ => ⟨false, false, true, false⟩
    let pressed (current : Field) (key : Key) (position : Nat) : Field :=
      (editor.press current ⟨key, held key⟩ position).1
    let backward := pressed filled .backspace 99
    let forward := pressed filled .delete 1
    let moved := pressed forward .arrowRight forward.cursor
    let typed := pressed unfilled (.char 'y') unfilled.cursor
    filled.value ≠ [] ∧ mask.Fits filled.value ∧ filled.wholeSelected = false ∧
      unfilled.value ≠ [] ∧ mask.Fits unfilled.value ∧ unfilled.wholeSelected = false ∧
      (∀ key, (held key).isShortcut = false) ∧
      backward = unfilled ∧ (pressed backward (.char 'x') backward.cursor).value = filled.value ∧
      forward = ⟨['1', '(', '_', ')'], 1, false⟩ ∧
      (pressed moved (.char 'x') moved.cursor).value = filled.value ∧
      typed = ⟨['1', '(', 'y', ')'], 4, false⟩ ∧
      pressed typed .backspace typed.cursor = unfilled := by
  intro mask editor filled unfilled held pressed backward forward moved typed
  have hfilled : filled.value ≠ [] := by decide
  have hunfilled : unfilled.value ≠ [] := by decide
  have hfits : mask.Fits filled.value :=
    .cons (.inr rfl) (.cons rfl (.cons (.inr rfl) (.cons rfl .nil)))
  have hopen : mask.Fits unfilled.value :=
    .cons (.inr rfl) (.cons rfl (.cons (.inl rfl) (.cons rfl .nil)))
  have hheld : ∀ key, (held key).isShortcut = false := fun _ => rfl
  have hbackward : backward = unfilled := by decide +kernel
  have hforward : forward = ⟨['1', '(', '_', ')'], 1, false⟩ := by decide +kernel
  obtain ⟨hretyped, harrow, -⟩ := editor.edits_undo_each_other filled hfilled hfits rfl held hheld
  obtain ⟨-, -, hback⟩ := editor.edits_undo_each_other unfilled hunfilled hopen rfl held hheld
  have hgoneBackward : backward.value[2]? ≠ some 'x' := by
    rw [hbackward]
    decide
  have hgoneForward : forward.value[2]? ≠ some 'x' := by
    rw [hforward]
    decide
  exact ⟨hfilled, hfits, rfl, hunfilled, hopen, rfl, hheld, hbackward,
    hretyped 99 2 'x' rfl hgoneBackward, hforward, harrow 1 2 'x' rfl hgoneForward,
    by decide +kernel, (hback 'y' rfl (by decide)).2⟩

end Editor
end MaskedField
