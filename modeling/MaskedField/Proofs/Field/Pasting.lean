/- # Where a paste leaves the cursor

After a paste the cursor is at the first slot that is left to be filled. For a text that is
taken as it is, this is the first blank of the value. For a text that is laid over the mask it
is the first slot that took nothing, and that need not be the first blank: a slot for any
character takes a blank of the text like any other character, and then it is filled, although
nobody can see it. So the two ways agree on what the cursor is looking for, a blank that is
left, but not on what a blank of the text is: taken as it is, it counts as one that is left.

The cursor is at the first blank of the value exactly if no slot before it took a blank.
-/

import MaskedField.Proofs.Field.Shape
import MaskedField.Proofs.Mask.Greedy

namespace MaskedField

namespace Mask

variable {mask : Mask} {text : List Char} {position : Nat}

/-- The gaps of a placement are the blanks of its value that are not fillings. -/
theorem isGap_iff_blank :
    mask.isGap text position = true ↔
      (mask.place text).value[position]? = some blank ∧ mask.taken? text position = none := by
  constructor
  · intro hgap
    obtain ⟨-, hnone⟩ := Bool.and_eq_true_iff.1 hgap
    exact ⟨getElem?_value_of_isGap hgap, Option.isNone_iff_eq_none.1 hnone⟩
  · rintro ⟨hblank, hnone⟩
    have heditable := (mask.fits_place text).isEditable_of_blank hblank
    exact Bool.and_eq_true_iff.2 ⟨heditable, Option.isNone_iff_eq_none.2 hnone⟩

/-- Only a slot for any character takes a blank, and it takes it from the text. -/
theorem of_taken?_blank (htaken : mask.taken? text position = some blank) :
    mask.slot? position = some (.placeholder .anyCharacter) ∧ blank ∈ text := by
  obtain ⟨hblank, haccepts⟩ := taken?_eq_some_iff.1 htaken
  refine ⟨?_, List.mem_of_getElem? hblank⟩
  obtain ⟨slot, hslot, hslotAccepts⟩ := (Option.any_eq_true _ _).1 haccepts
  cases slot with
  | literal shown => cases hslotAccepts
  | unclassified source => cases hslotAccepts
  | placeholder charClass =>
    cases charClass with
    | anyCharacter => exact hslot
    | digit => cases hslotAccepts
    | lowercaseLetter => cases hslotAccepts
    | uppercaseLetter => cases hslotAccepts

/-- The cursor of a placement is at the first blank of its value unless a slot before it is
filled with a blank. -/
theorem cursor_place_eq_firstBlank_iff :
    (mask.place text).cursor =
        (firstBlank? (mask.place text).value).getD (mask.place text).value.length ↔
      ∀ earlier < (mask.place text).cursor, mask.taken? text earlier ≠ some blank := by
  have hcursor : (mask.place text).value[(mask.place text).cursor]? = some blank ∨
      (mask.place text).cursor = (mask.place text).value.length := by
    rw [(mask.fits_place text).length_eq]
    exact (mask.isGap_cursor_or text).imp_left fun hgap => (isGap_iff_blank.1 hgap).1
  rw [eq_firstBlank_iff hcursor]
  refine forall₂_congr fun earlier hearlier => not_congr ?_
  refine ⟨fun hblank => ?_, getElem?_value_of_taken?⟩
  cases htaken : mask.taken? text earlier with
  | none =>
    have hgap : mask.isGap text earlier = true := isGap_iff_blank.2 ⟨hblank, htaken⟩
    exact absurd (cursor_le_of_isGap hgap) (Nat.not_le_of_lt hearlier)
  | some c => rw [← hblank, getElem?_value_of_taken? htaken]

end Mask

namespace Editor

variable (editor : Editor) (field : Field) {text : List Char}

/-- A blank is left at the position: the value shows one there, and it is not a character of
the text that laying the text over the mask has put into the slot. -/
def LeavesBlank (text : List Char) (position : Nat) : Prop :=
  (editor.paste field text).value[position]? = some blank ∧
    (editor.isComplete text = true ∨ editor.mask.taken? text position = none)

/-- A text that is taken as it is has the cursor at its first blank. -/
theorem paste_of_isComplete (hcomplete : editor.isComplete text = true) :
    editor.paste field text = ⟨text, (firstBlank? text).getD text.length, false⟩ := by
  rw [paste, if_pos hcomplete, ((editor.isComplete_iff text).1 hcomplete).fits.length_eq]

theorem paste_of_not_isComplete (hincomplete : editor.isComplete text = false) :
    editor.paste field text =
      ⟨(editor.mask.place text).value, (editor.mask.place text).cursor, false⟩ :=
  if_neg (Bool.eq_false_iff.1 hincomplete)

theorem leavesBlank_iff_of_isComplete (hcomplete : editor.isComplete text = true)
    (position : Nat) :
    editor.LeavesBlank field text position ↔ text[position]? = some blank := by
  simp [LeavesBlank, editor.paste_of_isComplete field hcomplete, hcomplete]

theorem leavesBlank_iff_of_not_isComplete (hincomplete : editor.isComplete text = false)
    (position : Nat) :
    editor.LeavesBlank field text position ↔ editor.mask.isGap text position = true := by
  simp [LeavesBlank, editor.paste_of_not_isComplete field hincomplete, hincomplete,
    Mask.isGap_iff_blank]

/-- The cursor need not be at the first blank of the value: here the first slot is filled with
a blank, and the cursor is at the second one. -/
theorem first_blank_may_be_a_filling :
    ¬ ∀ (editor : Editor) (field : Field) (text : List Char),
      (editor.paste field text).cursor =
        (firstBlank? (editor.paste field text).value).getD
          (editor.paste field text).value.length := by
  intro hall
  have hpasted := hall ⟨Mask.compile ['*', '*'], _, rfl⟩ .fresh ['_']
  revert hpasted
  decide +kernel

/-- Whatever is pasted, the cursor goes to the first blank that is left, or to the end of a
value in which none is left. This is the first blank of the value if the text is taken as it
is, and otherwise exactly if no slot before the cursor took a blank of the text; only a slot
for any character can. -/
theorem paste_stops_at_first_blank_left (text : List Char) :
    let next := editor.paste field text
    (editor.LeavesBlank field text next.cursor ∨ next.cursor = next.value.length) ∧
      (∀ position, editor.LeavesBlank field text position → next.cursor ≤ position) ∧
      (next.cursor = (firstBlank? next.value).getD next.value.length ↔
        editor.isComplete text = true ∨
          ∀ earlier < next.cursor, editor.mask.taken? text earlier ≠ some blank) ∧
      ∀ position, editor.mask.taken? text position = some blank →
        editor.mask.slot? position = some (.placeholder .anyCharacter) ∧ blank ∈ text := by
  intro next
  cases hcomplete : editor.isComplete text with
  | true =>
    have hnext : next = ⟨text, (firstBlank? text).getD text.length, false⟩ :=
      editor.paste_of_isComplete field hcomplete
    have hcursor := blank_or_end_firstBlank text
    rw [hnext]
    simp only [editor.leavesBlank_iff_of_isComplete field hcomplete]
    refine ⟨hcursor, ?_, by simp, fun position => Mask.of_taken?_blank⟩
    intro position hblank
    apply Nat.le_of_not_lt
    intro hbefore
    exact (eq_firstBlank_iff hcursor).1 rfl position hbefore hblank
  | false =>
    have hnext : next = ⟨(editor.mask.place text).value, (editor.mask.place text).cursor, false⟩ :=
      editor.paste_of_not_isComplete field hcomplete
    rw [hnext]
    simp only [editor.leavesBlank_iff_of_not_isComplete field hcomplete]
    refine ⟨?_, fun position => Mask.cursor_le_of_isGap, ?_, fun position => Mask.of_taken?_blank⟩
    · rw [(editor.mask.fits_place text).length_eq]
      exact editor.mask.isGap_cursor_or text
    · rw [Mask.cursor_place_eq_firstBlank_iff]
      simp

end Editor
end MaskedField
