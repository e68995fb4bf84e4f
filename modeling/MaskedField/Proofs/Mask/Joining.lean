/- # Masks one behind the other

Two masks written one behind the other are a mask again, and nothing passes between the two
parts but the text that the first one leaves. A text is laid over the first part and what is
left of it over the second; the cursor is in the second part if the first has no gap. A value
of the whole is complete if its two parts are, where the expression of the whole is not made
from the expressions of the parts: each is held in place at both ends.
-/

import MaskedField.Proofs.Mask.Matching
import MaskedField.Proofs.Mask.Placing

namespace MaskedField

/-- Rows agree place by place if their fronts do, of one length, and what is behind them. -/
theorem forall₂_append_iff {α β : Type} {R : α → β → Prop} {first second : List α}
    {front back : List β} (hlength : front.length = first.length) :
    List.Forall₂ R (first ++ second) (front ++ back) ↔
      List.Forall₂ R first front ∧ List.Forall₂ R second back := by
  constructor
  · intro hall
    have hfront := List.forall₂_take_append _ front back hall
    have hback := List.forall₂_drop_append _ front back hall
    rw [List.take_left' hlength.symm] at hfront
    rw [List.drop_left' hlength.symm] at hback
    exact ⟨hfront, hback⟩
  · rintro ⟨hfront, hback⟩
    exact List.rel_append hfront hback

/-- The cursor goes behind the front only if the front has no gap. -/
theorem Placement.cursor_append {front : Placement} (back : Placement)
    (hinside : ∀ gap ∈ front.firstGap?, gap < front.value.length) :
    (front.append back).cursor =
      if front.cursor < front.value.length then front.cursor
      else front.value.length + back.cursor := by
  cases hgap : front.firstGap? with
  | none =>
    have hcursor : front.cursor = front.value.length := by rw [cursor, hgap, Option.getD_none]
    rw [if_neg (Nat.not_lt.2 (Nat.le_of_eq hcursor.symm))]
    cases hbehind : back.firstGap? <;> simp [cursor, append, hgap, hbehind]
  | some gap =>
    have hcursor : front.cursor = gap := by rw [cursor, hgap, Option.getD_some]
    rw [if_pos (hcursor ▸ hinside gap hgap), hcursor]
    simp [cursor, append, hgap]

namespace Mask

variable (first second : Mask) (text : List Char)

theorem slots_compile_append :
    (compile (first.source ++ second.source)).slots = first.slots ++ second.slots := by
  rw [first.slots_eq, second.slots_eq]
  exact List.map_append

theorem place_compile_append :
    (compile (first.source ++ second.source)).place text =
      (first.place text).append (second.place (text.drop (first.place text).consumed)) := by
  rw [place, slots_compile_append, layOver_append]
  rfl

theorem firstGap?_lt_length :
    ∀ gap ∈ (first.place text).firstGap?, gap < (first.place text).value.length := by
  intro gap hgap
  have heditable : first.isEditable gap = true :=
    isEditable_firstGap?_layOver first.slots text gap hgap
  rw [(first.fits_place text).length_eq]
  exact lt_length_of_isEditable heditable

theorem completed_compile_append {front back : List Char} (hlength : front.length = first.length) :
    (compile (first.source ++ second.source)).Completed (front ++ back) ↔
      first.Completed front ∧ second.Completed back := by
  rw [Completed, slots_compile_append]
  exact forall₂_append_iff hlength

/-- A text is laid over a mask of two parts as it is laid over the first part, and what that
leaves of it over the second. A text whose front is as long as the first part is a complete
value of the whole exactly if the front is one of the first part and the rest one of the
second. -/
theorem joined_masks_split_texts (first second : Mask) (text : List Char) :
    let joined := compile (first.source ++ second.source)
    let front := first.place text
    let back := second.place (text.drop front.consumed)
    (joined.place text).value = front.value ++ back.value ∧
      (joined.place text).consumed = front.consumed + back.consumed ∧
      (joined.place text).cursor =
        (if front.cursor < first.length then front.cursor else first.length + back.cursor) ∧
      ∀ (engine : Pattern.Engine) (whole left right : Editor),
        Editor.ofMask engine joined = .ok whole → Editor.ofMask engine first = .ok left →
        Editor.ofMask engine second = .ok right →
        ∀ start rest : List Char, start.length = first.length →
          (whole.isComplete (start ++ rest) = true ↔
            left.isComplete start = true ∧ right.isComplete rest = true) := by
  intro joined front back
  have hplace : joined.place text = front.append back := place_compile_append first second text
  have hlength : front.value.length = first.length := (first.fits_place text).length_eq
  refine ⟨by rw [hplace]; rfl, by rw [hplace]; rfl, ?_, ?_⟩
  · rw [hplace, Placement.cursor_append back (first.firstGap?_lt_length text), hlength]
  · intro engine whole left right hwhole hleft hright start rest hstart
    have hjoined : whole.mask = joined := (Editor.ofMask_eq_ok_iff.1 hwhole).2
    have hfirst : left.mask = first := (Editor.ofMask_eq_ok_iff.1 hleft).2
    have hsecond : right.mask = second := (Editor.ofMask_eq_ok_iff.1 hright).2
    rw [Editor.isComplete_iff, Editor.isComplete_iff, Editor.isComplete_iff, hjoined, hfirst,
      hsecond]
    exact completed_compile_append first second hstart

/-- The letter does not fit the first part, so it is left for the second, whose own gap is not
the first one. -/
theorem joined_masks_split_texts_behind_a_gap :
    let first := compile ['9', '-', '9']
    let second := compile ['A', '9']
    let joined := compile ['9', '-', '9', 'A', '9']
    let whole : Editor := ⟨joined, joined.pattern, rfl⟩
    let left : Editor := ⟨first, first.pattern, rfl⟩
    let right : Editor := ⟨second, second.pattern, rfl⟩
    let engine := Pattern.Engine.bounded
    (joined.place ['1', 'Q']).value = ['1', '-', '_', 'Q', '_'] ∧
      (joined.place ['1', 'Q']).consumed = 2 ∧ (joined.place ['1', 'Q']).cursor = 2 ∧
      Editor.ofMask engine joined = .ok whole ∧ Editor.ofMask engine first = .ok left ∧
      Editor.ofMask engine second = .ok right ∧
      (whole.isComplete ['1', '-', '2', 'Q', '3'] = true ↔
        left.isComplete ['1', '-', '2'] = true ∧ right.isComplete ['Q', '3'] = true) := by
  intro first second joined whole left right engine
  have hwhole : Editor.ofMask engine joined = .ok whole :=
    Editor.ofMask_eq_ok_iff.2 ⟨by decide +kernel, rfl⟩
  have hleft : Editor.ofMask engine first = .ok left :=
    Editor.ofMask_eq_ok_iff.2 ⟨by decide +kernel, rfl⟩
  have hright : Editor.ofMask engine second = .ok right :=
    Editor.ofMask_eq_ok_iff.2 ⟨by decide +kernel, rfl⟩
  obtain ⟨hvalue, hconsumed, hcursor, hcomplete⟩ :=
    joined_masks_split_texts first second ['1', 'Q']
  exact ⟨hvalue, hconsumed, hcursor, hwhole, hleft, hright,
    hcomplete engine whole left right hwhole hleft hright ['1', '-', '2'] ['Q', '3'] rfl⟩

end Mask
end MaskedField
