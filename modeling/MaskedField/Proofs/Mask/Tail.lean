/- # The tail of a text

How far a text comes at a position depends on no character behind: of a text cut off
somewhere, the slots before a position take as many characters as of the whole text, up to
the cut. So nothing is lost by cutting off what was not placed. A character that could not be
placed holds up all that follow it, whatever they are, since no slot behind the last one
taken accepts it. Only behind a text that was placed in full can another text add something,
and it adds only in the slots behind those that are taken.
-/

import MaskedField.Proofs.Mask.Progress

namespace MaskedField.Mask

variable {mask : Mask} {text : List Char} {limit position : Nat}

/-- What a slot takes of a text that is cut off: the same as of the whole text, as long as the
cut has not been reached. -/
theorem taken?_take_of_reached
    (hreached : mask.reached (text.take limit) position =
      min limit (mask.reached text position)) :
    mask.taken? (text.take limit) position =
      if mask.reached text position < limit then mask.taken? text position else none := by
  rw [taken?, hreached]
  split
  · next hless =>
    rw [Nat.min_eq_right (Nat.le_of_lt hless), List.getElem?_take_of_lt hless, taken?]
  · next hpast =>
    have houtside : (text.take limit).length ≤ min limit (mask.reached text position) := by
      rw [Nat.min_eq_left (Nat.le_of_not_lt hpast)]
      exact List.length_take_le limit text
    rw [List.getElem?_eq_none houtside, Option.filter_none]

/-- Of a text that is cut off as much is taken before a position, up to the cut. -/
theorem reached_take (text : List Char) (limit position : Nat) :
    mask.reached (text.take limit) position = min limit (mask.reached text position) := by
  induction position with
  | zero => exact (Nat.min_zero limit).symm
  | succ position ih =>
    have hshort := taken?_take_of_reached ih
    by_cases hless : mask.reached text position < limit
    · rw [if_pos hless] at hshort
      cases htaken : mask.taken? text position with
      | none =>
        rw [reached_succ_of_taken?_eq_none (hshort.trans htaken),
          reached_succ_of_taken?_eq_none htaken, ih]
      | some c =>
        rw [reached_succ_of_taken? (hshort.trans htaken), reached_succ_of_taken? htaken, ih]
        omega
    · rw [if_neg hless] at hshort
      have hmore : mask.reached text position ≤ mask.reached text (position + 1) :=
        reached_mono (Nat.le_succ position)
      rw [reached_succ_of_taken?_eq_none hshort, ih]
      omega

theorem taken?_take (text : List Char) (limit position : Nat) :
    mask.taken? (text.take limit) position =
      if mask.reached text position < limit then mask.taken? text position else none :=
  taken?_take_of_reached (reached_take text limit position)

/-- What is not placed can be cut off. -/
theorem place_take (hlimit : (mask.place text).consumed ≤ limit) :
    mask.place (text.take limit) = mask.place text := by
  apply place_congr
  intro position
  rw [taken?_take]
  split
  · rfl
  · next hpast =>
    apply Eq.symm
    apply Option.eq_none_iff_forall_ne_some.2
    intro c htaken
    have hmore := reached_succ_of_taken? htaken
    have hall : mask.reached text (position + 1) ≤ (mask.place text).consumed :=
      reached_le_consumed _
    omega

section Append

variable {more : List Char}

theorem reached_append (text more : List Char) (position : Nat) :
    mask.reached text position = min text.length (mask.reached (text ++ more) position) := by
  have hcut := mask.reached_take (text ++ more) text.length position
  rwa [List.take_left] at hcut

theorem taken?_append (text more : List Char) (position : Nat) :
    mask.taken? text position =
      if mask.reached (text ++ more) position < text.length then
        mask.taken? (text ++ more) position
      else none := by
  have hcut := mask.taken?_take (text ++ more) text.length position
  rwa [List.take_left] at hcut

theorem consumed_append (mask : Mask) (text more : List Char) :
    (mask.place text).consumed = min text.length (mask.place (text ++ more)).consumed := by
  rw [← reached_length, ← reached_length]
  exact reached_append text more mask.length

/-- A character that is not placed holds up every text behind it. -/
theorem place_append_of_lt (hleft : (mask.place text).consumed < text.length) :
    mask.place (text ++ more) = mask.place text := by
  have hconsumed := mask.consumed_append text more
  have hlimit : (mask.place (text ++ more)).consumed ≤ text.length := by omega
  rw [← place_take hlimit, List.take_left]

/-- A gap that the longer text leaves is one that the text itself has left. -/
theorem isGap_of_append (hgap : mask.isGap (text ++ more) position = true) :
    mask.isGap text position = true := by
  obtain ⟨heditable, hnone⟩ := Bool.and_eq_true_iff.1 hgap
  have hshort : mask.taken? text position = none := by
    rw [taken?_append text more, Option.isNone_iff_eq_none.1 hnone]
    exact ite_self _
  rw [isGap, heditable, hshort]
  rfl

theorem cursor_le_append (text more : List Char) :
    (mask.place text).cursor ≤ (mask.place (text ++ more)).cursor := by
  rcases mask.isGap_cursor_or (text ++ more) with hgap | hend
  · exact cursor_le_of_isGap (isGap_of_append hgap)
  · rw [hend]
    exact (mask.rests_place text).le

/-- Where the value changes, a slot that took nothing of the text takes a character behind
it, after all the text has been placed. -/
theorem exists_taken?_of_value_ne
    (hdiffers : (mask.place (text ++ more)).value[position]? ≠
      (mask.place text).value[position]?) :
    (∃ c, mask.taken? (text ++ more) position = some c) ∧
      mask.taken? text position = none ∧ mask.reached text position = text.length := by
  have htaken : mask.taken? (text ++ more) position ≠ mask.taken? text position := by
    intro hsame
    rw [getElem?_value_place, getElem?_value_place, hsame] at hdiffers
    exact hdiffers rfl
  have hshort := mask.taken?_append text more position
  split at hshort
  · exact absurd hshort.symm htaken
  · next hpast =>
    rw [hshort] at htaken
    refine ⟨Option.ne_none_iff_exists'.1 htaken, hshort, ?_⟩
    rw [reached_append text more]
    exact Nat.min_eq_left (Nat.le_of_not_lt hpast)

end Append

/-- The characters that are not placed can be cut off. If there are any, no text behind them
makes a difference. If there are none, a text behind places no fewer characters, the cursor is
no further in front, and the value changes in editable slots only, which the text has left
unfilled behind the slot of its last character. -/
theorem longer_texts_only_add (mask : Mask) (text more : List Char) :
    let placement := mask.place text
    let longer := mask.place (text ++ more)
    mask.place (text.take placement.consumed) = placement ∧
      (placement.consumed < text.length → longer = placement) ∧
      (¬ placement.consumed < text.length →
        placement.consumed ≤ longer.consumed ∧ placement.cursor ≤ longer.cursor ∧
          ∀ position : Nat, longer.value[position]? ≠ placement.value[position]? →
            mask.isEditable position = true ∧ (∀ index, ¬ mask.Places text index position) ∧
              (text ≠ [] → ∃ last < position, mask.Places text (text.length - 1) last)) := by
  intro placement longer
  refine ⟨place_take (Nat.le_refl _), place_append_of_lt, ?_⟩
  intro hall
  have hconsumed : placement.consumed = min text.length longer.consumed :=
    mask.consumed_append text more
  refine ⟨hconsumed ▸ Nat.min_le_right _ _, cursor_le_append text more, ?_⟩
  intro position hdiffers
  obtain ⟨⟨c, htaken⟩, hnone, hreached⟩ := exists_taken?_of_value_ne hdiffers
  refine ⟨isEditable_of_taken? htaken, ?_, ?_⟩
  · intro index hplaces
    obtain ⟨d, hd, -⟩ := hplaces.exists_taken?
    cases hnone.symm.trans hd
  · intro hsome
    have hpositive : 0 < text.length := List.length_pos_of_ne_nil hsome
    have hlast : text.length - 1 < placement.consumed := by omega
    obtain ⟨last, hplaces⟩ := exists_places hlast
    refine ⟨last, ?_, hplaces⟩
    apply Nat.lt_of_not_le
    intro hbehind
    have hmost : mask.reached text position ≤ mask.reached text last := reached_mono hbehind
    rw [hreached, hplaces.1] at hmost
    omega

-- The first slot stays a gap, although the letter would fit it.
example :
    let mask := Mask.compile ['A', '9', 'A']
    mask.place ['1'] = ⟨['_', '1', '_'], some 0, 1⟩ ∧
      mask.place ['1', 'Q'] = ⟨['_', '1', 'Q'], some 0, 2⟩ ∧
      mask.place ['1', 'x', 'Q'] = mask.place ['1'] := by
  decide

end MaskedField.Mask
