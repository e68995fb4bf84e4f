/- # The greedy placement

A text could be put into the slots of a mask in many ways that keep its order. The one that
laying it over the mask finds is the greedy one: each character goes to the first slot behind
the last one taken that accepts it, and the first character that no slot accepts any more
ends it. Every other way lags behind. By the slot that it gives to a character, the greedy
placement has placed that character as well, so nothing is lost by taking the first slot each
time, and no way places more.

A slot that is passed over stays unfilled even if a later character would fit it: the order
of the text is kept, and the text is not searched for a better fit.
-/

import MaskedField.Proofs.Mask.Progress

namespace MaskedField.Mask

variable {mask : Mask} {text : List Char} {index position : Nat} {c : Char}

/-- Behind the positions of the characters before an index, these have all been taken. -/
theorem le_reached_of_forall_lt (hindex : index ≤ (mask.place text).consumed)
    (hbehind : ∀ taken ∈ (mask.takenPositions text).take index, taken < position) :
    index ≤ mask.reached text position := by
  cases index with
  | zero => exact Nat.zero_le _
  | succ last =>
    obtain ⟨taken, hplaces⟩ := exists_places hindex
    have hmem : taken ∈ (mask.takenPositions text).take (last + 1) := by
      apply List.mem_of_getElem? (i := last)
      rw [List.getElem?_take_of_lt (Nat.lt_succ_self last)]
      exact getElem?_takenPositions_eq_some_iff.2 hplaces
    rw [← hplaces.2]
    exact reached_mono (hbehind taken hmem)

/-- Between the slot of one character and the slot of the next, none accepts the next. -/
theorem Places.accepts_eq_false {earlier : Nat} (hplaces : mask.Places text index position)
    (hc : text[index]? = some c) (hbefore : earlier < position)
    (hbehind : ∀ taken ∈ (mask.takenPositions text).take index, taken < earlier) :
    mask.accepts earlier c = false := by
  have hindex : index ≤ (mask.place text).consumed := hplaces.1 ▸ reached_le_consumed position
  have hleast := le_reached_of_forall_lt hindex hbehind
  have hmost : mask.reached text earlier ≤ mask.reached text position :=
    reached_mono (Nat.le_of_lt hbefore)
  have hreached : mask.reached text earlier = index := by
    have hposition := hplaces.1
    omega
  exact accepts_eq_false_of_reached_eq hbefore (hplaces.1.trans hreached.symm) (hreached ▸ hc)

/-- Behind the slot of the last character that is placed, none accepts the one after it. -/
theorem accepts_eq_false_of_left_over (hc : text[(mask.place text).consumed]? = some c)
    (hbehind : ∀ taken ∈ mask.takenPositions text, taken < position) :
    mask.accepts position c = false := by
  have hall : (mask.takenPositions text).take (mask.place text).consumed =
      mask.takenPositions text := by
    rw [← length_takenPositions, List.take_length]
  have hreached : mask.reached text position = (mask.place text).consumed :=
    Nat.le_antisymm (reached_le_consumed position)
      (le_reached_of_forall_lt (Nat.le_refl _) (hall.symm ▸ hbehind))
  have hsame : mask.reached text (position + 1) = mask.reached text position :=
    Nat.le_antisymm (hreached ▸ reached_le_consumed (position + 1))
      (reached_mono (Nat.le_succ position))
  exact accepts_eq_false_of_reached_eq (Nat.lt_succ_self position) hsame (hreached ▸ hc)

theorem getElem?_value_of_literal {shown : Char}
    (hslot : mask.slot? position = some (.literal shown)) :
    (mask.place text).value[position]? = some shown := by
  apply getElem?_value_of_taken?_eq_none hslot
  apply Option.eq_none_iff_forall_ne_some.2
  intro c htaken
  have haccepts := (taken?_eq_some_iff.1 htaken).2
  simp [accepts, hslot, Slot.accepts] at haccepts

theorem isGap_iff :
    mask.isGap text position = true ↔
      mask.isEditable position = true ∧ position ∉ mask.takenPositions text := by
  simp [isGap, mem_takenPositions_iff]

theorem cursor_not_mem_takenPositions :
    (mask.place text).cursor ∉ mask.takenPositions text := by
  rcases mask.isGap_cursor_or text with hgap | hend
  · exact (isGap_iff.1 hgap).2
  · rw [hend, takenPositions, List.mem_filter, List.mem_range]
    exact fun hmem => Nat.lt_irrefl _ hmem.1

/-- Laying a text over a mask places its first characters, each once and in order: each goes
to the first slot, behind those of the characters before it, that accepts it. Either all
characters are placed, or the next one is accepted by no slot behind the last one taken. The
other slots show their literals or the blank, and the cursor is at the first editable slot
that takes nothing, or at the end. -/
theorem placement_is_greedy (mask : Mask) (text : List Char) :
    let placement := mask.place text
    ∃ positions : List Nat,
      positions.Pairwise (· < ·) ∧ positions.length = placement.consumed ∧
      (∀ index position : Nat, positions[index]? = some position →
        ∃ c, text[index]? = some c ∧ mask.isEditable position = true ∧
          mask.accepts position c = true ∧ placement.value[position]? = some c ∧
          ∀ earlier < position, (∀ taken ∈ positions.take index, taken < earlier) →
            mask.accepts earlier c = false) ∧
      (placement.consumed = text.length ∨
        ∃ c, text[placement.consumed]? = some c ∧
          ∀ position, (∀ taken ∈ positions, taken < position) →
            mask.accepts position c = false) ∧
      placement.value.length = mask.length ∧
      (∀ position shown, mask.slot? position = some (.literal shown) →
        placement.value[position]? = some shown) ∧
      (∀ position, mask.isEditable position = true → position ∉ positions →
        placement.value[position]? = some blank) ∧
      mask.Rests placement.cursor ∧ placement.cursor ∉ positions ∧
      ∀ earlier < placement.cursor, mask.isEditable earlier = true → earlier ∈ positions := by
  intro placement
  refine ⟨mask.takenPositions text, List.pairwise_lt_range.filter _,
    mask.length_takenPositions text, ?_, ?_, (mask.fits_place text).length_eq, ?_, ?_,
    mask.rests_place text, cursor_not_mem_takenPositions, ?_⟩
  · intro index position hposition
    have hplaces := getElem?_takenPositions_eq_some_iff.1 hposition
    obtain ⟨c, htaken, hc⟩ := hplaces.exists_taken?
    refine ⟨c, hc, isEditable_of_taken? htaken, (taken?_eq_some_iff.1 htaken).2,
      getElem?_value_of_taken? htaken, ?_⟩
    intro earlier hbefore hbehind
    exact hplaces.accepts_eq_false hc hbefore hbehind
  · have hle : placement.consumed ≤ text.length :=
      mask.reached_length text ▸ reached_le_length mask.length
    rcases Nat.lt_or_eq_of_le hle with hless | hall
    · have hc := List.getElem?_eq_getElem hless
      exact .inr ⟨_, hc, fun position hbehind => accepts_eq_false_of_left_over hc hbehind⟩
    · exact .inl hall
  · intro position shown hslot
    exact getElem?_value_of_literal hslot
  · intro position heditable hfree
    exact getElem?_value_of_isGap (isGap_iff.2 ⟨heditable, hfree⟩)
  · intro earlier hbefore heditable
    by_contra hfree
    exact Nat.not_le_of_lt hbefore (cursor_le_of_isGap (isGap_iff.2 ⟨heditable, hfree⟩))

/-- A slot that accepts the next character takes it, if none before it has. -/
theorem lt_reached_of_accepts (hreached : index ≤ mask.reached text position)
    (hc : text[index]? = some c) (haccepts : mask.accepts position c = true) :
    index < mask.reached text (position + 1) := by
  rcases Nat.lt_or_eq_of_le hreached with hless | rfl
  · exact Nat.lt_of_lt_of_le hless (reached_mono (Nat.le_succ position))
  · rw [reached_succ_of_taken? (taken?_eq_some_iff.2 ⟨hc, haccepts⟩)]
    exact Nat.lt_succ_self _

section Alternative

variable {other : List Nat} (hincreasing : other.Pairwise (· < ·))
  (haccepted : ∀ index position : Nat, other[index]? = some position →
    ∃ c, text[index]? = some c ∧ mask.accepts position c = true)
include hincreasing haccepted

/-- By the slot that any other way gives to a character, that character has been placed. -/
theorem lt_reached_of_getElem? (hposition : other[index]? = some position) :
    index < mask.reached text (position + 1) := by
  -- The slot of the previous character has let it be placed, so that this one is next at the
  -- latest where the other way puts it.
  induction index generalizing position with
  | zero =>
    obtain ⟨c, hc, haccepts⟩ := haccepted 0 position hposition
    exact lt_reached_of_accepts (Nat.zero_le _) hc haccepts
  | succ index ih =>
    obtain ⟨c, hc, haccepts⟩ := haccepted (index + 1) position hposition
    obtain ⟨hinside, rfl⟩ := List.getElem?_eq_some_iff.1 hposition
    have hprevious : index < mask.reached text (other[index] + 1) :=
      ih (List.getElem?_eq_getElem (Nat.lt_of_succ_lt hinside))
    have hbefore : other[index] < other[index + 1] :=
      List.pairwise_iff_getElem.1 hincreasing _ _ _ hinside (Nat.lt_succ_self index)
    have hmore : mask.reached text (other[index] + 1) ≤ mask.reached text other[index + 1] :=
      reached_mono hbefore
    exact lt_reached_of_accepts (Nat.lt_of_lt_of_le hprevious hmore) hc haccepts

theorem length_le_consumed : other.length ≤ (mask.place text).consumed := by
  apply Nat.le_of_not_lt
  intro hmore
  have hahead := lt_reached_of_getElem? hincreasing haccepted (List.getElem?_eq_getElem hmore)
  exact Nat.not_le_of_lt hahead (reached_le_consumed _)

end Alternative

/-- However the first characters of a text are given to slots that accept them, in order,
laying the text over the mask places as many, and each of them at the same slot or at an
earlier one. -/
theorem no_placement_is_ahead (mask : Mask) (text : List Char) (other : List Nat)
    (hincreasing : other.Pairwise (· < ·))
    (haccepted : ∀ index position : Nat, other[index]? = some position →
      ∃ c, text[index]? = some c ∧ mask.accepts position c = true) :
    other.length ≤ (mask.place text).consumed ∧
      ∀ index position : Nat, other[index]? = some position →
        ∃ own ≤ position, (∀ place, mask.Places text index place ↔ place = own) ∧
          (mask.place text).value[own]? = text[index]? := by
  have hlength := length_le_consumed hincreasing haccepted
  refine ⟨hlength, ?_⟩
  intro index position hposition
  have hindex : index < other.length := (List.getElem?_eq_some_iff.1 hposition).1
  obtain ⟨own, hplaces⟩ := exists_places (Nat.lt_of_lt_of_le hindex hlength)
  refine ⟨own, ?_, ?_, ?_⟩
  · apply Nat.le_of_not_lt
    intro hbehind
    have hahead := lt_reached_of_getElem? hincreasing haccepted hposition
    have hlate : mask.reached text (position + 1) ≤ mask.reached text own := reached_mono hbehind
    rw [hplaces.1] at hlate
    exact Nat.not_le_of_lt hahead hlate
  · intro place
    refine ⟨fun hplace => hplace.eq hplaces, ?_⟩
    rintro rfl
    exact hplaces
  · obtain ⟨c, htaken, hc⟩ := hplaces.exists_taken?
    rw [getElem?_value_of_taken? htaken, hc]

/-- The digit could wait for its own slot and the letter for the last one; laid over the
mask, the digit goes to a slot for any character in front. -/
theorem no_placement_is_ahead_by_waiting :
    let mask := Mask.compile ['A', '*', '-', 'x', '9', '*']
    let text := ['5', 'Q']
    let other := [4, 5]
    other.Pairwise (· < ·) ∧
      (∀ index position : Nat, other[index]? = some position →
        ∃ c, text[index]? = some c ∧ mask.accepts position c = true) ∧
      other.length ≤ (mask.place text).consumed ∧ mask.Places text 0 1 ∧ mask.Places text 1 5 ∧
      ∀ index position : Nat, other[index]? = some position →
        ∃ own ≤ position, (∀ place, mask.Places text index place ↔ place = own) ∧
          (mask.place text).value[own]? = text[index]? := by
  intro mask text other
  have hincreasing : other.Pairwise (· < ·) := by decide
  have haccepted : ∀ index position : Nat, other[index]? = some position →
      ∃ c, text[index]? = some c ∧ mask.accepts position c = true := by
    intro index position hposition
    match index, hposition with
    | 0, rfl => exact ⟨'5', rfl, rfl⟩
    | 1, rfl => exact ⟨'Q', rfl, rfl⟩
  obtain ⟨hlength, hown⟩ := no_placement_is_ahead mask text other hincreasing haccepted
  exact ⟨hincreasing, haccepted, hlength, ⟨rfl, rfl⟩, ⟨rfl, rfl⟩, hown⟩

end MaskedField.Mask
