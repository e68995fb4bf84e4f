/- # How far a text comes along a mask

Laying a text over a mask is counting: what the slots before a position take is a number of
characters that never falls along the mask, grows by one where a slot takes a character, and
ends with the number placed. So a character that is placed has one position of its own, where
the count passes its index, and between two such positions every slot has refused the
character that comes next.
-/

import MaskedField.Proofs.Mask.Placing

namespace MaskedField

/-- A place in a filtered range is the number of wanted elements in front. -/
theorem getElem?_filter_range_eq_some_iff {isWanted : Nat → Bool} {length index position : Nat} :
    ((List.range length).filter isWanted)[index]? = some position ↔
      position < length ∧ isWanted position = true ∧
        Nat.count (fun other => isWanted other = true) position = index := by
  induction length with
  | zero => simp
  | succ length ih =>
    have hlength : ((List.range length).filter isWanted).length =
        Nat.count (fun other => isWanted other = true) length := by
      simp [Nat.count, List.countP_eq_length_filter]
    have hbefore (hlt : position < length) (hwanted : isWanted position = true) :
        Nat.count (fun other => isWanted other = true) position <
          Nat.count (fun other => isWanted other = true) length :=
      Nat.count_strict_mono hwanted hlt
    rw [List.range_succ, List.filter_append, List.getElem?_append, hlength]
    split
    · next hinside =>
      rw [ih]
      grind
    · next houtside => grind

namespace Mask

variable (mask : Mask) (text : List Char)

section Reached

variable {mask text} {position : Nat} {c : Char}

theorem reached_eq_count (position : Nat) :
    mask.reached text position =
      Nat.count (fun index => (mask.taken? text index).isSome) position :=
  congrArg Placement.consumed (mask.layOver_take text position)

theorem reached_length (mask : Mask) (text : List Char) :
    mask.reached text mask.length = (mask.place text).consumed := by
  rw [reached_eq_count, place_eq]

theorem reached_mono {later : Nat} (hle : position ≤ later) :
    mask.reached text position ≤ mask.reached text later := by
  rw [reached_eq_count, reached_eq_count]
  exact Nat.count_monotone _ hle

theorem reached_le_consumed (position : Nat) :
    mask.reached text position ≤ (mask.place text).consumed := by
  rcases Nat.le_total position mask.length with hinside | houtside
  · exact reached_length mask text ▸ reached_mono hinside
  · rw [reached, List.take_of_length_le houtside]
    exact Nat.le_refl _

theorem reached_succ_of_taken? (htaken : mask.taken? text position = some c) :
    mask.reached text (position + 1) = mask.reached text position + 1 := by
  rw [reached_eq_count, reached_eq_count, Nat.count_succ, htaken]
  rfl

theorem reached_succ_of_taken?_eq_none (hnone : mask.taken? text position = none) :
    mask.reached text (position + 1) = mask.reached text position := by
  rw [reached_eq_count, reached_eq_count, Nat.count_succ, hnone]
  rfl

/-- No more characters are taken than there are. -/
theorem reached_le_length (position : Nat) : mask.reached text position ≤ text.length := by
  induction position with
  | zero => exact Nat.zero_le _
  | succ position ih =>
    cases htaken : mask.taken? text position with
    | none => exact (reached_succ_of_taken?_eq_none htaken).symm ▸ ih
    | some c =>
      rw [reached_succ_of_taken? htaken]
      exact (List.getElem?_eq_some_iff.1 (taken?_eq_some_iff.1 htaken).1).1

/-- A slot that is offered a character and leaves it has refused it. -/
theorem accepts_eq_false_of_reached_eq {later : Nat} (hbefore : position < later)
    (hsame : mask.reached text later = mask.reached text position)
    (hc : text[mask.reached text position]? = some c) : mask.accepts position c = false := by
  apply Bool.eq_false_iff.2
  intro haccepts
  have hmore := reached_succ_of_taken? (taken?_eq_some_iff.2 ⟨hc, haccepts⟩)
  have hle : mask.reached text (position + 1) ≤ mask.reached text later := reached_mono hbefore
  omega

end Reached

/-- The character at an index is placed at the position: the slots before the position take
the characters before that one, and the slot at the position takes one more. -/
def Places (index position : Nat) : Prop :=
  mask.reached text position = index ∧ mask.reached text (position + 1) = index + 1

/-- The positions of the slots that take a character, in increasing order. -/
def takenPositions : List Nat :=
  (List.range mask.length).filter fun position => (mask.taken? text position).isSome

theorem length_takenPositions :
    (mask.takenPositions text).length = (mask.place text).consumed := by
  rw [takenPositions, ← List.countP_eq_length_filter, place_eq, Nat.count]
  simp

section Places

variable {mask text} {index position : Nat}

theorem places_iff :
    mask.Places text index position ↔
      mask.reached text position = index ∧ (mask.taken? text position).isSome = true := by
  refine and_congr_right fun hreached => ?_
  rw [← hreached, reached_eq_count, reached_eq_count]
  exact Nat.count_succ_eq_succ_count_iff

theorem Places.exists_taken? (hplaces : mask.Places text index position) :
    ∃ c, mask.taken? text position = some c ∧ text[index]? = some c := by
  obtain ⟨rfl, htaken⟩ := places_iff.1 hplaces
  obtain ⟨c, hc⟩ := Option.isSome_iff_exists.1 htaken
  exact ⟨c, hc, (taken?_eq_some_iff.1 hc).1⟩

theorem mem_takenPositions_iff :
    position ∈ mask.takenPositions text ↔ (mask.taken? text position).isSome = true := by
  rw [takenPositions, List.mem_filter, List.mem_range]
  refine ⟨And.right, fun htaken => ⟨?_, htaken⟩⟩
  obtain ⟨c, hc⟩ := Option.isSome_iff_exists.1 htaken
  exact lt_length_of_isEditable (isEditable_of_taken? hc)

/-- The positions that take a character do so in the order of the text. -/
theorem getElem?_takenPositions_eq_some_iff :
    (mask.takenPositions text)[index]? = some position ↔ mask.Places text index position := by
  rw [takenPositions, getElem?_filter_range_eq_some_iff, places_iff, reached_eq_count]
  constructor
  · rintro ⟨-, htaken, hcount⟩
    exact ⟨hcount, htaken⟩
  · rintro ⟨hcount, htaken⟩
    have hinside := (List.mem_filter.1 (mem_takenPositions_iff.2 htaken)).1
    exact ⟨List.mem_range.1 hinside, htaken, hcount⟩

theorem exists_places (hindex : index < (mask.place text).consumed) :
    ∃ position, mask.Places text index position := by
  rw [← length_takenPositions] at hindex
  exact ⟨_, getElem?_takenPositions_eq_some_iff.1 (List.getElem?_eq_getElem hindex)⟩

/-- A character is placed at one position only. -/
theorem Places.eq {other : Nat} (hplaces : mask.Places text index position)
    (hother : mask.Places text index other) : position = other := by
  have hsame := (getElem?_takenPositions_eq_some_iff.2 hplaces).symm.trans
    (getElem?_takenPositions_eq_some_iff.2 hother)
  exact Option.some.inj hsame

end Places

end Mask
end MaskedField
