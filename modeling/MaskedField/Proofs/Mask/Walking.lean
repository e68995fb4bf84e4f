/- # Walking over the editable slots

The searches for the next and for the previous editable slot are exact from any position,
past the end as well, and a step of one is taken back by the other. So the editable positions
in their order form a chain for both, and a walk along the chain, forwards from its first
position or backwards from the end of the mask, visits all of them and comes to an end.

The searches are also told as they are carried out, in parts of the row of slots and with
numbers that cannot exceed a greatest one. There a position may have no number behind it, a
part may be asked for that the row does not have, and a place in a part has to be counted from
the start of the row again. None of this goes wrong as long as the slots can be counted; about
a row with more slots than there are numbers nothing is claimed.
-/

import Mathlib.Data.List.Chain
import Mathlib.Order.Bounds.Basic
import Mathlib.Order.Nat
import MaskedField.Proofs.Mask.Positions

namespace MaskedField

section Parts

variable {α : Type}

/-- The part of a row from an index on, if the row reaches that far. -/
def partFrom? (row : List α) (start : Nat) : Option (List α) :=
  if start ≤ row.length then some (row.drop start) else none

/-- The part of a row before an index, if the row reaches that far. -/
def partBefore? (row : List α) (stop : Nat) : Option (List α) :=
  if stop ≤ row.length then some (row.take stop) else none

/-- The sum of two numbers, if it does not exceed the greatest number that there is. -/
def boundedSum? (greatest first second : Nat) : Option Nat :=
  if first + second ≤ greatest then some (first + second) else none

end Parts

section Walks

variable {α : Type} {search : α → Option α}

/-- A walk goes on from each place that it visits to the one that a search finds there, and
ends where the search finds nothing. -/
inductive Visits (search : α → Option α) : Option α → List α → Prop where
  | ended : Visits search none []
  | visited {place : α} {later : List α} (hlater : Visits search (search place) later) :
      Visits search (some place) (place :: later)

/-- Where it starts decides what a walk visits. -/
theorem Visits.eq {start : Option α} {places others : List α}
    (hplaces : Visits search start places) (hothers : Visits search start others) :
    places = others := by
  induction hplaces generalizing others with
  | ended =>
    cases hothers with
    | ended => rfl
  | visited hlater ih =>
    cases hothers with
    | visited hother => rw [ih hother]

theorem Visits.visits_iff {start : Option α} {places others : List α}
    (hplaces : Visits search start places) : Visits search start others ↔ others = places :=
  ⟨fun hothers => hothers.eq hplaces, fun heq => heq ▸ hplaces⟩

/-- If a search leads from each place of a list to the one behind it, and from the last one
to nothing, a walk from the first one visits the list. -/
theorem visits_of_isChain {places : List α}
    (hchain : places.IsChain fun place behind => search place = some behind)
    (hend : ∀ last ∈ places.getLast?, search last = none) :
    Visits search places.head? places := by
  induction places with
  | nil => exact .ended
  | cons place later ih =>
    have hnext : search place = later.head? := by
      cases later with
      | nil => exact hend place rfl
      | cons behind later => exact hchain.rel
    have hlater : Visits search later.head? later := by
      apply ih hchain.tail
      intro last hlast
      exact hend last (List.mem_getLast?_cons hlast)
    exact .visited (hnext ▸ hlater)

end Walks

namespace Mask

variable {mask : Mask} {position behind : Nat}

/-- The search for the next editable slot, in the part of the row behind a position. Nothing
is returned if there is no such part or if a number gets too great. -/
def nextInPart? (mask : Mask) (greatest position : Nat) : Option (Option Nat) :=
  let start := min (position + 1) greatest
  if mask.length ≤ start then some none
  else (partFrom? mask.slots start).bind fun part =>
    (part.findIdx? Slot.isEditable).mapM (boundedSum? greatest start)

/-- The search for the previous one, in the part of the row before a position. -/
def previousInPart? (mask : Mask) (position : Nat) : Option (Option Nat) :=
  (partBefore? mask.slots (min position mask.length)).map (lastIndex? Slot.isEditable)

theorem nextInPart?_eq {greatest : Nat} (hcounted : mask.length ≤ greatest) (position : Nat) :
    mask.nextInPart? greatest position = some (mask.nextEditable? position) := by
  rcases Nat.lt_or_ge (position + 1) mask.length with hinside | houtside
  · have hstart : min (position + 1) greatest = position + 1 := by omega
    have hpart : partFrom? mask.slots (position + 1) = some (mask.slots.drop (position + 1)) :=
      if_pos (Nat.le_of_lt hinside)
    simp only [nextInPart?, hstart, if_neg (Nat.not_le.2 hinside), hpart, Option.bind_some,
      nextEditable?]
    cases hfound : (mask.slots.drop (position + 1)).findIdx? Slot.isEditable with
    | none => rfl
    | some index =>
      obtain ⟨hindex, -⟩ := List.findIdx?_eq_some_iff_getElem.1 hfound
      have hsum : position + 1 + index ≤ greatest := by
        rw [List.length_drop, ← length] at hindex
        omega
      have hresult : boundedSum? greatest (position + 1) index = some (position + 1 + index) :=
        if_pos hsum
      rw [Option.mapM_some, hresult]
      rfl
  · have hnone : mask.nextEditable? position = none := by
      rw [nextEditable?_eq_none_iff]
      intro other hbehind
      apply Bool.eq_false_iff.2
      intro heditable
      have hother := lt_length_of_isEditable heditable
      omega
    -- The greatest number has none behind it, and the search starts at that number itself. It
    -- would find the slot there once more, if the row went beyond it.
    have hpast : mask.length ≤ min (position + 1) greatest := Nat.le_min.2 ⟨houtside, hcounted⟩
    simp only [nextInPart?, if_pos hpast, hnone]

theorem previousInPart?_eq (mask : Mask) (position : Nat) :
    mask.previousInPart? position = some (mask.previousEditable? position) := by
  have hpart : partBefore? mask.slots (min position mask.length) =
      some (mask.slots.take (min position mask.length)) := if_pos (Nat.min_le_right _ _)
  rw [previousInPart?, hpart, Option.map_some, previousEditable?, length, ← List.take_eq_take_min]

/-- The next editable position is the least one behind, and the previous one is the greatest
one before. -/
theorem nextEditable?_eq_some_iff_isLeast {found : Nat} :
    mask.nextEditable? position = some found ↔
      IsLeast {other | mask.isEditable other = true ∧ position < other} found := by
  rw [nextEditable?_eq, List.min?_eq_some_iff]
  simp only [mem_filter_editablePositions_iff, decide_eq_true_eq]
  rfl

theorem previousEditable?_eq_some_iff_isGreatest {found : Nat} :
    mask.previousEditable? position = some found ↔
      IsGreatest {other | mask.isEditable other = true ∧ other < position} found := by
  rw [previousEditable?_eq, List.max?_eq_some_iff]
  simp only [mem_filter_editablePositions_iff, decide_eq_true_eq]
  rfl

/-- A step to the next slot is taken back by a step to the previous one, and the other way
round: both mean that nothing can be edited in between. -/
theorem nextEditable?_iff_previousEditable? (hposition : mask.isEditable position = true)
    (hbehind : mask.isEditable behind = true) :
    mask.nextEditable? position = some behind ↔ mask.previousEditable? behind = some position := by
  rw [nextEditable?_eq_some_iff, previousEditable?_eq_some_iff]
  simp only [hposition, hbehind, true_and]

theorem isChain_nextEditable? (mask : Mask) :
    mask.editablePositions.IsChain fun position behind =>
      mask.nextEditable? position = some behind := by
  rw [List.isChain_iff_getElem]
  intro index hindex
  rw [nextEditable?_of_getElem? (List.getElem?_eq_getElem (Nat.lt_of_succ_lt hindex)),
    List.getElem?_eq_getElem hindex]

theorem isChain_previousEditable? (mask : Mask) :
    mask.editablePositions.reverse.IsChain fun position before =>
      mask.previousEditable? position = some before := by
  -- Backwards it is the same chain, each step of it taken back.
  rw [List.isChain_reverse]
  apply mask.isChain_nextEditable?.imp_of_mem_imp
  intro position behind hposition hbehind
  exact (nextEditable?_iff_previousEditable? (mem_editablePositions_iff.1 hposition)
    (mem_editablePositions_iff.1 hbehind)).1

/-- There is nothing behind the last editable position. -/
theorem nextEditable?_of_getLast? (hlast : mask.editablePositions.getLast? = some position) :
    mask.nextEditable? position = none := by
  rw [List.getLast?_eq_getElem?] at hlast
  rw [nextEditable?_of_getElem? hlast]
  exact List.getElem?_eq_none (by omega)

theorem previousEditable?_of_head? (hfirst : mask.editablePositions.head? = some position) :
    mask.previousEditable? position = none := by
  rw [List.head?_eq_getElem?, ← firstEditable?_eq, firstEditable?_eq_some_iff] at hfirst
  exact previousEditable?_eq_none_iff.2 hfirst.2

/-- From the end of the mask the search backwards finds the last editable position. -/
theorem previousEditable?_length (mask : Mask) :
    mask.previousEditable? mask.length = mask.editablePositions.getLast? := by
  cases hlast : mask.editablePositions.getLast? with
  | none =>
    have hempty : mask.editablePositions = [] := List.getLast?_eq_none_iff.1 hlast
    rw [previousEditable?_eq, hempty]
    rfl
  | some last =>
    have heditable : mask.isEditable last = true :=
      mem_editablePositions_iff.1 (List.mem_of_getLast? hlast)
    have hback := previousEditable?_of_next heditable
    rwa [nextEditable?_of_getLast? hlast, Option.getD_none] at hback

theorem visits_nextEditable? (mask : Mask) :
    Visits mask.nextEditable? mask.firstEditable? mask.editablePositions := by
  rw [firstEditable?_eq, ← List.head?_eq_getElem?]
  exact visits_of_isChain mask.isChain_nextEditable? fun _ => nextEditable?_of_getLast?

theorem visits_previousEditable? (mask : Mask) :
    Visits mask.previousEditable? (mask.previousEditable? mask.length)
      mask.editablePositions.reverse := by
  rw [previousEditable?_length, ← List.head?_reverse]
  apply visits_of_isChain mask.isChain_previousEditable?
  intro last hlast
  rw [List.getLast?_reverse] at hlast
  exact previousEditable?_of_head? hlast

/-- If the slots of a mask can be counted, the searches in parts of the row succeed and find
what the searches without limit find: from any position the least editable one behind it and
the greatest one before it, and nothing exactly if there is none. Between editable positions
the one search takes back the other. A walk forwards from the first editable position visits
the editable positions in their order, each once and nothing else, and ends; a walk backwards
from the end of the mask visits them in the opposite order and ends as well. -/
theorem navigation_is_exact_and_mutually_inverse (mask : Mask) (greatest : Nat)
    (hcounted : mask.length ≤ greatest) :
    (∀ position,
      mask.nextInPart? greatest position = some (mask.nextEditable? position) ∧
      mask.previousInPart? position = some (mask.previousEditable? position) ∧
      (∀ found, mask.nextEditable? position = some found ↔
        IsLeast {other | mask.isEditable other = true ∧ position < other} found) ∧
      (∀ found, mask.previousEditable? position = some found ↔
        IsGreatest {other | mask.isEditable other = true ∧ other < position} found) ∧
      (mask.nextEditable? position = none ↔
        ∀ other > position, mask.isEditable other = false) ∧
      (mask.previousEditable? position = none ↔
        ∀ other < position, mask.isEditable other = false)) ∧
    (∀ position behind, mask.isEditable position = true → mask.isEditable behind = true →
      (mask.nextEditable? position = some behind ↔
        mask.previousEditable? behind = some position)) ∧
    ∃ positions : List Nat,
      positions.Pairwise (· < ·) ∧
      (∀ position, position ∈ positions ↔ mask.isEditable position = true) ∧
      (∀ visited, Visits mask.nextEditable? mask.firstEditable? visited ↔ visited = positions) ∧
      ∀ visited,
        Visits mask.previousEditable? (mask.previousEditable? mask.length) visited ↔
          visited = positions.reverse := by
  refine ⟨?_, ?_, mask.editablePositions, pairwise_editablePositions mask.slots, ?_, ?_, ?_⟩
  · intro position
    exact ⟨nextInPart?_eq hcounted position, previousInPart?_eq mask position,
      fun _ => nextEditable?_eq_some_iff_isLeast,
      fun _ => previousEditable?_eq_some_iff_isGreatest,
      nextEditable?_eq_none_iff, previousEditable?_eq_none_iff⟩
  · intro position behind hposition hbehind
    exact nextEditable?_iff_previousEditable? hposition hbehind
  · exact fun position => mem_editablePositions_iff
  · exact fun visited => mask.visits_nextEditable?.visits_iff
  · exact fun visited => mask.visits_previousEditable?.visits_iff

/-- With numbers of 64 bits, from the greatest one of them. The mask starts with a literal and
has two more between its last two editable positions. -/
theorem navigation_is_exact_and_mutually_inverse_in_64_bits :
    let mask := compile ['(', '9', '9', ')', ' ', '9']
    let greatest := UInt64.size - 1
    mask.length ≤ greatest ∧ mask.isEditable 2 = true ∧ mask.isEditable 5 = true ∧
      mask.nextInPart? greatest greatest = some none ∧
      mask.previousInPart? greatest = some (some 5) ∧
      (mask.nextEditable? 2 = some 5 ↔ mask.previousEditable? 5 = some 2) ∧
      Visits mask.nextEditable? mask.firstEditable? [1, 2, 5] ∧
      Visits mask.previousEditable? (mask.previousEditable? mask.length) [5, 2, 1] := by
  intro mask greatest
  have hcounted : mask.length ≤ greatest := by decide
  have hslot : mask.isEditable 2 = true := rfl
  have hbehind : mask.isEditable 5 = true := rfl
  obtain ⟨hexact, hinverse, positions, -, -, hforwards, hbackwards⟩ :=
    navigation_is_exact_and_mutually_inverse mask greatest hcounted
  obtain ⟨hnext, hprevious, -⟩ := hexact greatest
  have hvisits : Visits mask.nextEditable? mask.firstEditable? [1, 2, 5] :=
    .visited (.visited (.visited .ended))
  have hpositions : [1, 2, 5] = positions := (hforwards _).1 hvisits
  refine ⟨hcounted, hslot, hbehind, ?_, ?_, hinverse 2 5 hslot hbehind, hvisits, ?_⟩
  · rw [hnext]
    decide +kernel
  · rw [hprevious]
    decide +kernel
  · exact (hbackwards _).2 (hpositions ▸ rfl)

end Mask
end MaskedField
