/- # The editable positions in order

The editable positions of a mask form one increasing list, and navigation walks along
it: it starts with the first position of the list and goes from each to the one behind
it. A position that is not in the list is not editable, so nothing lies between two
neighbours.
-/

import MaskedField.Proofs.Mask.Navigation

namespace MaskedField

/-- The positions of the editable slots of a row, in increasing order. -/
def editablePositions (slots : List Slot) : List Nat :=
  (List.range slots.length).filter fun position => slots[position]?.any Slot.isEditable

theorem mem_editablePositions_iff {slots : List Slot} {position : Nat} :
    position ∈ editablePositions slots ↔ slots[position]?.any Slot.isEditable = true := by
  rw [editablePositions, List.mem_filter, List.mem_range]
  refine ⟨fun hmem => hmem.2, fun heditable => ⟨?_, heditable⟩⟩
  apply Nat.lt_of_not_le
  intro houtside
  rw [List.getElem?_eq_none houtside] at heditable
  cases heditable

theorem pairwise_editablePositions (slots : List Slot) :
    (editablePositions slots).Pairwise (· < ·) :=
  List.pairwise_lt_range.filter _

/-- Behind a slot all positions are one greater. -/
theorem editablePositions_cons (slot : Slot) (slots : List Slot) :
    editablePositions (slot :: slots) =
      (if slot.isEditable then [0] else []) ++ (editablePositions slots).map (· + 1) := by
  have hfirst : (slot :: slots)[0]?.any Slot.isEditable = slot.isEditable := rfl
  have hbehind : (fun position => (slot :: slots)[position]?.any Slot.isEditable) ∘ Nat.succ =
      fun position => slots[position]?.any Slot.isEditable := rfl
  rw [editablePositions, List.length_cons, List.range_succ_eq_map, List.filter_cons, hfirst,
    List.filter_map, hbehind, editablePositions]
  cases slot.isEditable <;> rfl

/-- Positions are in the order of their places in the list. -/
theorem lt_iff_of_getElem?_editablePositions {slots : List Slot} {index other : Nat}
    {position otherPosition : Nat}
    (hposition : (editablePositions slots)[index]? = some position)
    (hother : (editablePositions slots)[other]? = some otherPosition) :
    position < otherPosition ↔ index < other := by
  obtain ⟨hindex, rfl⟩ := List.getElem?_eq_some_iff.1 hposition
  obtain ⟨hotherIndex, rfl⟩ := List.getElem?_eq_some_iff.1 hother
  have hsorted := List.pairwise_iff_getElem.1 (pairwise_editablePositions slots)
  refine ⟨fun hlt => ?_, hsorted index other hindex hotherIndex⟩
  rcases Nat.lt_trichotomy index other with hbefore | rfl | hbehind
  · exact hbefore
  · exact absurd hlt (Nat.lt_irrefl _)
  · exact absurd hlt (Nat.lt_asymm (hsorted other index hotherIndex hindex hbehind))

namespace Mask

/-- The editable positions of the mask, in increasing order. -/
def editablePositions (mask : Mask) : List Nat :=
  MaskedField.editablePositions mask.slots

variable {mask : Mask} {index position : Nat}

theorem isEditable_iff_exists_getElem? :
    mask.isEditable position = true ↔
      ∃ index : Nat, mask.editablePositions[index]? = some position := by
  rw [← List.mem_iff_getElem?]
  exact mem_editablePositions_iff.symm

/-- The first editable position is the first of the list. -/
theorem firstEditable?_eq (mask : Mask) : mask.firstEditable? = mask.editablePositions[0]? := by
  cases hfirst : mask.editablePositions[0]? with
  | none =>
    apply Option.eq_none_iff_forall_ne_some.2
    intro found hfound
    obtain ⟨index, hindex⟩ :=
      isEditable_iff_exists_getElem?.1 (firstEditable?_eq_some_iff.1 hfound).1
    have hempty : mask.editablePositions = [] := by simpa using hfirst
    simp [hempty] at hindex
  | some first =>
    rw [firstEditable?_eq_some_iff]
    refine ⟨isEditable_iff_exists_getElem?.2 ⟨0, hfirst⟩, ?_⟩
    intro other hother
    apply Bool.eq_false_iff.2
    intro heditable
    obtain ⟨index, hindex⟩ := isEditable_iff_exists_getElem?.1 heditable
    exact Nat.not_lt_zero _ ((lt_iff_of_getElem?_editablePositions hindex hfirst).1 hother)

/-- The next editable position is the next of the list. -/
theorem nextEditable?_of_getElem? (hposition : mask.editablePositions[index]? = some position) :
    mask.nextEditable? position = mask.editablePositions[index + 1]? := by
  cases hnext : mask.editablePositions[index + 1]? with
  | none =>
    apply Option.eq_none_iff_forall_ne_some.2
    intro found hfound
    obtain ⟨heditable, hbehind, -⟩ := nextEditable?_eq_some_iff.1 hfound
    obtain ⟨place, hplace⟩ := isEditable_iff_exists_getElem?.1 heditable
    have horder := (lt_iff_of_getElem?_editablePositions hposition hplace).1 hbehind
    have hinside := (List.getElem?_eq_some_iff.1 hplace).1
    have houtside := List.getElem?_eq_none_iff.1 hnext
    omega
  | some next =>
    rw [nextEditable?_eq_some_iff]
    refine ⟨isEditable_iff_exists_getElem?.2 ⟨index + 1, hnext⟩,
      (lt_iff_of_getElem?_editablePositions hposition hnext).2 (Nat.lt_succ_self index), ?_⟩
    intro other hbehind hbefore
    apply Bool.eq_false_iff.2
    intro heditable
    obtain ⟨place, hplace⟩ := isEditable_iff_exists_getElem?.1 heditable
    have hafter := (lt_iff_of_getElem?_editablePositions hposition hplace).1 hbehind
    have hearlier := (lt_iff_of_getElem?_editablePositions hplace hnext).1 hbefore
    omega

theorem mem_filter_editablePositions_iff {isWanted : Nat → Bool} :
    position ∈ mask.editablePositions.filter isWanted ↔
      mask.isEditable position = true ∧ isWanted position = true := by
  rw [List.mem_filter]
  exact and_congr_left fun _ => mem_editablePositions_iff

/-- From any position, in the list or not, the previous one is the greatest of those
before it. -/
theorem previousEditable?_eq (mask : Mask) (position : Nat) :
    mask.previousEditable? position = (mask.editablePositions.filter (· < position)).max? := by
  apply Option.ext
  intro found
  rw [previousEditable?_eq_some_iff, List.max?_eq_some_iff]
  simp only [mem_filter_editablePositions_iff, decide_eq_true_eq]
  constructor
  · rintro ⟨heditable, hbefore, hbetween⟩
    refine ⟨⟨heditable, hbefore⟩, ?_⟩
    rintro other ⟨hother, hotherBefore⟩
    apply Nat.le_of_not_lt
    intro hbehind
    simp [hbetween other hbehind hotherBefore] at hother
  · rintro ⟨⟨heditable, hbefore⟩, hgreatest⟩
    refine ⟨heditable, hbefore, ?_⟩
    intro other hbehind hotherBefore
    apply Bool.eq_false_iff.2
    intro hother
    exact Nat.not_lt_of_le (hgreatest other ⟨hother, hotherBefore⟩) hbehind

/-- And the next one is the least of those behind it. -/
theorem nextEditable?_eq (mask : Mask) (position : Nat) :
    mask.nextEditable? position = (mask.editablePositions.filter (position < ·)).min? := by
  apply Option.ext
  intro found
  rw [nextEditable?_eq_some_iff, List.min?_eq_some_iff]
  simp only [mem_filter_editablePositions_iff, decide_eq_true_eq]
  constructor
  · rintro ⟨heditable, hbehind, hbetween⟩
    refine ⟨⟨heditable, hbehind⟩, ?_⟩
    rintro other ⟨hother, hotherBehind⟩
    apply Nat.le_of_not_lt
    intro hbefore
    simp [hbetween other hotherBehind hbefore] at hother
  · rintro ⟨⟨heditable, hbehind⟩, hleast⟩
    refine ⟨heditable, hbehind, ?_⟩
    intro other hotherBehind hbefore
    apply Bool.eq_false_iff.2
    intro hother
    exact Nat.not_lt_of_le (hleast other ⟨hother, hotherBehind⟩) hbefore

/-- Nothing is found only where no position on that side can be edited. -/
theorem previousEditable?_eq_none_iff :
    mask.previousEditable? position = none ↔
      ∀ other < position, mask.isEditable other = false := by
  rw [previousEditable?_eq, List.max?_eq_none_iff, List.eq_nil_iff_forall_not_mem]
  refine forall_congr' fun other => ?_
  rw [mem_filter_editablePositions_iff, decide_eq_true_eq, and_comm, not_and, Bool.not_eq_true]

theorem nextEditable?_eq_none_iff :
    mask.nextEditable? position = none ↔
      ∀ other > position, mask.isEditable other = false := by
  rw [nextEditable?_eq, List.min?_eq_none_iff, List.eq_nil_iff_forall_not_mem]
  refine forall_congr' fun other => ?_
  rw [mem_filter_editablePositions_iff, decide_eq_true_eq, and_comm, not_and, Bool.not_eq_true]

/-- From the next editable position, or from the end where there is none, the way back leads
to the position that it is the next one of. -/
theorem previousEditable?_of_next (heditable : mask.isEditable position = true) :
    mask.previousEditable? ((mask.nextEditable? position).getD mask.length) = some position := by
  rw [previousEditable?_eq_some_iff]
  cases hnext : mask.nextEditable? position with
  | none =>
    have hnone := nextEditable?_eq_none_iff.1 hnext
    exact ⟨heditable, lt_length_of_isEditable heditable, fun other hbehind _ =>
      hnone other hbehind⟩
  | some next =>
    obtain ⟨-, hbehind, hbetween⟩ := nextEditable?_eq_some_iff.1 hnext
    exact ⟨heditable, hbehind, hbetween⟩

end Mask
end MaskedField
