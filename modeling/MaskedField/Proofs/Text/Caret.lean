/- # Carets on character boundaries

The byte offsets of character positions are the boundaries of a text: the places where a
character starts, and the end. One adjunction carries the rest. As many characters lie
whole before a byte offset as there are positions whose own byte offset has been reached;
so both conversions keep the order, and each of them undoes the other as far as it can.
An offset inside a character comes back as the boundary in front of it, a position past
the end as the end.

The boundary in front of an offset can also be searched for downwards, one byte at a time,
and that is the same boundary. Nothing is said of bytes that are no text.
-/

import Mathlib.Order.Bounds.Basic
import Mathlib.Order.Nat
import MaskedField.Text.Caret

namespace MaskedField.Text

/-- A character of the text starts at this byte, or the text ends in front of it. -/
def IsBoundary (text : List Char) (offset : Nat) : Prop :=
  String.Pos.Raw.IsValid (String.ofList text) ⟨offset⟩

instance (text : List Char) (offset : Nat) : Decidable (IsBoundary text offset) :=
  inferInstanceAs (Decidable (String.Pos.Raw.IsValid (String.ofList text) ⟨offset⟩))

/-- Search for a boundary, from an offset downwards. -/
def boundaryBefore (text : List Char) : Nat → Nat
  | 0 => 0
  | offset + 1 =>
    if IsBoundary text (offset + 1) then offset + 1 else boundaryBefore text offset

theorem byteLength_append (first second : List Char) :
    byteLength (first ++ second) = byteLength first + byteLength second := by
  induction first with
  | nil => simp [byteLength]
  | cons c first ih => rw [List.cons_append, byteLength, byteLength, ih, Nat.add_assoc]

theorem byteLength_eq_utf8ByteSize (text : List Char) :
    byteLength text = (String.ofList text).utf8ByteSize := by
  induction text with
  | nil => rfl
  | cons c text ih =>
    have hcons : String.ofList (c :: text) = String.singleton c ++ String.ofList text := by
      rw [String.singleton_eq_ofList, ← String.ofList_append, List.singleton_append]
    rw [byteLength, ih, hcons, String.utf8ByteSize_append, String.utf8ByteSize_singleton]

section Offsets

variable {text : List Char} {position : Nat}

/-- The next position is behind the character at this one. -/
theorem byteOffset_succ {c : Char} (hc : text[position]? = some c) :
    byteOffset text (position + 1) = byteOffset text position + c.utf8Size := by
  rw [byteOffset, List.take_add_one, hc, byteLength_append]
  rfl

theorem byteOffset_of_length_le (hend : text.length ≤ position) :
    byteOffset text position = byteLength text := by
  rw [byteOffset, List.take_of_length_le hend]

theorem byteOffset_mono (text : List Char) : Monotone (byteOffset text) := by
  intro position later hle
  obtain ⟨more, hmore⟩ : text.take position <+: text.take later := List.take_prefix_take_left hle
  rw [byteOffset, byteOffset, ← hmore, byteLength_append]
  exact Nat.le_add_right _ _

theorem byteOffset_le_byteLength (text : List Char) (position : Nat) :
    byteOffset text position ≤ byteLength text := by
  rw [← byteOffset_of_length_le (Nat.le_max_right position text.length)]
  exact byteOffset_mono text (Nat.le_max_left position text.length)

/-- Inside the text no two positions have the same offset. -/
theorem byteOffset_lt_byteOffset {later : Nat} (hlt : position < later)
    (hinside : later ≤ text.length) : byteOffset text position < byteOffset text later := by
  have hget : text[position]? = some text[position] :=
    List.getElem?_eq_getElem (Nat.lt_of_lt_of_le hlt hinside)
  calc
    byteOffset text position < byteOffset text position + text[position].utf8Size :=
      Nat.lt_add_of_pos_right (Char.utf8Size_pos _)
    _ = byteOffset text (position + 1) := (byteOffset_succ hget).symm
    _ ≤ byteOffset text later := byteOffset_mono text hlt

end Offsets

/-- The boundaries are the byte offsets of the positions. -/
theorem isBoundary_iff {text : List Char} {offset : Nat} :
    IsBoundary text offset ↔ ∃ position ≤ text.length, byteOffset text position = offset := by
  rw [IsBoundary, String.Pos.Raw.isValid_iff_exists_append]
  constructor
  · rintro ⟨front, back, htext, hoffset⟩
    have hlist : text = front.toList ++ back.toList := by
      rw [← String.toList_append, ← htext, String.toList_ofList]
    refine ⟨front.toList.length, by simp [hlist], ?_⟩
    rw [byteOffset, hlist, List.take_left, byteLength_eq_utf8ByteSize, String.ofList_toList]
    exact (congrArg String.Pos.Raw.byteIdx hoffset).symm
  · rintro ⟨position, -, rfl⟩
    refine ⟨String.ofList (text.take position), String.ofList (text.drop position), ?_, ?_⟩
    · rw [← String.ofList_append, List.take_append_drop]
    · rw [byteOffset, byteLength_eq_utf8ByteSize]
      rfl

section Carets

variable {text : List Char} {offset position : Nat}

theorem charOffset_le_length (text : List Char) (offset : Nat) :
    charOffset text offset ≤ text.length := by
  induction text generalizing offset with
  | nil => exact Nat.le_refl 0
  | cons c text ih =>
    rw [charOffset]
    split
    · exact Nat.zero_le _
    · rw [List.length_cons, Nat.add_comm 1]
      exact Nat.succ_le_succ (ih _)

/-- A position of the text lies before a byte offset exactly if its own offset does. -/
theorem le_charOffset_iff (hinside : position ≤ text.length) :
    position ≤ charOffset text offset ↔ byteOffset text position ≤ offset := by
  induction text generalizing offset position with
  | nil =>
    obtain rfl := Nat.eq_zero_of_le_zero hinside
    simp [byteOffset, byteLength]
  | cons c text ih =>
    cases position with
    | zero => simp [byteOffset, byteLength]
    | succ position =>
      have hrest : position ≤ charOffset text (offset - c.utf8Size) ↔
          byteOffset text position ≤ offset - c.utf8Size := ih (Nat.le_of_succ_le_succ hinside)
      have hoffset : byteOffset (c :: text) (position + 1) =
          c.utf8Size + byteOffset text position := rfl
      rw [charOffset, hoffset]
      split <;> omega

theorem charOffset_mono (text : List Char) : Monotone (charOffset text) := by
  intro offset later hle
  have hinside := charOffset_le_length text offset
  rw [le_charOffset_iff hinside]
  exact Nat.le_trans ((le_charOffset_iff hinside).1 (Nat.le_refl _)) hle

theorem clampToBoundary_le (text : List Char) (offset : Nat) :
    clampToBoundary text offset ≤ min offset (byteLength text) := by
  rw [← byteOffset_charOffset, Nat.le_min, ← le_charOffset_iff (charOffset_le_length text offset)]
  exact ⟨Nat.le_refl _, byteOffset_le_byteLength text _⟩

/-- Whether a caret has come past a position can be seen in bytes and in characters. -/
theorem charOffset_le_iff :
    charOffset text offset ≤ position ↔
      clampToBoundary text offset ≤ byteOffset text position := by
  rw [← byteOffset_charOffset]
  constructor
  · exact fun hle => byteOffset_mono text hle
  · intro hle
    by_contra hpast
    have hlt := byteOffset_lt_byteOffset (Nat.not_le.1 hpast) (charOffset_le_length text offset)
    exact absurd hle (Nat.not_le.2 hlt)

theorem charOffset_byteOffset (text : List Char) (position : Nat) :
    charOffset text (byteOffset text position) = min position text.length := by
  have hclamped := Nat.le_min.1 (clampToBoundary_le text (byteOffset text position))
  apply Nat.le_antisymm
  · exact Nat.le_min.2 ⟨charOffset_le_iff.2 hclamped.1, charOffset_le_length text _⟩
  · rw [le_charOffset_iff (Nat.min_le_right _ _)]
    exact byteOffset_mono text (Nat.min_le_left _ _)

/-- Of the boundaries that an offset has reached, the last one is chosen. -/
theorem isGreatest_clampToBoundary (text : List Char) (offset : Nat) :
    IsGreatest {boundary | IsBoundary text boundary ∧ boundary ≤ min offset (byteLength text)}
      (clampToBoundary text offset) := by
  constructor
  · refine ⟨isBoundary_iff.2 ⟨charOffset text offset, charOffset_le_length text offset, ?_⟩, ?_⟩
    · exact byteOffset_charOffset text offset
    · exact clampToBoundary_le text offset
  · rintro boundary ⟨hboundary, hle⟩
    obtain ⟨position, hinside, rfl⟩ := isBoundary_iff.1 hboundary
    have hreached := (le_charOffset_iff hinside).2 (Nat.le_min.1 hle).1
    rw [← byteOffset_charOffset]
    exact byteOffset_mono text hreached

/-- So it is by the search, which ends at the start of the text at the latest. -/
theorem isGreatest_boundaryBefore (text : List Char) (offset : Nat) :
    IsGreatest {boundary | IsBoundary text boundary ∧ boundary ≤ offset}
      (boundaryBefore text offset) := by
  induction offset with
  | zero =>
    have hstart : IsBoundary text 0 := isBoundary_iff.2 ⟨0, Nat.zero_le _, rfl⟩
    exact ⟨⟨hstart, Nat.le_refl 0⟩, fun boundary hboundary => hboundary.2⟩
  | succ offset ih =>
    rw [boundaryBefore]
    split
    · next hfound => exact ⟨⟨hfound, Nat.le_refl _⟩, fun boundary hboundary => hboundary.2⟩
    · next hmissed =>
      obtain ⟨⟨hboundary, hle⟩, hlast⟩ := ih
      refine ⟨⟨hboundary, Nat.le_succ_of_le hle⟩, ?_⟩
      rintro boundary ⟨hother, hreached⟩
      have hne : boundary ≠ offset + 1 := fun heq => hmissed (heq ▸ hother)
      exact hlast ⟨hother, Nat.le_of_lt_succ (Nat.lt_of_le_of_ne hreached hne)⟩

end Carets

/-- A byte offset is clamped to the greatest boundary that neither it nor the end of the
text lies in front of, the one that a search downwards finds. Taken to a character position
and back, it is clamped; a position taken to a byte offset and back is itself, or the end.
Both ways keep the order, and a caret in bytes is at or before a position in characters
exactly if its boundary is at or before the position's offset. -/
theorem carets_convert_consistently (text : List Char) :
    (∀ offset,
      IsGreatest {boundary | IsBoundary text boundary ∧ boundary ≤ min offset (byteLength text)}
        (clampToBoundary text offset) ∧
      boundaryBefore text (min offset (byteLength text)) = clampToBoundary text offset ∧
      byteOffset text (charOffset text offset) = clampToBoundary text offset) ∧
    (∀ position, charOffset text (byteOffset text position) = min position text.length) ∧
    Monotone (charOffset text) ∧ Monotone (byteOffset text) ∧
    ∀ offset position,
      charOffset text offset ≤ position ↔
        clampToBoundary text offset ≤ byteOffset text position := by
  refine ⟨fun offset => ⟨isGreatest_clampToBoundary text offset, ?_, ?_⟩,
    charOffset_byteOffset text, charOffset_mono text, byteOffset_mono text,
    fun offset position => charOffset_le_iff⟩
  · exact (isGreatest_boundaryBefore text _).unique (isGreatest_clampToBoundary text offset)
  · exact byteOffset_charOffset text offset

-- Offsets inside the second character, which takes three bytes, and past the end.
example : [0, 1, 2, 3, 4, 5, 9].map (boundaryBefore "a€b".toList) = [0, 1, 1, 1, 4, 5, 5] := by
  decide +kernel

end MaskedField.Text
