/- # Strict masks

A mask character has a meaning if it is a literal or the designator of a class. Strict
compilation refuses a mask with any other character and names the first one; a mask that it
takes is compiled as ever. The text of a strict mask is a complete value of it, since a
literal shows itself and a designator is a character of its own class. No other value needs
to be made up to see that a strict mask can be completed.
-/

import MaskedField.Proofs.Mask.Matching

namespace MaskedField

namespace Slot

/-- The mask character is a literal or the designator of a class. -/
def HasMeaning (c : Char) : Prop :=
  c ∈ literals ∨ ∃ charClass : CharClass, c = charClass.designator

theorem isUnclassified_classify_eq_false_iff {c : Char} :
    (classify c).isUnclassified = false ↔ HasMeaning c := by
  rw [classify, HasMeaning]
  by_cases hliteral : c ∈ literals
  · simp [hliteral, isUnclassified]
  · cases hclass : CharClass.ofDesignator? c with
    | some charClass =>
      have hdesignator : ∃ charClass : CharClass, c = charClass.designator :=
        ⟨charClass, CharClass.ofDesignator?_eq_some_iff.1 hclass⟩
      simp [hliteral, isUnclassified, hdesignator]
    | none =>
      have hnone : ∀ charClass : CharClass, c ≠ charClass.designator := by
        intro charClass hdesignator
        rw [CharClass.ofDesignator?_eq_some_iff.2 hdesignator] at hclass
        cases hclass
      simp [hliteral, isUnclassified, hnone]

/-- The mask character of a slot with a meaning completes the slot. -/
theorem completes_source {slot : Slot} (hclassified : slot.isUnclassified = false) :
    slot.Completes slot.source := by
  cases slot with
  | literal shown => rfl
  | placeholder charClass => cases charClass <;> rfl
  | unclassified source => cases hclassified

end Slot

namespace Mask

section Search

variable {start : Nat} {slots : List Slot}

theorem firstUnclassified?_eq_none_iff :
    firstUnclassified? start slots = none ↔ slots.any Slot.isUnclassified = false := by
  induction slots generalizing start with
  | nil => simp [firstUnclassified?]
  | cons slot slots ih =>
    cases slot with
    | literal shown => simp [firstUnclassified?, Slot.isUnclassified, ih]
    | placeholder charClass => simp [firstUnclassified?, Slot.isUnclassified, ih]
    | unclassified source => simp [firstUnclassified?, Slot.isUnclassified]

/-- An error of strict compilation is about a slot without a meaning, and all slots before
it have one. -/
theorem exists_of_firstUnclassified? {error : MaskError}
    (hfound : firstUnclassified? start slots = some error) :
    ∃ index c, error = .unclassified (start + index) c ∧ slots[index]? = some (.unclassified c) ∧
      ∀ earlier < index, slots[earlier]?.any Slot.isUnclassified = false := by
  induction slots generalizing start with
  | nil => cases hfound
  | cons slot slots ih =>
    have hbehind (hslot : slot.isUnclassified = false)
        (hrest : firstUnclassified? (start + 1) slots = some error) :
        ∃ index c, error = .unclassified (start + index) c ∧
          (slot :: slots)[index]? = some (.unclassified c) ∧
            ∀ earlier < index, (slot :: slots)[earlier]?.any Slot.isUnclassified = false := by
      obtain ⟨index, c, rfl, hc, hbefore⟩ := ih hrest
      refine ⟨index + 1, c, by rw [Nat.add_assoc, Nat.add_comm 1], hc, ?_⟩
      intro earlier hearlier
      cases earlier with
      | zero => exact hslot
      | succ earlier => exact hbefore earlier (Nat.lt_of_succ_lt_succ hearlier)
    cases slot with
    | literal shown => exact hbehind rfl hfound
    | placeholder charClass => exact hbehind rfl hfound
    | unclassified source =>
      obtain rfl := Option.some.inj hfound
      exact ⟨0, source, rfl, rfl, fun earlier hearlier => absurd hearlier (Nat.not_lt_zero _)⟩

end Search

theorem slot?_eq (mask : Mask) (position : Nat) :
    mask.slot? position = mask.source[position]?.map Slot.classify := by
  rw [slot?, mask.slots_eq, List.getElem?_map]

/-- Strict compilation takes the masks in which every slot has a meaning, and compiles them
as ever. -/
theorem compileStrict_eq_ok_iff {source : List Char} {mask : Mask} :
    compileStrict source = .ok mask ↔
      compile source = mask ∧ (compile source).hasUnclassified = false := by
  rw [compileStrict, hasUnclassified]
  cases hfound : firstUnclassified? 0 (compile source).slots with
  | none => simp [firstUnclassified?_eq_none_iff.1 hfound]
  | some error =>
    have hany : (compile source).slots.any Slot.isUnclassified ≠ false := by
      intro hnone
      rw [firstUnclassified?_eq_none_iff.2 hnone] at hfound
      cases hfound
    simp [hany]

/-- What strict compilation refuses, it refuses for the first character without a
meaning. -/
theorem exists_of_compileStrict_eq_error {source : List Char} {error : MaskError}
    (hrefused : compileStrict source = .error error) :
    ∃ position c, error = .unclassified position c ∧ source[position]? = some c ∧
      (compile source).slot? position = some (.unclassified c) ∧ ¬ Slot.HasMeaning c ∧
      ∀ earlier < position, ∀ d ∈ source[earlier]?, Slot.HasMeaning d := by
  rw [compileStrict] at hrefused
  cases hfound : firstUnclassified? 0 (compile source).slots with
  | none => simp [hfound] at hrefused
  | some first =>
    rw [hfound] at hrefused
    obtain rfl := Except.error.inj hrefused
    obtain ⟨position, c, rfl, hslot, hbefore⟩ := exists_of_firstUnclassified? hfound
    have hclassify (index : Nat) : (compile source).slots[index]? =
        source[index]?.map Slot.classify := (compile source).slot?_eq index
    obtain ⟨d, hd, hdClass⟩ := Option.map_eq_some_iff.1 ((hclassify position).symm.trans hslot)
    obtain rfl : d = c := by rw [← Slot.source_classify d, hdClass, Slot.source]
    refine ⟨position, d, by rw [Nat.zero_add], hd, hslot, ?_, ?_⟩
    · rw [← Slot.isUnclassified_classify_eq_false_iff, hdClass]
      exact Bool.noConfusion
    · intro earlier hearlier e he
      have hmeaning := hbefore earlier hearlier
      rw [hclassify, Option.mem_def.1 he] at hmeaning
      exact Slot.isUnclassified_classify_eq_false_iff.1 hmeaning

section Source

variable {mask : Mask}

theorem hasUnclassified_eq_false_iff :
    mask.hasUnclassified = false ↔ ∀ c ∈ mask.source, Slot.HasMeaning c := by
  simp [hasUnclassified, mask.slots_eq, ← Slot.isUnclassified_classify_eq_false_iff]

variable (hclassified : mask.hasUnclassified = false)
include hclassified

/-- The text of a mask in which every slot has a meaning completes it. -/
theorem completed_source : mask.Completed mask.source := by
  rw [Completed, mask.slots_eq, List.forall₂_map_left_iff, List.forall₂_same]
  intro c hc
  have hmeaning := hasUnclassified_eq_false_iff.1 hclassified c hc
  have hcompletes := Slot.completes_source (Slot.isUnclassified_classify_eq_false_iff.2 hmeaning)
  rwa [Slot.source_classify] at hcompletes

/-- There is no blank in it: the blank has no meaning in a mask. -/
theorem blank_not_mem_source : blank ∉ mask.source := by
  intro hblank
  have hmeaning := hasUnclassified_eq_false_iff.1 hclassified blank hblank
  cases Slot.isUnclassified_classify_eq_false_iff.2 hmeaning

end Source

end Mask
end MaskedField
