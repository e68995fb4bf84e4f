/- # The matcher agrees with the slots

A mask describes its complete values twice: slot by slot, and through the text of
its expression, which is read as a pattern. Both descriptions accept the same
texts. Slots without a meaning leave no trace in the expression, so the matcher
alone passes over them; together with the length of the text it refuses every
text of a mask that has one.
-/

import MaskedField.Field.Editor
import MaskedField.Proofs.Mask.Fitting

namespace MaskedField

/-- The pattern of a class takes the characters of the class. -/
theorem CharClass.contains_charSet (charClass : CharClass) (c : Char) :
    charClass.charSet.contains c = charClass.contains c := by
  cases charClass with
  | digit => rfl
  | lowercaseLetter => rfl
  | uppercaseLetter => exact (Bool.decide_and _ _).symm
  | anyCharacter => rfl

/-- A slot without a meaning asks for nothing. -/
theorem Slot.items_of_isUnclassified {slot : Slot} (hunclassified : slot.isUnclassified = true) :
    slot.items = [] := by
  cases slot with
  | literal shown => cases hunclassified
  | placeholder charClass => cases hunclassified
  | unclassified source => rfl

namespace Pattern

/-- A pattern that holds on to the start of the text is not tried further on. -/
theorem isMatch_textStart (items : Pattern) (text : List Char) :
    isMatch (.textStart :: items) text = fitsHere true items text := by
  have hfurther (later : List Char) : fitsFrom false (.textStart :: items) later = false := by
    induction later with
    | nil => rfl
    | cons c later ih => simp [fitsFrom, fitsHere, ih]
  cases text with
  | nil => rfl
  | cons c text => simp [isMatch, fitsFrom, fitsHere, hfurther]

/-- The items of a slot with a meaning take the one character that completes it. -/
theorem fitsHere_items {slot : Slot} (hclassified : slot.isUnclassified = false) (atStart : Bool)
    (items : Pattern) (c : Char) (text : List Char) :
    fitsHere atStart (slot.items ++ items) (c :: text) = true ↔
      slot.Completes c ∧ fitsHere false items text = true := by
  cases slot with
  | literal shown => simp [Slot.items, fitsHere, CharSet.contains, Slot.Completes]
  | placeholder charClass =>
    simp [Slot.items, fitsHere, CharClass.contains_charSet, Slot.Completes]
  | unclassified source => cases hclassified

theorem fitsHere_items_nil {slot : Slot} (hclassified : slot.isUnclassified = false)
    (atStart : Bool) (items : Pattern) : fitsHere atStart (slot.items ++ items) [] = false := by
  cases slot with
  | literal shown => rfl
  | placeholder charClass => rfl
  | unclassified source => cases hclassified

/-- A row of slots and the end of the text fit exactly the texts that complete the
slots with a meaning one after another. -/
theorem fitsHere_flatMap_items (atStart : Bool) (slots : List Slot) (text : List Char) :
    fitsHere atStart (slots.flatMap Slot.items ++ [.textEnd]) text = true ↔
      List.Forall₂ Slot.Completes (slots.filter fun slot => !slot.isUnclassified) text := by
  induction slots generalizing atStart text with
  | nil => simp [fitsHere]
  | cons slot slots ih =>
    cases hclassified : slot.isUnclassified with
    | true =>
      rw [List.flatMap_cons, Slot.items_of_isUnclassified hclassified, List.nil_append,
        List.filter_cons_of_neg (by simp [hclassified])]
      exact ih atStart text
    | false =>
      rw [List.flatMap_cons, List.append_assoc, List.filter_cons_of_pos (by simp [hclassified])]
      cases text with
      | nil => simp [fitsHere_items_nil hclassified]
      | cons c text => rw [fitsHere_items hclassified, ih, List.forall₂_cons]

end Pattern

namespace Mask

variable (mask : Mask) (text : List Char)

/-- The slots with a meaning, in order. -/
def classifiedSlots : List Slot :=
  mask.slots.filter fun slot => !slot.isUnclassified

theorem pattern_eq :
    mask.pattern = .textStart :: (mask.slots.flatMap Slot.items ++ [.textEnd]) := by
  simp [pattern, read?_expression]

/-- The pattern of a mask matches the texts that complete its slots with a meaning. -/
theorem isMatch_pattern :
    mask.pattern.isMatch text = true ↔
      List.Forall₂ Slot.Completes mask.classifiedSlots text := by
  rw [pattern_eq, Pattern.isMatch_textStart, Pattern.fitsHere_flatMap_items, classifiedSlots]

/-- If no slot is without a meaning, all slots count. -/
theorem classifiedSlots_eq_iff :
    mask.classifiedSlots.length = mask.length ↔ mask.hasUnclassified = false := by
  rw [classifiedSlots, length, List.length_filter_eq_length_iff, hasUnclassified,
    List.any_eq_false]
  simp

variable {mask text}

theorem classifiedSlots_eq (hclassified : mask.hasUnclassified = false) :
    mask.classifiedSlots = mask.slots := by
  rw [hasUnclassified, List.any_eq_false] at hclassified
  exact List.filter_eq_self.2 fun slot hslot => by simpa using hclassified slot hslot

/-- A mask that is completed by some text has no slot without a meaning. -/
theorem Completed.hasUnclassified_eq_false (hcompleted : mask.Completed text) :
    mask.hasUnclassified = false := by
  unfold Completed at hcompleted
  unfold hasUnclassified
  generalize mask.slots = slots at hcompleted ⊢
  induction hcompleted with
  | nil => rfl
  | cons hcompletes _ ih => simp [ih, (Slot.completes_iff.1 hcompletes).1]

/-- Completeness position by position. -/
theorem completed_iff :
    mask.Completed text ↔
      mask.hasUnclassified = false ∧ text.length = mask.length ∧
        ∀ position slot c, mask.slot? position = some slot → text[position]? = some c →
          (∀ shown, slot = .literal shown → c = shown) ∧
            (slot.isEditable = true → slot.accepts c = true) := by
  constructor
  · intro hcompleted
    refine ⟨hcompleted.hasUnclassified_eq_false, hcompleted.fits.length_eq, ?_⟩
    intro position slot c hslot hc
    have hcompletes := (forall₂_iff_getElem?.1 hcompleted).2 position slot c hslot hc
    exact (Slot.completes_iff.1 hcompletes).2
  · rintro ⟨hclassified, hlength, hall⟩
    refine forall₂_iff_getElem?.2 ⟨hlength.symm, ?_⟩
    intro position slot c hslot hc
    rw [hasUnclassified, List.any_eq_false] at hclassified
    have hmeaning := hclassified slot (List.mem_of_getElem? hslot)
    exact Slot.completes_iff.2 ⟨by simpa using hmeaning, hall position slot c hslot hc⟩

end Mask

namespace Editor

/-- An editor is determined by its mask, and there is one unless the engine objects. -/
theorem ofMask_eq_ok_iff {engine : Pattern.Engine} {mask : Mask} {editor : Editor} :
    ofMask engine mask = .ok editor ↔
      engine.objection? mask.expression = none ∧ editor.mask = mask := by
  unfold ofMask
  constructor
  · intro hbuilds
    split at hbuilds
    · next matcher hmatcher =>
      rw [← Except.ok.inj hbuilds]
      exact ⟨(Mask.matcher_eq_ok_iff.1 hmatcher).1, rfl⟩
    · cases hbuilds
  · rintro ⟨hprepared, rfl⟩
    have hmatches : editor.mask.matcher engine = .ok editor.matcher :=
      Mask.matcher_eq_ok_iff.2 ⟨hprepared, editor.matcher_eq⟩
    split
    · next matcher hmatcher =>
      obtain rfl : matcher = editor.matcher := Except.ok.inj (hmatcher.symm.trans hmatches)
      rfl
    · next error hfails =>
      rw [hfails] at hmatches
      cases hmatches

variable (editor : Editor)

/-- The length of a text and the matcher together see every slot. -/
theorem isComplete_iff (text : List Char) :
    editor.isComplete text = true ↔ editor.mask.Completed text := by
  rw [isComplete, Bool.and_eq_true, beq_iff_eq, matcher_eq, Mask.isMatch_pattern]
  constructor
  · rintro ⟨hlength, hmatch⟩
    have hclassified := (Mask.classifiedSlots_eq_iff _).1 (hmatch.length_eq.trans hlength)
    rwa [Mask.classifiedSlots_eq hclassified] at hmatch
  · intro hcompleted
    rw [Mask.classifiedSlots_eq hcompleted.hasUnclassified_eq_false]
    exact ⟨hcompleted.fits.length_eq, hcompleted⟩

/-- The matcher, which reads the expression of the mask, accepts a text exactly if
its characters complete the slots with a meaning one by one. A complete value is a
text that shows every literal in its place and has at every other position a
character that the slot accepts; a mask with a slot without a meaning has none. -/
theorem matcher_agrees_with_slots (text : List Char) :
    Pattern.read? editor.mask.expression = some editor.matcher ∧
      (editor.matcher.isMatch text = true ↔
        List.Forall₂ Slot.Completes editor.mask.classifiedSlots text) ∧
      (editor.isComplete text = true ↔
        editor.mask.hasUnclassified = false ∧ text.length = editor.mask.length ∧
          ∀ position slot c, editor.mask.slot? position = some slot → text[position]? = some c →
            (∀ shown, slot = .literal shown → c = shown) ∧
              (slot.isEditable = true → slot.accepts c = true)) ∧
      (editor.mask.hasUnclassified = true → editor.isComplete text = false) := by
  refine ⟨?_, ?_, ?_, ?_⟩
  · rw [matcher_eq, Mask.read?_expression, Mask.pattern_eq]
  · rw [matcher_eq, Mask.isMatch_pattern]
  · rw [isComplete_iff, Mask.completed_iff]
  · intro hunclassified
    apply Bool.eq_false_iff.2
    intro hcomplete
    have hclassified := ((isComplete_iff editor text).1 hcomplete).hasUnclassified_eq_false
    simp [hclassified] at hunclassified

end Editor
end MaskedField
