/- # Where a blank can stand

No mask has a literal that looks like the blank. A blank in a value that fits its mask
is therefore at an editable slot, and the first one is a place where the cursor may rest;
in the placeholder, which shows a blank in every editable slot, it is the first editable
position. Filled slots are not excluded: a slot for any character can hold the blank as
a filling, so a value with a blank in it may be complete all the same.
-/

import MaskedField.Field.Basic
import MaskedField.Proofs.Mask.Fitting

namespace MaskedField

theorem firstBlank?_eq_none_iff {text : List Char} : firstBlank? text = none ↔ blank ∉ text := by
  rw [firstBlank?, List.findIdx?_eq_none_iff]
  constructor
  · intro hnone hblank
    simpa using hnone blank hblank
  · intro hfilled c hc
    exact beq_eq_false_iff_ne.2 fun hblank => hfilled (hblank ▸ hc)

theorem getElem?_firstBlank? {text : List Char} {position : Nat}
    (hfirst : firstBlank? text = some position) : text[position]? = some blank := by
  obtain ⟨c, hc, hblank⟩ := (Option.any_eq_true _ _).1 (findIdx?_eq_some_iff_any.1 hfirst).1
  rw [hc, beq_iff_eq.1 hblank]

/-- The first blank of a text, or else its end, is known by what is not before it. -/
theorem eq_firstBlank_iff {text : List Char} {cursor : Nat}
    (hcursor : text[cursor]? = some blank ∨ cursor = text.length) :
    cursor = (firstBlank? text).getD text.length ↔
      ∀ earlier < cursor, text[earlier]? ≠ some blank := by
  cases hfirst : firstBlank? text with
  | none =>
    have hfilled : ∀ position : Nat, text[position]? ≠ some blank := fun position hblank =>
      firstBlank?_eq_none_iff.1 hfirst (List.mem_of_getElem? hblank)
    exact iff_of_true (hcursor.resolve_left (hfilled cursor)) fun earlier _ => hfilled earlier
  | some first =>
    have hblank : text[first]? = some blank := getElem?_firstBlank? hfirst
    have hbefore : ∀ earlier < first, text[earlier]? ≠ some blank := by
      intro earlier hearlier hsame
      have hnone := (findIdx?_eq_some_iff_any.1 hfirst).2 earlier hearlier
      simp [hsame] at hnone
    rw [Option.getD_some]
    refine ⟨fun hfirst => hfirst ▸ hbefore, fun hnone => ?_⟩
    rcases Nat.lt_trichotomy cursor first with hless | hsame | hmore
    · have hinside : first < text.length := (List.getElem?_eq_some_iff.1 hblank).1
      have hend : cursor = text.length := hcursor.resolve_left (hbefore cursor hless)
      omega
    · exact hsame
    · exact absurd hblank (hnone first hmore)

theorem blank_or_end_firstBlank (text : List Char) :
    text[(firstBlank? text).getD text.length]? = some blank ∨
      (firstBlank? text).getD text.length = text.length := by
  cases hfirst : firstBlank? text with
  | none => exact .inr rfl
  | some first => exact .inl (getElem?_firstBlank? hfirst)

/-- A slot is shown as a blank exactly if it can be edited; only a literal that looks
like the blank could be mistaken for one. -/
theorem Slot.unfilled_eq_blank_iff {slot : Slot} (hliteral : slot ≠ .literal blank) :
    slot.unfilled = blank ↔ slot.isEditable = true := by
  cases slot with
  | literal shown =>
    have hshown : shown ≠ blank := fun hblank => hliteral (congrArg Slot.literal hblank)
    exact iff_of_false hshown Bool.false_ne_true
  | placeholder charClass => exact iff_of_true rfl rfl
  | unclassified source => exact iff_of_true rfl rfl

namespace Mask

variable {mask : Mask} {value : List Char} {position : Nat}

/-- A mask shows no other characters on its own than the literals. -/
theorem shown_mem_literals {shown : Char} (hslot : .literal shown ∈ mask.slots) :
    shown ∈ Slot.literals := by
  rw [mask.slots_eq, List.mem_map] at hslot
  obtain ⟨c, -, hclassify⟩ := hslot
  rw [Slot.classify] at hclassify
  split at hclassify
  · next hliteral =>
    obtain rfl := Slot.literal.inj hclassify
    exact List.contains_iff_mem.1 hliteral
  · split at hclassify <;> cases hclassify

/-- The blank is no separator: in a mask it is a character without a meaning. -/
theorem literal_blank_not_mem (mask : Mask) : Slot.literal blank ∉ mask.slots := by
  intro hmem
  exact absurd (shown_mem_literals hmem) (by decide)

theorem firstBlank?_placeholder (mask : Mask) :
    firstBlank? mask.placeholder = mask.firstEditable? := by
  have hslots := mask.literal_blank_not_mem
  rw [firstBlank?, placeholder, List.findIdx?_map, firstEditable?]
  generalize mask.slots = slots at hslots ⊢
  induction slots with
  | nil => rfl
  | cons slot slots ih =>
    rw [List.mem_cons, not_or] at hslots
    have hslot : (slot.unfilled == blank) = slot.isEditable := by
      rw [Bool.eq_iff_iff, beq_iff_eq, Slot.unfilled_eq_blank_iff (Ne.symm hslots.1)]
    rw [List.findIdx?_cons, List.findIdx?_cons, Function.comp_apply, hslot, ih hslots.2]

/-- In a value that fits, no literal is covered by a blank. -/
theorem Fits.isEditable_of_blank (hfits : mask.Fits value)
    (hblank : value[position]? = some blank) : mask.isEditable position = true := by
  obtain ⟨slot, hslot, hshows⟩ := hfits.exists_slot hblank
  rw [isEditable, hslot, Option.any_some]
  cases slot with
  | literal shown =>
    have hshown : blank = shown := hshows
    rw [← hshown] at hslot
    exact absurd (List.mem_of_getElem? hslot) mask.literal_blank_not_mem
  | placeholder charClass => rfl
  | unclassified source => rfl

/-- The first blank of a value that fits, or else its end, is a place for the cursor. -/
theorem Fits.rests_firstBlank? (hfits : mask.Fits value) :
    mask.Rests ((firstBlank? value).getD mask.length) :=
  rests_getD fun _ hfirst => hfits.isEditable_of_blank (getElem?_firstBlank? hfirst)

end Mask
end MaskedField
