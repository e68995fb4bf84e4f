/- # Values that fit a mask

Two readings of a row of characters under a row of slots. A value *fits* if every
slot shows a character that it can show while the field is being edited, the blank
among them; it *completes* the mask if every slot holds its literal or a character
of its class. The blank separates the two only in part: a slot for any character
takes it as a filling.

Everything that the editor writes into a value fits: the placeholder, the outcome
of laying a text over the mask, and a single character in a slot that shows it.
-/

import Mathlib.Data.List.Forall2
import MaskedField.Mask.Placement
import MaskedField.Proofs.Mask.Navigation

namespace MaskedField

/-- Rows that agree place by place have the same length and agree at every
position that both reach. -/
theorem forall₂_iff_getElem? {α β : Type} {R : α → β → Prop} {first : List α} {second : List β} :
    List.Forall₂ R first second ↔
      first.length = second.length ∧
        ∀ (position : Nat) (x : α) (y : β),
          first[position]? = some x → second[position]? = some y → R x y := by
  rw [List.forall₂_iff_get]
  apply and_congr_right
  intro hlength
  constructor
  · intro hall position x y hx hy
    obtain ⟨hfirst, rfl⟩ := List.getElem?_eq_some_iff.1 hx
    obtain ⟨hsecond, rfl⟩ := List.getElem?_eq_some_iff.1 hy
    exact hall position hfirst hsecond
  · intro hall position hfirst hsecond
    exact hall position _ _ (List.getElem?_eq_getElem hfirst) (List.getElem?_eq_getElem hsecond)

namespace Slot

/-- What the slot can show while the field is being edited. -/
def Shows : Slot → Char → Prop
  | literal shown, c => c = shown
  | placeholder charClass, c => c = blank ∨ charClass.contains c = true
  | unclassified _, c => c = blank

/-- What the slot holds in a complete value; a slot without a meaning is never
complete. -/
def Completes : Slot → Char → Prop
  | literal shown, c => c = shown
  | placeholder charClass, c => charClass.contains c = true
  | unclassified _, _ => False

instance (slot : Slot) (c : Char) : Decidable (slot.Shows c) :=
  match slot with
  | literal shown => inferInstanceAs (Decidable (c = shown))
  | placeholder charClass => inferInstanceAs (Decidable (c = blank ∨ charClass.contains c = true))
  | unclassified _ => inferInstanceAs (Decidable (c = blank))

instance (slot : Slot) (c : Char) : Decidable (slot.Completes c) :=
  match slot with
  | literal shown => inferInstanceAs (Decidable (c = shown))
  | placeholder charClass => inferInstanceAs (Decidable (charClass.contains c = true))
  | unclassified _ => inferInstanceAs (Decidable False)

variable {slot : Slot} {c : Char}

theorem isEditable_of_ne_literal (hliteral : ∀ shown, slot ≠ literal shown) :
    slot.isEditable = true := by
  cases slot with
  | literal shown => exact absurd rfl (hliteral shown)
  | placeholder charClass => rfl
  | unclassified source => rfl

theorem unfilled_of_isEditable (heditable : slot.isEditable = true) : slot.unfilled = blank := by
  cases slot with
  | literal shown => cases heditable
  | placeholder charClass => rfl
  | unclassified source => rfl

theorem shows_unfilled (slot : Slot) : slot.Shows slot.unfilled := by
  cases slot with
  | literal shown => rfl
  | placeholder charClass => exact .inl rfl
  | unclassified source => rfl

theorem shows_blank (heditable : slot.isEditable = true) : slot.Shows blank := by
  rw [← unfilled_of_isEditable heditable]
  exact slot.shows_unfilled

theorem shows_of_accepts (haccepts : slot.accepts c = true) : slot.Shows c := by
  cases slot with
  | placeholder charClass => exact .inr haccepts
  | literal shown => cases haccepts
  | unclassified source => cases haccepts

theorem Completes.shows (hcompletes : slot.Completes c) : slot.Shows c := by
  cases slot with
  | literal shown => exact hcompletes
  | placeholder charClass => exact .inr hcompletes
  | unclassified source => exact hcompletes.elim

/-- What a slot shows fills it unless it is the blank. -/
theorem Shows.completes (hshows : slot.Shows c) (hfilled : c ≠ blank) : slot.Completes c := by
  cases slot with
  | literal shown => exact hshows
  | placeholder charClass => exact hshows.resolve_left hfilled
  | unclassified source => exact hfilled hshows

/-- Completeness slot by slot: a literal is in its place and an editable slot
accepts what it holds. -/
theorem completes_iff :
    slot.Completes c ↔
      slot.isUnclassified = false ∧ (∀ shown, slot = literal shown → c = shown) ∧
        (slot.isEditable = true → slot.accepts c = true) := by
  cases slot <;> simp [Completes, isUnclassified, isEditable, accepts]

end Slot

namespace Mask

/-- Every slot shows something that it can show. -/
def Fits (mask : Mask) (value : List Char) : Prop :=
  List.Forall₂ Slot.Shows mask.slots value

/-- Every slot is filled. -/
def Completed (mask : Mask) (value : List Char) : Prop :=
  List.Forall₂ Slot.Completes mask.slots value

variable {mask : Mask} {value : List Char}

theorem Fits.length_eq (hfits : mask.Fits value) : value.length = mask.length :=
  (List.Forall₂.length_eq hfits).symm

theorem Fits.exists_shown (hfits : mask.Fits value) {position : Nat} {slot : Slot}
    (hslot : mask.slot? position = some slot) :
    ∃ c, value[position]? = some c ∧ slot.Shows c := by
  have hinside : position < mask.length := (List.getElem?_eq_some_iff.1 hslot).1
  obtain ⟨c, hc⟩ : ∃ c, value[position]? = some c :=
    ⟨_, List.getElem?_eq_getElem (hfits.length_eq ▸ hinside)⟩
  exact ⟨c, hc, (forall₂_iff_getElem?.1 hfits).2 position slot c hslot hc⟩

theorem Fits.exists_slot (hfits : mask.Fits value) {position : Nat} {c : Char}
    (hc : value[position]? = some c) :
    ∃ slot, mask.slot? position = some slot ∧ slot.Shows c := by
  have hinside : position < mask.length :=
    hfits.length_eq ▸ (List.getElem?_eq_some_iff.1 hc).1
  obtain ⟨slot, hslot⟩ : ∃ slot, mask.slot? position = some slot :=
    ⟨_, List.getElem?_eq_getElem hinside⟩
  exact ⟨slot, hslot, (forall₂_iff_getElem?.1 hfits).2 position slot c hslot hc⟩

/-- In a value that fits, an editable slot accepts what it holds unless that is the blank. -/
theorem Fits.accepts_of_ne_blank (hfits : mask.Fits value) {position : Nat} {c : Char}
    (heditable : mask.isEditable position = true) (hc : value[position]? = some c)
    (hfilled : c ≠ blank) : mask.accepts position c = true := by
  obtain ⟨slot, hslot, hshows⟩ := hfits.exists_slot hc
  rw [isEditable, hslot, Option.any_some] at heditable
  rw [accepts, hslot, Option.any_some]
  exact (Slot.completes_iff.1 (hshows.completes hfilled)).2.2 heditable

theorem Completed.fits (hcompleted : mask.Completed value) : mask.Fits value :=
  hcompleted.imp fun _ _ => Slot.Completes.shows

/-- A value that fits and has no blank left is complete. -/
theorem Fits.completed (hfits : mask.Fits value) (hfilled : blank ∉ value) :
    mask.Completed value := by
  unfold Fits at hfits
  unfold Completed
  generalize mask.slots = slots at hfits ⊢
  induction hfits with
  | nil => exact .nil
  | cons hshows _ ih =>
    rw [List.mem_cons, not_or] at hfilled
    exact .cons (hshows.completes (Ne.symm hfilled.1)) (ih hfilled.2)

theorem fits_placeholder (mask : Mask) : mask.Fits mask.placeholder :=
  List.forall₂_map_right_iff.2 (List.forall₂_same.2 fun slot _ => slot.shows_unfilled)

/-- Writing a character keeps the fit if the slot at its position shows it. -/
theorem Fits.set (hfits : mask.Fits value) (position : Nat) (c : Char)
    (hshows : ∀ slot, mask.slot? position = some slot → slot.Shows c) :
    mask.Fits (value.set position c) := by
  unfold Fits slot? at *
  generalize mask.slots = slots at hfits hshows ⊢
  induction hfits generalizing position with
  | nil => exact .nil
  | cons hhead htail ih =>
    cases position with
    | zero => exact .cons (hshows _ rfl) htail
    | succ position => exact .cons hhead (ih position hshows)

end Mask

/-- Text laid over a row of slots leaves something that each of them can show. -/
theorem forall₂_shows_layOver (slots : List Slot) (text : List Char) :
    List.Forall₂ Slot.Shows slots (layOver slots text).value := by
  fun_induction layOver slots text with
  | case1 text => exact .nil
  | case2 shown slots text ih => exact .cons rfl ih
  | case3 slot slots hliteral ih =>
    exact .cons (Slot.shows_blank (Slot.isEditable_of_ne_literal hliteral)) ih
  | case4 slot slots c text hliteral haccepts ih => exact .cons (Slot.shows_of_accepts haccepts) ih
  | case5 slot slots c text hliteral hrefused ih =>
    exact .cons (Slot.shows_blank (Slot.isEditable_of_ne_literal hliteral)) ih

/-- The first gap is at an editable slot. -/
theorem isEditable_firstGap?_layOver (slots : List Slot) (text : List Char) :
    ∀ gap ∈ (layOver slots text).firstGap?, slots[gap]?.any Slot.isEditable = true := by
  fun_induction layOver slots text with
  | case1 text => simp [Placement.nothing]
  | case2 shown slots text ih => simpa [Placement.behindLiteral] using ih
  | case3 slot slots hliteral ih =>
    simpa [Placement.behindGap] using Slot.isEditable_of_ne_literal hliteral
  | case4 slot slots c text hliteral haccepts ih => simpa [Placement.behindFilled] using ih
  | case5 slot slots c text hliteral hrefused ih =>
    simpa [Placement.behindGap] using Slot.isEditable_of_ne_literal hliteral

namespace Mask

variable (mask : Mask) (text : List Char)

theorem fits_place : mask.Fits (mask.place text).value :=
  forall₂_shows_layOver mask.slots text

/-- The cursor of a placement is at an editable slot or behind the last slot. -/
theorem rests_place : mask.Rests (mask.place text).cursor := by
  rw [Placement.cursor, (mask.fits_place text).length_eq]
  exact rests_getD (isEditable_firstGap?_layOver mask.slots text)

end Mask
end MaskedField
