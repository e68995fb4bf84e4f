/- # Filling the editable slots in order

A text *fills* a row of slots if its characters are accepted, one by one, by the first
editable slots, without leaving one out. Such a text is laid over the row completely:
each character goes to the editable position of its own number, and the first gap is
the editable position behind those that are taken. One character more is one character
written into that gap. A text that would leave a slot blank on the way does not fill
the row, and nothing is said about it here.
-/

import MaskedField.Proofs.Mask.Fitting
import MaskedField.Proofs.Mask.Positions

namespace MaskedField

/-- The first editable slots of the row accept the characters of the text. -/
inductive Fills : List Slot → List Char → Prop where
  | done (slots : List Slot) : Fills slots []
  | passed (shown : Char) {slots : List Slot} {text : List Char} (hfills : Fills slots text) :
      Fills (.literal shown :: slots) text
  | taken {slot : Slot} {c : Char} {slots : List Slot} {text : List Char}
      (haccepts : slot.accepts c = true) (hfills : Fills slots text) :
      Fills (slot :: slots) (c :: text)

namespace Fills

theorem of_literal {shown : Char} {slots : List Slot} {text : List Char}
    (hfills : Fills (.literal shown :: slots) text) : Fills slots text := by
  cases hfills with
  | done => exact .done slots
  | passed _ hfills => exact hfills
  | taken haccepts _ => cases haccepts

theorem of_taken {slot : Slot} {c : Char} {slots : List Slot} {text : List Char}
    (hfills : Fills (slot :: slots) (c :: text)) (heditable : slot.isEditable = true) :
    slot.accepts c = true ∧ Fills slots text := by
  cases hfills with
  | passed shown _ => cases heditable
  | taken haccepts hfills => exact ⟨haccepts, hfills⟩

/-- The front of a text that fills the row fills it too. -/
theorem of_append {slots : List Slot} {text behind : List Char}
    (hfills : Fills slots (text ++ behind)) : Fills slots text := by
  generalize hwhole : text ++ behind = whole at hfills
  induction hfills generalizing text with
  | done slots =>
    rw [(List.append_eq_nil_iff.1 hwhole).1]
    exact .done slots
  | passed shown _ ih => exact .passed shown (ih hwhole)
  | taken haccepts _ ih =>
    cases text with
    | nil => exact .done _
    | cons c text =>
      obtain ⟨rfl, hbehind⟩ := List.cons.inj hwhole
      exact .taken haccepts (ih hbehind)

/-- Every character is accepted by the editable slot of its own number. -/
theorem accepts_of_getElem? {slots : List Slot} {text : List Char} (hfills : Fills slots text)
    {index : Nat} {c : Char} (hc : text[index]? = some c) :
    ∃ position, (editablePositions slots)[index]? = some position ∧
      slots[position]?.any (Slot.accepts · c) = true := by
  induction hfills generalizing index with
  | done slots => cases hc
  | passed shown _ ih =>
    obtain ⟨position, hposition, haccepts⟩ := ih hc
    refine ⟨position + 1, ?_, haccepts⟩
    simp [editablePositions_cons, Slot.isEditable, hposition]
  | taken htakes _ ih =>
    have heditable := Slot.isEditable_of_accepts htakes
    cases index with
    | zero =>
      obtain rfl := Option.some.inj hc
      refine ⟨0, ?_, htakes⟩
      simp [editablePositions_cons, heditable]
    | succ index =>
      obtain ⟨position, hposition, haccepts⟩ := ih hc
      refine ⟨position + 1, ?_, haccepts⟩
      simp [editablePositions_cons, heditable, hposition]

end Fills

section LayOver

variable {slots : List Slot} {text : List Char}

/-- A text that fills the row is used up. -/
theorem consumed_of_fills (hfills : Fills slots text) :
    (layOver slots text).consumed = text.length := by
  fun_induction layOver slots text with
  | case1 text =>
    cases hfills
    rfl
  | case2 shown slots text ih => exact ih hfills.of_literal
  | case3 slot slots hliteral ih => exact ih (.done slots)
  | case4 slot slots c text hliteral haccepts ih =>
    have heditable := Slot.isEditable_of_accepts haccepts
    exact congrArg (· + 1) (ih (hfills.of_taken heditable).2)
  | case5 slot slots c text hliteral hrefused ih =>
    have heditable := Slot.isEditable_of_ne_literal hliteral
    exact absurd (hfills.of_taken heditable).1 hrefused

/-- The first gap is the first editable position that is not taken. -/
theorem firstGap?_of_fills (hfills : Fills slots text) :
    (layOver slots text).firstGap? = (editablePositions slots)[text.length]? := by
  fun_induction layOver slots text with
  | case1 text => rfl
  | case2 shown slots text ih =>
    simp [Placement.behindLiteral, ih hfills.of_literal, editablePositions_cons, Slot.isEditable]
  | case3 slot slots hliteral ih =>
    simp [Placement.behindGap, editablePositions_cons, Slot.isEditable_of_ne_literal hliteral]
  | case4 slot slots c text hliteral haccepts ih =>
    have heditable := Slot.isEditable_of_accepts haccepts
    simp [Placement.behindFilled, ih (hfills.of_taken heditable).2, editablePositions_cons,
      heditable]
  | case5 slot slots c text hliteral hrefused ih =>
    have heditable := Slot.isEditable_of_ne_literal hliteral
    exact absurd (hfills.of_taken heditable).1 hrefused

/-- Every character sits at the editable position of its own number. -/
theorem getElem?_value_of_fills (hfills : Fills slots text) {index : Nat} {c : Char}
    (hc : text[index]? = some c) :
    ∃ position, (editablePositions slots)[index]? = some position ∧
      (layOver slots text).value[position]? = some c := by
  fun_induction layOver slots text generalizing index with
  | case1 text =>
    cases hfills
    cases hc
  | case2 shown slots text ih =>
    obtain ⟨position, hposition, hvalue⟩ := ih hfills.of_literal hc
    refine ⟨position + 1, ?_, hvalue⟩
    simp [editablePositions_cons, Slot.isEditable, hposition]
  | case3 slot slots hliteral ih => cases hc
  | case4 slot slots d text hliteral haccepts ih =>
    have heditable := Slot.isEditable_of_accepts haccepts
    cases index with
    | zero =>
      refine ⟨0, ?_, hc⟩
      simp [editablePositions_cons, heditable]
    | succ index =>
      obtain ⟨position, hposition, hvalue⟩ := ih (hfills.of_taken heditable).2 hc
      refine ⟨position + 1, ?_, hvalue⟩
      simp [editablePositions_cons, heditable, hposition]
  | case5 slot slots d text hliteral hrefused ih =>
    have heditable := Slot.isEditable_of_ne_literal hliteral
    exact absurd (hfills.of_taken heditable).1 hrefused

/-- If the first gap accepts one character more, the longer text fills the row too, and
only the gap has changed. -/
theorem layOver_concat (hfills : Fills slots text) {gap : Nat} {c : Char}
    (hgap : (layOver slots text).firstGap? = some gap)
    (haccepts : slots[gap]?.any (Slot.accepts · c) = true) :
    Fills slots (text ++ [c]) ∧
      (layOver slots (text ++ [c])).value = (layOver slots text).value.set gap c := by
  fun_induction layOver slots text generalizing gap with
  | case1 text => cases hgap
  | case2 shown slots text ih =>
    obtain ⟨behind, hbehind, rfl⟩ := Option.map_eq_some_iff.1 hgap
    obtain ⟨hmore, hvalue⟩ := ih hfills.of_literal hbehind haccepts
    refine ⟨.passed shown hmore, ?_⟩
    rw [layOver]
    exact congrArg (shown :: ·) hvalue
  | case3 slot slots hliteral ih =>
    obtain rfl := Option.some.inj hgap
    have htakes : slot.accepts c = true := haccepts
    refine ⟨.taken htakes (.done slots), ?_⟩
    rw [List.nil_append, layOver, if_pos htakes]
    · rfl
    · exact hliteral
  | case4 slot slots d text hliteral htakes ih =>
    obtain ⟨behind, hbehind, rfl⟩ := Option.map_eq_some_iff.1 hgap
    have heditable := Slot.isEditable_of_accepts htakes
    obtain ⟨hmore, hvalue⟩ := ih (hfills.of_taken heditable).2 hbehind haccepts
    refine ⟨.taken htakes hmore, ?_⟩
    rw [List.cons_append, layOver, if_pos htakes]
    · exact congrArg (d :: ·) hvalue
    · exact hliteral
  | case5 slot slots d text hliteral hrefused ih =>
    have heditable := Slot.isEditable_of_ne_literal hliteral
    exact absurd (hfills.of_taken heditable).1 hrefused

/-- Without a text nothing is taken. -/
theorem value_layOver_nil (slots : List Slot) :
    (layOver slots []).value = slots.map Slot.unfilled := by
  induction slots with
  | nil => rfl
  | cons slot slots ih =>
    cases slot with
    | literal shown => exact congrArg (shown :: ·) ih
    | placeholder charClass => exact congrArg (blank :: ·) ih
    | unclassified source => exact congrArg (blank :: ·) ih

end LayOver

/-- The cursor of a placement that takes a filling text is at the editable position of
the number of characters taken, or behind the last slot. -/
theorem Mask.cursor_place_of_fills {mask : Mask} {text : List Char}
    (hfills : Fills mask.slots text) :
    (mask.place text).cursor = mask.editablePositions[text.length]?.getD mask.length := by
  have hgap : (mask.place text).firstGap? = mask.editablePositions[text.length]? :=
    firstGap?_of_fills hfills
  rw [Placement.cursor, hgap, (mask.fits_place text).length_eq]

end MaskedField
