/- # Slots

A mask is a row of slots, one for each of its characters. A literal slot shows
its own character and is never edited; a placeholder slot takes the characters
of a class. A mask character that is neither still occupies a slot, which can be
blanked but never filled.
-/

import MaskedField.Mask.CharClass

namespace MaskedField

/-- The mark of a slot that is not filled. -/
def blank : Char := '_'

/-- One position of a mask. -/
inductive Slot where
  /-- A separator that the field always shows. -/
  | literal (shown : Char)
  /-- A position that takes characters of a class. -/
  | placeholder (charClass : CharClass)
  /-- A mask character without a meaning; the position accepts nothing. -/
  | unclassified (source : Char)
  deriving DecidableEq

namespace Slot

/-- The mask characters that stand for themselves. -/
def literals : List Char :=
  [' ', '/', '(', ')', '+', '-', '.']

/-- The slot that a mask character describes. -/
def classify (c : Char) : Slot :=
  if literals.contains c then literal c
  else match CharClass.ofDesignator? c with
    | some charClass => placeholder charClass
    | none => unclassified c

/-- The mask character that describes the slot. -/
def source : Slot → Char
  | literal shown => shown
  | placeholder charClass => charClass.designator
  | unclassified source => source

/-- The slot can be edited: it does not show a literal. -/
def isEditable : Slot → Bool
  | literal _ => false
  | placeholder _ => true
  | unclassified _ => true

/-- The slot was described by a character without a meaning. -/
def isUnclassified : Slot → Bool
  | unclassified _ => true
  | _ => false

/-- A character may be entered here. -/
def accepts : Slot → Char → Bool
  | placeholder charClass, c => charClass.contains c
  | _, _ => false

/-- What the slot shows while it is not filled. -/
def unfilled : Slot → Char
  | literal shown => shown
  | _ => blank

/-- A slot that accepts a character can be edited. -/
theorem isEditable_of_accepts {slot : Slot} {c : Char} (haccepts : slot.accepts c = true) :
    slot.isEditable = true := by
  cases slot with
  | literal shown => cases haccepts
  | placeholder charClass => rfl
  | unclassified source => rfl

/-- Classification forgets nothing. -/
@[simp] theorem source_classify (c : Char) : (classify c).source = c := by
  unfold classify
  split
  · rfl
  · split
    · next charClass hclass =>
      exact (CharClass.ofDesignator?_eq_some_iff.1 hclass).symm
    · rfl

end Slot
end MaskedField
