/- # One key, one slot

A key that is pressed in a field that shows a value writes into one slot at most. It says
itself what it may leave there: a character key its character, where the slot accepts it, and
a key that deletes the blank. A key that finds nothing to do where it is pressed changes
nothing at all, so that no key is half carried out. In particular the mask is asked first
whether it accepts a character and the value then whether it reaches that far; a value that is
too short refuses a character that the mask would accept, and the cursor stays as well.

The value need not fit the mask, nor be as long. What a key does to a field that it has to
make ready first is not considered.
-/

import MaskedField.Proofs.Field.Readiness
import MaskedField.Proofs.Field.Strike
import MaskedField.Proofs.Mask.Positions

namespace MaskedField

namespace Key

/-- The key finds nothing to do at a position: the slot does not accept its character, or
there is no editable slot on the side to which it moves or deletes. -/
def Refused (mask : Mask) (position : Nat) : Key → Prop
  | char c => mask.accepts position c = false
  | arrowLeft | backspace => ∀ other < position, mask.isEditable other = false
  | arrowRight | delete => ∀ other > position, mask.isEditable other = false
  | tab | named _ => True

/-- The key may leave the character in the slot. -/
def MayLeave (mask : Mask) (slot : Nat) (c : Char) : Key → Prop
  | char typed => c = typed ∧ mask.accepts slot typed = true
  | backspace | delete => c = blank
  | arrowLeft | arrowRight | tab | named _ => False

end Key

namespace Struck

variable {mask : Mask} {field next : Field} {key : Key} {position : Nat}

/-- What a key has written stands in one slot, and the key may leave it there. -/
theorem exists_slot_of_ne (hstruck : Struck mask field key position next)
    (hwritten : next.value ≠ field.value) :
    ∃ slot c, mask.isEditable slot = true ∧ key.MayLeave mask slot c ∧
      next.value[slot]? = some c ∧
      ∀ other, other ≠ slot → next.value[other]? = field.value[other]? := by
  cases hstruck with
  | kept => exact absurd rfl hwritten
  | moved target heditable hkey => exact absurd rfl hwritten
  | written target c cursor hinside heditable hc hcursor =>
    refine ⟨target, c, heditable, ?_, List.getElem?_set_self hinside, ?_⟩
    · rcases hc with ⟨rfl, haccepts⟩ | ⟨rfl, rfl | rfl⟩
      · exact ⟨rfl, haccepts⟩
      · rfl
      · rfl
    · intro other hother
      exact List.getElem?_set_ne (Ne.symm hother)

end Struck

namespace Editor

variable (editor : Editor) (field : Field) {key : Key} {position : Nat}

theorem strike_of_refused (hrefused : key.Refused editor.mask position) :
    editor.strike field key position = field := by
  cases key with
  | char c =>
    have hnone : editor.insert? field c position = none := by
      rw [insert?_eq, if_neg fun hentered => Bool.eq_false_iff.1 hrefused hentered.1]
    rw [strike, hnone, Option.getD_none]
  | arrowLeft => rw [strike, moveLeft, Mask.previousEditable?_eq_none_iff.2 hrefused]
  | arrowRight => rw [strike, moveRight, Mask.nextEditable?_eq_none_iff.2 hrefused]
  | backspace => rw [strike, clearLeft, Mask.previousEditable?_eq_none_iff.2 hrefused]
  | delete => rw [strike, clearRight, Mask.nextEditable?_eq_none_iff.2 hrefused]
  | tab => rfl
  | named name => rfl

/-- Behind the value there is no slot to enter a character, whatever the mask accepts. -/
theorem strike_char_of_length_le (c : Char) (houtside : field.value.length ≤ position) :
    editor.strike field (.char c) position = field := by
  have hnone : editor.insert? field c position = none := by
    rw [insert?_eq, if_neg fun hentered => Nat.not_lt_of_le houtside hentered.2]
  rw [strike, hnone, Option.getD_none]

/-- In a field that shows a value of which nothing is selected, a key keeps the length of the
value and the selection, and it changes one slot at most: an editable one, in which it leaves
its own character, if the slot accepts it, or the blank if it deletes. A shortcut changes
nothing, nor does a key that finds nothing to do at the host's position or the end, nor a
character behind the value; then the cursor stays too. -/
theorem key_touches_one_slot (hsome : field.value ≠ []) (hunselected : field.wholeSelected = false)
    (stroke : Keystroke) (position : Nat) :
    let next := (editor.press field stroke position).1
    next.value.length = field.value.length ∧ next.wholeSelected = field.wholeSelected ∧
      (∀ slot other : Nat, next.value[slot]? ≠ field.value[slot]? →
        next.value[other]? ≠ field.value[other]? → slot = other) ∧
      (∀ slot : Nat, next.value[slot]? ≠ field.value[slot]? →
        editor.mask.isEditable slot = true ∧
          ∃ c, next.value[slot]? = some c ∧ stroke.key.MayLeave editor.mask slot c) ∧
      (stroke.modifiers.isShortcut = true ∨
          stroke.key.Refused editor.mask (min position field.value.length) ∨
          (∃ c, stroke.key = .char c ∧ field.value.length ≤ position) →
        next = field) := by
  intro next
  have hnext : next = if stroke.isForHost then field
      else editor.strike field stroke.key (min position field.value.length) :=
    editor.press_shown hunselected hsome stroke position
  have hstruck : Struck editor.mask field stroke.key (min position field.value.length) next := by
    rw [hnext]
    split
    · exact .kept
    · exact editor.struck_strike field _ _
  refine ⟨hstruck.length_eq, hstruck.wholeSelected_eq, ?_, ?_, ?_⟩
  · intro slot other hslot hother
    have hwritten : next.value ≠ field.value := fun hsame => hslot (by rw [hsame])
    obtain ⟨target, c, -, -, -, helsewhere⟩ := hstruck.exists_slot_of_ne hwritten
    have hslotTarget : slot = target := by_contra fun hne => hslot (helsewhere slot hne)
    have hotherTarget : other = target := by_contra fun hne => hother (helsewhere other hne)
    rw [hslotTarget, hotherTarget]
  · intro slot hslot
    have hwritten : next.value ≠ field.value := fun hsame => hslot (by rw [hsame])
    obtain ⟨target, c, heditable, hleaves, hc, helsewhere⟩ := hstruck.exists_slot_of_ne hwritten
    obtain rfl : slot = target := by_contra fun hne => hslot (helsewhere slot hne)
    exact ⟨heditable, c, hc, hleaves⟩
  · rintro (hshortcut | hrefused | ⟨c, hkey, houtside⟩)
    · rw [hnext, if_pos (by rw [Keystroke.isForHost, hshortcut, Bool.true_or])]
    · rw [hnext, editor.strike_of_refused field hrefused, ite_self]
    · rw [hnext, hkey, editor.strike_char_of_length_le field c
        (Nat.le_min.2 ⟨houtside, Nat.le_refl _⟩), ite_self]

/-- The value is too short for its mask and does not fit it. The key that deletes backwards
from far behind the end blanks the last slot that the value reaches; a digit that the mask
accepts at the end of the value is refused. -/
theorem key_touches_one_slot_of_a_misfit :
    let mask := Mask.compile ['9', '/', '9', 'A']
    let editor : Editor := ⟨mask, mask.pattern, rfl⟩
    let field : Field := ⟨['x', 'y'], 7, false⟩
    let erased := (editor.press field ⟨.backspace, ⟨false, false, true, false⟩⟩ 99).1
    let typed := (editor.press field (.plain (.char '4')) 99).1
    field.value ≠ [] ∧ field.wholeSelected = false ∧ erased = ⟨['_', 'y'], 0, false⟩ ∧
      erased.value.length = field.value.length ∧ mask.isEditable 0 = true ∧
      mask.accepts field.value.length '4' = true ∧ typed = field := by
  intro mask editor field erased typed
  have hsome : field.value ≠ [] := by decide
  have herased : erased = ⟨['_', 'y'], 0, false⟩ := by decide +kernel
  obtain ⟨hlength, -, -, hslot, -⟩ := editor.key_touches_one_slot field hsome rfl
    ⟨.backspace, ⟨false, false, true, false⟩⟩ 99
  obtain ⟨-, -, -, -, hrefused⟩ := editor.key_touches_one_slot field hsome rfl
    (.plain (.char '4')) 99
  have hblanked : erased.value[0]? ≠ field.value[0]? := by
    rw [herased]
    decide
  exact ⟨hsome, rfl, herased, hlength, (hslot 0 hblanked).1, by decide,
    hrefused (.inr (.inr ⟨'4', rfl, by decide⟩))⟩

end Editor
end MaskedField
