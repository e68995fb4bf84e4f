/- # Keys at positions of the host

A key that the host presses at a position of its own, in a field that shows a value of
which nothing is selected, writes into one slot or into none. Which slot it is follows
from the mask, the key and the position alone: what the value holds, where the cursor is
and which keys came before make no difference. So a run of such keys is a series of
writes, each slot keeps the last one meant for it, and keys meant for different slots
can change places.

Nothing is said about the cursor after such a run, which does depend on the order, nor
about keys at the field's own cursor.
-/

import MaskedField.Proofs.Field.Readiness
import MaskedField.Proofs.Field.Run
import MaskedField.Proofs.Field.Strike
import MaskedField.Proofs.Mask.Positions

namespace MaskedField

namespace Key

/-- The slot that a key writes into from a position: the slot at the position, if it
accepts the character, or the nearest editable slot on the side of a key that deletes. -/
def target? (mask : Mask) (position : Nat) : Key → Option Nat
  | char c => if mask.accepts position c then some position else none
  | backspace => (mask.editablePositions.filter (· < position)).max?
  | delete => (mask.editablePositions.filter (position < ·)).min?
  | arrowLeft => none
  | arrowRight => none
  | tab => none
  | named _ => none

/-- What a key writes: its character, or the blank. -/
def mark : Key → Char
  | char c => c
  | _ => blank

variable {mask : Mask} {key : Key} {position slot : Nat}

theorem isEditable_of_target? (htarget : key.target? mask position = some slot) :
    mask.isEditable slot = true := by
  cases key with
  | char c =>
    obtain ⟨haccepts, hslot⟩ := Option.ite_none_right_eq_some.1 htarget
    obtain rfl := Option.some.inj hslot
    exact Mask.isEditable_of_accepts haccepts
  | backspace =>
    exact (Mask.mem_filter_editablePositions_iff.1 (List.max?_eq_some_iff.1 htarget).1).1
  | delete =>
    exact (Mask.mem_filter_editablePositions_iff.1 (List.min?_eq_some_iff.1 htarget).1).1
  | arrowLeft => cases htarget
  | arrowRight => cases htarget
  | tab => cases htarget
  | named name => cases htarget

end Key

/-- A key that the host presses at a position of its own. -/
structure HostKey where
  stroke : Keystroke
  position : UInt64
  deriving DecidableEq

namespace HostKey

def event (key : HostKey) : Event :=
  .key key.stroke (some key.position)

/-- The slot that the key is meant for. A position past the end counts as the end, and a
key that is left to the host is meant for none. -/
def target? (mask : Mask) (key : HostKey) : Option Nat :=
  if key.stroke.isForHost then none
  else key.stroke.key.target? mask (min key.position.toNat mask.length)

def targets (mask : Mask) (slot : Nat) (key : HostKey) : Bool :=
  key.target? mask == some slot

theorem isEditable_of_target? {mask : Mask} {key : HostKey} {slot : Nat}
    (htarget : key.target? mask = some slot) : mask.isEditable slot = true := by
  rw [target?, Option.ite_none_left_eq_some] at htarget
  exact Key.isEditable_of_target? htarget.2

end HostKey

/-- A field on which a key acts as it is: it shows one character for each slot, be it one
that the slot can show or not, and nothing is selected. -/
structure Field.Ready (mask : Mask) (field : Field) : Prop where
  nonempty : field.value ≠ []
  length_eq : field.value.length = mask.length
  unselected : field.wholeSelected = false

namespace Editor

variable (editor : Editor) {field : Field}

/-- A key writes its mark into its target, and nothing anywhere else. -/
theorem value_strike (hlength : field.value.length = editor.mask.length) (key : Key)
    (position : Nat) :
    (editor.strike field key position).value =
      (key.target? editor.mask position).elim field.value (field.value.set · key.mark) := by
  have hinside {slot : Nat} (htarget : key.target? editor.mask position = some slot) :
      slot < field.value.length :=
    hlength ▸ Mask.lt_length_of_isEditable (Key.isEditable_of_target? htarget)
  cases key with
  | char c =>
    rw [strike, insert?_eq]
    by_cases haccepts : editor.mask.accepts position c = true
    · have htarget : (Key.char c).target? editor.mask position = some position :=
        if_pos haccepts
      rw [htarget, if_pos ⟨haccepts, hinside htarget⟩]
      rfl
    · have htarget : (Key.char c).target? editor.mask position = none := if_neg haccepts
      rw [htarget, if_neg fun hentered => haccepts hentered.1]
      rfl
  | arrowLeft =>
    rw [strike, moveLeft]
    split <;> rfl
  | arrowRight =>
    rw [strike, moveRight]
    split <;> rfl
  | backspace =>
    have hprevious : editor.mask.previousEditable? position =
        Key.backspace.target? editor.mask position :=
      editor.mask.previousEditable?_eq position
    cases htarget : Key.backspace.target? editor.mask position with
    | none =>
      rw [strike, clearLeft, hprevious, htarget]
      rfl
    | some slot =>
      rw [strike, editor.clearLeft_of_previous field position (hprevious.trans htarget),
        if_pos (hinside htarget)]
      rfl
  | delete =>
    have hnext : editor.mask.nextEditable? position =
        Key.delete.target? editor.mask position :=
      editor.mask.nextEditable?_eq position
    cases htarget : Key.delete.target? editor.mask position with
    | none =>
      rw [strike, clearRight, hnext, htarget]
      rfl
    | some slot =>
      rw [strike, editor.clearRight_of_next field position (hnext.trans htarget),
        if_pos (hinside htarget)]
      rfl
  | tab => rfl
  | named name => rfl

/-- A key acts on a field that is ready for it as it is, at the position of the host. -/
theorem apply_event_of_ready (hready : field.Ready editor.mask) (key : HostKey) :
    (editor.apply field key.event).1 =
      if key.stroke.isForHost then field
      else editor.strike field key.stroke.key (min key.position.toNat editor.mask.length) := by
  rw [HostKey.event, apply, Option.map_some, Option.getD_some,
    editor.press_shown hready.unselected hready.nonempty, hready.length_eq]

/-- It stays ready for the next one. -/
theorem ready_apply_event (hready : field.Ready editor.mask) (key : HostKey) :
    (editor.apply field key.event).1.Ready editor.mask := by
  rw [editor.apply_event_of_ready hready]
  split
  · exact hready
  · have hstruck := editor.struck_strike field
      (min key.position.toNat editor.mask.length) key.stroke.key
    have hlength := hstruck.length_eq
    refine ⟨?_, hlength.trans hready.length_eq, hstruck.wholeSelected_eq.trans hready.unselected⟩
    rw [← List.length_pos_iff, hlength]
    exact List.length_pos_iff.2 hready.nonempty

/-- A key of the host writes its mark into its target, and nothing anywhere else. -/
theorem value_apply_event (hready : field.Ready editor.mask) (key : HostKey) :
    (editor.apply field key.event).1.value =
      (key.target? editor.mask).elim field.value (field.value.set · key.stroke.key.mark) := by
  rw [editor.apply_event_of_ready hready, HostKey.target?]
  split
  · rfl
  · exact editor.value_strike hready.length_eq _ _

theorem getElem?_value_apply_event (hready : field.Ready editor.mask) (key : HostKey)
    (slot : Nat) :
    (editor.apply field key.event).1.value[slot]? =
      if key.targets editor.mask slot then some key.stroke.key.mark else field.value[slot]? := by
  rw [editor.value_apply_event hready, HostKey.targets]
  cases htarget : key.target? editor.mask with
  | none => rfl
  | some target =>
    have hinside : target < field.value.length :=
      hready.length_eq ▸ Mask.lt_length_of_isEditable (HostKey.isEditable_of_target? htarget)
    rw [Option.elim_some, List.getElem?_set, if_pos hinside, Option.some_beq_some]
    by_cases hslot : target = slot
    · rw [if_pos hslot, if_pos (beq_iff_eq.2 hslot)]
    · rw [if_neg hslot, if_neg fun hequal => hslot (beq_iff_eq.1 hequal)]

/-- After a run of keys every slot shows what the last one of those meant for it wrote. -/
theorem getElem?_value_run (hready : field.Ready editor.mask) (keys : List HostKey)
    (slot : Nat) :
    (editor.run field (keys.map HostKey.event)).value[slot]? =
      ((keys.filter (HostKey.targets editor.mask slot)).getLast?.map
        fun last => last.stroke.key.mark).or field.value[slot]? := by
  induction keys generalizing field with
  | nil => rfl
  | cons key keys ih =>
    have hrun : editor.run field ((key :: keys).map HostKey.event) =
        editor.run (editor.apply field key.event).1 (keys.map HostKey.event) := rfl
    rw [hrun, ih (editor.ready_apply_event hready key),
      editor.getElem?_value_apply_event hready]
    by_cases htargets : key.targets editor.mask slot = true
    · rw [if_pos htargets, List.filter_cons_of_pos htargets, List.getLast?_cons]
      -- The key counts if no later one is meant for its slot.
      cases (keys.filter (HostKey.targets editor.mask slot)).getLast? <;> rfl
    · rw [if_neg htargets, List.filter_cons_of_neg htargets]

/-- In a field that shows one character for each slot and of which nothing is selected,
keys at positions of the host leave each slot with what the last key meant for it wrote,
and a slot that no key is meant for as it was. What counts is only which keys are meant
for a slot and in which order: keys put in another order, with those for the same slot
as they were, leave the same value. -/
theorem last_key_wins_each_slot (field : Field) (hsome : field.value ≠ [])
    (hlength : field.value.length = editor.mask.length)
    (hunselected : field.wholeSelected = false) (keys : List HostKey) :
    let value := (editor.run field (keys.map HostKey.event)).value
    (∀ slot : Nat, value[slot]? =
      match (keys.filter (HostKey.targets editor.mask slot)).getLast? with
      | some last => some last.stroke.key.mark
      | none => field.value[slot]?) ∧
    ∀ reordered : List HostKey,
      (∀ slot, reordered.filter (HostKey.targets editor.mask slot) =
        keys.filter (HostKey.targets editor.mask slot)) →
      (editor.run field (reordered.map HostKey.event)).value = value := by
  intro value
  have hready : field.Ready editor.mask := ⟨hsome, hlength, hunselected⟩
  constructor
  · intro slot
    have hslot := editor.getElem?_value_run hready keys slot
    cases hlast : (keys.filter (HostKey.targets editor.mask slot)).getLast? with
    | none => rwa [hlast] at hslot
    | some last => rwa [hlast] at hslot
  · intro reordered hsame
    apply List.ext_getElem?
    intro slot
    rw [editor.getElem?_value_run hready, editor.getElem?_value_run hready, hsame slot]

/-- The value does not fit its mask. The first slot is written twice; the key that deletes
is meant for the slot behind the literal, and may come before or after the other two. -/
theorem last_key_wins_in_a_misfit :
    let mask := Mask.compile ['9', '/', 'A']
    let editor : Editor := ⟨mask, mask.pattern, rfl⟩
    let field : Field := ⟨['x', 'y', 'z'], 8, false⟩
    let one : HostKey := ⟨.plain (.char '1'), 0⟩
    let two : HostKey := ⟨.plain (.char '2'), 0⟩
    let delete : HostKey := ⟨.plain .delete, 1⟩
    field.value ≠ [] ∧ field.value.length = mask.length ∧ field.wholeSelected = false ∧
      (editor.run field ([one, delete, two].map HostKey.event)).value = ['2', 'y', '_'] ∧
      (editor.run field ([delete, one, two].map HostKey.event)).value = ['2', 'y', '_'] := by
  intro mask editor field one two delete
  have hsome : field.value ≠ [] := by decide
  obtain ⟨-, hreordered⟩ := editor.last_key_wins_each_slot field hsome rfl rfl [one, delete, two]
  have hvalue : (editor.run field ([one, delete, two].map HostKey.event)).value =
      ['2', 'y', '_'] := by decide +kernel
  have hsame (slot : Nat) :
      [delete, one, two].filter (HostKey.targets mask slot) =
        [one, delete, two].filter (HostKey.targets mask slot) := by
    have hone : one.target? mask = some 0 := by decide +kernel
    have hdelete : delete.target? mask = some 2 := by decide +kernel
    have htwo : two.target? mask = some 0 := by decide +kernel
    by_cases hslot : 0 = slot
    · simp [HostKey.targets, hone, htwo, hdelete, ← hslot]
    · simp [List.filter_cons, HostKey.targets, hone, htwo, hdelete, hslot]
  exact ⟨hsome, rfl, rfl, hvalue, (hreordered _ hsame).trans hvalue⟩

end Editor
end MaskedField
