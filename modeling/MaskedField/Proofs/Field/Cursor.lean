/- # Where the cursor rests

While a field shows a value, its cursor is at an editable slot or behind the last slot.
Whatever moves the cursor takes the new place from the mask: it is found by a search for
an editable slot, it is the first blank of a value that fits, or it is the end. Only the
key that deletes forwards leaves the cursor where the host has pressed it. The host may
press every other key anywhere, on a literal or past the end; pressed on a literal, this
one key would leave the cursor there.
-/

import MaskedField.Proofs.Field.Shape
import MaskedField.Proofs.Mask.Blanks

namespace MaskedField

/-- The host presses the key that deletes forwards with its cursor on a literal. -/
def Event.deletesFromLiteral (mask : Mask) : Event → Bool
  | .key ⟨.delete, _⟩ (some position) =>
    (mask.slot? position.toNat).any fun slot => !slot.isEditable
  | _ => false

/-- What can be relied on while no such key is pressed: the shape of the field, and the
cursor off the literals. -/
structure Field.Settled (mask : Mask) (field : Field) : Prop where
  shaped : field.Shaped mask
  rests : field.value ≠ [] → mask.Rests field.cursor

/-- A position that is not on a literal is a place for the cursor, or past the end. -/
theorem Mask.rests_min {mask : Mask} {position : Nat}
    (hliteral : (mask.slot? position).any (fun slot => !slot.isEditable) = false) :
    mask.Rests (min position mask.length) := by
  by_cases hinside : position < mask.length
  · obtain ⟨slot, hslot⟩ : ∃ slot, mask.slot? position = some slot :=
      ⟨_, List.getElem?_eq_getElem hinside⟩
    rw [hslot, Option.any_some, Bool.not_eq_false'] at hliteral
    rw [Nat.min_eq_left (Nat.le_of_lt hinside)]
    exact .inl (by rwa [isEditable, hslot, Option.any_some])
  · exact .inr (Nat.min_eq_right (Nat.le_of_not_lt hinside))

/-- A key leaves the cursor off the literals, unless it deletes forwards from one. -/
theorem Struck.rests {mask : Mask} {field next : Field} {key : Key} {position : Nat}
    (hlength : field.value.length = mask.length) (hrests : mask.Rests field.cursor)
    (hposition : key = .delete → mask.Rests position)
    (hstruck : Struck mask field key position next) : mask.Rests next.cursor := by
  cases hstruck with
  | kept => exact hrests
  | moved target heditable hkey => exact .inl heditable
  | written target c cursor hinside heditable hc hcursor =>
    rcases hcursor with hcursor | rfl | ⟨hkey, rfl⟩
    · exact .inl hcursor
    · exact .inr hlength
    · exact hposition hkey

namespace Editor

variable (editor : Editor) {field : Field}

/-- A paste puts the cursor off the literals, whichever way the text is taken. -/
theorem rests_paste (field : Field) (text : List Char) :
    editor.mask.Rests (editor.paste field text).cursor := by
  rw [paste]
  split
  · next hcomplete => exact ((editor.isComplete_iff text).1 hcomplete).fits.rests_firstBlank?
  · exact editor.mask.rests_place text

/-- A field that is ready for a key has its cursor off the literals. So is the position
where the key acts, if the host's position is. -/
theorem rests_ready (hsettled : field.Settled editor.mask) (position : Nat) :
    editor.mask.Rests (editor.ready field position).1.cursor ∧
      ((field.value ≠ [] → editor.mask.Rests (min position field.value.length)) →
        editor.mask.Rests (editor.ready field position).2) := by
  rcases field.anew_or_shown with hanew | ⟨hunselected, hsome⟩
  · rw [editor.ready_anew hanew]
    exact ⟨editor.rests_home, fun _ => editor.rests_home⟩
  · rw [editor.ready_shown hunselected hsome]
    exact ⟨hsettled.rests hsome, fun hposition => hposition hsome⟩

theorem settled_press (hsettled : field.Settled editor.mask) (stroke : Keystroke)
    (position : Nat)
    (hposition : stroke.key = .delete → field.value ≠ [] →
      editor.mask.Rests (min position field.value.length)) :
    (editor.press field stroke position).1.Settled editor.mask where
  shaped := editor.shaped_press hsettled.shaped stroke position
  rests := by
    rw [press_fst]
    split
    · exact hsettled.rests
    · intro _
      obtain ⟨hcursor, hstart⟩ := editor.rests_ready hsettled position
      have hlength := (editor.active_ready hsettled.shaped position).1.fits.length_eq
      have hstruck := editor.struck_strike (editor.ready field position).1
        (editor.ready field position).2 stroke.key
      exact hstruck.rests hlength hcursor fun hkey => hstart (hposition hkey)

theorem settled_focus (hsettled : field.Settled editor.mask) :
    (editor.focus field).Settled editor.mask where
  shaped := editor.shaped_focus hsettled.shaped
  rests := by
    rw [focus]
    split
    · exact fun _ => editor.rests_home
    · exact hsettled.rests

theorem settled_blur (hsettled : field.Settled editor.mask) :
    (editor.blur field).Settled editor.mask where
  shaped := editor.shaped_blur hsettled.shaped
  rests := by
    rw [blur]
    split
    · exact fun hsome => absurd rfl hsome
    · exact hsettled.rests

/-- Every event but the one keeps the cursor off the literals. -/
theorem settled_apply (field : Field) (event : Event)
    (hspared : event.deletesFromLiteral editor.mask = false)
    (hsettled : field.Settled editor.mask) :
    (editor.apply field event).1.Settled editor.mask := by
  cases event with
  | focus => exact editor.settled_focus hsettled
  | blur => exact editor.settled_blur hsettled
  | select range => exact ⟨editor.shaped_select hsettled.shaped range, hsettled.rests⟩
  | key stroke position? =>
    obtain ⟨key, modifiers⟩ := stroke
    apply editor.settled_press hsettled
    rintro rfl hsome
    cases position? with
    | none =>
      rw [Option.map_none, Option.getD_none, Nat.min_eq_left hsettled.shaped.cursor_le]
      exact hsettled.rests hsome
    | some position =>
      rw [(hsettled.shaped.fits.resolve_left hsome).length_eq]
      exact Mask.rests_min hspared
  | paste text =>
    exact ⟨(editor.active_paste field text).shaped, fun _ => editor.rests_paste field text⟩
  | type text =>
    refine editor.typeText_preserves ?_ text field hsettled
    intro current c hcurrent
    exact editor.settled_press hcurrent _ _ fun hkey => nomatch hkey

/-- After any run in which the host does not delete forwards from a literal, the cursor
of a field that shows a value is at an editable slot or behind the last one. Every other
key may be pressed at any position, and so may this one off the literals. -/
theorem cursor_rests_off_literals (events : List Event)
    (hspared : ∀ event ∈ events, event.deletesFromLiteral editor.mask = false) :
    let field := editor.run .fresh events
    field.value ≠ [] →
      editor.mask.isEditable field.cursor = true ∨ field.cursor = editor.mask.length := by
  intro field
  have hfresh : Field.fresh.Settled editor.mask :=
    ⟨Field.shaped_fresh editor.mask, fun hsome => absurd rfl hsome⟩
  have hsettled : field.Settled editor.mask :=
    editor.run_preserves_of_mem
      (fun event hevent field => editor.settled_apply field event (hspared event hevent))
      .fresh hfresh
  exact hsettled.rests

/-- Keys on a literal, past the end and at the greatest position of all, among them the
one that deletes forwards at a slot and past the end. -/
theorem cursor_rests_after_distant_keys :
    let mask := Mask.compile ['(', '9', ')', '9']
    let editor : Editor := ⟨mask, mask.pattern, rfl⟩
    let events : List Event :=
      [.type ['1', '2'], .key (.plain .delete) (some 1), .key (.plain .backspace) (some 2),
        .key (.plain (.char '7')) (some 0), .key (.plain .delete) (some (-1)),
        .key (.plain .arrowLeft) (some 2)]
    let field := editor.run .fresh events
    (∀ event ∈ events, event.deletesFromLiteral mask = false) ∧ field.value ≠ [] ∧
      (mask.isEditable field.cursor = true ∨ field.cursor = mask.length) := by
  intro mask editor events field
  have hspared : ∀ event ∈ events, event.deletesFromLiteral mask = false := by
    simp only [events, List.forall_mem_cons]
    decide +kernel
  have hsome : field.value ≠ [] := by decide +kernel
  exact ⟨hspared, hsome, editor.cursor_rests_off_literals events hspared hsome⟩

-- The condition is needed: deleting forwards from a literal leaves the cursor on it.
example :
    let mask := Mask.compile ['(', '9', ')', '9']
    let editor : Editor := ⟨mask, mask.pattern, rfl⟩
    let field := editor.run .fresh [.focus, .key (.plain .delete) (some 2)]
    field.cursor = 2 ∧ mask.slot? 2 = some (.literal ')') := by
  decide +kernel

end Editor
end MaskedField
