/- # The lifecycle of a value

Whether a value is complete is decided twice: `Field.phase` and `Editor.blur` look
for a blank, and `Editor.isComplete` asks the matcher. In a field that has its
shape the first test never claims more than the second, so what survives the loss
of the focus is a complete value. The converse does not hold: a slot for any
character may be filled with the very character that marks a blank.

Only the loss of the focus makes a field empty again, and only by discarding a value with
a blank. What ends the emptiness is the focus, or anything entered; a key without a use
and a paste of no text do it too, since the field shows the placeholder first. Under a mask
without slots there is nothing to show, and a field never changes.
-/

import MaskedField.Proofs.Field.Effect

namespace MaskedField

namespace Field

theorem phase_eq_complete_iff {field : Field} :
    field.phase = .complete ↔ field.value ≠ [] ∧ blank ∉ field.value := by
  rw [phase]
  by_cases hempty : field.value = []
  · simp [hempty]
  · by_cases hblank : blank ∈ field.value <;> simp [hempty, hblank]

theorem phase_eq_empty_iff {field : Field} : field.phase = .empty ↔ field.value = [] := by
  rw [phase]
  by_cases hempty : field.value = []
  · simp [hempty]
  · by_cases hblank : blank ∈ field.value <;> simp [hempty, hblank]

/-- A field that is ready for a key is not empty, if its mask has slots. -/
theorem Active.value_ne_nil {mask : Mask} {field : Field} (hactive : field.Active mask)
    (hslots : 0 < mask.length) : field.value ≠ [] := by
  apply List.ne_nil_of_length_pos
  rwa [hactive.fits.length_eq]

/-- Under a mask without slots a field stays fresh. -/
theorem Shaped.eq_fresh_of_length {mask : Mask} {field : Field} (hshaped : field.Shaped mask)
    (hslots : mask.length = 0) : field = fresh := by
  apply hshaped.eq_fresh
  rcases hshaped.fits with hempty | hfits
  · exact hempty
  · exact List.length_eq_zero_iff.1 (hfits.length_eq.trans hslots)

end Field

/-- What an event leaves is empty if it discards the value, or if the field was empty and
the event neither brings the focus nor enters anything. -/
theorem Affected.value_eq_nil_iff {mask : Mask} {field next : Field} {event : Event}
    (hslots : 0 < mask.length) (haffected : Affected mask field event next) :
    next.value = [] ↔
      (event = .blur ∧ blank ∈ field.value) ∨
        (field.value = [] ∧ ¬ (event = .focus ∨ event.edits = true)) := by
  cases haffected with
  | edited hedits hactive =>
    have hblur : event ≠ .blur := by
      rintro rfl
      cases hedits
    simp [hactive.value_ne_nil hslots, hblur, hedits]
  | shown hempty hactive => simp [hactive.value_ne_nil hslots]
  | discarded hblank => simp [hblank, Field.fresh]
  | selected range => simp [Event.edits]
  | kept hspares hfocus =>
    by_cases hempty : field.value = []
    · have hidle : ¬ (event = .focus ∨ event.edits = true) := by
        rintro (rfl | hedits)
        · exact hfocus rfl hempty
        · rw [Event.edits_of_spares hspares] at hedits
          cases hedits
      simp [hempty, hidle]
    · have hblur : ¬ (event = .blur ∧ blank ∈ field.value) := by
        rintro ⟨rfl, hblank⟩
        simp [Event.spares, hblank] at hspares
      simp [hempty, hblur]

namespace Editor

variable (editor : Editor) {field : Field}

/-- A value without a blank in a field that has its shape is a complete value. -/
theorem isComplete_of_shaped (hshaped : field.Shaped editor.mask) (hnonempty : field.value ≠ [])
    (hfilled : blank ∉ field.value) : editor.isComplete field.value = true := by
  have hfits := hshaped.fits.resolve_left hnonempty
  exact (editor.isComplete_iff field.value).2 (hfits.completed hfilled)

/-- In every state that a run can reach, a field whose phase is complete holds a
complete value. The loss of the focus then does one of two things: a value with a
blank is discarded with everything else, and that is a change; a value without one
stays with the whole state, and it is empty or complete. -/
theorem blur_leaves_complete_values (events : List Event) :
    let field := editor.run .fresh events
    let blurred := (editor.apply field .blur).1
    (field.phase = .complete → editor.isComplete field.value = true) ∧
      ((blank ∈ field.value ∧ blurred = .fresh ∧ blurred ≠ field) ∨
        (blank ∉ field.value ∧ blurred = field ∧
          (field.value = [] ∨ editor.isComplete field.value = true))) := by
  intro field blurred
  have hshaped : field.Shaped editor.mask := editor.shaped_run events
  constructor
  · intro hphase
    obtain ⟨hnonempty, hfilled⟩ := Field.phase_eq_complete_iff.1 hphase
    exact editor.isComplete_of_shaped hshaped hnonempty hfilled
  · by_cases hblank : blank ∈ field.value
    · have hfresh : blurred = .fresh := editor.blur_of_mem hblank
      refine .inl ⟨hblank, hfresh, ?_⟩
      intro hsame
      rw [← hsame, hfresh] at hblank
      cases hblank
    · refine .inr ⟨hblank, editor.blur_of_not_mem hblank, ?_⟩
      by_cases hempty : field.value = []
      · exact .inl hempty
      · exact .inr (editor.isComplete_of_shaped hshaped hempty hblank)

/-- Under a mask with slots, a value that a run has reached becomes empty exactly if the
focus is lost while there is a blank in it; a complete field is never emptied. An empty
value gives way to one that is not exactly at the focus, at a paste of any text, at a typed
run with characters in it, and at a key that is not left to the host. Under a mask without
slots no run leads anywhere. -/
theorem emptiness_follows_the_lifecycle (events : List Event) (event : Event) :
    let field := editor.run .fresh events
    let next := (editor.apply field event).1
    (0 < editor.mask.length →
      (field.value ≠ [] → (next.value = [] ↔ event = .blur ∧ blank ∈ field.value)) ∧
        (field.phase = .complete → next.phase ≠ .empty) ∧
        (field.value = [] → (next.value ≠ [] ↔ event = .focus ∨ event.edits = true))) ∧
      (editor.mask.length = 0 → field = .fresh) := by
  intro field next
  have hshaped : field.Shaped editor.mask := editor.shaped_run events
  refine ⟨?_, hshaped.eq_fresh_of_length⟩
  intro hslots
  have hnext := (editor.affected_apply hshaped event).value_eq_nil_iff hslots
  refine ⟨?_, ?_, ?_⟩
  · intro hsome
    rw [hnext]
    simp [hsome]
  · intro hcomplete
    obtain ⟨hsome, hfilled⟩ := Field.phase_eq_complete_iff.1 hcomplete
    rw [Ne, Field.phase_eq_empty_iff, hnext]
    simp [hsome, hfilled]
  · intro hempty
    rw [Ne, hnext]
    simp [hempty, or_iff_not_imp_left]

end Editor
end MaskedField
