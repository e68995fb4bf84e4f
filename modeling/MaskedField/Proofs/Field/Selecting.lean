/- # How long a selection of the whole value lasts

A field remembers that its whole value is selected until something is entered, the value
is discarded, or another selection is reported. In between come only events that spare the
value, so what the next key finds selected is what the host has selected, character for
character, and the cursor has not moved either.

Whether an event spares the value depends on the value that it finds. The condition on the
events since the selection is therefore stated along the run, each event at its own moment.
-/

import Mathlib.Data.List.Induction
import MaskedField.Proofs.Field.Effect

namespace MaskedField

theorem Selection.coversAll_iff {range : Selection} {length : Nat} :
    range.coversAll length = true ↔
      0 < length ∧ range.start = 0 ∧ range.stop.toNat = length := by
  have hstart : range.start.toNat = 0 ↔ range.start = 0 := UInt64.toNat_inj (b := 0)
  simp [coversAll, hstart, and_assoc]

namespace Affected

variable {mask : Mask} {field next : Field} {event : Event}

/-- An event that spares the value changes nothing in a field that shows one. -/
theorem eq_of_spares (haffected : Affected mask field event next) (hsome : field.value ≠ [])
    (hspares : event.spares field.value = true) : next = field := by
  cases haffected with
  | edited hedits hactive =>
    rw [Event.edits_of_spares hspares] at hedits
    cases hedits
  | shown hempty hactive => exact absurd hempty hsome
  | discarded hblank => simp [Event.spares, hblank] at hspares
  | selected range => cases hspares
  | kept hspares hfocus => rfl

/-- The whole value is selected after an event if the event has just selected it, or if it
was selected and the event spares it. -/
theorem selected_or_spared (haffected : Affected mask field event next)
    (hselected : next.wholeSelected = true) :
    (∃ range : Selection, event = .select range ∧ range.coversAll field.value.length = true) ∨
      (field.wholeSelected = true ∧ event.spares field.value = true) := by
  cases haffected with
  | edited hedits hactive =>
    rw [hactive.unselected] at hselected
    cases hselected
  | shown hempty hactive =>
    rw [hactive.unselected] at hselected
    cases hselected
  | discarded hblank => cases hselected
  | selected range => exact .inl ⟨range, rfl, hselected⟩
  | kept hspares hfocus => exact .inr ⟨hselected, hspares⟩

end Affected

namespace Editor

variable (editor : Editor)

/-- Each event of a run spares the value that it finds. -/
def Spared (field : Field) : List Event → Prop
  | [] => True
  | event :: events =>
    event.spares field.value = true ∧ Spared (editor.apply field event).1 events

/-- The run has selected the whole of a value that is not empty, and every event since then
has spared the value. -/
structure SelectedSince (events before : List Event) (range : Selection) (later : List Event) :
    Prop where
  events_eq : events = before ++ .select range :: later
  start_eq : range.start = 0
  stop_eq : range.stop.toNat = (editor.run .fresh before).value.length
  length_pos : 0 < (editor.run .fresh before).value.length
  spared : editor.Spared (editor.run .fresh (before ++ [.select range])) later

variable {editor} {field : Field} {events before later : List Event} {range : Selection}

theorem spared_concat {event : Event} :
    editor.Spared field (events ++ [event]) ↔
      editor.Spared field events ∧ event.spares (editor.run field events).value = true := by
  induction events generalizing field with
  | nil => simp [Spared, run]
  | cons first events ih =>
    rw [List.cons_append, Spared, Spared, ih, and_assoc]
    rfl

/-- Events that spare a selected value change nothing. -/
theorem run_of_spared (hshaped : field.Shaped editor.mask)
    (hselected : field.wholeSelected = true) (hspared : editor.Spared field later) :
    editor.run field later = field := by
  induction later with
  | nil => rfl
  | cons event later ih =>
    obtain ⟨hspares, hlater⟩ := hspared
    have hkept : (editor.apply field event).1 = field :=
      (editor.affected_apply hshaped event).eq_of_spares (hshaped.selected hselected) hspares
    rw [hkept] at hlater
    rw [run, List.foldl_cons, hkept]
    exact ih hlater

/-- One more event that spares the value. -/
theorem SelectedSince.concat {event : Event}
    (hsince : editor.SelectedSince events before range later)
    (hspares : event.spares (editor.run .fresh events).value = true) :
    editor.SelectedSince (events ++ [event]) before range (later ++ [event]) := by
  have hrun : editor.run .fresh events =
      editor.run (editor.run .fresh (before ++ [.select range])) later := by
    rw [hsince.events_eq, ← run_append, List.append_assoc, List.singleton_append]
  refine ⟨?_, hsince.start_eq, hsince.stop_eq, hsince.length_pos, ?_⟩
  · rw [hsince.events_eq, List.append_assoc, List.cons_append]
  · rw [hrun] at hspares
    exact spared_concat.2 ⟨hsince.spared, hspares⟩

/-- The field is as the selection has found it, but for the selection. -/
theorem SelectedSince.run_eq (hsince : editor.SelectedSince events before range later) :
    editor.run .fresh events = { editor.run .fresh before with wholeSelected := true } := by
  have hcovers : range.coversAll (editor.run .fresh before).value.length = true :=
    Selection.coversAll_iff.2 ⟨hsince.length_pos, hsince.start_eq, hsince.stop_eq⟩
  have hselect : editor.run .fresh (before ++ [.select range]) =
      { editor.run .fresh before with wholeSelected := true } := by
    rw [run_append, ← hcovers]
    rfl
  have hspared := hsince.spared
  have hshaped := editor.shaped_run (before ++ [.select range])
  rw [hselect] at hspared hshaped
  rw [hsince.events_eq, ← List.singleton_append, ← List.append_assoc, run_append, hselect]
  exact run_of_spared hshaped rfl hspared

variable (editor)

/-- A selection that is on record was reported at some point of the run, and has been
spared since. -/
theorem exists_selectedSince (events : List Event)
    (hselected : (editor.run .fresh events).wholeSelected = true) :
    ∃ before range later, editor.SelectedSince events before range later := by
  induction events using List.reverseRecOn with
  | nil => cases hselected
  | append_singleton events event ih =>
    rw [run_append] at hselected
    rcases (editor.affected_apply (editor.shaped_run events) event).selected_or_spared hselected
      with ⟨range, rfl, hcovers⟩ | ⟨hearlier, hspares⟩
    · obtain ⟨hlength, hstart, hstop⟩ := Selection.coversAll_iff.1 hcovers
      exact ⟨events, range, [], rfl, hstart, hstop, hlength, trivial⟩
    · obtain ⟨before, range, later, hsince⟩ := ih hearlier
      exact ⟨before, range, later ++ [event], hsince.concat hspares⟩

/-- After a run the whole value is on record as selected exactly if some event of the run
was a selection from the start of a value to its end, and each later event spares the value:
the focus, a key left to the host, a typed run without characters, or the loss of the focus
while the value has no blank. The value and the cursor are then those that the selection
has found. -/
theorem selection_lasts_while_spared (events : List Event) :
    let field := editor.run .fresh events
    (field.wholeSelected = true ↔
      ∃ before range later, editor.SelectedSince events before range later) ∧
      ∀ before range later, editor.SelectedSince events before range later →
        field.value = (editor.run .fresh before).value ∧
          field.cursor = (editor.run .fresh before).cursor := by
  intro field
  have hrun {before : List Event} {range : Selection} {later : List Event}
      (hsince : editor.SelectedSince events before range later) :
      field = { editor.run .fresh before with wholeSelected := true } := hsince.run_eq
  refine ⟨⟨editor.exists_selectedSince events, ?_⟩, ?_⟩
  · rintro ⟨before, range, later, hsince⟩
    rw [hrun hsince]
  · intro before range later hsince
    rw [hrun hsince]
    exact ⟨rfl, rfl⟩

end Editor
end MaskedField
