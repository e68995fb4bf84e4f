/- # The shape of a field

However a field is used, its value is empty or fits its mask slot by slot, its
cursor stays inside the value, and a selection of the whole value is only on
record while there is a value. Only `Editor.paste` can take a text as it is, and
it asks the matcher first; that the matcher lets nothing through that does not
fit is where this theory needs the other description of complete values.
-/

import MaskedField.Proofs.Field.Readiness
import MaskedField.Proofs.Field.Run
import MaskedField.Proofs.Field.Strike
import MaskedField.Proofs.Mask.Matching

namespace MaskedField

namespace Field

/-- What can be relied on in every state of a field. -/
structure Shaped (mask : Mask) (field : Field) : Prop where
  /-- The value is empty, or it has one character for each slot, and each slot
  can show its character. -/
  fits : field.value = [] ∨ mask.Fits field.value
  cursor_le : field.cursor ≤ field.value.length
  /-- Only a value that is not empty is ever wholly selected. -/
  selected : field.wholeSelected = true → field.value ≠ []

/-- A field that is ready for a key: it shows a value and nothing is selected. -/
structure Active (mask : Mask) (field : Field) : Prop where
  fits : mask.Fits field.value
  cursor_le : field.cursor ≤ mask.length
  unselected : field.wholeSelected = false

variable {mask : Mask} {field : Field}

theorem Active.shaped (hactive : field.Active mask) : field.Shaped mask where
  fits := .inr hactive.fits
  cursor_le := hactive.fits.length_eq ▸ hactive.cursor_le
  selected := fun hselected => by simp [hactive.unselected] at hselected

theorem shaped_fresh (mask : Mask) : fresh.Shaped mask where
  fits := .inl rfl
  cursor_le := Nat.le_refl 0
  selected := fun hselected => by cases hselected

/-- With an empty value there is nothing left to tell apart. -/
theorem Shaped.eq_fresh (hshaped : field.Shaped mask) (hempty : field.value = []) :
    field = fresh := by
  have hcursor : field.cursor = 0 := by simpa [hempty] using hshaped.cursor_le
  have hunselected : field.wholeSelected = false :=
    Bool.eq_false_iff.2 fun hselected => hshaped.selected hselected hempty
  exact Field.ext hempty hcursor hunselected

/-- No key spoils a field that is ready for it. -/
theorem Active.struck {next : Field} {key : Key} {position : Nat} (hactive : field.Active mask)
    (hposition : position ≤ mask.length) (hstruck : Struck mask field key position next) :
    next.Active mask := by
  cases hstruck with
  | kept => exact hactive
  | moved target heditable hkey =>
    exact ⟨hactive.fits, Nat.le_of_lt (Mask.lt_length_of_isEditable heditable),
      hactive.unselected⟩
  | written target c cursor hinside heditable hc hcursor =>
    refine ⟨hactive.fits.set target c ?_, ?_, hactive.unselected⟩
    · intro slot hslot
      rcases hc with ⟨-, haccepts⟩ | ⟨rfl, -⟩
      · simp only [Mask.accepts, hslot, Option.any_some] at haccepts
        exact Slot.shows_of_accepts haccepts
      · simp only [Mask.isEditable, hslot, Option.any_some] at heditable
        exact Slot.shows_blank heditable
    · rcases hcursor with hcursor | rfl | ⟨-, rfl⟩
      · exact Nat.le_of_lt (Mask.lt_length_of_isEditable hcursor)
      · exact Nat.le_of_eq hactive.fits.length_eq
      · exact hposition

end Field

namespace Editor

variable (editor : Editor) {field : Field}

theorem rests_home : editor.mask.Rests editor.home :=
  Mask.rests_getD fun _ hfirst => (Mask.firstEditable?_eq_some_iff.1 hfirst).1

/-- A fresh field that gains the focus is ready for a key. -/
theorem active_focus_fresh : (editor.focus .fresh).Active editor.mask where
  fits := editor.mask.fits_placeholder
  cursor_le := editor.rests_home.le
  unselected := rfl

/-- Whatever the host says, a key acts on a field that is ready for it, at a
position inside the value. -/
theorem active_ready (hshaped : field.Shaped editor.mask) (position : Nat) :
    (editor.ready field position).1.Active editor.mask ∧
      (editor.ready field position).2 ≤ editor.mask.length := by
  rcases field.anew_or_shown with hanew | ⟨hunselected, hsome⟩
  · rw [editor.ready_anew hanew]
    exact ⟨editor.active_focus_fresh, editor.rests_home.le⟩
  · have hfits := hshaped.fits.resolve_left hsome
    have hcursor := hshaped.cursor_le
    rw [hfits.length_eq] at hcursor
    rw [editor.ready_shown hunselected hsome]
    exact ⟨⟨hfits, hcursor, hunselected⟩,
      hfits.length_eq ▸ Nat.min_le_right position field.value.length⟩

/-- A key that the field takes leaves it ready for the next one. -/
theorem active_press (hshaped : field.Shaped editor.mask) {stroke : Keystroke}
    (hown : stroke.isForHost = false) (position : Nat) :
    (editor.press field stroke position).1.Active editor.mask := by
  obtain ⟨hactive, hstart⟩ := editor.active_ready hshaped position
  rw [editor.press_own hown]
  exact hactive.struck hstart (editor.struck_strike _ _ _)

theorem shaped_press (hshaped : field.Shaped editor.mask) (stroke : Keystroke) (position : Nat) :
    (editor.press field stroke position).1.Shaped editor.mask := by
  cases hhost : stroke.isForHost with
  | true => rwa [press_fst, if_pos hhost]
  | false => exact (editor.active_press hshaped hhost position).shaped

/-- A paste leaves a value that fits, whichever way the text is taken. -/
theorem active_paste (field : Field) (text : List Char) :
    (editor.paste field text).Active editor.mask := by
  rw [paste]
  split
  · next hcomplete =>
    have hfits := ((editor.isComplete_iff text).1 hcomplete).fits
    exact ⟨hfits, hfits.rests_firstBlank?.le, rfl⟩
  · exact ⟨editor.mask.fits_place text, (editor.mask.rests_place text).le, rfl⟩

theorem shaped_select (hshaped : field.Shaped editor.mask) (range : Selection) :
    (editor.select field range).Shaped editor.mask where
  fits := hshaped.fits
  cursor_le := hshaped.cursor_le
  selected := by
    intro hselected hempty
    simp [select, Selection.coversAll, show field.value = [] from hempty] at hselected

theorem shaped_focus (hshaped : field.Shaped editor.mask) :
    (editor.focus field).Shaped editor.mask := by
  by_cases hempty : field.value = []
  · obtain rfl := hshaped.eq_fresh hempty
    exact editor.active_focus_fresh.shaped
  · rwa [focus, if_neg (by simpa using hempty)]

theorem blur_of_mem (hblank : blank ∈ field.value) : editor.blur field = .fresh :=
  if_pos (List.contains_iff_mem.2 hblank)

theorem blur_of_not_mem (hfilled : blank ∉ field.value) : editor.blur field = field :=
  if_neg fun hcontains => hfilled (List.contains_iff_mem.1 hcontains)

theorem shaped_blur (hshaped : field.Shaped editor.mask) :
    (editor.blur field).Shaped editor.mask := by
  by_cases hblank : blank ∈ field.value
  · rw [editor.blur_of_mem hblank]
    exact Field.shaped_fresh editor.mask
  · rwa [editor.blur_of_not_mem hblank]

/-- Every event keeps the shape. -/
theorem shaped_apply (field : Field) (event : Event) (hshaped : field.Shaped editor.mask) :
    (editor.apply field event).1.Shaped editor.mask := by
  cases event with
  | focus => exact editor.shaped_focus hshaped
  | blur => exact editor.shaped_blur hshaped
  | select range => exact editor.shaped_select hshaped range
  | key stroke position? => exact editor.shaped_press hshaped stroke _
  | paste text => exact (editor.active_paste field text).shaped
  | type text =>
    have hpress (current : Field) (c : Char) (hcurrent : current.Shaped editor.mask) :=
      editor.shaped_press hcurrent (.plain (.char c)) current.cursor
    exact editor.typeText_preserves hpress text field hshaped

/-- So does every run. -/
theorem shaped_run (events : List Event) : (editor.run .fresh events).Shaped editor.mask :=
  editor.run_preserves editor.shaped_apply events .fresh (Field.shaped_fresh editor.mask)

/-- After any run of events the value is empty or has one character for each slot:
the literal itself at a literal, the blank or a character of the class at a
placeholder, the blank where the mask has no meaning. The cursor is inside the
value, and the whole value is only selected if there is one. -/
theorem run_keeps_buffer_shape (events : List Event) :
    let field := editor.run .fresh events
    (field.value = [] ∨ field.value.length = editor.mask.length) ∧
      (∀ position slot c, editor.mask.slot? position = some slot →
        field.value[position]? = some c → slot.Shows c) ∧
      field.cursor ≤ field.value.length ∧
      (field.wholeSelected = true → field.value ≠ []) := by
  intro field
  have hshaped : field.Shaped editor.mask := editor.shaped_run events
  refine ⟨hshaped.fits.imp_right Mask.Fits.length_eq, ?_, hshaped.cursor_le, hshaped.selected⟩
  intro position slot c hslot hc
  rcases hshaped.fits with hempty | hfits
  · simp [hempty] at hc
  · exact (forall₂_iff_getElem?.1 hfits).2 position slot c hslot hc

end Editor
end MaskedField
