/- # Where the characters of a value come from

A field makes up no characters. Each character of its value is a literal of some mask, the
blank, or was brought by an event: as the key that was pressed, or within a text that was
pasted or typed. Whatever holds of the first two kinds and of all that the events bring
therefore holds of the whole value, after any run.

Nothing is said about where in the value a character stands.
-/

import MaskedField.Proofs.Field.Readiness
import MaskedField.Proofs.Field.Run
import MaskedField.Proofs.Field.Strike
import MaskedField.Proofs.Mask.Filling

namespace MaskedField

/-- The character that the key enters, if it enters one. -/
def Key.char? : Key → Option Char
  | .char c => some c
  | _ => none

/-- The characters that the event brings. -/
def Event.chars : Event → List Char
  | .key stroke _ => stroke.key.char?.toList
  | .paste text | .type text => text
  | .focus | .blur | .select _ => []

section Class

variable {P : Char → Prop}

/-- A row of slots with a text over it shows its literals, blanks, and characters of the
text. -/
theorem forall_mem_value_layOver (hblank : P blank) {slots : List Slot} {text : List Char}
    (hslots : ∀ shown, .literal shown ∈ slots → P shown) (htext : ∀ c ∈ text, P c) :
    ∀ c ∈ (layOver slots text).value, P c := by
  fun_induction layOver slots text with
  | case1 text => exact fun _ hc => absurd hc List.not_mem_nil
  | case2 shown slots text ih =>
    have hrest := ih (fun d hd => hslots d (List.mem_cons_of_mem _ hd)) htext
    exact List.forall_mem_cons.2 ⟨hslots shown List.mem_cons_self, hrest⟩
  | case3 slot slots hliteral ih =>
    have hrest := ih (fun d hd => hslots d (List.mem_cons_of_mem _ hd)) htext
    exact List.forall_mem_cons.2 ⟨hblank, hrest⟩
  | case4 slot slots c text hliteral haccepts ih =>
    have hbehind := List.forall_mem_cons.1 htext
    have hrest := ih (fun d hd => hslots d (List.mem_cons_of_mem _ hd)) hbehind.2
    exact List.forall_mem_cons.2 ⟨hbehind.1, hrest⟩
  | case5 slot slots c text hliteral hrefused ih =>
    have hrest := ih (fun d hd => hslots d (List.mem_cons_of_mem _ hd)) htext
    exact List.forall_mem_cons.2 ⟨hblank, hrest⟩

/-- A key changes a value at most by a blank or by its own character. -/
theorem Struck.forall_mem_value {mask : Mask} {field next : Field} {key : Key} {position : Nat}
    (hstruck : Struck mask field key position next) (hblank : P blank)
    (hkey : ∀ c ∈ key.char?, P c) (hfield : ∀ c ∈ field.value, P c) :
    ∀ c ∈ next.value, P c := by
  cases hstruck with
  | kept => exact hfield
  | moved target heditable harrow => exact hfield
  | written target d cursor hinside heditable hd hcursor =>
    intro c hc
    rcases List.mem_or_eq_of_mem_set hc with hold | rfl
    · exact hfield c hold
    · rcases hd with ⟨rfl, -⟩ | ⟨rfl, -⟩
      · exact hkey c rfl
      · exact hblank

namespace Editor

variable (editor : Editor) (hblank : P blank) (hliterals : ∀ c ∈ Slot.literals, P c)
include hblank hliterals

theorem forall_mem_value_place {text : List Char} (htext : ∀ c ∈ text, P c) :
    ∀ c ∈ (editor.mask.place text).value, P c :=
  forall_mem_value_layOver hblank
    (fun shown hslot => hliterals shown (Mask.shown_mem_literals hslot)) htext

/-- The placeholder is what nothing laid over the mask shows. -/
theorem forall_mem_placeholder : ∀ c ∈ editor.mask.placeholder, P c := by
  have hnothing : ∀ c ∈ ([] : List Char), P c := fun _ hc => absurd hc List.not_mem_nil
  have hplaced := editor.forall_mem_value_place hblank hliterals hnothing
  rwa [Mask.place, value_layOver_nil] at hplaced

variable {field : Field} (hfield : ∀ c ∈ field.value, P c)
include hfield

theorem forall_mem_value_press {stroke : Keystroke} (hkey : ∀ c ∈ stroke.key.char?, P c)
    (position : Nat) : ∀ c ∈ (editor.press field stroke position).1.value, P c := by
  have hready : ∀ c ∈ (editor.ready field position).1.value, P c := by
    rcases field.anew_or_shown with hanew | ⟨hunselected, hsome⟩
    · rw [editor.ready_anew hanew]
      exact editor.forall_mem_placeholder hblank hliterals
    · rw [editor.ready_shown hunselected hsome]
      exact hfield
  rw [press_fst]
  split
  · exact hfield
  · exact (editor.struck_strike _ _ _).forall_mem_value hblank hkey hready

/-- An event adds to the value at most blanks, literals and what it brings. -/
theorem forall_mem_value_apply {event : Event} (hevent : ∀ c ∈ event.chars, P c) :
    ∀ c ∈ (editor.apply field event).1.value, P c := by
  cases event with
  | focus =>
    rw [apply, focus]
    split
    · exact editor.forall_mem_placeholder hblank hliterals
    · exact hfield
  | blur =>
    rw [apply, blur]
    split
    · exact fun _ hc => absurd hc List.not_mem_nil
    · exact hfield
  | select range => exact hfield
  | key stroke position? =>
    have hkey : ∀ c ∈ stroke.key.char?, P c := by simpa [Event.chars] using hevent
    exact editor.forall_mem_value_press hblank hliterals hfield hkey _
  | paste text =>
    rw [apply, paste]
    split
    · exact hevent
    · exact editor.forall_mem_value_place hblank hliterals hevent
  | type text =>
    refine editor.typeText_preserves_of_mem (P := fun current => ∀ c ∈ current.value, P c) ?_
      field hfield
    intro c hc current hcurrent
    have hkey : ∀ d ∈ (Keystroke.plain (.char c)).key.char?, P d := by
      rintro d ⟨⟩
      exact hevent c hc
    exact editor.forall_mem_value_press hblank hliterals hcurrent hkey _

omit hfield

/-- What holds of the blank, of the literals, and of every character that the events of a
run bring, holds of every character of the value that the run leaves. -/
theorem forall_mem_value_run {events : List Event}
    (hevents : ∀ event ∈ events, ∀ c ∈ event.chars, P c) :
    ∀ c ∈ (editor.run .fresh events).value, P c := by
  refine editor.run_preserves_of_mem (P := fun current => ∀ c ∈ current.value, P c) ?_ .fresh
    fun _ hc => absurd hc List.not_mem_nil
  intro event hevent current hcurrent
  exact editor.forall_mem_value_apply hblank hliterals hcurrent (hevents event hevent)

end Editor

end Class
end MaskedField
