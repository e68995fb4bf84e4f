/- # Which masks can be completed

Strict compilation looks for a character without a meaning, once and before any field
exists. What it finds out holds of every run: a mask that it takes can be completed, since a
paste of the text of the mask does it, and under a mask that it refuses no run leads to a
complete field. The slot that the error names shows a blank whenever the field shows a
value, so that the loss of the focus always discards the value.

Under the empty mask there is nothing to complete, although strict compilation takes it.
-/

import MaskedField.Proofs.Field.Entry
import MaskedField.Proofs.Field.Lifecycle
import MaskedField.Proofs.Mask.Strictness

namespace MaskedField

/-- A slot without a meaning shows the blank as long as the field shows a value. -/
theorem Field.Shaped.getElem?_of_unclassified {mask : Mask} {field : Field} {position : Nat}
    {c : Char} (hshaped : field.Shaped mask)
    (hslot : mask.slot? position = some (.unclassified c)) (hsome : field.value ≠ []) :
    field.value[position]? = some blank := by
  have hfits := hshaped.fits.resolve_left hsome
  obtain ⟨d, hd, hshows⟩ := hfits.exists_shown hslot
  have hblank : d = blank := hshows
  rw [hd, hblank]

namespace Editor

variable {engine : Pattern.Engine} {editor : Editor} {field : Field}

theorem build_lenient_eq_ok_iff {source : List Char} :
    build engine false source = .ok editor ↔
      engine.objection? (Mask.compile source).expression = none ∧
        editor.mask = Mask.compile source :=
  ofMask_eq_ok_iff

/-- Under a mask in which every slot has a meaning, a paste of the mask's own text
completes the field. -/
theorem phase_paste_source (hclassified : editor.mask.hasUnclassified = false)
    (hsome : editor.mask.source ≠ []) :
    (editor.run .fresh [.paste editor.mask.source]).phase = .complete := by
  have hcomplete : editor.isComplete editor.mask.source = true :=
    (editor.isComplete_iff _).2 (Mask.completed_source hclassified)
  have hfilled := Mask.blank_not_mem_source hclassified
  have hrun : editor.run .fresh [.paste editor.mask.source] = editor.filled editor.mask.source :=
    editor.paste_complete hcomplete hfilled .fresh
  rw [hrun, Field.phase_eq_complete_iff]
  exact ⟨hsome, hfilled⟩

/-- A field that has its shape and is complete has a mask in which every slot has a
meaning. -/
theorem hasUnclassified_eq_false_of_phase (hshaped : field.Shaped editor.mask)
    (hphase : field.phase = .complete) : editor.mask.hasUnclassified = false := by
  obtain ⟨hsome, hfilled⟩ := Field.phase_eq_complete_iff.1 hphase
  have hcomplete := editor.isComplete_of_shaped hshaped hsome hfilled
  exact ((editor.isComplete_iff _).1 hcomplete).hasUnclassified_eq_false

/-- Under a mask with a slot without a meaning the loss of the focus leaves a fresh
field. -/
theorem blur_of_unclassified {position : Nat} {c : Char} (hshaped : field.Shaped editor.mask)
    (hslot : editor.mask.slot? position = some (.unclassified c)) :
    editor.blur field = .fresh := by
  by_cases hempty : field.value = []
  · obtain rfl := hshaped.eq_fresh hempty
    exact editor.blur_of_not_mem List.not_mem_nil
  · have hblank := hshaped.getElem?_of_unclassified hslot hempty
    exact editor.blur_of_mem (List.mem_of_getElem? hblank)

/-- Strict compilation takes exactly the empty mask and the masks that some run completes,
and compiles them as ever. If it refuses a mask, the error names the first character that is
neither a literal nor a designator. In every state that a run reaches under that mask, its
position shows the blank if the field shows a value, and the loss of the focus leaves the
field fresh. -/
theorem strict_masks_can_be_completed {source : List Char}
    (hbuilds : build engine false source = .ok editor) :
    ((∃ mask, Mask.compileStrict source = .ok mask) ↔
      source = [] ∨ ∃ events, (editor.run .fresh events).phase = .complete) ∧
    (∀ mask, Mask.compileStrict source = .ok mask → mask = Mask.compile source) ∧
    ∀ error, Mask.compileStrict source = .error error →
      ∃ position c, error = .unclassified position c ∧ source[position]? = some c ∧
        ¬ Slot.HasMeaning c ∧
        (∀ earlier < position, ∀ d ∈ source[earlier]?, Slot.HasMeaning d) ∧
        ∀ events, ((editor.run .fresh events).value ≠ [] →
            (editor.run .fresh events).value[position]? = some blank) ∧
          (editor.apply (editor.run .fresh events) .blur).1 = .fresh := by
  have hmask : editor.mask = Mask.compile source := (build_lenient_eq_ok_iff.1 hbuilds).2
  have hsource : editor.mask.source = source := congrArg Mask.source hmask
  refine ⟨⟨?_, ?_⟩, ?_, ?_⟩
  · rintro ⟨mask, hstrict⟩
    have hclassified := (Mask.compileStrict_eq_ok_iff.1 hstrict).2
    rw [← hmask] at hclassified
    by_cases hsome : source = []
    · exact .inl hsome
    · exact .inr ⟨_, phase_paste_source hclassified (hsource ▸ hsome)⟩
  · rintro (rfl | ⟨events, hphase⟩)
    · exact ⟨Mask.compile [], rfl⟩
    · have hclassified := hasUnclassified_eq_false_of_phase (editor.shaped_run events) hphase
      rw [hmask] at hclassified
      exact ⟨_, Mask.compileStrict_eq_ok_iff.2 ⟨rfl, hclassified⟩⟩
  · intro mask hstrict
    exact (Mask.compileStrict_eq_ok_iff.1 hstrict).1.symm
  · intro error hrefused
    obtain ⟨position, c, herror, hc, hslot, hmeaning, hbefore⟩ :=
      Mask.exists_of_compileStrict_eq_error hrefused
    rw [← hmask] at hslot
    refine ⟨position, c, herror, hc, hmeaning, hbefore, ?_⟩
    intro events
    have hshaped := editor.shaped_run events
    exact ⟨hshaped.getElem?_of_unclassified hslot, blur_of_unclassified hshaped hslot⟩

/-- A mask with a character without a meaning between two slots that can be filled: strict
compilation refuses it, no run completes it, and the character's position stays blank. -/
theorem strict_masks_can_be_completed_but_for_an_x :
    let source := ['9', 'x', '*']
    let mask := Mask.compile source
    let editor : Editor := ⟨mask, mask.pattern, rfl⟩
    let engine := Pattern.Engine.bounded
    build engine false source = .ok editor ∧
      Mask.compileStrict source = .error (.unclassified 1 'x') ∧
      (∀ events, (editor.run .fresh events).phase ≠ .complete) ∧
      ∀ events, (editor.run .fresh events).value ≠ [] →
        (editor.run .fresh events).value[1]? = some blank := by
  intro source mask editor engine
  have hbuilds : build engine false source = .ok editor :=
    build_lenient_eq_ok_iff.2 ⟨by decide +kernel, rfl⟩
  have hrefused : Mask.compileStrict source = .error (.unclassified 1 'x') := rfl
  obtain ⟨htaken, -, herror⟩ := strict_masks_can_be_completed hbuilds
  refine ⟨hbuilds, hrefused, ?_, ?_⟩
  · intro events hphase
    obtain ⟨strict, hstrict⟩ := htaken.2 (.inr ⟨events, hphase⟩)
    cases hrefused.symm.trans hstrict
  · obtain ⟨position, c, hposition, -, -, -, hevents⟩ := herror _ hrefused
    obtain ⟨rfl, -⟩ := MaskError.unclassified.inj hposition
    exact fun events => (hevents events).1

end Editor
end MaskedField
