/- # What a transcript tells about a run

The steps of a scenario are read one by one, and the run is the one of their events;
its transcript has one entry for what each report of a replay would show. Entries can
be told apart, so two runs with the same transcript have shown the same value and the
same cursor after every step, whatever their masks and their steps were. Nothing is
said of the rest of the field: a transcript does not show whether it was selected.
-/

import Mathlib.Data.List.Forall2
import MaskedField.Proofs.Replay.Streaming
import MaskedField.Proofs.Scenario.Transcript
import MaskedField.Scenario.Basic

namespace MaskedField.Scenario

open Replay

/-- The entry for what a report shows. -/
def entryOf (report : Report) : List Char :=
  Transcript.entry report.field.value report.field.cursor

section Steps

variable {editor : Editor} {field : Field} {steps : List (List Char)}

theorem runSteps_event {step : List Char} {event : Event} (hread : Event.read step = .ok event) :
    runSteps editor field (step :: steps) =
      (runSteps editor (editor.apply field event).1 steps).map fun run =>
        { run with
          transcript := entryOf ⟨event, (editor.apply field event).1,
            (editor.apply field event).2⟩ :: run.transcript } := by
  rw [runSteps, hread]
  dsimp only
  cases runSteps editor (editor.apply field event).1 steps <;> rfl

/-- Steps can be carried out exactly if they are events, and then the run is the one of
the events. -/
theorem runSteps_eq_ok_iff {run : Run} :
    runSteps editor field steps = .ok run ↔
      ∃ events, List.Forall₂ (fun step event => Event.read step = .ok event) steps events ∧
        run = ⟨editor.run field events, (reports editor field events).map entryOf⟩ := by
  induction steps generalizing field run with
  | nil =>
    constructor
    · intro hrun
      exact ⟨[], .nil, (Except.ok.inj hrun).symm⟩
    · rintro ⟨events, hevents, rfl⟩
      cases hevents
      rfl
  | cons step steps ih =>
    constructor
    · intro hrun
      cases hread : Event.read step with
      | error error =>
        rw [runSteps, hread] at hrun
        cases hrun
      | ok event =>
        rw [runSteps_event hread] at hrun
        cases hrest : runSteps editor (editor.apply field event).1 steps with
        | error fault =>
          rw [hrest] at hrun
          cases hrun
        | ok rest =>
          obtain ⟨events, hevents, rfl⟩ := ih.1 hrest
          rw [hrest] at hrun
          refine ⟨event :: events, .cons hread hevents, ?_⟩
          rw [reports_cons]
          exact (Except.ok.inj hrun).symm
    · rintro ⟨events, hevents, rfl⟩
      cases hevents with
      | cons hread hevents =>
        rw [runSteps_event hread, ih.2 ⟨_, hevents, rfl⟩, reports_cons]
        rfl

end Steps

variable {engine : Pattern.Engine}

/-- A scenario is carried out as the run of its events under its mask. -/
theorem run_eq_ok_iff {scenario : Scenario} {run : Run} :
    scenario.run engine = .ok run ↔
      ∃ editor events, Editor.build engine false scenario.mask = .ok editor ∧
        List.Forall₂ (fun step event => Event.read step = .ok event) scenario.steps events ∧
        run = ⟨editor.run .fresh events, (reports editor .fresh events).map entryOf⟩ := by
  rw [Scenario.run]
  cases Editor.build engine false scenario.mask with
  | error error => simp
  | ok editor => simp [runSteps_eq_ok_iff]

/-- The scenario with its first steps only. -/
def cut (scenario : Scenario) (count : Nat) : Scenario :=
  { scenario with steps := scenario.steps.take count }

/-- A scenario that is carried out can be cut short anywhere, and is carried out as the
first events of the same run. -/
theorem exists_run_cut {scenario : Scenario} {run : Run} (hrun : scenario.run engine = .ok run) :
    ∃ editor events, events.length = scenario.steps.length ∧
      run.transcript = (reports editor .fresh events).map entryOf ∧
      ∀ count, (scenario.cut count).run engine =
        .ok ⟨editor.run .fresh (events.take count),
          (reports editor .fresh (events.take count)).map entryOf⟩ := by
  obtain ⟨editor, events, hbuild, hsteps, rfl⟩ := run_eq_ok_iff.1 hrun
  refine ⟨editor, events, hsteps.length_eq.symm, rfl, fun count => ?_⟩
  exact run_eq_ok_iff.2 ⟨editor, _, hbuild, List.forall₂_take count hsteps, rfl⟩

theorem length_eq_of_entries_eq {first second : Editor} {left right : Field}
    {leftEvents rightEvents : List Event}
    (hentries : (reports first left leftEvents).map entryOf =
      (reports second right rightEvents).map entryOf) :
    leftEvents.length = rightEvents.length := by
  simpa only [List.length_map, length_reports] using congrArg List.length hentries

/-- Fields that show the same and go on with the same entries always show the same. -/
theorem shown_eq_of_entries_eq {first second : Editor} {left right : Field}
    {leftEvents rightEvents : List Event}
    (hvalue : left.value = right.value) (hcursor : left.cursor = right.cursor)
    (hentries : (reports first left leftEvents).map entryOf =
      (reports second right rightEvents).map entryOf) (count : Nat) :
    (first.run left (leftEvents.take count)).value =
        (second.run right (rightEvents.take count)).value ∧
      (first.run left (leftEvents.take count)).cursor =
        (second.run right (rightEvents.take count)).cursor := by
  induction leftEvents generalizing left right rightEvents count with
  | nil =>
    obtain rfl : rightEvents = [] :=
      List.eq_nil_of_length_eq_zero (length_eq_of_entries_eq hentries).symm
    rw [List.take_nil]
    exact ⟨hvalue, hcursor⟩
  | cons event leftEvents ih =>
    cases rightEvents with
    | nil =>
      rw [reports_cons] at hentries
      cases hentries
    | cons other rightEvents =>
      rw [reports_cons, reports_cons, List.map_cons, List.map_cons] at hentries
      obtain ⟨hentry, hrest⟩ := List.cons.inj hentries
      obtain ⟨hnextValue, hnextCursor⟩ := Transcript.entry_inj hentry
      cases count with
      | zero => exact ⟨hvalue, hcursor⟩
      | succ count => exact ih hnextValue hnextCursor hrest count

/-- No two values and cursors have the same entry, and no entry has a control character
in it. So runs with the same transcript have as many steps, and after any number of
them the same value and the same cursor. -/
theorem transcripts_are_unambiguous :
    (∀ (first second : List Char) (left right : Nat),
      Transcript.entry first left = Transcript.entry second right →
        first = second ∧ left = right) ∧
    (∀ (value : List Char) (cursor : Nat), ∀ c ∈ Transcript.entry value cursor,
      ¬ (c.toNat < 0x20 ∨ 0x7f ≤ c.toNat ∧ c.toNat < 0xa0)) ∧
    ∀ (engine : Pattern.Engine) (first second : Scenario) (left right : Run),
      first.run engine = .ok left → second.run engine = .ok right →
      left.transcript = right.transcript →
        first.steps.length = second.steps.length ∧
          ∀ count, ∃ leftCut rightCut,
            (first.cut count).run engine = .ok leftCut ∧
              (second.cut count).run engine = .ok rightCut ∧
              leftCut.field.value = rightCut.field.value ∧
              leftCut.field.cursor = rightCut.field.cursor := by
  refine ⟨fun first second left right => Transcript.entry_inj, fun value cursor c hc => ?_,
    fun engine first second left right hleft hright htranscript => ?_⟩
  · exact Transcript.isControl_eq_false_iff.1 (Transcript.isControl_eq_false_of_mem_entry hc)
  · obtain ⟨firstEditor, leftEvents, hleftLength, hleftShown, hleftCut⟩ := exists_run_cut hleft
    obtain ⟨secondEditor, rightEvents, hrightLength, hrightShown, hrightCut⟩ :=
      exists_run_cut hright
    rw [hleftShown, hrightShown] at htranscript
    constructor
    · rw [← hleftLength, ← hrightLength]
      exact length_eq_of_entries_eq htranscript
    · intro count
      exact ⟨_, _, hleftCut count, hrightCut count,
        shown_eq_of_entries_eq rfl rfl htranscript count⟩

/-- A bar that is typed under one mask and pressed as a key under another: the runs show
the same, though the masks differ. -/
theorem transcripts_are_unambiguous_across_masks :
    ∃ (first second : Scenario) (left right : Run), first.mask ≠ second.mask ∧
      first.run .bounded = .ok left ∧ second.run .bounded = .ok right ∧
      left.transcript = right.transcript ∧
        ∀ count, ∃ leftCut rightCut,
          (first.cut count).run .bounded = .ok leftCut ∧
            (second.cut count).run .bounded = .ok rightCut ∧
            leftCut.field.value = rightCut.field.value ∧
            leftCut.field.cursor = rightCut.field.cursor := by
  let first : Scenario :=
    ⟨[], "**".toList, ["focus".toList, "type |".toList], none, none, none, none⟩
  let second : Scenario :=
    ⟨[], "*9".toList, ["focus".toList, "key | @0".toList], none, none, none, none⟩
  let run : Run := ⟨⟨"|_".toList, 1, false⟩, ["__|0".toList, "\\|_|1".toList]⟩
  have hfirst : first.run .bounded = .ok run := by decide +kernel
  have hsecond : second.run .bounded = .ok run := by decide +kernel
  have hcuts := (transcripts_are_unambiguous.2.2 _ first second run run hfirst hsecond rfl).2
  exact ⟨first, second, run, run, by decide +kernel, hfirst, hsecond, rfl, hcuts⟩

end MaskedField.Scenario
