/- # A scenario replayed

The steps of a scenario may also be written one below the other and replayed as a script.
Nothing of a step is lost or added by that. A step that is an event is neither blank nor a
comment, so its line is not skipped, and a carriage return at its end, which a script takes
for a part of the line's end, is not read by a scenario either. Both runs are therefore the
run of the same events, and a report in the short form and an entry of the transcript show
the same value and the same cursor.

Steps with a line feed in them are left out: in a script they are two lines.
-/

import MaskedField.Proofs.Event.Annotation
import MaskedField.Proofs.Field.Completion
import MaskedField.Proofs.Replay.ShortForm
import MaskedField.Proofs.Scenario.Run

namespace MaskedField

namespace Event

open Text

theorem isEventLine_dropLineEnds (line : List Char) :
    isEventLine (dropLineEnds line) = isEventLine line := by
  obtain ⟨ends, hends, hline⟩ := exists_eq_dropLineEnds_append line
  nth_rewrite 2 [hline]
  exact (isEventLine_append_blanks hends (dropLineEnds line)).symm

/-- A line that a script skips is no event. -/
theorem isEventLine_of_read {line : List Char} {event : Event} (hread : read line = .ok event) :
    isEventLine line = true := by
  rw [← isEventLine_dropLineEnds, isEventLine]
  rw [read_eq_ok_iff] at hread
  cases htrimmed : trimStart (dropLineEnds line) with
  | nil =>
    -- There is no command in a blank line, and none starts with a number sign.
    rw [htrimmed] at hread
    cases hread
  | cons c rest =>
    by_cases hsign : c = '#'
    · rw [htrimmed, hsign] at hread
      cases hread
    · simpa using hsign

/-- A carriage return at the end of a line is not read, whether or not it is there. -/
theorem read_dropReturn (line : List Char) : read (dropReturn '\r' line) = read line := by
  have hends : dropLineEnds (dropReturn '\r' line) = dropLineEnds line := by
    rcases eq_dropReturn_or '\r' line with hkept | hdropped
    · rw [← hkept]
    · nth_rewrite 2 [hdropped]
      exact (List.rdropWhile_concat_pos isLineEnd _ '\r' (by decide)).symm
  rw [read, read, hends]

/-- Steps that are events are all found again in the script that is made of them. -/
theorem reads_intercalate {steps : List (List Char)} {events : List Event}
    (hunbroken : ∀ step ∈ steps, '\n' ∉ step)
    (hread : List.Forall₂ (fun step event => read step = .ok event) steps events) :
    Reads (lines (['\n'].intercalate steps)) events := by
  induction hread with
  | nil => exact .nil
  | @cons step event steps events hstep hsteps ih =>
    rw [List.forall_mem_cons] at hunbroken
    cases steps with
    | nil =>
      cases hsteps
      have hsome : step ≠ [] := by
        rintro rfl
        cases hstep
      rw [List.intercalate_singleton, lines, linesOf_of_not_mem hunbroken.1 hsome]
      exact .event (isEventLine_of_read hstep) hstep .nil
    | cons next steps =>
      rw [List.intercalate_cons_cons, lines, List.append_assoc, List.singleton_append,
        linesOf_append_cons hunbroken.1]
      -- Only this step is ended by a line feed, and may lose a carriage return to it.
      rw [← read_dropReturn] at hstep
      exact .event (isEventLine_of_read hstep) hstep (ih hunbroken.2)

end Event

namespace Replay

open Text

section Shown

variable {report : Report} {value : List Char} {cursor : Nat}

/-- A report in the short form is the one for its value and its cursor only. -/
theorem text_eq_iff :
    report.text = value ++ '|' :: Decimal.print cursor ↔
      report.field.value = value ∧ report.field.cursor = cursor := by
  constructor
  · intro htext
    have hsplit := splitAtLast?_text report
    rw [htext, splitAtLast?_append (bar_not_mem_print cursor), Option.some_inj,
      Prod.mk.injEq] at hsplit
    exact ⟨hsplit.1.symm, (Decimal.print_inj hsplit.2).symm⟩
  · rintro ⟨rfl, rfl⟩
    rfl

/-- So is its entry in a transcript. -/
theorem entryOf_eq_iff :
    Scenario.entryOf report = Transcript.entry value cursor ↔
      report.field.value = value ∧ report.field.cursor = cursor := by
  constructor
  · exact Transcript.entry_inj
  · rintro ⟨rfl, rfl⟩
    rfl

end Shown

/-- No report of events that fit lines shows a line feed. -/
theorem lineFeed_not_mem_value_reports (editor : Editor) {events : List Event}
    (hevents : ∀ event ∈ events, event.FitsLine) :
    ∀ report ∈ reports editor .fresh events, '\n' ∉ report.field.value := by
  intro report hreport
  obtain ⟨index, hget⟩ := List.getElem?_of_mem hreport
  rw [field_of_getElem?_reports editor .fresh hget]
  exact editor.lineFeed_not_mem_value_run fun event hevent =>
    hevents event (List.mem_of_mem_take hevent)

end Replay

namespace Scenario

open Replay Text

/-- The steps of a scenario, one below the other, as a script. -/
def script (scenario : Scenario) : List Char :=
  ['\n'].intercalate scenario.steps

/-- Steps that can be read one by one have events. -/
theorem exists_forall₂_read {steps : List (List Char)}
    (hread : ∀ step ∈ steps, ∃ event, Event.read step = .ok event) :
    ∃ events, List.Forall₂ (fun step event => Event.read step = .ok event) steps events := by
  induction steps with
  | nil => exact ⟨[], .nil⟩
  | cons step steps ih =>
    obtain ⟨⟨event, hevent⟩, hrest⟩ := List.forall_mem_cons.1 hread
    obtain ⟨events, hevents⟩ := ih hrest
    exact ⟨event :: events, .cons hevent hevents⟩

/-- A scenario whose steps are events on single lines is carried out, and its steps are
replayed as a script without a failure, one event for each step. The field comes out the
same, with its value, its cursor and its phase. The transcript has an entry for each step,
the short form of the replay a line for each, and both are for the same value and the same
cursor. -/
theorem replay_agrees_with_scenario {engine : Pattern.Engine} {scenario : Scenario}
    {editor : Editor} (hbuild : Editor.build engine false scenario.mask = .ok editor)
    (hunbroken : ∀ step ∈ scenario.steps, '\n' ∉ step)
    (hread : ∀ step ∈ scenario.steps, ∃ event, Event.read step = .ok event) :
    let outcome := Replay.run editor .fresh (Utf8.encode scenario.script)
    ∃ run, scenario.run engine = .ok run ∧
      run.field.value = outcome.field.value ∧ run.field.cursor = outcome.field.cursor ∧
      run.field.phase = outcome.field.phase ∧
      outcome.failure? = none ∧ outcome.count = scenario.steps.length ∧
      run.transcript.length = scenario.steps.length ∧
      (lines (outcome.output .text)).length = scenario.steps.length ∧
      (∀ entry ∈ run.transcript, ∃ value cursor, entry = Transcript.entry value cursor) ∧
      ∀ (index : Nat) (value : List Char) (cursor : Nat),
        run.transcript[index]? = some (Transcript.entry value cursor) ↔
          (lines (outcome.output .text))[index]? =
            some (value ++ '|' :: Decimal.print cursor) := by
  intro outcome
  obtain ⟨events, hevents⟩ := exists_forall₂_read hread
  have hreads : Event.Reads (lines scenario.script) events :=
    Event.reads_intercalate hunbroken hevents
  have happlied : outcome = applied editor .fresh events := run_of_reads editor .fresh hreads
  have hfits : ∀ event ∈ events, event.FitsLine :=
    hreads.fitsLine lineFeed_not_mem_of_mem_linesOf
  have hlines : lines (outcome.output .text) =
      (reports editor .fresh events).map Report.text := by
    rw [happlied]
    exact lines_output_text (lineFeed_not_mem_value_reports editor hfits)
  have hcount : (reports editor .fresh events).length = scenario.steps.length :=
    (length_reports editor .fresh events).trans hevents.length_eq.symm
  refine ⟨_, run_eq_ok_iff.2 ⟨editor, events, hbuild, hevents, rfl⟩, ?_⟩
  rw [hlines, happlied, List.length_map, List.length_map]
  refine ⟨rfl, rfl, rfl, rfl, hcount, hcount, hcount, ?_, ?_⟩
  · rw [List.forall_mem_map]
    exact fun report _ => ⟨_, _, rfl⟩
  · intro index value cursor
    simp only [List.getElem?_map, Option.map_eq_some_iff, text_eq_iff, entryOf_eq_iff]

/-- Steps that end with carriage returns, and a value that shows a bar and one. -/
theorem replay_agrees_with_scenario_behind_returns :
    ∃ editor : Editor, Editor.build .bounded false "**".toList = .ok editor ∧
      ∃ scenario : Scenario, scenario.mask = "**".toList ∧
        scenario.steps = ["focus\r".toList, " paste |\r7\r\r".toList, "key _ @1".toList] ∧
        let outcome := Replay.run editor .fresh (Utf8.encode scenario.script)
        outcome.count = 3 ∧ outcome.field.value = "|_".toList ∧ outcome.field.cursor = 2 ∧
          (lines (outcome.output .text))[1]? = some "|\r|2".toList := by
  let mask := Mask.compile "**".toList
  let editor : Editor := ⟨mask, mask.pattern, rfl⟩
  let scenario : Scenario := ⟨[], "**".toList,
    ["focus\r".toList, " paste |\r7\r\r".toList, "key _ @1".toList], none, none, none, none⟩
  have hbuild : Editor.build .bounded false scenario.mask = .ok editor :=
    Editor.build_lenient_eq_ok_iff.2 ⟨by decide +kernel, rfl⟩
  have hunbroken : ∀ step ∈ scenario.steps, '\n' ∉ step := by
    simp only [scenario, List.forall_mem_cons]
    exact ⟨by decide +kernel, by decide +kernel, by decide +kernel, List.forall_mem_nil _⟩
  have hread : ∀ step ∈ scenario.steps, ∃ event, Event.read step = .ok event := by
    simp only [scenario, List.forall_mem_cons]
    exact ⟨⟨.focus, rfl⟩, ⟨.paste "|\r7".toList, rfl⟩, ⟨.key ⟨.char '_', .none⟩ (some 1), rfl⟩,
      List.forall_mem_nil _⟩
  have hrun : scenario.run .bounded = .ok ⟨⟨"|_".toList, 2, false⟩,
      ["__|0".toList, "\\|\\r|2".toList, "\\|_|2".toList]⟩ := by decide +kernel
  obtain ⟨run, hsame, hvalue, hcursor, -, -, hcount, -, -, -, hlines⟩ :=
    replay_agrees_with_scenario hbuild hunbroken hread
  obtain rfl := Except.ok.inj (hsame.symm.trans hrun)
  exact ⟨editor, hbuild, scenario, rfl, rfl, hcount, hvalue.symm, hcursor.symm,
    (hlines 1 ['|', '\r'] 2).1 rfl⟩

end Scenario
end MaskedField
