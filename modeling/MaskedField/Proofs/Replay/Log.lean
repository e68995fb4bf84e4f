/- # A log is a script

In the long form every report repeats its event. The events of a log, one on each
line, are a script that leads to the same log. This rests on three facts: a report in
the long form is a single line, whatever text it holds; the event it repeats is
written as a line that a script neither skips nor cuts; and what that line is read as
is the very event that was applied.
-/

import MaskedField.Proofs.Event.Canonical
import MaskedField.Proofs.Replay.Streaming

namespace MaskedField.Text.JsonString

theorem lineFeed_not_mem_controlDigits {code : Nat} (hcontrol : code < 0x20) :
    '\n' ∉ controlDigits code := by
  revert code
  decide

theorem lineFeed_not_mem_encodeChar (c : Char) : '\n' ∉ encodeChar c := by
  unfold encodeChar
  iterate 7
    split
    · decide
  split
  · next hcontrol =>
    simp [lineFeed_not_mem_controlDigits hcontrol]
  · next hlineFeed _ _ _ =>
    simpa [eq_comm] using hlineFeed

/-- A string never breaks a line. -/
theorem lineFeed_not_mem_encode (text : List Char) : '\n' ∉ encode text := by
  simp [encode, lineFeed_not_mem_encodeChar]

end MaskedField.Text.JsonString

namespace MaskedField.Replay

open Event Text

/-- The event that a line of a log repeats, as it was written. -/
def loggedEvent? (line : List Char) : Option (List Char) := do
  let rest ← line.dropPrefix? "\x7b\"event\":".toList
  let (text, _) ← JsonString.read? rest
  some text

/-- A report in the long form, member by member. -/
theorem json_eq (report : Report) :
    report.json =
      "\x7b\"event\":".toList ++ (JsonString.encode report.event.print ++
        (",\"value\":".toList ++ (JsonString.encode report.field.value ++
          (",\"cursor\":".toList ++ (Decimal.print report.field.cursor ++
            (",\"phase\":".toList ++ (JsonString.encode report.field.phase.word ++
              (",\"disposition\":".toList ++ (JsonString.encode report.disposition.word ++
                "\x7d".toList))))))))) := by
  delta Report.json
  repeat rw [List.append_assoc]

/-- The event of a report is found in its line. -/
theorem loggedEvent?_json (report : Report) :
    loggedEvent? report.json = some report.event.print := by
  have hrest : ∀ behind, ("\x7b\"event\":".toList ++ behind).dropPrefix?
      "\x7b\"event\":".toList = some behind := by
    intro behind
    rw [List.dropPrefix?_eq_some_iff]
    exact ⟨_, rfl, beq_self_eq_true _⟩
  rw [json_eq, loggedEvent?, hrest, Option.bind_eq_bind, Option.bind_some, JsonString.read?_encode]
  rfl

theorem lineFeed_not_mem_member {punctuation member behind : List Char}
    (hpunctuation : '\n' ∉ punctuation) (hmember : '\n' ∉ member) (hbehind : '\n' ∉ behind) :
    '\n' ∉ punctuation ++ (member ++ behind) :=
  List.not_mem_append hpunctuation (List.not_mem_append hmember hbehind)

/-- A report in the long form is a single line. -/
theorem lineFeed_not_mem_json (report : Report) : '\n' ∉ report.json := by
  have hstring := JsonString.lineFeed_not_mem_encode
  have hnumber : '\n' ∉ Decimal.print report.field.cursor := (isWord_print _).lineFeed_not_mem
  rw [json_eq]
  apply lineFeed_not_mem_member (by decide +kernel) (hstring _)
  apply lineFeed_not_mem_member (by decide +kernel) (hstring _)
  apply lineFeed_not_mem_member (by decide +kernel) hnumber
  apply lineFeed_not_mem_member (by decide +kernel) (hstring _)
  apply lineFeed_not_mem_member (by decide +kernel) (hstring _)
  decide +kernel

theorem carriageReturn_not_mem_getLast?_json (report : Report) :
    '\r' ∉ report.json.getLast? := by
  have hlast : "\x7d".toList.getLast? = some '\x7d' := by decide +kernel
  delta Report.json
  rw [List.getLast?_append, hlast, Option.some_or, Option.mem_some_iff]
  decide

/-- The lines of a log are its reports. -/
theorem lines_output_json (outcome : Outcome) :
    lines (outcome.output .json) = outcome.reports.map Report.json :=
  Outcome.lines_output (fun _ => rfl) (fun report _ => lineFeed_not_mem_json report)
    fun report _ => carriageReturn_not_mem_getLast?_json report

/-- The events of a log, as they are written in it. -/
theorem loggedEvents_output_json (outcome : Outcome) :
    (lines (outcome.output .json)).mapM loggedEvent? =
      some (outcome.reports.map fun report => report.event.print) := by
  have hlogged : loggedEvent? ∘ Report.json = fun report => some report.event.print :=
    funext loggedEvent?_json
  rw [lines_output_json, List.mapM_map, hlogged]
  exact List.mapM_pure

theorem map_event_reports (editor : Editor) (field : Field) (events : List Event) :
    (reports editor field events).map (fun report => report.event.print) = events.map print := by
  have hprint : (fun report : Report => report.event.print) = print ∘ Report.event := rfl
  rw [hprint, ← List.map_map, events_reports]

/-- The events that a successful replay has logged, each on a line, are a script whose
replay has the same outcome: it succeeds too, reports the same events with the same
values, cursors, phases and dispositions, and writes the same log. -/
theorem log_is_replayed (editor : Editor) (script : List UInt8)
    (hsucceeds : (run editor .fresh script).failure? = none) :
    let outcome := run editor .fresh script
    ∃ texts, (lines (outcome.output .json)).mapM loggedEvent? = some texts ∧
      let again := run editor .fresh (Utf8.encode (['\n'].intercalate texts))
      again.failure? = none ∧ again.output .json = outcome.output .json ∧
        again.count = outcome.count ∧ again = outcome := by
  obtain ⟨text, events, rfl, hreads⟩ := exists_reads_of_succeeds editor .fresh hsucceeds
  have hevents : ∀ event ∈ events, event.FitsLine :=
    hreads.fitsLine lineFeed_not_mem_of_mem_linesOf
  have hagain : Reads (lines (['\n'].intercalate (events.map print))) events := by
    rw [lines_intercalate_print hevents]
    exact reads_map_print hevents
  intro outcome
  have houtcome : outcome = applied editor .fresh events := run_of_reads editor .fresh hreads
  refine ⟨events.map print, ?_, ?_⟩
  · rw [loggedEvents_output_json, houtcome]
    exact congrArg some (map_event_reports editor .fresh events)
  · rw [houtcome, run_of_reads editor .fresh hagain]
    exact ⟨rfl, rfl, rfl, rfl⟩

/-- The log of a script with a comment, a shortcut under another name, a carriage return
inside a text and a numeral of its own. -/
theorem log_is_replayed_in_canonical_form :
    let mask := Mask.compile ['9', '*', '-', 'A']
    let editor : Editor := ⟨mask, mask.pattern, rfl⟩
    let script := Utf8.encode "# a run\n\n  key Control+Left\ntype 1\r2\r\nselect 4 00\r\n".toList
    let outcome := run editor .fresh script
    outcome.failure? = none ∧ outcome.count = 3 ∧
      ∃ texts, (lines (outcome.output .json)).mapM loggedEvent? = some texts ∧
        let again := run editor .fresh (Utf8.encode (['\n'].intercalate texts))
        again.failure? = none ∧ again.output .json = outcome.output .json ∧
          again.count = outcome.count ∧ again = outcome := by
  intro mask editor script outcome
  have hsucceeds : (run editor .fresh script).failure? = none := by decide +kernel
  have hcount : outcome.count = 3 := by decide +kernel
  exact ⟨hsucceeds, hcount, log_is_replayed editor script hsucceeds⟩

end MaskedField.Replay
