/- # Reports in the short form

The short form writes a value as it is, with the bar and the cursor behind it. Values may
hold bars, digits and carriage returns, and still nothing is lost: the cursor is written
with digits alone, so the last bar of a line is the one that was put there, and no value
ever holds a line feed. The second fact is about the whole of a replay. A slot for any
character would take a line feed, and a mask may have one in its text, but a mask shows it
as a blank, and no line of a script can bring one.

A replay that fails is no exception: the events that it has applied are those on the lines
before the failure, and what it has written are their reports.
-/

import MaskedField.Proofs.Event.Canonical
import MaskedField.Proofs.Field.Provenance
import MaskedField.Proofs.Replay.Streaming

namespace MaskedField

/-- A text before and behind the last occurrence of a separator. -/
def Text.splitAtLast? (separator : Char) (text : List Char) : Option (List Char × List Char) :=
  (lastIndex? (· == separator) text).map fun index => (text.take index, text.drop (index + 1))

/-- The last separator is the one with none behind it. -/
theorem Text.splitAtLast?_append {separator : Char} {back : List Char} (hback : separator ∉ back)
    (front : List Char) :
    splitAtLast? separator (front ++ separator :: back) = some (front, back) := by
  have hlast : lastIndex? (· == separator) (front ++ separator :: back) = some front.length := by
    rw [lastIndex?_eq_some_iff]
    refine ⟨by simp, ?_⟩
    intro later hlater
    obtain ⟨offset, rfl⟩ := Nat.exists_eq_add_of_lt hlater
    have hget : (front ++ separator :: back)[front.length + offset + 1]? = back[offset]? := by
      rw [Nat.add_assoc, List.getElem?_append_right (Nat.le_add_right _ _),
        Nat.add_sub_cancel_left, List.getElem?_cons_succ]
    rw [hget]
    cases hc : back[offset]? with
    | none => rfl
    | some c =>
      have hother : c ≠ separator := fun heq => hback (heq ▸ List.mem_of_getElem? hc)
      simpa using hother
  rw [splitAtLast?, hlast]
  simp

/-- What an event on a line brings is without a line feed. -/
theorem Event.FitsLine.lineFeed_not_mem_chars {event : Event} (hfits : event.FitsLine) :
    '\n' ∉ event.chars := by
  cases event with
  | focus => exact List.not_mem_nil
  | blur => exact List.not_mem_nil
  | select range => exact List.not_mem_nil
  | key stroke position? =>
    intro hmem
    have hkey : stroke.key = .char '\n' := by
      cases hkey : stroke.key with
      | char c => simpa [chars, hkey, Key.char?, eq_comm] using hmem
      | _ => simp [chars, hkey, Key.char?] at hmem
    have hwritable : stroke.key.Writable := hfits.representable
    rw [hkey] at hwritable
    rcases hwritable with hspace | hsolid
    · exact absurd hspace (by decide)
    · exact absurd hsolid (by decide)
  | paste text => exact hfits.text_unbroken text rfl
  | type text => exact hfits.text_unbroken text rfl

namespace Editor

/-- No value holds a line feed, as long as all events fit lines. -/
theorem lineFeed_not_mem_value_run (editor : Editor) {events : List Event}
    (hevents : ∀ event ∈ events, event.FitsLine) :
    '\n' ∉ (editor.run .fresh events).value := by
  have hliterals : ∀ c ∈ Slot.literals, c ≠ '\n' := by
    rintro c hc rfl
    exact absurd hc (by decide)
  have hbrought : ∀ event ∈ events, ∀ c ∈ event.chars, c ≠ '\n' := by
    rintro event hevent c hc rfl
    exact (hevents event hevent).lineFeed_not_mem_chars hc
  intro hmem
  exact editor.forall_mem_value_run (P := (· ≠ '\n')) (by decide) hliterals hbrought _ hmem rfl

end Editor

namespace Replay

open Event Text

theorem bar_not_mem_print (number : Nat) : '|' ∉ Decimal.print number :=
  fun hbar => absurd (Decimal.isDigit_of_mem_print hbar) (by decide)

section Line

variable {report : Report}

theorem lineFeed_not_mem_text (hvalue : '\n' ∉ report.field.value) : '\n' ∉ report.text := by
  have hcursor : '\n' ∉ Decimal.print report.field.cursor := (isWord_print _).lineFeed_not_mem
  have hbar : '\n' ∉ '|' :: Decimal.print report.field.cursor :=
    List.not_mem_cons_of_ne_of_not_mem (by decide) hcursor
  exact List.not_mem_append hvalue hbar

theorem carriageReturn_not_mem_getLast?_text (report : Report) :
    '\r' ∉ report.text.getLast? := by
  have htext :
      report.text = (report.field.value ++ ['|']) ++ Decimal.print report.field.cursor := by
    rw [Report.text, List.append_assoc, List.singleton_append]
  intro hlast
  rw [htext] at hlast
  exact absurd ((isWord_print _).not_isLineEnd_getLast? _ '\r' hlast) (by decide)

/-- The last bar of a report stands between the value and the cursor. -/
theorem splitAtLast?_text (report : Report) :
    splitAtLast? '|' report.text =
      some (report.field.value, Decimal.print report.field.cursor) :=
  splitAtLast?_append (bar_not_mem_print _) report.field.value

end Line

section Output

variable {outcome : Outcome} (hvalues : ∀ report ∈ outcome.reports, '\n' ∉ report.field.value)
include hvalues

/-- The lines of the output are its reports. -/
theorem lines_output_text : lines (outcome.output .text) = outcome.reports.map Report.text :=
  Outcome.lines_output (fun _ => rfl)
    (fun report hreport => lineFeed_not_mem_text (hvalues report hreport))
    fun report _ => carriageReturn_not_mem_getLast?_text report

/-- There is one line feed for each event. -/
theorem count_lineFeed_output_text : (outcome.output .text).count '\n' = outcome.count := by
  rw [Outcome.output, Outcome.count]
  generalize outcome.reports = reports at hvalues ⊢
  induction reports with
  | nil => rfl
  | cons report reports ih =>
    rw [List.forall_mem_cons] at hvalues
    have hline : (report.line .text).count '\n' = 1 := by
      rw [Report.line, List.count_append,
        List.count_eq_zero_of_not_mem (lineFeed_not_mem_text hvalues.1)]
      rfl
    rw [List.flatMap_cons, List.count_append, hline, ih hvalues.2, List.length_cons, Nat.add_comm]

end Output

/-- Output that is not empty ends with a line feed. -/
theorem getLast?_output_text {outcome : Outcome} (hsome : outcome.output .text ≠ []) :
    (outcome.output .text).getLast? = some '\n' := by
  rcases List.eq_nil_or_concat outcome.reports with hnone | ⟨front, last, hreports⟩
  · exact absurd (by rw [Outcome.output, hnone, List.flatMap_nil]) hsome
  · have hline : (last.line .text).getLast? = some '\n' := List.getLast?_concat
    rw [Outcome.output, hreports, List.concat_eq_append, List.flatMap_append,
      List.flatMap_singleton, List.getLast?_append, hline, Option.some_or]

/-- Texts whose bytes are lines have no line feed in them. -/
theorem lineFeed_not_mem_of_leading {script : List UInt8} {front : List (List Char)}
    (hfront : front.map Utf8.encode <+: byteLines script) : ∀ line ∈ front, '\n' ∉ line := by
  intro line hline hfeed
  have hmem : Utf8.encode line ∈ byteLines script := hfront.subset (List.mem_map_of_mem hline)
  exact lineFeed_not_mem_of_mem_linesOf _ hmem (Utf8.lineFeed_mem_encode hfeed)

/-- Whatever is replayed in the short form, to its end or up to a failure: the events applied
are those on the leading lines of the script, on all of them if there was no failure. The
field goes through the states that these events lead to, and none of their values holds a line
feed. The output has as many line feeds as events were applied, and ends with one unless it
is empty. Its lines are as many; cut at its last bar, each line gives the value and the
digits of the cursor after its event. -/
theorem short_form_is_recoverable (editor : Editor) (script : List UInt8) :
    let outcome := run editor .fresh script
    let events := outcome.reports.map Report.event
    let reached (count : Nat) : Field := editor.run .fresh (events.take count)
    (∃ front : List (List Char), front.map Utf8.encode <+: byteLines script ∧
      Event.Reads front events ∧
      (outcome.failure? = none → front.map Utf8.encode = byteLines script)) ∧
      outcome.field = reached outcome.count ∧
      (∀ count, '\n' ∉ (reached count).value) ∧
      (outcome.output .text).count '\n' = outcome.count ∧
      (outcome.output .text ≠ [] → (outcome.output .text).getLast? = some '\n') ∧
      (lines (outcome.output .text)).length = outcome.count ∧
      ∀ index line, (lines (outcome.output .text))[index]? = some line →
        splitAtLast? '|' line = some ((reached (index + 1)).value,
          Decimal.print (reached (index + 1)).cursor) := by
  intro outcome events reached
  obtain ⟨front, applied, hfront, hreads, hreached, happlied, hall⟩ :=
    exists_applied_of_runLines editor .fresh 1 (byteLines script)
  have hfield : outcome.field = editor.run .fresh applied := hreached
  have hreports : outcome.reports = reports editor .fresh applied := happlied
  obtain rfl : events = applied := by
    rw [← events_reports editor .fresh applied, ← hreports]
  have hfits : ∀ event ∈ events, event.FitsLine :=
    hreads.fitsLine (lineFeed_not_mem_of_leading hfront)
  have hcount : outcome.count = events.length := (List.length_map Report.event).symm
  have hvalue (count : Nat) : '\n' ∉ (reached count).value :=
    editor.lineFeed_not_mem_value_run fun event hevent =>
      hfits event (List.mem_of_mem_take hevent)
  have hreport {index : Nat} {report : Report} (hget : outcome.reports[index]? = some report) :
      report.field = reached (index + 1) := by
    rw [hreports] at hget
    exact field_of_getElem?_reports editor .fresh hget
  have hvalues : ∀ report ∈ outcome.reports, '\n' ∉ report.field.value := by
    intro report hmem
    obtain ⟨index, hget⟩ := List.getElem?_of_mem hmem
    rw [hreport hget]
    exact hvalue (index + 1)
  have hlines := lines_output_text hvalues
  refine ⟨⟨front, hfront, hreads, hall⟩, ?_, hvalue, count_lineFeed_output_text hvalues,
    getLast?_output_text, ?_, ?_⟩
  · rw [hfield, hcount]
    exact congrArg (editor.run .fresh) List.take_length.symm
  · rw [hlines, List.length_map]
    rfl
  · intro index line hline
    rw [hlines, List.getElem?_map] at hline
    obtain ⟨report, hget, rfl⟩ := Option.map_eq_some_iff.1 hline
    rw [splitAtLast?_text, hreport hget]

-- The value has a bar and a carriage return in it, the mask a line feed, and the last line
-- is no event.
example :
    let mask := Mask.compile ['*', '*', '*', '\n', '*']
    let editor : Editor := ⟨mask, mask.pattern, rfl⟩
    let outcome := run editor .fresh (Utf8.encode "paste 1|\r2\nfocus\nfocal\n".toList)
    outcome.failure?.isSome ∧ outcome.output .text = "1|\r_2|3\n1|\r_2|3\n".toList := by
  decide +kernel

end Replay
end MaskedField
