/- # Events among blank lines and comments

A script that somebody has written holds more than events: blank lines, comments, and
line ends of two kinds, the last of which may be missing. None of it is read. One line
more in front of a script is one line more in front of its lines, and a carriage
return at its end makes no difference: the line of an event has none that could be
dropped by mistake, and a line that is skipped is skipped with it and without it.

It is not claimed that a script is determined by its events.
-/

import MaskedField.Proofs.Event.Canonical

namespace MaskedField.Event

open Text

/-- What ends a line of a document. -/
inductive LineEnd where
  | lineFeed
  | returnAndLineFeed

/-- The characters of a line's end. -/
def LineEnd.marks : LineEnd → List Char
  | lineFeed => ['\n']
  | returnAndLineFeed => ['\r', '\n']

/-- A blank line or a comment: if it has a character that is not blank, the first such
character is a number sign. -/
structure IsRemark (line : List Char) : Prop where
  unbroken : '\n' ∉ line
  first_eq : ∀ c ∈ line.find? fun c => !isBlank c, c = '#'

/-- The script has these events on its lines, one after another, and nothing but
remarks on the others; its last line may be unended. -/
inductive Annotated : List Event → List Char → Prop where
  | empty : Annotated [] []
  | remark {events : List Event} {line script : List Char} (hline : IsRemark line)
      (lineEnd : LineEnd) (hscript : Annotated events script) :
      Annotated events (line ++ (lineEnd.marks ++ script))
  | event {events : List Event} {script : List Char} (event : Event) (lineEnd : LineEnd)
      (hscript : Annotated events script) :
      Annotated (event :: events) (event.print ++ (lineEnd.marks ++ script))
  | lastRemark {line : List Char} (hline : IsRemark line) : Annotated [] line
  | lastEvent (event : Event) : Annotated [event] event.print

/-- A line is skipped exactly if it has no first character that is not blank, or has a
number sign there. -/
theorem isEventLine_eq_false_iff {line : List Char} :
    isEventLine line = false ↔ ∀ c ∈ line.find? fun c => !isBlank c, c = '#' := by
  rw [List.find?_not_eq_head?_dropWhile, isEventLine, trimStart]
  cases line.dropWhile isBlank with
  | nil => simp
  | cons c rest => simp

/-- Blanks at the end of a line do not keep it from being skipped. -/
theorem isEventLine_append_blanks {blanks : List Char} (hblanks : ∀ c ∈ blanks, isBlank c = true)
    (line : List Char) : isEventLine (line ++ blanks) = isEventLine line := by
  have hnone : blanks.find? (fun c => !isBlank c) = none := by
    rw [List.find?_eq_none]
    intro c hc
    simp [hblanks c hc]
  rw [Bool.eq_iff_iff, ← not_iff_not, Bool.not_eq_true, Bool.not_eq_true,
    isEventLine_eq_false_iff, isEventLine_eq_false_iff, List.find?_append, hnone, Option.or_none]

/-- A line and its end in front of a script are one line in front of its lines, which
may have lost a carriage return. -/
theorem lines_append_marks {line : List Char} (hline : '\n' ∉ line) (lineEnd : LineEnd)
    (script : List Char) :
    ∃ kept, lines (line ++ (lineEnd.marks ++ script)) = kept :: lines script ∧
      (line = kept ∨ line = kept ++ ['\r']) := by
  cases lineEnd with
  | lineFeed =>
    exact ⟨dropReturn '\r' line, linesOf_append_cons hline script, eq_dropReturn_or '\r' line⟩
  | returnAndLineFeed =>
    have hreturn : '\n' ∉ line ++ ['\r'] := by simpa using hline
    have hlines : lines (line ++ ['\r'] ++ '\n' :: script) =
        dropReturn '\r' (line ++ ['\r']) :: lines script :=
      linesOf_append_cons hreturn script
    rw [dropReturn_concat, List.append_assoc] at hlines
    exact ⟨line, hlines, .inl rfl⟩

/-- The lines of an annotated script are read as its events. -/
theorem Annotated.reads {events : List Event} {script : List Char}
    (hscript : Annotated events script) (hevents : ∀ event ∈ events, event.FitsLine) :
    Reads (lines script) events := by
  have hreturn : ∀ c ∈ ['\r'], isBlank c = true := List.forall_mem_singleton.2 (by decide)
  induction hscript with
  | empty => exact .nil
  | remark hline lineEnd _ ih =>
    have hskipped := isEventLine_eq_false_iff.2 hline.first_eq
    obtain ⟨kept, hlines, rfl | rfl⟩ := lines_append_marks hline.unbroken lineEnd _
    · rw [hlines]
      exact .skipped hskipped (ih hevents)
    · rw [hlines]
      exact .skipped (isEventLine_append_blanks hreturn kept ▸ hskipped) (ih hevents)
  | event event lineEnd _ ih =>
    obtain ⟨hevent, hevents⟩ := List.forall_mem_cons.1 hevents
    have hunbroken := lineFeed_not_mem_print hevent.representable hevent.text_unbroken
    have hread := read_print hevent.representable
    obtain ⟨kept, hlines, hkept | hkept⟩ := lines_append_marks hunbroken lineEnd _
    · rw [hlines, ← hkept]
      exact .event (isEventLine_print event) hread (ih hevents)
    · -- The event's own line ends with no carriage return that could have been lost.
      refine absurd ?_ (carriageReturn_not_mem_getLast?_print hevent.representable)
      rw [hkept, List.getLast?_concat]
      rfl
  | @lastRemark line hline =>
    by_cases hempty : line = []
    · rw [hempty]
      exact .nil
    · rw [lines, linesOf_of_not_mem hline.unbroken hempty]
      exact .skipped (isEventLine_eq_false_iff.2 hline.first_eq) .nil
  | lastEvent event =>
    have hevent := hevents event List.mem_cons_self
    have hunbroken := lineFeed_not_mem_print hevent.representable hevent.text_unbroken
    rw [lines, linesOf_of_not_mem hunbroken (print_ne_nil event)]
    exact .event (isEventLine_print event) (read_print hevent.representable) .nil

/-- Events that are read back from their own lines, and whose texts do not run over a
line's end, are found in every script that is annotated with remarks: all of them, in
order, and nothing else. -/
theorem annotated_script_is_read {events : List Event}
    (hread : ∀ event ∈ events, read event.print = .ok event)
    (htext : ∀ event ∈ events, ∀ text ∈ event.text?, '\n' ∉ text)
    {script : List Char} (hscript : Annotated events script) :
    readScript script = .ok events := by
  have hevents : ∀ event ∈ events, event.FitsLine := fun event hevent =>
    ⟨representable_of_read (hread event hevent), htext event hevent⟩
  exact readScript_eq_ok_iff.2 (hscript.reads hevents)

/-- Texts that look like a comment, are empty or hold a carriage return, between remarks
some of which end with one. -/
theorem annotated_script_is_read_among_returns :
    readScript "\t# a\r\r\nfocus\r\n\u2028\n\ntype # 5 \npaste a\r5\r\n#\r\npaste ".toList =
      .ok [.focus, .type "# 5 ".toList, .paste "a\r5".toList, .paste []] := by
  have hremark {line : List Char} (hline : '\n' ∉ line)
      (hfirst : (line.find? fun c => !isBlank c).getD '#' = '#') : IsRemark line :=
    ⟨hline, fun c hc => by rwa [Option.mem_def.1 hc] at hfirst⟩
  have hcomment : IsRemark "\t# a\r".toList := hremark (by decide +kernel) rfl
  have hseparator : IsRemark "\u2028".toList := hremark (by decide +kernel) rfl
  have hempty : IsRemark "".toList := hremark (by decide +kernel) rfl
  have hsign : IsRemark "#".toList := hremark (by decide +kernel) rfl
  apply annotated_script_is_read
  · simp only [List.forall_mem_cons]
    exact ⟨rfl, rfl, rfl, rfl, List.forall_mem_nil _⟩
  · simp [text?]
  exact .remark hcomment .returnAndLineFeed <| .event .focus .returnAndLineFeed <|
    .remark hseparator .lineFeed <| .remark hempty .lineFeed <|
    .event (.type "# 5 ".toList) .lineFeed <|
    .event (.paste "a\r5".toList) .returnAndLineFeed <|
    .remark hsign .returnAndLineFeed <| .lastEvent (.paste [])

end MaskedField.Event
