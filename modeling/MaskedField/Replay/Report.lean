/- # Reports

After every event of a replay one line says what the field looks like. The short
form is the value and the cursor with a bar between them; the long form is a JSON
object that also repeats the event and says how it was received.
-/

import MaskedField.Event.Printer
import MaskedField.Field.Basic
import MaskedField.Text.JsonString

namespace MaskedField.Replay

/-- The form in which reports are written. -/
inductive Format where
  | text
  | json
  deriving DecidableEq

/-- What is reported after one event. -/
structure Report where
  event : Event
  /-- The field as the event left it. -/
  field : Field
  disposition : Disposition
  deriving DecidableEq

namespace Report

/-- The value and the cursor, with a bar between them. -/
def text (report : Report) : List Char :=
  report.field.value ++ '|' :: Text.Decimal.print report.field.cursor

/-- The report as a JSON object, without any space outside its strings. -/
def json (report : Report) : List Char :=
  "\x7b\"event\":".toList ++ Text.JsonString.encode report.event.print ++
    ",\"value\":".toList ++ Text.JsonString.encode report.field.value ++
    ",\"cursor\":".toList ++ Text.Decimal.print report.field.cursor ++
    ",\"phase\":".toList ++ Text.JsonString.encode report.field.phase.word ++
    ",\"disposition\":".toList ++ Text.JsonString.encode report.disposition.word ++
    "\x7d".toList

/-- The line of a report, with the line feed that ends it. -/
def line (report : Report) : Format → List Char
  | .text => report.text ++ ['\n']
  | .json => report.json ++ ['\n']

end Report
end MaskedField.Replay
