/- # Replays

A replay reads a script line by line and applies each event as soon as its line
is read. It ends at the first line that is no text or no event; what happened
before that line has happened, and has been reported.

Lines are numbered from one, and blank lines and comments count.
-/

import MaskedField.Event.Script
import MaskedField.Field.Session
import MaskedField.Replay.Report
import MaskedField.Text.Source

namespace MaskedField.Replay

/-- Why a replay ends early. -/
inductive Failure where
  /-- A line is not an event. -/
  | script (line : Nat) (error : Event.ReadError)
  /-- A line is not a text. -/
  | source (error : Text.SourceError)
  deriving DecidableEq

/-- What has become of a field, and what was reported on the way. -/
structure Outcome where
  field : Field
  /-- One report for each event, in order. -/
  reports : List Report
  /-- Why the replay ended early, if it did. -/
  failure? : Option Failure
  deriving DecidableEq

namespace Outcome

/-- The number of events applied. -/
def count (outcome : Outcome) : Nat :=
  outcome.reports.length

/-- Everything that was written. -/
def output (outcome : Outcome) (format : Format) : List Char :=
  outcome.reports.flatMap (·.line format)

end Outcome

/-- Take one line of the script: skip it, or apply its event. -/
def step (editor : Editor) (field : Field) (number : Nat) (line : List UInt8) :
    Except Failure (Option Report) :=
  match Text.ofBytes line with
  | .error error => .error (.source error)
  | .ok line =>
    if Event.isEventLine line then
      match Event.read line with
      | .error error => .error (.script number error)
      | .ok event =>
        let (after, disposition) := editor.apply field event
        .ok (some ⟨event, after, disposition⟩)
    else .ok none

/-- Take the lines of a script one after another, the first of which has the
given number. -/
def runLines (editor : Editor) (field : Field) (number : Nat) : List (List UInt8) → Outcome
  | [] => ⟨field, [], none⟩
  | line :: rest =>
    match step editor field number line with
    | .error failure => ⟨field, [], some failure⟩
    | .ok none => runLines editor field (number + 1) rest
    | .ok (some report) =>
      let outcome := runLines editor report.field (number + 1) rest
      { outcome with reports := report :: outcome.reports }

/-- Replay a script against a field. -/
def run (editor : Editor) (field : Field) (script : List UInt8) : Outcome :=
  runLines editor field 1 (Text.byteLines script)

end MaskedField.Replay
