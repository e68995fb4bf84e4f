import MaskedField.Event.Basic
import MaskedField.Event.Printer
import MaskedField.Event.Reader
import MaskedField.Event.Script
import MaskedField.Field.Basic
import MaskedField.Field.Editor
import MaskedField.Field.Keystroke
import MaskedField.Field.Selection
import MaskedField.Field.Session
import MaskedField.Main
import MaskedField.Mask.Basic
import MaskedField.Mask.CharClass
import MaskedField.Mask.Expression
import MaskedField.Mask.Navigation
import MaskedField.Mask.Placement
import MaskedField.Mask.Slot
import MaskedField.Pattern.Basic
import MaskedField.Pattern.Engine
import MaskedField.Pattern.Reader
import MaskedField.Program
import MaskedField.Proofs.Event.Annotation
import MaskedField.Proofs.Event.Canonical
import MaskedField.Proofs.Event.Keystroke
import MaskedField.Proofs.Event.Prefixes
import MaskedField.Proofs.Event.RoundTrip
import MaskedField.Proofs.Event.Script
import MaskedField.Proofs.Event.Surplus
import MaskedField.Proofs.Field.Completion
import MaskedField.Proofs.Field.Cursor
import MaskedField.Proofs.Field.Effect
import MaskedField.Proofs.Field.Entry
import MaskedField.Proofs.Field.Lifecycle
import MaskedField.Proofs.Field.Overwriting
import MaskedField.Proofs.Field.Pasting
import MaskedField.Proofs.Field.Provenance
import MaskedField.Proofs.Field.Readiness
import MaskedField.Proofs.Field.Run
import MaskedField.Proofs.Field.Selecting
import MaskedField.Proofs.Field.Shape
import MaskedField.Proofs.Field.SingleKey
import MaskedField.Proofs.Field.Strike
import MaskedField.Proofs.Field.Typing
import MaskedField.Proofs.Field.Undoing
import MaskedField.Proofs.Mask.Blanks
import MaskedField.Proofs.Mask.Decoding
import MaskedField.Proofs.Mask.Filling
import MaskedField.Proofs.Mask.Fitting
import MaskedField.Proofs.Mask.Greedy
import MaskedField.Proofs.Mask.Joining
import MaskedField.Proofs.Mask.Matching
import MaskedField.Proofs.Mask.Navigation
import MaskedField.Proofs.Mask.Placing
import MaskedField.Proofs.Mask.Positions
import MaskedField.Proofs.Mask.Progress
import MaskedField.Proofs.Mask.Strictness
import MaskedField.Proofs.Mask.Stripping
import MaskedField.Proofs.Mask.Tail
import MaskedField.Proofs.Mask.Walking
import MaskedField.Proofs.Replay.Log
import MaskedField.Proofs.Replay.ShortForm
import MaskedField.Proofs.Replay.Streaming
import MaskedField.Proofs.Scenario.Difference
import MaskedField.Proofs.Scenario.Replaying
import MaskedField.Proofs.Scenario.Run
import MaskedField.Proofs.Text.Caret
import MaskedField.Proofs.Text.Lines
import MaskedField.Proofs.Text.Splicing
import MaskedField.Proofs.Text.Utf8
import MaskedField.Proofs.Text.Words
import MaskedField.Replay.Basic
import MaskedField.Replay.Report
import MaskedField.Scenario.Basic
import MaskedField.Scenario.File
import MaskedField.Scenario.Transcript
import MaskedField.Settings.Arguments
import MaskedField.Settings.Basic
import MaskedField.Settings.Config
import MaskedField.Text.Blank
import MaskedField.Text.Caret
import MaskedField.Text.Combining
import MaskedField.Text.Decimal
import MaskedField.Text.JsonString
import MaskedField.Text.Lines
import MaskedField.Text.Printable
import MaskedField.Text.Quoted
import MaskedField.Text.Source
import MaskedField.Text.Utf8
import MaskedField.Toml.Lexeme
import MaskedField.Toml.Moment
import MaskedField.Toml.Number
import MaskedField.Toml.Reader
import MaskedField.Toml.Value
