/- # The program

The program replays a script from its standard input against one field and writes
a report for each event. Everything that goes wrong ends it with a message; what
was reported before stays reported.
-/

import MaskedField.Replay.Basic
import MaskedField.Settings.Basic

namespace MaskedField.Program

/-- Why the program ends before its script does. -/
inductive Failure where
  | settings (failure : Settings.Failure)
  | mask (error : MaskError)
  | replay (failure : Replay.Failure)
  deriving DecidableEq

namespace Failure

/-- The failure as a message. -/
def message : Failure → String
  | settings failure => failure.message
  | mask error => error.message
  | replay (.script line error) => s!"script line {line}: " ++ error.message
  | replay (.source error) => "i/o error: " ++ error.message

/-- The message of the cause that lies beneath, if there is one. -/
def cause? : Failure → Option String
  | settings (.unreadable _ error) => some error.message
  | settings _ => none
  | mask error => some error.message
  | replay (.script _ error) => some error.message
  | replay (.source error) => some error.message

end Failure

/-- The name by which the program calls itself. -/
def name : String := "maskedit"

/-- A message as a line of the program's own. -/
def notice (message : String) : String :=
  name ++ ": " ++ message ++ "\n"

/-- What the program leaves behind. -/
structure Outcome where
  exitCode : UInt32
  stdout : String
  stderr : String
  deriving DecidableEq

/-- What the program says when it is asked for help. -/
def help : String :=
  "Replay field events against an input mask\n\n" ++
  "Usage: maskedit [OPTIONS] <MASK>\n" ++
  "       maskedit [OPTIONS] --config <PATH>\n\n" ++
  "Options:\n" ++
  "      --config <PATH>  Read the mask and defaults from a TOML file\n" ++
  "      --json           Print one JSON object per event\n" ++
  "      --strict         Reject masks with chars outside every class\n" ++
  "  -h, --help           Print help\n" ++
  "  -V, --version        Print version\n"

/-- Why a command line is refused, in words. -/
def refusalText : Arguments.Refusal → String
  | .unwantedValue => "a flag takes no value"
  | .conflict => "an argument is given twice, or together with one that excludes it"
  | .missingValue => "--config needs a path"
  | .unknownArgument => "unexpected argument"
  | .missingMask => "give a mask or --config"
  | .versionWanted => ""
  | .helpWanted => ""

/-- What a command line that is not carried out leaves behind. -/
def refuse : Arguments.Refusal → Outcome
  | .versionWanted => ⟨0, name ++ " 0.1.0\n", ""⟩
  | .helpWanted => ⟨0, help, ""⟩
  | refusal => ⟨2, "", notice (refusalText refusal)⟩

/-- What a failure leaves behind, after some output and some notices. -/
def fail (stdout stderr : String) (failure : Failure) : Outcome :=
  ⟨1, stdout, stderr ++ notice failure.message⟩

/-- The program when it is ready to read its script. -/
structure Session where
  editor : Editor
  format : Replay.Format

namespace Session

/-- A mask with characters without a meaning is worth a notice. -/
def warning (session : Session) : String :=
  if session.editor.mask.hasUnclassified then
    notice ("mask " ++ Text.quoted session.editor.mask.source ++
      " has chars outside every class; those slots accept nothing")
  else ""

/-- Replay a script to its end, or as far as it goes. -/
def run (session : Session) (script : List UInt8) : Outcome :=
  let outcome := Replay.run session.editor .fresh script
  let stdout := String.ofList (outcome.output session.format)
  match outcome.failure? with
  | none => ⟨0, stdout, session.warning⟩
  | some failure => fail stdout session.warning (.replay failure)

end Session

/-- Make the program ready, with an engine and a way to read files; or say what it
leaves behind instead. -/
def start (engine : Pattern.Engine)
    (readFile : List Char → Except Text.SourceError (List UInt8))
    (arguments : List (List Char)) : Except Outcome Session :=
  match Arguments.read arguments with
  | .error refusal => .error (refuse refusal)
  | .ok arguments =>
    match Settings.resolve readFile arguments with
    | .error failure => .error (fail "" "" (.settings failure))
    | .ok settings =>
      match Editor.build engine settings.strict settings.mask with
      | .error error => .error (fail "" "" (.mask error))
      | .ok editor => .ok ⟨editor, settings.format⟩

/-- The whole program: its engine, the files it can read, its command line, and its
script. -/
def run (engine : Pattern.Engine)
    (readFile : List Char → Except Text.SourceError (List UInt8))
    (arguments : List (List Char)) (script : List UInt8) : Outcome :=
  match start engine readFile arguments with
  | .error outcome => outcome
  | .ok session => session.run script

end MaskedField.Program
