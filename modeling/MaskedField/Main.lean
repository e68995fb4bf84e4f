/- # The command-line tool

Reading and writing for the program: it reads the file that the command line
names, takes its script from standard input, and writes each report as soon as
its event is applied.
-/

import MaskedField.Program

namespace MaskedField.Console

/-- Read a file, or say why it cannot be read. -/
def readContents (path : String) : IO (Except Text.SourceError (List UInt8)) := do
  try
    let contents ← IO.FS.readBinFile path
    pure (.ok contents.toList)
  catch error =>
    pure <| .error <| match error with
      | .permissionDenied .. => .denied
      | .inappropriateType .. => .directory
      | _ => .missing

/-- Everything that a stream still holds. -/
partial def readAll (stream : IO.FS.Stream) (sofar : ByteArray) : IO ByteArray := do
  let more ← stream.read 65536
  if more.isEmpty then pure sofar else readAll stream (sofar ++ more)

/-- Replay a script line by line, writing each report at once. -/
def replayInput (session : Program.Session) (script : List UInt8) : IO UInt32 := do
  let stdout ← IO.getStdout
  let mut field := Field.fresh
  let mut number := 1
  for line in Text.byteLines script do
    match Replay.step session.editor field number line with
    | .error failure =>
      IO.eprint (Program.notice (Program.Failure.message (.replay failure)))
      return 1
    | .ok none => pure ()
    | .ok (some report) =>
      stdout.putStr (String.ofList (report.line session.format))
      stdout.flush
      field := report.field
    number := number + 1
  return 0

end MaskedField.Console

open MaskedField MaskedField.Console in
/-- The tool. -/
def main (arguments : List String) : IO UInt32 := do
  let arguments := arguments.map String.toList
  let config? := (Arguments.read arguments).toOption.bind Arguments.config?
  let contents ← match config? with
    | none => pure (.error .missing)
    | some path => readContents (String.ofList path)
  match Program.start Pattern.Engine.bounded (fun _ => contents) arguments with
  | .error outcome =>
    IO.print outcome.stdout
    IO.eprint outcome.stderr
    return outcome.exitCode
  | .ok session =>
    IO.eprint session.warning
    let script ← readAll (← IO.getStdin) ByteArray.empty
    replayInput session script.toList
