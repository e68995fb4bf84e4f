/- # Settings

The settings of one replay come from the command line and from the configuration
file that it names. What the command line asks for wins.
-/

import MaskedField.Settings.Arguments
import MaskedField.Settings.Config
import MaskedField.Text.Source

namespace MaskedField

/-- The settings of one replay. -/
structure Settings where
  mask : List Char
  strict : Bool
  format : Replay.Format
  deriving DecidableEq

namespace Settings

/-- Why there are no settings. -/
inductive Failure where
  /-- A mask is given on the command line and in a file. -/
  | maskTwice
  /-- No mask is given. -/
  | maskMissing
  /-- The configuration file is not there, or is not a text. -/
  | unreadable (path : List Char) (error : Text.SourceError)
  /-- The configuration file is not what it should be. -/
  | malformed (path : List Char)
  deriving DecidableEq

/-- The failure as a message. -/
def Failure.message : Failure → String
  | maskTwice => "give the mask either inline or in --config, not both"
  | maskMissing => "missing mask"
  | unreadable path error =>
    "failed to read config " ++ String.ofList path ++ ": " ++ error.message
  | malformed path => "failed to parse config " ++ String.ofList path

/-- The configuration in a file. -/
def loadConfig (path : List Char) (contents : Except Text.SourceError (List UInt8)) :
    Except Failure Config :=
  match Text.ofFile contents with
  | .error error => .error (.unreadable path error)
  | .ok document =>
    match Config.read? document with
    | some config => .ok config
    | none => .error (.malformed path)

/-- The settings that arguments ask for, with a way to read files. The file is
read before anything else is looked at. -/
def resolve (readFile : List Char → Except Text.SourceError (List UInt8))
    (arguments : Arguments) : Except Failure Settings :=
  match arguments.config? with
  | none =>
    match arguments.mask? with
    | none => .error .maskMissing
    | some mask =>
      .ok ⟨mask, arguments.strict, if arguments.json then .json else .text⟩
  | some path => do
    let config ← loadConfig path (readFile path)
    match arguments.mask? with
    | some _ => .error .maskTwice
    | none =>
      .ok ⟨config.mask, arguments.strict || config.strict,
        if arguments.json then .json else config.format⟩

end Settings
end MaskedField
