/- # The command line

The arguments are two flags, one option that takes a path, and the mask. The mask
may start with a dash: an argument that is no known option is the mask, as long
as no mask has been given. After two dashes every argument is a mask.

The path of the option may be the next argument. It is only settled when the
argument after it is met, or at the end, which decides which of several faults is
the one reported.
-/

namespace MaskedField

/-- What a well-formed command line says. -/
@[ext]
structure Arguments where
  mask? : Option (List Char)
  config? : Option (List Char)
  json : Bool
  strict : Bool
  deriving DecidableEq

namespace Arguments

/-- Nothing said yet. -/
def empty : Arguments :=
  ⟨none, none, false, false⟩

/-- Why a command line is not carried out. -/
inductive Refusal where
  /-- The version is asked for. -/
  | versionWanted
  /-- Help is asked for. -/
  | helpWanted
  /-- A flag has a value. -/
  | unwantedValue
  /-- An argument is given twice, or two that exclude each other. -/
  | conflict
  /-- The option has no path, or an empty one. -/
  | missingValue
  /-- There is no argument of that name, or there is one mask too many. -/
  | unknownArgument
  /-- There is neither a mask nor a path. -/
  | missingMask
  deriving DecidableEq

/-- The flags and options with long names. -/
inductive LongOption where
  | json
  | strict
  | config
  | version
  | help
  deriving DecidableEq

/-- The option with a name. -/
def LongOption.ofName? (name : List Char) : Option LongOption :=
  if name = "json".toList then some json
  else if name = "strict".toList then some strict
  else if name = "config".toList then some config
  else if name = "version".toList then some version
  else if name = "help".toList then some help
  else none

/-- The path that the option is waiting for. -/
inductive Pending where
  /-- The option is not waiting. -/
  | idle
  /-- The option has been given, its path has not. -/
  | awaiting
  /-- The path has been given. -/
  | given (path : List Char)
  deriving DecidableEq

/-- How far the reading of a command line has come. -/
structure Progress where
  arguments : Arguments
  pending : Pending
  /-- Two dashes have been met. -/
  masksOnly : Bool
  deriving DecidableEq

namespace Progress

/-- Before the first argument. -/
def start : Progress :=
  ⟨.empty, .idle, false⟩

/-- Take the path for given. An option cannot be given twice or with an empty
path. -/
def withConfig (progress : Progress) (path : List Char) : Except Refusal Progress :=
  if progress.arguments.config?.isSome then .error .conflict
  else if path.isEmpty then .error .missingValue
  else .ok { progress with
    arguments := { progress.arguments with config? := some path }, pending := .idle }

/-- Settle what the option is waiting for. -/
def settle (progress : Progress) : Except Refusal Progress :=
  match progress.pending with
  | .idle => .ok progress
  | .awaiting => .error .missingValue
  | .given path => withConfig { progress with pending := .idle } path

/-- A flag or option has been met by its name. -/
def option (progress : Progress) (name : LongOption) : Except Refusal Progress := do
  let progress ← progress.settle
  match name with
  | .json =>
    if progress.arguments.json then .error .conflict
    else .ok { progress with arguments := { progress.arguments with json := true } }
  | .strict =>
    if progress.arguments.strict then .error .conflict
    else .ok { progress with arguments := { progress.arguments with strict := true } }
  | .config => .ok { progress with pending := .awaiting }
  | .version => .error .versionWanted
  | .help => .error .helpWanted

/-- A flag or option has been met with a value attached; only the option that
takes a path may have one. -/
def optionWithValue (progress : Progress) (name : LongOption) (value : List Char) :
    Except Refusal Progress :=
  match name with
  | .config => do
    let progress ← progress.settle
    progress.withConfig value
  | _ => .error .unwantedValue

/-- Short flags have been met, all of them known. The first one decides. -/
def shortFlags (progress : Progress) (letters : List Char) : Except Refusal Progress :=
  match letters with
  | 'V' :: _ => progress.option .version
  | 'h' :: _ => progress.option .help
  | _ => .error .unknownArgument

/-- An argument that names no option has been met. -/
def plain (progress : Progress) (argument : List Char) : Except Refusal Progress :=
  if progress.arguments.mask?.isSome then .error .unknownArgument
  else do
    let progress ← progress.settle
    .ok { progress with arguments := { progress.arguments with mask? := some argument } }

/-- An argument that names no option has been met where a path may be awaited. -/
def pathOrPlain (progress : Progress) (argument : List Char) : Except Refusal Progress :=
  if progress.pending = .awaiting then .ok { progress with pending := .given argument }
  else progress.plain argument

/-- An argument with a dash in front has been met that is no known option. It is
taken for a path or a mask while a mask may still come. -/
def dashed (progress : Progress) (argument : List Char) : Except Refusal Progress :=
  if progress.arguments.mask?.isSome then .error .unknownArgument
  else progress.pathOrPlain argument

/-- Take the next argument. -/
def next (progress : Progress) (argument : List Char) : Except Refusal Progress :=
  if progress.masksOnly then progress.plain argument
  else match argument with
    | ['-', '-'] => .ok { progress with masksOnly := true }
    | '-' :: '-' :: long =>
      let name := long.takeWhile (· != '=')
      match LongOption.ofName? name with
      | none => progress.dashed argument
      | some option =>
        match long.dropWhile (· != '=') with
        | [] => progress.option option
        | _ :: value => progress.optionWithValue option value
    | '-' :: letter :: letters =>
      let known := (letter :: letters).all fun c => c == 'V' || c == 'h'
      if !known && !progress.arguments.mask?.isSome then progress.pathOrPlain argument
      else progress.shortFlags (letter :: letters)
    | _ => progress.pathOrPlain argument

/-- The end of the command line: a path has to have come, and exactly one of mask
and path has to be there. -/
def finish (progress : Progress) : Except Refusal Arguments := do
  let progress ← progress.settle
  let arguments := progress.arguments
  match arguments.mask?, arguments.config? with
  | some _, some _ => .error .conflict
  | none, none => .error .missingMask
  | _, _ => .ok arguments

end Progress

/-- Read a command line, without the name of the program. -/
def read (arguments : List (List Char)) : Except Refusal Arguments := do
  let progress ← arguments.foldlM Progress.next .start
  progress.finish

end Arguments
end MaskedField
