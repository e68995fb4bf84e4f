/- # Scenario files

A file of scenarios is a TOML document with one array of tables. A table has the
name, the mask and the steps of a scenario, and what it expects; it has no other
keys. An element of the array may also be an array itself, with the same fields
in order; items behind the last field are ignored.
-/

import MaskedField.Scenario.Basic
import MaskedField.Text.Source
import MaskedField.Toml.Reader

namespace MaskedField.Scenario

/-- The text that a value is. -/
def textOf? : Toml.Value → Option (List Char)
  | .string text => some text
  | _ => none

/-- The texts that the items of an array are. -/
def textsOf? : Toml.Value → Option (List (List Char))
  | .array items _ => items.mapM textOf?
  | _ => none

/-- The offset that a value is. -/
def offsetOf? : Toml.Value → Option UInt64
  | .integer (.ofNat number) => Text.Decimal.toOffset? number
  | _ => none

/-- A field that may be absent; if it is there it has to have the right form. -/
def optional {α : Type} (read : Toml.Value → Option α) :
    Option Toml.Value → Option (Option α)
  | none => some none
  | some value => (read value).map some

/-- The fields of a scenario, in order. -/
def fields : List (List Char) :=
  ["name".toList, "mask".toList, "steps".toList, "value".toList, "cursor".toList,
    "phase".toList, "transcript".toList]

/-- The scenario that some fields describe. -/
def ofFields? (field? : List Char → Option Toml.Value) : Option Scenario := do
  let name ← (field? "name".toList).bind textOf?
  let mask ← (field? "mask".toList).bind textOf?
  let steps ← (field? "steps".toList).bind textsOf?
  let value? ← optional textOf? (field? "value".toList)
  let cursor? ← optional offsetOf? (field? "cursor".toList)
  let phase? ← optional textOf? (field? "phase".toList)
  let transcript? ← optional textsOf? (field? "transcript".toList)
  some { name, mask, steps, value?, cursor?, phase?, transcript? }

/-- The scenario that an element of the array describes. -/
def ofValue? : Toml.Value → Option Scenario
  | .table entries _ =>
    if entries.all fun entry => fields.contains entry.1 then
      ofFields? fun key => entries.lookup key
    else none
  | .array items _ => ofFields? fun key => (fields.zip items).lookup key
  | _ => none

/-- The scenarios that a document describes. -/
def readFile? (document : List Char) : Option (List Scenario) := do
  let entries ← Toml.read? document
  match entries with
  | [] => some []
  | [(key, .array items _)] => if key = "scenario".toList then items.mapM ofValue? else none
  | _ => none

/-- Why a file yields no scenarios. -/
inductive FileFault where
  | unreadable (error : Text.SourceError)
  | malformed
  | empty
  deriving DecidableEq

/-- The fault of a file as a message. -/
def FileFault.message (path : List Char) : FileFault → String
  | unreadable error =>
    "failed to read scenario file " ++ Text.quoted path ++ ": " ++ error.message
  | malformed => "failed to parse scenario file " ++ Text.quoted path
  | empty => "scenario file " ++ Text.quoted path ++ " defines no scenarios"

/-- The scenarios in a file, of which there is at least one. -/
def load (contents : Except Text.SourceError (List UInt8)) :
    Except FileFault (List Scenario) :=
  match Text.ofFile contents with
  | .error error => .error (.unreadable error)
  | .ok document =>
    match readFile? document with
    | none => .error .malformed
    | some [] => .error .empty
    | some scenarios => .ok scenarios

end MaskedField.Scenario
