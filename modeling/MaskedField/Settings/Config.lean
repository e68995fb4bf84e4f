/- # Configuration files

A configuration file is a TOML document with a mask and, at choice, whether the
mask is taken strictly and in which form reports are written. It has no other
keys.
-/

import MaskedField.Replay.Report
import MaskedField.Toml.Reader

namespace MaskedField

/-- The format that a word names. -/
def Replay.Format.ofWord? (word : List Char) : Option Replay.Format :=
  if word = "text".toList then some .text
  else if word = "json".toList then some .json
  else none

/-- What a configuration file says. -/
structure Config where
  mask : List Char
  strict : Bool
  format : Replay.Format
  deriving DecidableEq

namespace Config

/-- The format that a value names: a word, or a table with that word as its only
key and nothing under it. -/
def formatOf? : Toml.Value → Option Replay.Format
  | .string word => Replay.Format.ofWord? word
  | .table [(word, .table [] _)] _ => Replay.Format.ofWord? word
  | .table [(word, .array [] _)] _ => Replay.Format.ofWord? word
  | _ => none

/-- The keys that a configuration file may have. -/
def keys : List (List Char) :=
  ["mask".toList, "strict".toList, "output".toList]

/-- The configuration that a table describes. -/
def ofEntries? (entries : Toml.Entries) : Option Config := do
  if !entries.all (fun entry => keys.contains entry.1) then failure
  let mask ← match entries.lookup "mask".toList with
    | some (.string mask) => some mask
    | _ => none
  let strict ← match entries.lookup "strict".toList with
    | none => some false
    | some (.boolean strict) => some strict
    | some _ => none
  let format ← match entries.lookup "output".toList with
    | none => some .text
    | some value => formatOf? value
  some ⟨mask, strict, format⟩

/-- The configuration that a document describes. -/
def read? (document : List Char) : Option Config :=
  (Toml.read? document).bind ofEntries?

end Config
end MaskedField
