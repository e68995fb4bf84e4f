/- # TOML tables

The values of a TOML document, and the rules by which its statements build up a
table: a key is given a value at most once, a header opens a table or the next
element of an array of tables, and a value that was written in one piece is never
added to.

Dates, times and floating-point numbers are kept as they are written: no table
that is read here has a field for one.
-/

namespace MaskedField.Toml

/-- How a table came to be, which decides who may still add to it. -/
inductive Origin where
  /-- Written in one piece, between braces. -/
  | inline
  /-- Opened by a header of its own. -/
  | header
  /-- Passed through by the header of a table inside it. -/
  | implied
  /-- Passed through by a dotted key. -/
  | dotted
  deriving DecidableEq

/-- A value of a document. -/
inductive Value where
  | string (text : List Char)
  | integer (number : Int)
  | boolean (flag : Bool)
  /-- A date, a time, a floating-point number, or a word that passes for a number
  but has no value, as it is written. -/
  | verbatim (word : List Char)
  /-- An array; only one that headers have built can still grow. -/
  | array (items : List Value) (grows : Bool)
  | table (entries : List (List Char × Value)) (origin : Origin)

/-- The entries of a table, in the order in which they were made. -/
abbrev Entries := List (List Char × Value)

namespace Entries

/-- Put another value under a key that is there. -/
def replace (key : List Char) (value : Value) (entries : Entries) : Entries :=
  entries.map fun entry => if entry.1 = key then (key, value) else entry

/-- Give a value to a dotted key. The tables on the way come into being, or were
brought into being in the same way. -/
def assign (value : Value) : List (List Char) → Entries → Option Entries
  | [], _ => none
  | [key], entries =>
    if (entries.lookup key).isSome then none else some (entries ++ [(key, value)])
  | key :: path, entries =>
    match entries.lookup key with
    | none => (assign value path []).map fun inner => entries ++ [(key, .table inner .dotted)]
    | some (.table inner .dotted) =>
      (assign value path inner).map fun inner => entries.replace key (.table inner .dotted)
    | some (.table inner .implied) =>
      (assign value path inner).map fun inner => entries.replace key (.table inner .implied)
    | some _ => none

/-- Change the table that a header's path leads to. In an array of tables the way
leads through the last element. -/
def within (change : Entries → Option Entries) : List (List Char) → Entries → Option Entries
  | [], entries => change entries
  | key :: path, entries =>
    match entries.lookup key with
    | none => (within change path []).map fun inner => entries ++ [(key, .table inner .implied)]
    | some (.table inner origin) =>
      if origin = .inline then none
      else (within change path inner).map fun inner => entries.replace key (.table inner origin)
    | some (.array items true) =>
      match items.getLast? with
      | some (.table inner origin) =>
        (within change path inner).map fun inner =>
          entries.replace key (.array (items.dropLast ++ [.table inner origin]) true)
      | _ => none
    | some _ => none

/-- Open a table; its name must be new, or only passed through so far. -/
def openTable (key : List Char) (entries : Entries) : Option Entries :=
  match entries.lookup key with
  | none => some (entries ++ [(key, .table [] .header)])
  | some (.table inner .implied) => some (entries.replace key (.table inner .header))
  | some _ => none

/-- Open the next element of an array of tables. -/
def openElement (key : List Char) (entries : Entries) : Option Entries :=
  match entries.lookup key with
  | none => some (entries ++ [(key, .array [.table [] .header] true)])
  | some (.array items true) =>
    some (entries.replace key (.array (items ++ [.table [] .header]) true))
  | some _ => none

/-- Carry out a change at the last key of a header's path. -/
def atHeader (change : List Char → Entries → Option Entries) (path : List (List Char))
    (entries : Entries) : Option Entries :=
  match path.getLast? with
  | none => none
  | some key => within (change key) path.dropLast entries

end Entries
end MaskedField.Toml
