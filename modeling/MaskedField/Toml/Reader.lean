/- # Reading TOML documents

A document is a list of statements, one on a line: headers, and keys with their
values. Arrays, and tables between braces, may run over several lines, and may be
nested up to a limit.

Every reader here is given fuel for as many steps as the text has characters; it
takes at least one character in two steps, so no document runs out.
-/

import MaskedField.Toml.Moment
import MaskedField.Toml.Number
import MaskedField.Toml.Value

namespace MaskedField.Toml

/-- How many arrays and tables may be open at one place, and how many parts a key
may have. -/
def deepest : Nat := 80

/-- A character of a bare word that stands as a value: any but the blanks, the line
ends and the marks of the grammar. -/
def isWord (c : Char) : Bool :=
  !"=,[]\x7b\x7d# \t\r\n".toList.contains c

/-- A word goes on behind blanks: what follows there is neither a dot nor the start
of a string. -/
def goesOn (text : List Char) : Bool :=
  match skipSpaces text with
  | [] => false
  | c :: _ => isWord c && c != '.' && c != '"' && c != '\x27'

/-- Take the bare word at the front of a text. It may hold blanks, since a date and a
time belong together. -/
def splitWord : List Char → List Char × List Char
  | [] => ([], [])
  | c :: rest =>
    if isWord c || (isSpace c && goesOn rest) then before c (splitWord rest)
    else ([], c :: rest)

/-- The value that a bare word writes. -/
def wordValue? (word : List Char) : Option Value :=
  if word = "true".toList then some (.boolean true)
  else if word = "false".toList then some (.boolean false)
  else
    match integerValue? word with
    | some number => some (.integer number)
    | none =>
      if isFloat word || isMoment word || isBaseMark word || isGroupedNumeral word then
        some (.verbatim word)
      else none

mutual

/-- Read a value, with so many more arrays and tables to open at most. -/
def readValue (depth : Nat) : Nat → Reader Value
  | 0, _ => none
  | _ + 1, '"' :: '"' :: '"' :: rest => do
    let (text, rest) ← readLongBasic false (skipFirstLineEnd rest)
    some (.string text, rest)
  | _ + 1, '\x27' :: '\x27' :: '\x27' :: rest => do
    let (text, rest) ← readLongLiteral (skipFirstLineEnd rest)
    some (.string text, rest)
  | _ + 1, '"' :: rest => do
    let (text, rest) ← readBasic rest
    some (.string text, rest)
  | _ + 1, '\x27' :: rest => do
    let (text, rest) ← readLiteral rest
    some (.string text, rest)
  | fuel + 1, '[' :: rest => do
    if depth = 0 then failure
    let (items, rest) ← readItems (depth - 1) fuel (skipGaps false rest)
    some (.array items false, rest)
  | fuel + 1, '\x7b' :: rest => do
    if depth = 0 then failure
    let (entries, rest) ← readPairs (depth - 1) fuel [] (skipGaps false rest)
    some (.table entries .inline, rest)
  | _ + 1, text => do
    let (word, rest) := splitWord text
    let value ← wordValue? word
    some (value, rest)

/-- Read the items of an array, up to its closing bracket. -/
def readItems (depth : Nat) : Nat → Reader (List Value)
  | 0, _ => none
  | _ + 1, ']' :: rest => some ([], rest)
  | fuel + 1, text => do
    let (value, rest) ← readValue depth fuel text
    match skipGaps false rest with
    | ',' :: rest =>
      let (values, rest) ← readItems depth fuel (skipGaps false rest)
      some (value :: values, rest)
    | ']' :: rest => some ([value], rest)
    | _ => none

/-- Read the pairs of a table between braces, up to its closing brace. Lines may end
anywhere but inside a key. -/
def readPairs (depth : Nat) : Nat → Entries → Reader Entries
  | 0, _, _ => none
  | _ + 1, entries, '\x7d' :: rest => some (entries, rest)
  | fuel + 1, entries, text => do
    let (path, rest) ← readKey deepest text
    match skipGaps false rest with
    | '=' :: rest =>
      let (value, rest) ← readValue depth fuel (skipGaps false rest)
      let entries ← entries.assign value path
      match skipGaps false rest with
      | ',' :: rest => readPairs depth fuel entries (skipGaps false rest)
      | '\x7d' :: rest => some (entries, rest)
      | _ => none
    | _ => none

end

/-- Read the statements of a document, with the table that the last header opened
and the entries made so far. -/
def readStatements : Nat → List (List Char) → Entries → List Char → Option Entries
  | 0, _, _, _ => none
  | fuel + 1, header, entries, text =>
    match skipGaps false text with
    | [] => some entries
    | '[' :: '[' :: rest => do
      let (path, rest) ← readKey deepest (skipSpaces rest)
      match rest with
      | ']' :: ']' :: rest =>
        let rest ← atLineEnd? rest
        let entries ← entries.atHeader Entries.openElement path
        readStatements fuel path entries rest
      | _ => none
    | '[' :: rest => do
      let (path, rest) ← readKey deepest (skipSpaces rest)
      match rest with
      | ']' :: rest =>
        let rest ← atLineEnd? rest
        let entries ← entries.atHeader Entries.openTable path
        readStatements fuel path entries rest
      | _ => none
    | text => do
      let (path, rest) ← readKey deepest text
      match rest with
      | '=' :: rest =>
        let (value, rest) ← readValue deepest fuel (skipSpaces rest)
        let rest ← atLineEnd? rest
        let entries ← entries.within (Entries.assign value path) header
        readStatements fuel header entries rest
      | _ => none

/-- The table that a document writes. A byte order mark in front is allowed. -/
def read? (document : List Char) : Option Entries :=
  let text := if document.head? == some '\ufeff' then document.drop 1 else document
  readStatements (2 * text.length + 2) [] [] text

end MaskedField.Toml
