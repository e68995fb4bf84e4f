/- # The small parts of a TOML document

Blanks and comments, the four forms of strings, and keys. A reader takes its part
from the front of the text and returns the rest, or nothing where the text is at
fault.
-/

namespace MaskedField.Toml

/-- Take something from the front of a text. -/
abbrev Reader (α : Type) := List Char → Option (α × List Char)

/-- A blank inside a line. -/
def isSpace (c : Char) : Bool :=
  c == ' ' || c == '\t'

/-- A character that comments and strings may hold as it is: no control but the
tab. -/
def isPlain (c : Char) : Bool :=
  c == '\t' || (0x20 ≤ c.toNat && c.toNat != 0x7f)

/-- What follows the blanks at the front of a line. -/
def skipSpaces (text : List Char) : List Char :=
  text.dropWhile isSpace

/-- What follows blanks, line ends and comments. -/
def skipGaps (inComment : Bool) : List Char → List Char
  | [] => []
  | c :: rest =>
    if inComment && isPlain c then skipGaps true rest
    else if c = '#' then skipGaps true rest
    else if isSpace c || c = '\n' then skipGaps false rest
    else if c = '\r' && rest.head? == some '\n' then skipGaps false rest
    else c :: rest

/-- The statement has ended: only blanks and perhaps a comment stand between it
and the end of the line. -/
def atLineEnd? (text : List Char) : Option (List Char) :=
  match skipSpaces text with
  | [] => some []
  | '#' :: rest => some ('#' :: rest)
  | '\n' :: rest => some rest
  | '\r' :: '\n' :: rest => some rest
  | _ => none

/-- The value of some digits in a base up to sixteen. -/
def digitsValue? (base : Nat) (digits : List Char) : Option Nat :=
  digits.foldlM (fun value c =>
    let digit :=
      if c.isDigit then c.toNat - '0'.toNat
      else if 'a' ≤ c && c ≤ 'f' then c.toNat - 'a'.toNat + 10
      else if 'A' ≤ c && c ≤ 'F' then c.toNat - 'A'.toNat + 10
      else base
    if digit < base then some (value * base + digit) else none) 0

/-- The character with a code point written in hexadecimal digits. -/
def codePoint? (digits : List Char) : Option Char := do
  let code ← digitsValue? 16 digits
  if code.isValidChar then some (Char.ofNat code) else none

/-- The character that a letter after a backslash stands for. -/
def escaped? (c : Char) : Option Char :=
  match c with
  | 'b' => some '\x08'
  | 't' => some '\t'
  | 'n' => some '\n'
  | 'f' => some '\x0c'
  | 'r' => some '\r'
  | 'e' => some '\x1b'
  | '"' => some '"'
  | '\\' => some '\\'
  | _ => none

/-- Put a character in front of a text that was read. -/
def before (c : Char) (result : List Char × List Char) : List Char × List Char :=
  (c :: result.1, result.2)

/-- The rest of a string with escapes, on one line. -/
def readBasic : Reader (List Char)
  | [] => none
  | '"' :: rest => some ([], rest)
  | '\\' :: 'x' :: a :: b :: rest => do
    let c ← codePoint? [a, b]
    (readBasic rest).map (before c)
  | '\\' :: 'u' :: a :: b :: c :: d :: rest => do
    let c ← codePoint? [a, b, c, d]
    (readBasic rest).map (before c)
  | '\\' :: 'U' :: a :: b :: c :: d :: e :: f :: g :: h :: rest => do
    let c ← codePoint? [a, b, c, d, e, f, g, h]
    (readBasic rest).map (before c)
  | '\\' :: letter :: rest => do
    let c ← escaped? letter
    (readBasic rest).map (before c)
  | c :: rest => if c != '\\' && isPlain c then (readBasic rest).map (before c) else none

/-- The rest of a string without escapes, on one line. -/
def readLiteral : Reader (List Char)
  | [] => none
  | c :: rest =>
    if c = '\x27' then some ([], rest)
    else if isPlain c then (readLiteral rest).map (before c)
    else none

/-- The end of a string of several lines, after three of its marks: up to two
marks more belong to the text. -/
def closeMarks (mark : Char) : List Char → List Char × List Char
  | c :: d :: rest =>
    if c = mark && d = mark then ([mark, mark], rest)
    else if c = mark then ([mark], d :: rest)
    else ([], c :: d :: rest)
  | [c] => if c = mark then ([mark], []) else ([], [c])
  | [] => ([], [])

/-- A backslash ends the line: only blanks follow it there. -/
def endsLine (text : List Char) : Bool :=
  match skipSpaces text with
  | '\n' :: _ => true
  | '\r' :: '\n' :: _ => true
  | _ => false

/-- The rest of a string with escapes, on several lines. After a backslash that
ends its line, everything up to the next visible character is skipped. -/
def readLongBasic (skipping : Bool) : Reader (List Char)
  | [] => none
  | '"' :: '"' :: '"' :: rest => some (closeMarks '"' rest)
  | '\\' :: 'x' :: a :: b :: rest => do
    let c ← codePoint? [a, b]
    (readLongBasic false rest).map (before c)
  | '\\' :: 'u' :: a :: b :: c :: d :: rest => do
    let c ← codePoint? [a, b, c, d]
    (readLongBasic false rest).map (before c)
  | '\\' :: 'U' :: a :: b :: c :: d :: e :: f :: g :: h :: rest => do
    let c ← codePoint? [a, b, c, d, e, f, g, h]
    (readLongBasic false rest).map (before c)
  | '\\' :: letter :: rest =>
    if endsLine (letter :: rest) then readLongBasic true (letter :: rest)
    else do
      let c ← escaped? letter
      (readLongBasic false rest).map (before c)
  | '\r' :: '\n' :: rest =>
    if skipping then readLongBasic true rest
    else (readLongBasic false rest).map (before '\r' ∘ before '\n')
  | c :: rest =>
    if skipping && (isSpace c || c == '\n') then readLongBasic true rest
    else if c != '\\' && (c == '\n' || isPlain c) then (readLongBasic false rest).map (before c)
    else none

/-- The rest of a string without escapes, on several lines. -/
def readLongLiteral : Reader (List Char)
  | [] => none
  | '\x27' :: '\x27' :: '\x27' :: rest => some (closeMarks '\x27' rest)
  | '\r' :: '\n' :: rest => (readLongLiteral rest).map (before '\r' ∘ before '\n')
  | c :: rest => if c == '\n' || isPlain c then (readLongLiteral rest).map (before c) else none

/-- What follows the line end at the front of a long string. -/
def skipFirstLineEnd : List Char → List Char
  | '\n' :: rest => rest
  | '\r' :: '\n' :: rest => rest
  | text => text

/-- A character of a bare key. -/
def isBare (c : Char) : Bool :=
  c.isAlphanum || c == '_' || c == '-'

/-- One part of a key: a bare word or a string on one line. -/
def readKeyPart : Reader (List Char)
  | '"' :: rest => readBasic rest
  | '\x27' :: rest => readLiteral rest
  | text =>
    let word := text.takeWhile isBare
    if word.isEmpty then none else some (word, text.dropWhile isBare)

/-- A key of one or more parts, up to a limit, with dots between them. -/
def readKey : Nat → Reader (List (List Char))
  | 0, _ => none
  | limit + 1, text => do
    let (part, rest) ← readKeyPart text
    match skipSpaces rest with
    | '.' :: rest =>
      let (parts, rest) ← readKey limit (skipSpaces rest)
      some (part :: parts, rest)
    | rest => some ([part], rest)

end MaskedField.Toml
