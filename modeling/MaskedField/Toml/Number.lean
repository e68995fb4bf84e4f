/- # Numbers in TOML documents

A number is an integer, in base ten or with the mark of another base in front, or
a floating-point number. Single underscores may stand between digits. Integers
have their value; of a floating-point number this module says only whether a word
is one. Some words pass for numbers as long as nobody asks for the value: the mark
of a base alone, and a numeral in groups with something else behind its digits.
-/

import MaskedField.Toml.Lexeme

namespace MaskedField.Toml

/-- The digits of a number with single underscores between them. -/
def joinDigits? (digits : List Char) : Option (List Char) :=
  let groups := digits.splitOn '_'
  if groups.any List.isEmpty then none else some groups.flatten

/-- The value of decimal digits, which do not start with an idle zero. -/
def decimalValue? (digits : List Char) : Option Nat := do
  let joined ← joinDigits? digits
  if joined.length > 1 && joined.head? == some '0' then none else digitsValue? 10 joined

/-- The value of digits in another base. -/
def basedValue? (base : Nat) (digits : List Char) : Option Int := do
  let joined ← joinDigits? digits
  let value ← digitsValue? base joined
  some (Int.ofNat value)

/-- The integer that a bare word writes. -/
def integerValue? : List Char → Option Int
  | '0' :: 'x' :: digits => basedValue? 16 digits
  | '0' :: 'o' :: digits => basedValue? 8 digits
  | '0' :: 'b' :: digits => basedValue? 2 digits
  | '+' :: digits => (decimalValue? digits).map Int.ofNat
  | '-' :: digits => (decimalValue? digits).map fun value => -Int.ofNat value
  | digits => (decimalValue? digits).map Int.ofNat

/-- What follows a sign at the front of a number. -/
def dropSign : List Char → List Char
  | '+' :: rest => rest
  | '-' :: rest => rest
  | text => text

/-- The mark of a base, with no digits behind it. -/
def isBaseMark (word : List Char) : Bool :=
  word == "0x".toList || word == "0o".toList || word == "0b".toList

/-- A digit of some base up to sixteen. -/
def isDigitOfBase (c : Char) : Bool :=
  (digitsValue? 16 [c]).isSome

/-- Every underscore between these groups stands between two digits. -/
def meetAtDigits : List (List Char) → Bool
  | first :: second :: rest =>
    first.getLast?.any isDigitOfBase && second.head?.any isDigitOfBase &&
      meetAtDigits (second :: rest)
  | _ => true

/-- A numeral in groups: a first group of decimal digits without an idle zero, and
more groups after underscores. What does not touch an underscore need not be a
digit, but the marks of a floating-point number and spaces do not occur. -/
def isGroupedNumeral (word : List Char) : Bool :=
  let digits := dropSign word
  let tail := digits.dropWhile Char.isDigit
  digits.head?.any (fun c => c.isDigit && c != '0') && tail.head? == some '_' &&
    tail.all (fun c => c != ' ' && c != '.' && c != 'e' && c != 'E') &&
    meetAtDigits (digits.splitOn '_')

/-- A character of a group of decimal digits. -/
def isGrouped (c : Char) : Bool :=
  c.isDigit || c == '_'

/-- One or more decimal digits, which may start with idle zeros. -/
def isDecimal (digits : List Char) : Bool :=
  ((joinDigits? digits).bind (digitsValue? 10)).isSome

/-- The exponent of a floating-point number, with its mark. -/
def isExponent : List Char → Bool
  | 'e' :: digits => isDecimal (dropSign digits)
  | 'E' :: digits => isDecimal (dropSign digits)
  | _ => false

/-- What may follow the whole part of a floating-point number: a fraction, an
exponent, or the one behind the other. -/
def isFractional : List Char → Bool
  | '.' :: rest =>
    let tail := rest.dropWhile isGrouped
    isDecimal (rest.takeWhile isGrouped) && (tail.isEmpty || isExponent tail)
  | text => isExponent text

/-- A bare word that writes a floating-point number. -/
def isFloat (word : List Char) : Bool :=
  let magnitude := dropSign word
  magnitude == "inf".toList || magnitude == "nan".toList ||
    ((decimalValue? (magnitude.takeWhile isGrouped)).isSome &&
      isFractional (magnitude.dropWhile isGrouped))

end MaskedField.Toml
