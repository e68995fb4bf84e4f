/- # Dates and times in TOML documents

A moment is a date, a time of day, or a date and a time with perhaps the distance
from universal time. Nothing here computes with moments; the module says which
words are moments, and a date that the calendar does not have is none.
-/

import MaskedField.Toml.Lexeme

namespace MaskedField.Toml

/-- A number of two decimal digits at the front of a text. -/
def readTwoDigits : Reader Nat
  | a :: b :: rest =>
    if a.isDigit && b.isDigit then (digitsValue? 10 [a, b]).map fun value => (value, rest)
    else none
  | _ => none

/-- What follows a certain character at the front of a text. -/
def after? (mark : Char) : List Char → Option (List Char)
  | [] => none
  | c :: rest => if c = mark then some rest else none

/-- The number of days in a month, numbered from one. -/
def daysIn (year month : Nat) : Nat :=
  if month = 2 then
    if year % 4 = 0 && (year % 100 != 0 || year % 400 = 0) then 29 else 28
  else if month = 4 || month = 6 || month = 9 || month = 11 then 30
  else 31

/-- What follows the date at the front of a text. -/
def afterDate? (text : List Char) : Option (List Char) := do
  let (century, text) ← readTwoDigits text
  let (year, text) ← readTwoDigits text
  let text ← after? '-' text
  let (month, text) ← readTwoDigits text
  let text ← after? '-' text
  let (day, text) ← readTwoDigits text
  if 1 ≤ month && month ≤ 12 && 1 ≤ day && day ≤ daysIn (century * 100 + year) month
  then some text else none

/-- What follows the hour and the minute at the front of a text. -/
def afterMinute? (text : List Char) : Option (List Char) := do
  let (hour, text) ← readTwoDigits text
  let text ← after? ':' text
  let (minute, text) ← readTwoDigits text
  if hour ≤ 23 && minute ≤ 59 then some text else none

/-- What follows the part of a second at the front of a text, if there is one. -/
def afterFraction? : List Char → Option (List Char)
  | '.' :: rest =>
    if (rest.takeWhile Char.isDigit).isEmpty then none else some (rest.dropWhile Char.isDigit)
  | text => some text

/-- What follows the time of day at the front of a text. The seconds may be
missing, and there may be a leap second. -/
def afterTime? (text : List Char) : Option (List Char) := do
  match ← afterMinute? text with
  | ':' :: text =>
    let (second, text) ← readTwoDigits text
    if second ≤ 60 then afterFraction? text else none
  | text => some text

/-- What follows the distance from universal time at the front of a text, if it is
given. -/
def afterOffset? : List Char → Option (List Char)
  | 'Z' :: rest => some rest
  | 'z' :: rest => some rest
  | '+' :: rest => afterMinute? rest
  | '-' :: rest => afterMinute? rest
  | text => some text

/-- A word that is a date alone. -/
def isDate (word : List Char) : Bool :=
  afterDate? word == some []

/-- A character between a date and a time. -/
def isDelimiter (c : Char) : Bool :=
  c == 'T' || c == 't' || c == ' '

/-- A word that is a date, a time of day, or both. -/
def isMoment (word : List Char) : Bool :=
  match afterDate? word with
  | none => afterTime? word == some []
  | some [] => true
  | some (c :: rest) => isDelimiter c && (afterTime? rest).bind afterOffset? == some []

end MaskedField.Toml
