/- # Quoted text in messages

A message shows a text that came from outside between quotation marks, with
everything escaped that would be invisible, would end the quotation, or would
join the character before it. Apostrophes stand as they are.
-/

import MaskedField.Text.Combining
import MaskedField.Text.Printable

namespace MaskedField.Text

/-- The escape by code point: lower-case hexadecimal digits, without padding,
between braces. -/
def codePointEscape (c : Char) : List Char :=
  "\\u\x7b".toList ++ Nat.toDigits 16 c.toNat ++ "\x7d".toList

/-- One character inside quotation marks. -/
def quoteChar (c : Char) : List Char :=
  if c = '\x00' then "\\0".toList
  else if c = '\t' then "\\t".toList
  else if c = '\r' then "\\r".toList
  else if c = '\n' then "\\n".toList
  else if c = '"' then "\\\"".toList
  else if c = '\\' then "\\\\".toList
  else if isCombining c || !isPrintable c then codePointEscape c
  else [c]

/-- A text between quotation marks. -/
def quote (text : List Char) : List Char :=
  '"' :: text.flatMap quoteChar ++ ['"']

/-- A quoted text as a part of a message. -/
def quoted (text : List Char) : String :=
  String.ofList (quote text)

end MaskedField.Text
