/- # Strings in JSON

A string is written between quotation marks. A quotation mark, a backslash and
the characters below the space are escaped, the common ones by a letter and the
others by four hexadecimal digits; every other character stands as it is.
-/

namespace MaskedField.Text.JsonString

/-- The four hexadecimal digits of a character below the space. -/
def controlDigits (code : Nat) : List Char :=
  ['0', '0', Nat.digitChar (code / 16), Nat.digitChar (code % 16)]

/-- One character inside a string. -/
def encodeChar (c : Char) : List Char :=
  if c = '"' then ['\\', '"']
  else if c = '\\' then ['\\', '\\']
  else if c = '\x08' then ['\\', 'b']
  else if c = '\t' then ['\\', 't']
  else if c = '\n' then ['\\', 'n']
  else if c = '\x0c' then ['\\', 'f']
  else if c = '\r' then ['\\', 'r']
  else if c.toNat < 0x20 then '\\' :: 'u' :: controlDigits c.toNat
  else [c]

/-- A text as a string. -/
def encode (text : List Char) : List Char :=
  '"' :: (text.flatMap encodeChar ++ ['"'])

/-- The value of a hexadecimal digit. -/
def hexValue? (c : Char) : Option Nat :=
  if c.isDigit then some (c.toNat - '0'.toNat)
  else if 'a' ≤ c && c ≤ 'f' then some (c.toNat - 'a'.toNat + 10)
  else if 'A' ≤ c && c ≤ 'F' then some (c.toNat - 'A'.toNat + 10)
  else none

/-- The character that a letter after a backslash stands for. -/
def unescape? (c : Char) : Option Char :=
  if c = '"' then some '"'
  else if c = '\\' then some '\\'
  else if c = '/' then some '/'
  else if c = 'b' then some '\x08'
  else if c = 't' then some '\t'
  else if c = 'n' then some '\n'
  else if c = 'f' then some '\x0c'
  else if c = 'r' then some '\r'
  else none

/-- The character that four hexadecimal digits stand for. -/
def ofCodeUnit? (first second third fourth : Char) : Option Char := do
  let a ← hexValue? first
  let b ← hexValue? second
  let c ← hexValue? third
  let d ← hexValue? fourth
  let code := ((a * 16 + b) * 16 + c) * 16 + d
  if code.isValidChar then some (Char.ofNat code) else none

/-- Read the rest of a string, up to its closing mark. The result is the text and
what follows the mark. -/
def readBody? : List Char → Option (List Char × List Char)
  | [] => none
  | '"' :: rest => some ([], rest)
  | '\\' :: 'u' :: first :: second :: third :: fourth :: rest => do
    let c ← ofCodeUnit? first second third fourth
    let (text, after) ← readBody? rest
    some (c :: text, after)
  | '\\' :: letter :: rest => do
    let c ← unescape? letter
    let (text, after) ← readBody? rest
    some (c :: text, after)
  | c :: rest =>
    if c = '\\' || c.toNat < 0x20 then none
    else do
      let (text, after) ← readBody? rest
      some (c :: text, after)

/-- Read a string at the front of a text. -/
def read? : List Char → Option (List Char × List Char)
  | '"' :: rest => readBody? rest
  | _ => none

/-- The digits of a character below the space stand for it. -/
theorem ofCodeUnit?_controlDigits {code : Nat} (hcontrol : code < 0x20) :
    ofCodeUnit? '0' '0' (Nat.digitChar (code / 16)) (Nat.digitChar (code % 16)) =
      some (Char.ofNat code) := by
  revert code
  decide

/-- A written character is read back, whatever follows it. -/
theorem readBody?_encodeChar (c : Char) (rest : List Char) :
    readBody? (encodeChar c ++ rest) =
      (readBody? rest).map fun result => (c :: result.1, result.2) := by
  have hbind : ∀ (read : Option (List Char × List Char)) (d : Char),
      (read.bind fun result => some (d :: result.1, result.2)) =
        read.map fun result => (d :: result.1, result.2) := by
    rintro (_ | _) _ <;> rfl
  unfold encodeChar
  iterate 7
    split
    · subst_vars
      exact hbind (readBody? rest) _
  split
  · next hcontrol =>
    show ((ofCodeUnit? '0' '0' _ _).bind fun d =>
      (readBody? rest).bind fun result => some (d :: result.1, result.2)) = _
    rw [ofCodeUnit?_controlDigits hcontrol, Char.ofNat_toNat]
    exact hbind (readBody? rest) c
  · next hquote hbackslash _ _ _ _ _ hcontrol =>
    rw [List.cons_append, List.nil_append, readBody?, if_neg (by simp [hbackslash]; omega)]
    · exact hbind (readBody? rest) c
    all_goals (intros; simp_all)

/-- A written text is read back, whatever follows it. -/
theorem read?_encode (text rest : List Char) :
    read? (encode text ++ rest) = some (text, rest) := by
  show readBody? ((text.flatMap encodeChar ++ ['"']) ++ rest) = some (text, rest)
  induction text with
  | nil => rfl
  | cons c text ih =>
    simp only [List.flatMap_cons, List.append_assoc] at ih ⊢
    rw [readBody?_encodeChar, ih]
    rfl

end MaskedField.Text.JsonString
