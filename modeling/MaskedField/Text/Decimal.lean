/- # Decimal numerals

Offsets are written without sign and without leading zeros. They are read more
freely: one plus sign and leading zeros are allowed, and the value has to fit in
64 bits, the width of every offset that a host can name.
-/

namespace MaskedField.Text.Decimal

/-- The digits of a number, without leading zeros. -/
def print (number : Nat) : List Char :=
  Nat.toDigits 10 number

/-- The number that a nonempty run of digits writes. -/
def read? (digits : List Char) : Option Nat :=
  if !digits.isEmpty && digits.all Char.isDigit then some (Nat.ofDigitChars 10 digits 0) else none

/-- The 64-bit offset with a given value, if there is one. -/
def toOffset? (number : Nat) : Option UInt64 :=
  if fits : number < UInt64.size then some (UInt64.ofNatLT number fits) else none

/-- Read an offset: at most one plus sign, then digits. -/
def readOffset? : List Char → Option UInt64
  | '+' :: digits => (read? digits).bind toOffset?
  | digits => (read? digits).bind toOffset?

/-- A number is written with digits alone. -/
theorem isDigit_of_mem_print {number : Nat} {c : Char} (hc : c ∈ print number) :
    c.isDigit = true :=
  Nat.isDigit_of_mem_toDigits (by omega) (by omega) hc

/-- Every number is read back from its own digits. -/
theorem read?_print (number : Nat) : read? (print number) = some number := by
  have hdigits : ∀ c ∈ Nat.toDigits 10 number, c.isDigit = true := fun _ => isDigit_of_mem_print
  simpa [read?, print, Nat.ofDigitChars_ten_toDigits] using hdigits

/-- An offset is recovered from its value. -/
theorem toOffset?_toNat (offset : UInt64) : toOffset? offset.toNat = some offset := by
  simp [toOffset?, UInt64.toNat_lt_size]

/-- What is written without a sign is read without one. -/
theorem readOffset?_of_isDigit {digits : List Char} (hdigits : ∀ c ∈ digits, c.isDigit = true) :
    readOffset? digits = (read? digits).bind toOffset? := by
  unfold readOffset?
  split
  · exact absurd (hdigits '+' List.mem_cons_self) (by decide)
  · rfl

/-- Every offset is read back from its own digits. -/
theorem readOffset?_print (offset : UInt64) :
    readOffset? (print offset.toNat) = some offset := by
  rw [readOffset?_of_isDigit fun _ => isDigit_of_mem_print, read?_print, Option.bind_some,
    toOffset?_toNat]

end MaskedField.Text.Decimal
