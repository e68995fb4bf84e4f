/- # Bytes and characters

Files and standard input are bytes. They are read as UTF-8 as a whole or line by
line; bytes that are not well-formed UTF-8 have no text at all.
-/

namespace MaskedField.Text.Utf8

/-- The bytes that write a text. -/
def encode (text : List Char) : List UInt8 :=
  text.flatMap String.utf8EncodeChar

/-- The text that well-formed bytes write. -/
def decode? (bytes : List UInt8) : Option (List Char) :=
  (String.fromUTF8? bytes.toByteArray).map String.toList

/-- Every text is read back from its own bytes. -/
theorem decode?_encode (text : List Char) : decode? (encode text) = some text := by
  have hbytes : (encode text).toByteArray = (String.ofList text).toByteArray := by
    simp [encode, List.utf8Encode]
  unfold decode? String.fromUTF8?
  rw [hbytes, dif_pos (String.ofList text).isValidUTF8]
  exact congrArg some String.toList_ofList

end MaskedField.Text.Utf8
