/- # Overwriting a character in its bytes

A field overwrites a character of its value by position. Who holds the value as bytes has
to find out which bytes the character takes, and to put those of the other character in
their place; there may be more or fewer of them, and then everything behind is moved. What
comes of it is again the bytes of a text, and no other character of the text is changed.
For this it is enough that a text is written character by character: its bytes are those
of the characters in front, of the character itself, and of the characters behind.
-/

import MaskedField.Field.Basic
import MaskedField.Proofs.Text.Caret
import MaskedField.Proofs.Text.Utf8

namespace MaskedField.Text

/-- Bytes with those from one offset up to another replaced. -/
def splice (bytes : List UInt8) (start stop : Nat) (replacement : List UInt8) : List UInt8 :=
  bytes.take start ++ (replacement ++ bytes.drop stop)

/-- Overwrite the character at a position in the bytes of a text: whether there is one,
and the bytes that are left. -/
def overwriteBytes (text : List Char) (position : Nat) (c : Char) : Bool × List UInt8 :=
  match text[position]? with
  | none => (false, Utf8.encode text)
  | some old =>
    (true, splice (Utf8.encode text) (byteOffset text position)
      (byteOffset text position + old.utf8Size) (String.utf8EncodeChar c))

theorem splice_append (front replaced back replacement : List UInt8) :
    splice (front ++ (replaced ++ back)) front.length (front.length + replaced.length)
      replacement = front ++ (replacement ++ back) := by
  rw [splice, List.take_left, ← List.drop_drop, List.drop_left, List.drop_left]

theorem Utf8.length_encode (text : List Char) : (encode text).length = byteLength text := by
  induction text with
  | nil => rfl
  | cons c text ih =>
    rw [encode, List.flatMap_cons, List.length_append, String.length_utf8EncodeChar, byteLength]
    exact congrArg (c.utf8Size + ·) ih

theorem Utf8.encode_append_cons (front : List Char) (c : Char) (back : List Char) :
    encode (front ++ c :: back) = encode front ++ (String.utf8EncodeChar c ++ encode back) := by
  rw [encode_append]
  rfl

section Overwriting

variable {text : List Char} {position : Nat} {old : Char}

/-- The bytes of one character are replaced by those of another, and those of the text by
those of the text with the other character. -/
theorem splice_encode (hold : text[position]? = some old) (c : Char) :
    splice (Utf8.encode text) (byteOffset text position)
        (byteOffset text position + old.utf8Size) (String.utf8EncodeChar c) =
      Utf8.encode (text.set position c) := by
  obtain ⟨hinside, rfl⟩ := List.getElem?_eq_some_iff.1 hold
  have hwritten (d : Char) : Utf8.encode (text.set position d) =
      Utf8.encode (text.take position) ++
        (String.utf8EncodeChar d ++ Utf8.encode (text.drop (position + 1))) := by
    rw [List.set_eq_take_cons_drop d hinside, Utf8.encode_append_cons]
  have htext := hwritten text[position]
  rw [List.set_getElem_self] at htext
  rw [htext, hwritten, byteOffset, ← Utf8.length_encode, ← String.length_utf8EncodeChar]
  exact splice_append _ _ _ _

theorem overwriteBytes_of_getElem? (hold : text[position]? = some old) (c : Char) :
    overwriteBytes text position c = (true, Utf8.encode (text.set position c)) := by
  rw [overwriteBytes, hold, ← splice_encode hold c]

theorem overwriteBytes_of_length_le (hend : text.length ≤ position) (c : Char) :
    overwriteBytes text position c = (false, Utf8.encode text) := by
  rw [overwriteBytes, List.getElem?_eq_none hend]

end Overwriting

/-- Overwriting in the bytes of a text succeeds exactly if there is a character at the
position, and leaves the bytes alone if there is none. If there is, the bytes that are left
are those of the text that a field would get: it has the new character at the position and
is otherwise the same, and overwriting it with the old one gives back the old bytes. -/
theorem splicing_overwrites_one_character (text : List Char) (position : Nat) (c : Char) :
    ((overwriteBytes text position c).1 = true ↔ position < text.length) ∧
    ((overwriteBytes text position c).1 = false →
      (overwriteBytes text position c).2 = Utf8.encode text ∧ overwrite? text position c = none) ∧
    ∀ old, text[position]? = some old →
      ∃ written, (overwriteBytes text position c).2 = Utf8.encode written ∧
        overwrite? text position c = some written ∧
        (∀ other, written[other]? = if other = position then some c else text[other]?) ∧
        overwriteBytes written position old = (true, Utf8.encode text) := by
  rcases Nat.lt_or_ge position text.length with hinside | hend
  · have hget : text[position]? = some text[position] := List.getElem?_eq_getElem hinside
    rw [overwriteBytes_of_getElem? hget, overwrite?_eq, if_pos hinside]
    refine ⟨by simpa using hinside, by simp, ?_⟩
    intro old hold
    refine ⟨text.set position c, rfl, rfl, ?_, ?_⟩
    · intro other
      by_cases hother : other = position
      · rw [if_pos hother, hother, List.getElem?_set_self hinside]
      · rw [if_neg hother, List.getElem?_set_ne (Ne.symm hother)]
    · have hwritten : (text.set position c)[position]? = some c :=
        List.getElem?_set_self hinside
      obtain ⟨_, rfl⟩ := List.getElem?_eq_some_iff.1 hold
      rw [overwriteBytes_of_getElem? hwritten, List.set_set, List.set_getElem_self]
  · have hnone : text[position]? = none := List.getElem?_eq_none hend
    rw [overwriteBytes_of_length_le hend, overwrite?_eq, if_neg (Nat.not_lt.2 hend), hnone]
    exact ⟨by simpa using hend, fun _ => ⟨rfl, rfl⟩, by simp⟩

-- Two characters of three bytes each, and one of one byte between them that grows.
example : overwriteBytes "€_€".toList 1 '😀' = (true, Utf8.encode "€😀€".toList) := by
  decide +kernel

end MaskedField.Text
