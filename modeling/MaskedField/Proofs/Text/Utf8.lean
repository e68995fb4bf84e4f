/- # Lines of bytes and lines of characters

A file may be cut into lines before or after its bytes are read as characters: the
two marks of a line's end are single bytes, and no other character has such a byte in
it. So the lines of a text's bytes are the bytes of its lines, and bytes are a text
exactly if each of their lines is one.
-/

import MaskedField.Proofs.Text.Lines
import MaskedField.Text.Utf8

namespace MaskedField.Text

namespace Utf8

/-- Bytes are read as a text exactly if they are the bytes of the text. -/
theorem decode?_eq_some_iff {bytes : List UInt8} {text : List Char} :
    decode? bytes = some text ↔ bytes = encode text := by
  constructor
  · intro hdecode
    obtain ⟨string, hstring, rfl⟩ := Option.map_eq_some_iff.1 hdecode
    rw [String.fromUTF8?] at hstring
    split at hstring
    · next hvalid =>
      obtain rfl := Option.some.inj hstring
      apply List.toByteArray_inj.1
      rw [encode, ← List.utf8Encode, ← String.toByteArray_ofList, String.ofList_toList]
      rfl
    · cases hstring
  · rintro rfl
    exact decode?_encode text

/-- No two texts are written by the same bytes. -/
theorem encode_injective : Function.Injective encode := by
  intro first second heq
  have hread : decode? (encode first) = some second := by rw [heq, decode?_encode]
  exact Option.some.inj ((decode?_encode first).symm.trans hread)

theorem encode_append (first second : List Char) :
    encode (first ++ second) = encode first ++ encode second :=
  List.flatMap_append

/-- A byte below 128 writes one character only, the one with its code point. -/
theorem toNat_eq_of_mem_utf8EncodeChar {byte : UInt8} {c : Char}
    (hmem : byte ∈ String.utf8EncodeChar c) (hascii : byte.toNat < 128) :
    c.toNat = byte.toNat := by
  have hcode : c.val.toNat = c.toNat := rfl
  simp only [String.utf8EncodeChar] at hmem
  split at hmem
  · next hsingle =>
    rw [List.mem_singleton.1 hmem, UInt8.toNat_ofNat']
    omega
  · -- Every byte of a longer sequence has its highest bit set.
    exfalso
    split at hmem
    · simp only [List.mem_cons, List.not_mem_nil, or_false] at hmem
      rcases hmem with rfl | rfl <;> rw [UInt8.toNat_ofNat'] at hascii <;> omega
    · split at hmem
      · simp only [List.mem_cons, List.not_mem_nil, or_false] at hmem
        rcases hmem with rfl | rfl | rfl <;> rw [UInt8.toNat_ofNat'] at hascii <;> omega
      · simp only [List.mem_cons, List.not_mem_nil, or_false] at hmem
        rcases hmem with rfl | rfl | rfl | rfl <;> rw [UInt8.toNat_ofNat'] at hascii <;> omega

/-- Only a line feed is written with the byte of a line feed, and only a carriage
return with its byte. -/
theorem eq_of_lineFeed_mem {c : Char} (hmem : 10 ∈ String.utf8EncodeChar c) : c = '\n' :=
  Char.toNat_inj.1 (toNat_eq_of_mem_utf8EncodeChar hmem (by decide))

theorem eq_of_carriageReturn_mem {c : Char} (hmem : 13 ∈ String.utf8EncodeChar c) : c = '\r' :=
  Char.toNat_inj.1 (toNat_eq_of_mem_utf8EncodeChar hmem (by decide))

theorem lineFeed_not_mem_encode {line : List Char} (hline : '\n' ∉ line) :
    10 ∉ encode line := by
  intro hmem
  obtain ⟨c, hc, hbyte⟩ := List.mem_flatMap.1 hmem
  exact hline (eq_of_lineFeed_mem hbyte ▸ hc)

/-- A line feed in a text is one in its bytes. -/
theorem lineFeed_mem_encode {text : List Char} (hmem : '\n' ∈ text) : 10 ∈ encode text :=
  List.mem_flatMap.2 ⟨'\n', hmem, by decide⟩

theorem encode_eq_nil_iff {text : List Char} : encode text = [] ↔ text = [] :=
  encode_injective.eq_iff' rfl

end Utf8

/-- Dropping a carriage return before or after reading is the same. -/
theorem dropReturn_encode (line : List Char) :
    dropReturn 13 (Utf8.encode line) = Utf8.encode (dropReturn '\r' line) := by
  rcases List.eq_nil_or_concat line with rfl | ⟨front, last, rfl⟩
  · rfl
  rw [List.concat_eq_append, Utf8.encode_append]
  by_cases hlast : last = '\r'
  · subst hlast
    exact (dropReturn_concat (Utf8.encode front)).trans
      (congrArg Utf8.encode (dropReturn_concat front).symm)
  · have hbytes : Utf8.encode [last] = String.utf8EncodeChar last := by simp [Utf8.encode]
    have hchars : '\r' ∉ (front ++ [last]).getLast? := by simpa [eq_comm] using hlast
    rw [dropReturn_eq_self hchars, Utf8.encode_append]
    apply dropReturn_eq_self
    rw [hbytes, List.getLast?_append_of_ne_nil _ String.utf8EncodeChar_ne_nil]
    intro hmem
    exact hlast (Utf8.eq_of_carriageReturn_mem (List.mem_of_getLast? hmem))

/-- The lines of a text's bytes are the bytes of its lines. -/
theorem byteLines_encode (text : List Char) :
    byteLines (Utf8.encode text) = (lines text).map Utf8.encode := by
  induction text using linesOf_induction '\n' with
  | hempty => rfl
  | hunended line hline hnonempty =>
    rw [byteLines, lines, linesOf_of_not_mem hline hnonempty,
      linesOf_of_not_mem (Utf8.lineFeed_not_mem_encode hline)
        (mt Utf8.encode_eq_nil_iff.1 hnonempty)]
    rfl
  | hended line rest hline ih =>
    have hbytes : Utf8.encode (line ++ '\n' :: rest) = Utf8.encode line ++ 10 :: Utf8.encode rest :=
      Utf8.encode_append line ('\n' :: rest)
    rw [byteLines] at ih
    rw [byteLines, lines, hbytes, linesOf_append_cons hline,
      linesOf_append_cons (Utf8.lineFeed_not_mem_encode hline), ih, dropReturn_encode]
    rfl

/-- Bytes are a text exactly if each of their lines is one. -/
theorem isSome_decode?_iff {bytes : List UInt8} :
    (Utf8.decode? bytes).isSome ↔ ∀ line ∈ byteLines bytes, (Utf8.decode? line).isSome := by
  constructor
  · intro hvalid line hline
    obtain ⟨text, htext⟩ := Option.isSome_iff_exists.1 hvalid
    rw [Utf8.decode?_eq_some_iff.1 htext, byteLines_encode] at hline
    obtain ⟨textLine, -, rfl⟩ := List.mem_map.1 hline
    rw [Utf8.decode?_encode]
    rfl
  · induction bytes using linesOf_induction (10 : UInt8) with
    | hempty => exact fun _ => rfl
    | hunended line hline hnonempty =>
      rw [byteLines, linesOf_of_not_mem hline hnonempty]
      exact fun hvalid => hvalid line List.mem_cons_self
    | hended line rest hline ih =>
      rw [byteLines, linesOf_append_cons hline, List.forall_mem_cons]
      rintro ⟨hfirst, hrest⟩
      obtain ⟨first, hfirst⟩ := Option.isSome_iff_exists.1 hfirst
      obtain ⟨behind, hbehind⟩ := Option.isSome_iff_exists.1 (ih hrest)
      rw [Utf8.decode?_eq_some_iff] at hfirst hbehind
      apply Option.isSome_iff_exists.2
      -- The carriage return that was dropped from the line is a character of its own.
      rcases eq_dropReturn_or 13 line with hkept | hdropped
      · refine ⟨first ++ '\n' :: behind, Utf8.decode?_eq_some_iff.2 ?_⟩
        rw [Utf8.encode_append, ← hfirst, ← hkept, hbehind]
        rfl
      · refine ⟨(first ++ ['\r']) ++ '\n' :: behind, Utf8.decode?_eq_some_iff.2 ?_⟩
        rw [Utf8.encode_append, Utf8.encode_append, ← hfirst, hbehind]
        nth_rewrite 1 [hdropped]
        rfl

end MaskedField.Text
