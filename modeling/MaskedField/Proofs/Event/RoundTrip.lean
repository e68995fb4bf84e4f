/- # Events are read back from their written form

Writing an event and reading the line again gives the same event exactly if the
event is representable: the text of a paste or of a typed run must not end with a
mark that the reader takes for the end of the line, and the key of a keystroke
must be writable. The two halves are proved apart. The reader only ever returns
representable events, whatever the line; and every representable event survives.
-/

import MaskedField.Proofs.Event.Keystroke

namespace MaskedField.Event

open Text

/-- The event has a line of its own. -/
def Representable : Event → Prop
  | paste text | type text => ∀ c ∈ text.getLast?, isLineEnd c = false
  | key stroke _ => stroke.key.Writable
  | _ => True

/-- A line is read by its command, once its end marks and the blanks in front are
removed. -/
theorem read_eq_ok_iff {line : List Char} {event : Event} :
    read line = .ok event ↔
      readCommand (commandOf (trimStart (dropLineEnds line)))
        (restOf (trimStart (dropLineEnds line))) = .ok event := by
  rw [read]
  split
  · next hread => rw [hread]; simp
  · next hread => rw [hread]; simp

/-- The rest of a line stands at its end. -/
theorem restOf_suffix (line : List Char) : restOf line <:+ line :=
  (List.drop_suffix 1 _).trans (List.dropWhile_suffix _)

/-- What stands last on a command line is the end of its rest, or a space. -/
theorem not_isLineEnd_getLast?_commandLine (command : List Char) {rest : List Char}
    (hends : ∀ c ∈ rest.getLast?, isLineEnd c = false) :
    ∀ c ∈ (command ++ ' ' :: rest).getLast?, isLineEnd c = false := by
  intro c hc
  rw [List.getLast?_append, List.getLast?_cons, Option.some_or, Option.mem_some_iff] at hc
  cases hlast : rest.getLast? with
  | none =>
    rw [← hc, hlast]
    decide
  | some last =>
    rw [← hc, hlast]
    exact hends last hlast

section CommandLine

variable {command : List Char} (hcommand : IsWord command) (rest : List Char)
include hcommand

/-- The first space of a command line ends the command. -/
theorem ne_space_of_mem_command : ∀ c ∈ command, (c != ' ') = true := by
  intro c hc
  have hsolid := hcommand.not_blank c hc
  rw [bne_iff_ne]
  rintro rfl
  exact absurd hsolid (by decide)

theorem commandOf_append : commandOf (command ++ ' ' :: rest) = command := by
  rw [commandOf, List.takeWhile_append_of_pos (ne_space_of_mem_command hcommand)]
  simp

theorem restOf_append : restOf (command ++ ' ' :: rest) = rest := by
  rw [restOf, List.dropWhile_append_of_pos (ne_space_of_mem_command hcommand)]
  simp

/-- A command line is read by its command, with its end marks taken off the rest. -/
theorem read_commandLine :
    read (command ++ ' ' :: rest) =
      (readCommand command (dropLineEnds rest)).mapError
        (ReadError.mk (command ++ ' ' :: dropLineEnds rest)) := by
  have hline : dropLineEnds (command ++ ' ' :: rest) = command ++ ' ' :: dropLineEnds rest :=
    dropTrailing_append_cons (by decide) command rest
  simp only [read, hline, trimStart_append hcommand, commandOf_append hcommand,
    restOf_append hcommand]
  cases readCommand command (dropLineEnds rest) <;> rfl

/-- A command line that does not end with an end mark is read as it stands. -/
theorem read_commandLine_eq_ok {event : Event} (hends : ∀ c ∈ rest.getLast?, isLineEnd c = false)
    (hread : readCommand command rest = .ok event) :
    read (command ++ ' ' :: rest) = .ok event := by
  have hkept : dropLineEnds rest = rest := dropTrailing_eq_self_iff.2 hends
  rw [read_commandLine hcommand, hkept, hread]
  rfl

end CommandLine

/-- Two offsets are read back from their numerals. -/
theorem readSelect_print (range : Selection) :
    readSelect (Decimal.print range.start.toNat ++ ' ' :: Decimal.print range.stop.toNat) =
      .ok (.select range) := by
  have hwords : words (Decimal.print range.start.toNat ++ ' ' ::
      Decimal.print range.stop.toNat) =
        [Decimal.print range.start.toNat, Decimal.print range.stop.toNat] := by
    rw [words_append_cons (isWord_print _) (by decide), words_of_isWord (isWord_print _)]
  have hbetween : Selection.between range.start range.stop = range :=
    dif_pos range.start_le_stop
  simp only [readSelect, hwords, List.map_cons, List.map_nil, Decimal.readOffset?_print,
    hbetween]

theorem not_isLineEnd_getLast?_select (range : Selection) :
    ∀ c ∈ (Decimal.print range.start.toNat ++ ' ' :: Decimal.print range.stop.toNat).getLast?,
      isLineEnd c = false :=
  not_isLineEnd_getLast?_commandLine _
    ((isWord_print range.stop.toNat).not_isLineEnd_getLast? [])

/-- A position is read back from its written form. -/
theorem readPosition?_print (position : UInt64) :
    readPosition? ('@' :: Decimal.print position.toNat) = some position :=
  Decimal.readOffset?_print position

/-- A word is read as a keystroke, with the position that is written behind it. -/
theorem readKey_word {word : List Char} (hword : IsWord word) (position? : Option UInt64) :
    readKey (word ++ printPosition position?) = readStroke word position? := by
  cases position? with
  | none =>
    rw [printPosition, List.append_nil, readKey, words_of_isWord hword]
  | some position =>
    have hsign : ∀ c ∈ ['@'], isBlank c = false :=
      List.forall_mem_singleton.2 (by decide)
    have hposition : IsWord ('@' :: Decimal.print position.toNat) :=
      IsWord.append hsign (isWord_print position.toNat)
    have hwords : words (word ++ printPosition (some position)) =
        [word, '@' :: Decimal.print position.toNat] := by
      rw [← words_of_isWord hposition]
      exact words_append_cons hword (by decide) _
    simp only [readKey, hwords, readPosition?_print, List.isEmpty_nil, if_true]

/-- A keystroke with a writable key is read back with its position. -/
theorem readKey_print {stroke : Keystroke} (hwritable : stroke.key.Writable)
    (position? : Option UInt64) :
    readKey (stroke.modifiers.print ++ stroke.key.print ++ printPosition position?) =
      .ok (.key stroke position?) := by
  rw [readKey_word (Keystroke.isWord_print hwritable), readStroke,
    Keystroke.read?_print hwritable]

/-- A word and a position do not end with an end mark. -/
theorem not_isLineEnd_getLast?_position {word : List Char} (hword : IsWord word)
    (position? : Option UInt64) :
    ∀ c ∈ (word ++ printPosition position?).getLast?, isLineEnd c = false := by
  cases position? with
  | none =>
    rw [printPosition, List.append_nil]
    exact hword.not_isLineEnd_getLast? []
  | some position =>
    rw [printPosition, ← List.append_assoc]
    exact (isWord_print position.toNat).not_isLineEnd_getLast? _

/-- Every representable event is read back from its line. -/
theorem read_print {event : Event} (hrepresentable : event.Representable) :
    read event.print = .ok event := by
  cases event with
  | focus => rfl
  | blur => rfl
  | select range =>
    have hcommand : IsWord "select".toList := by decide +kernel
    exact read_commandLine_eq_ok hcommand _ (not_isLineEnd_getLast?_select range)
      (readSelect_print range)
  | key stroke position? =>
    have hcommand : IsWord "key".toList := by decide +kernel
    exact read_commandLine_eq_ok hcommand _
      (not_isLineEnd_getLast?_position (Keystroke.isWord_print hrepresentable) position?)
      (readKey_print hrepresentable position?)
  | paste text =>
    have hcommand : IsWord "paste".toList := by decide +kernel
    exact read_commandLine_eq_ok hcommand text hrepresentable rfl
  | type text =>
    have hcommand : IsWord "type".toList := by decide +kernel
    exact read_commandLine_eq_ok hcommand text hrepresentable rfl

-- The last plus sign of `key ctrl++` is the key and cuts nothing.
example : read (key ⟨.char '+', Modifiers.none.hold .ctrl⟩ none).print =
    .ok (key ⟨.char '+', Modifiers.none.hold .ctrl⟩ none) := by
  rfl

/-- A keystroke that is read has a writable key, wherever its words stand. -/
theorem representable_of_readKey {rest : List Char} {event : Event}
    (hread : readKey rest = .ok event) : event.Representable := by
  have hstroke {word : List Char} {position? : Option UInt64} (hword : word ∈ words rest)
      (hread : readStroke word position? = .ok event) : event.Representable := by
    rw [readStroke] at hread
    split at hread
    · next stroke hstroke =>
      obtain rfl := Except.ok.inj hread
      exact Keystroke.writable_of_read? (isWord_of_mem_words hword) hstroke
    · cases hread
  rw [readKey] at hread
  split at hread
  · cases hread
  · next word hwords => exact hstroke (by simp [hwords]) hread
  · next word position more hwords =>
    split at hread
    · cases hread
    · split at hread
      · exact hstroke (by simp [hwords]) hread
      · cases hread

/-- Whatever a command is given to read, the event is representable, if only the
rest of the line does not end with an end mark. -/
theorem representable_of_readCommand {command rest : List Char} {event : Event}
    (hends : ∀ c ∈ rest.getLast?, isLineEnd c = false)
    (hread : readCommand command rest = .ok event) : event.Representable := by
  rw [readCommand] at hread
  split_ifs at hread with hfocus hblur hpaste htype hselect hkey
  · obtain rfl := Except.ok.inj hread
    trivial
  · obtain rfl := Except.ok.inj hread
    trivial
  · obtain rfl := Except.ok.inj hread
    exact hends
  · obtain rfl := Except.ok.inj hread
    exact hends
  · rw [readSelect] at hread
    split at hread
    · obtain rfl := Except.ok.inj hread
      trivial
    · cases hread
  · exact representable_of_readKey hread

/-- The reader only returns representable events. -/
theorem representable_of_read {line : List Char} {event : Event}
    (hread : read line = .ok event) : event.Representable := by
  apply representable_of_readCommand _ (read_eq_ok_iff.1 hread)
  intro c hc
  -- The rest of the line stands at the end of a line without end marks.
  obtain ⟨front, hfront⟩ :=
    (restOf_suffix (trimStart (dropLineEnds line))).trans (trimStart_suffix (dropLineEnds line))
  have hlast : c ∈ (dropLineEnds line).getLast? := by
    rw [← hfront, List.getLast?_append, Option.mem_def.1 hc]
    rfl
  exact getLast?_dropTrailing c hlast

/-- Writing an event and reading the line gives the event again exactly if nothing
in the event can be taken for something else. -/
theorem read_print_eq_ok_iff (event : Event) :
    read event.print = .ok event ↔ event.Representable :=
  ⟨representable_of_read, read_print⟩

end MaskedField.Event
