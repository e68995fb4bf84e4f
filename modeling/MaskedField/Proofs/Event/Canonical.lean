/- # The canonical line of an event

Many lines are read as the same event: blanks in front, other words for a modifier,
any case, modifiers twice or in another order, signs and zeros in front of numbers,
marks of the line's end. The line that the event is written as is the one that stays
when it is read and written again. It is also a line in the sense of documents: it
holds no line feed, it does not end with a carriage return, and a script does not
skip it.
-/

import MaskedField.Proofs.Event.RoundTrip
import MaskedField.Proofs.Event.Script
import MaskedField.Proofs.Text.Lines

namespace MaskedField.Event

open Text

/-- The line that the event of a line is written as. -/
def canonical (line : List Char) : Except ReadError (List Char) :=
  (read line).map print

/-- Whatever line is read as an event, the event is read back from the line that it is
written as; so the canonical form of a line is its own canonical form. A line that is
no event has none, for one and the same reason. -/
theorem read_is_canonical (line : List Char) :
    (∀ event, read line = .ok event → read event.print = .ok event) ∧
      (canonical line).bind canonical = canonical line := by
  have hprinted (event : Event) (hread : read line = .ok event) :
      read event.print = .ok event := read_print (representable_of_read hread)
  refine ⟨hprinted, ?_⟩
  cases hread : read line with
  | error error =>
    rw [canonical, hread]
    rfl
  | ok event =>
    have hcanonical : canonical line = .ok event.print := by
      rw [canonical, hread]
      rfl
    rw [hcanonical]
    show canonical event.print = .ok event.print
    rw [canonical, hprinted event hread]
    rfl

-- Held twice, in another order, and with a sign and zeros in front of the position.
example : canonical "\t key Shift+Control+SHIFT+Del   @+007\r\n".toList =
    .ok "key ctrl+shift+delete @7".toList := by
  rfl

/-- The text that an event carries as it is. -/
def text? : Event → Option (List Char)
  | paste text | type text => some text
  | _ => none

theorem text?_of_readSelect {rest : List Char} {event : Event}
    (hread : readSelect rest = .ok event) : event.text? = none := by
  rw [readSelect] at hread
  split at hread
  · obtain rfl := Except.ok.inj hread
    rfl
  · cases hread

theorem text?_of_readStroke {word : List Char} {position? : Option UInt64} {event : Event}
    (hread : readStroke word position? = .ok event) : event.text? = none := by
  rw [readStroke] at hread
  split at hread
  · obtain rfl := Except.ok.inj hread
    rfl
  · cases hread

theorem text?_of_readKey {rest : List Char} {event : Event}
    (hread : readKey rest = .ok event) : event.text? = none := by
  rw [readKey] at hread
  split at hread
  · cases hread
  · exact text?_of_readStroke hread
  · split at hread
    · cases hread
    · split at hread
      · exact text?_of_readStroke hread
      · cases hread

/-- The text of an event is the rest of its line. -/
theorem eq_rest_of_readCommand {command rest : List Char} {event : Event}
    (hread : readCommand command rest = .ok event) : ∀ text ∈ event.text?, text = rest := by
  rw [readCommand] at hread
  split_ifs at hread with hfocus hblur hpaste htype hselect hkey
  · obtain rfl := Except.ok.inj hread
    simp [text?]
  · obtain rfl := Except.ok.inj hread
    simp [text?]
  · obtain rfl := Except.ok.inj hread
    simp [text?]
  · obtain rfl := Except.ok.inj hread
    simp [text?]
  · simp [text?_of_readSelect hread]
  · simp [text?_of_readKey hread]

/-- A reader adds nothing to the text of an event. -/
theorem text_subset_of_read {line : List Char} {event : Event}
    (hread : read line = .ok event) : ∀ text ∈ event.text?, text ⊆ line := by
  intro text htext c hc
  obtain rfl := eq_rest_of_readCommand (read_eq_ok_iff.1 hread) text htext
  have hkept : c ∈ dropLineEnds line :=
    (trimStart_suffix _).subset ((restOf_suffix _).subset hc)
  exact dropTrailing_subset hkept

theorem print_select (range : Selection) :
    (select range).print = "select".toList ++ ' ' ::
      (Decimal.print range.start.toNat ++ ' ' :: Decimal.print range.stop.toNat) :=
  rfl

theorem print_key (stroke : Keystroke) (position? : Option UInt64) :
    (key stroke position?).print = "key".toList ++ ' ' ::
      (stroke.modifiers.print ++ stroke.key.print ++ printPosition position?) :=
  rfl

theorem lineFeed_not_mem_commandLine {command rest : List Char} (hcommand : IsWord command)
    (hrest : '\n' ∉ rest) : '\n' ∉ command ++ ' ' :: rest := by
  rw [List.mem_append, List.mem_cons, not_or, not_or]
  exact ⟨hcommand.lineFeed_not_mem, by decide, hrest⟩

/-- A representable event without a line feed in its text is written on one line. -/
theorem lineFeed_not_mem_print {event : Event} (hrepresentable : event.Representable)
    (htext : ∀ text ∈ event.text?, '\n' ∉ text) : '\n' ∉ event.print := by
  have hnumber (number : Nat) : '\n' ∉ Decimal.print number :=
    (isWord_print number).lineFeed_not_mem
  cases event with
  | focus => decide +kernel
  | blur => decide +kernel
  | select range =>
    have hcommand : IsWord "select".toList := by decide +kernel
    rw [print_select]
    exact lineFeed_not_mem_commandLine hcommand
      (lineFeed_not_mem_commandLine (isWord_print _) (hnumber range.stop.toNat))
  | key stroke position? =>
    have hcommand : IsWord "key".toList := by decide +kernel
    have hstroke := Keystroke.isWord_print hrepresentable
    rw [print_key]
    apply lineFeed_not_mem_commandLine hcommand
    cases position? with
    | none => simpa [printPosition] using hstroke.lineFeed_not_mem
    | some position =>
      have hposition : '\n' ∉ '@' :: Decimal.print position.toNat :=
        List.not_mem_cons_of_ne_of_not_mem (by decide) (hnumber position.toNat)
      exact lineFeed_not_mem_commandLine hstroke hposition
  | paste text =>
    have hcommand : IsWord "paste".toList := by decide +kernel
    exact lineFeed_not_mem_commandLine hcommand (htext text rfl)
  | type text =>
    have hcommand : IsWord "type".toList := by decide +kernel
    exact lineFeed_not_mem_commandLine hcommand (htext text rfl)

/-- The line of a representable event does not end with an end mark. -/
theorem not_isLineEnd_getLast?_print {event : Event} (hrepresentable : event.Representable) :
    ∀ c ∈ event.print.getLast?, isLineEnd c = false := by
  cases event with
  | focus =>
    have hword : IsWord "focus".toList := by decide +kernel
    exact hword.not_isLineEnd_getLast? []
  | blur =>
    have hword : IsWord "blur".toList := by decide +kernel
    exact hword.not_isLineEnd_getLast? []
  | select range =>
    rw [print_select]
    apply not_isLineEnd_getLast?_commandLine
    exact not_isLineEnd_getLast?_select range
  | key stroke position? =>
    rw [print_key]
    apply not_isLineEnd_getLast?_commandLine
    exact not_isLineEnd_getLast?_position (Keystroke.isWord_print hrepresentable) position?
  | paste text => exact not_isLineEnd_getLast?_commandLine "paste".toList hrepresentable
  | type text => exact not_isLineEnd_getLast?_commandLine "type".toList hrepresentable

theorem carriageReturn_not_mem_getLast?_print {event : Event}
    (hrepresentable : event.Representable) : '\r' ∉ event.print.getLast? := by
  intro hreturn
  exact absurd (not_isLineEnd_getLast?_print hrepresentable '\r' hreturn) (by decide)

/-- No script skips the line of an event. -/
theorem isEventLine_print (event : Event) : isEventLine event.print = true := by
  cases event <;> rfl

theorem print_ne_nil (event : Event) : event.print ≠ [] := by
  intro hempty
  have hline := isEventLine_print event
  rw [hempty] at hline
  cases hline

/-- The event can be written on a line of a document. -/
structure FitsLine (event : Event) : Prop where
  representable : event.Representable
  text_unbroken : ∀ text ∈ event.text?, '\n' ∉ text

/-- A line of a document that is read gives an event that fits one. -/
theorem fitsLine_of_read {line : List Char} {event : Event} (hline : '\n' ∉ line)
    (hread : read line = .ok event) : event.FitsLine where
  representable := representable_of_read hread
  text_unbroken := fun text htext hmem => hline (text_subset_of_read hread text htext hmem)

/-- So do all events that such lines hold. -/
theorem Reads.fitsLine {lines : List (List Char)} {events : List Event}
    (hreads : Reads lines events) (hlines : ∀ line ∈ lines, '\n' ∉ line) :
    ∀ event ∈ events, event.FitsLine := by
  intro event hevent
  obtain ⟨line, hline, hread⟩ := hreads.exists_line event hevent
  exact fitsLine_of_read (hlines line hline) hread

section Written

variable {events : List Event} (hevents : ∀ event ∈ events, event.FitsLine)
include hevents

/-- Events that fit lines are read back from their lines. -/
theorem reads_map_print : Reads (events.map print) events := by
  induction events with
  | nil => exact .nil
  | cons event events ih =>
    rw [List.forall_mem_cons] at hevents
    exact .event (isEventLine_print event) (read_print hevents.1.representable) (ih hevents.2)

/-- A document with their lines has no other lines. -/
theorem lines_intercalate_print :
    lines (['\n'].intercalate (events.map print)) = events.map print := by
  apply lines_intercalate
  · rw [List.forall_mem_map]
    intro event hevent
    exact lineFeed_not_mem_print (hevents event hevent).representable
      (hevents event hevent).text_unbroken
  · rw [List.forall_mem_map]
    intro event hevent
    exact carriageReturn_not_mem_getLast?_print (hevents event hevent).representable
  · intro hempty
    obtain ⟨event, -, hprint⟩ := List.mem_map.1 (List.mem_of_getLast? hempty)
    exact print_ne_nil event hprint

end Written

end MaskedField.Event
