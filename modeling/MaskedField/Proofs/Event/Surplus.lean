/- # Words that a line has too many

A selection takes three words and a key two, or three with a position; how many there
are is seen from the event alone. So a line that is read as one of these has as many
words as any other line for the event, its canonical line among them, and a word too
many is refused. Focus and blur take one word, but do not look at what stands behind
it: such a line is read whatever words follow, and they are lost. No other line loses
a word.

Pasted and typed texts take the rest of their line as it is. Nothing is said of them
here.
-/

import MaskedField.Proofs.Event.Canonical

namespace MaskedField.Event

open Text

/-- The number of words that an event without a text takes. -/
def wordCount? : Event → Option Nat
  | focus | blur => some 1
  | select _ => some 3
  | key _ none => some 2
  | key _ (some _) => some 3
  | paste _ | type _ => none

/-- The line is a focus or a blur with more words behind it. -/
def DropsWords (line : List Char) : Prop :=
  ∃ event, (event = focus ∨ event = blur) ∧ ∃ blanks rest, (∀ c ∈ blanks, isBlank c = true) ∧
    line = blanks ++ (event.print ++ ' ' :: rest) ∧ words rest ≠ []

/-- A line is its command, or its command, a space and the rest. -/
theorem eq_commandOf_append (line : List Char) :
    (line = commandOf line ∧ restOf line = []) ∨ line = commandOf line ++ ' ' :: restOf line := by
  have hline : line = commandOf line ++ line.dropWhile (· != ' ') :=
    List.takeWhile_append_dropWhile.symm
  have hhead := List.head?_dropWhile_not (· != ' ') line
  rw [restOf]
  cases hbehind : line.dropWhile (· != ' ') with
  | nil =>
    rw [hbehind, List.append_nil] at hline
    exact .inl ⟨hline, rfl⟩
  | cons c rest =>
    rw [hbehind] at hline hhead
    have hspace : c = ' ' := by simpa using hhead
    rw [hspace] at hline
    exact .inr hline

/-- The command of a line is its first word, and the other words are in the rest. -/
theorem words_of_commandOf {line : List Char} (hcommand : IsWord (commandOf line)) :
    words line = commandOf line :: words (restOf line) := by
  rcases eq_commandOf_append line with ⟨hline, hrest⟩ | hline
  · rw [hrest]
    nth_rewrite 1 [hline]
    exact words_of_isWord hcommand
  · nth_rewrite 1 [hline]
    exact words_append_cons hcommand (by decide) (restOf line)

theorem wordCount?_of_readSelect {rest : List Char} {event : Event}
    (hread : readSelect rest = .ok event) : event.wordCount? = some ((words rest).length + 1) := by
  rw [readSelect] at hread
  split at hread
  · next first second hwords =>
    have hlength := congrArg List.length hwords
    rw [List.length_map] at hlength
    obtain rfl := Except.ok.inj hread
    rw [hlength]
    rfl
  · cases hread

theorem eq_key_of_readStroke {word : List Char} {position? : Option UInt64} {event : Event}
    (hread : readStroke word position? = .ok event) : ∃ stroke, event = key stroke position? := by
  rw [readStroke] at hread
  split at hread
  · next stroke _ => exact ⟨stroke, (Except.ok.inj hread).symm⟩
  · cases hread

theorem wordCount?_of_readKey {rest : List Char} {event : Event}
    (hread : readKey rest = .ok event) : event.wordCount? = some ((words rest).length + 1) := by
  rw [readKey] at hread
  split at hread
  · cases hread
  · next word hwords =>
    obtain ⟨stroke, rfl⟩ := eq_key_of_readStroke hread
    rw [hwords]
    rfl
  · next word position more hwords =>
    split at hread
    · cases hread
    · split at hread
      · next hmore =>
        obtain ⟨stroke, rfl⟩ := eq_key_of_readStroke hread
        rw [hwords, List.isEmpty_iff.1 hmore]
        rfl
      · cases hread

/-- What the reader looks at, and the blanks on both sides that it does not. -/
theorem exists_eq_trimmed (line : List Char) :
    ∃ blanks ends, (∀ c ∈ blanks, isBlank c = true) ∧ (∀ c ∈ ends, isBlank c = true) ∧
      line = blanks ++ (trimStart (dropLineEnds line) ++ ends) := by
  obtain ⟨ends, hends, hline⟩ := exists_eq_dropLineEnds_append line
  refine ⟨(dropLineEnds line).takeWhile isBlank, ends, fun c hc => List.mem_takeWhile_imp hc,
    hends, ?_⟩
  rwa [← List.append_assoc, trimStart, List.takeWhile_append_dropWhile]

/-- A line with one of the commands that take nothing has one word, or drops words. -/
theorem length_words_of_commandOf {line : List Char} {event : Event}
    (hkind : event = focus ∨ event = blur)
    (hcommand : commandOf (trimStart (dropLineEnds line)) = event.print) :
    (words line).length = 1 ∨ DropsWords line := by
  have hword : IsWord event.print := by
    rcases hkind with rfl | rfl <;> decide +kernel
  by_cases hnone : words (restOf (trimStart (dropLineEnds line))) = []
  · left
    rw [← words_dropLineEnds, ← words_trimStart, words_of_commandOf (hcommand ▸ hword), hnone]
    rfl
  · right
    obtain ⟨blanks, ends, hblanks, hends, hline⟩ := exists_eq_trimmed line
    rcases eq_commandOf_append (trimStart (dropLineEnds line)) with ⟨-, hrest⟩ | htrimmed
    · exact absurd (congrArg words hrest) hnone
    · refine ⟨event, hkind, blanks, restOf (trimStart (dropLineEnds line)) ++ ends, hblanks, ?_, ?_⟩
      · rw [hcommand] at htrimmed
        rw [htrimmed, List.append_assoc] at hline
        exact hline
      · rwa [words_append_blanks hends]

/-- A line that is read has the number of words that its event takes, or drops words. -/
theorem wordCount?_of_read {line : List Char} {event : Event} (hread : read line = .ok event)
    (htext : event.text? = none) :
    event.wordCount? = some (words line).length ∨ DropsWords line := by
  have hwords {command : String} (hcommand : IsWord command.toList)
      (heq : commandOf (trimStart (dropLineEnds line)) = command.toList) :
      (words line).length = (words (restOf (trimStart (dropLineEnds line)))).length + 1 := by
    rw [← heq] at hcommand
    rw [← words_dropLineEnds, ← words_trimStart, words_of_commandOf hcommand, List.length_cons]
  rw [read_eq_ok_iff, readCommand] at hread
  split_ifs at hread with hfocus hblur hpaste htype hselect hkey
  · obtain rfl := Except.ok.inj hread
    exact (length_words_of_commandOf (.inl rfl) hfocus).imp_left fun hone => by rw [hone]; rfl
  · obtain rfl := Except.ok.inj hread
    exact (length_words_of_commandOf (.inr rfl) hblur).imp_left fun hone => by rw [hone]; rfl
  · obtain rfl := Except.ok.inj hread
    cases htext
  · obtain rfl := Except.ok.inj hread
    cases htext
  · left
    rw [hwords (by decide +kernel) hselect]
    exact wordCount?_of_readSelect hread
  · left
    rw [hwords (by decide +kernel) hkey]
    exact wordCount?_of_readKey hread

/-- A line that drops words is read, and has more words than its event is written with. -/
theorem DropsWords.exists_read {line : List Char} (hdrops : DropsWords line) :
    ∃ event, read line = .ok event ∧ event.text? = none ∧
      (words event.print).length < (words line).length := by
  obtain ⟨event, hkind, blanks, rest, hblanks, rfl, hrest⟩ := hdrops
  have hword : IsWord event.print := by
    rcases hkind with rfl | rfl <;> decide +kernel
  have hcommand (more : List Char) : readCommand event.print more = .ok event := by
    rcases hkind with rfl | rfl <;> rfl
  have hline : dropLineEnds (blanks ++ (event.print ++ ' ' :: rest)) =
      blanks ++ (event.print ++ ' ' :: dropLineEnds rest) := by
    rw [← List.append_assoc, ← List.append_assoc]
    exact dropTrailing_append_cons (by decide) (blanks ++ event.print) rest
  have htrimmed : trimStart (blanks ++ (event.print ++ ' ' :: dropLineEnds rest)) =
      event.print ++ ' ' :: dropLineEnds rest := by
    rw [trimStart, List.dropWhile_append_of_pos hblanks]
    exact trimStart_append hword (' ' :: dropLineEnds rest)
  refine ⟨event, ?_, ?_, ?_⟩
  · rw [read_eq_ok_iff, hline, htrimmed, commandOf_append hword, restOf_append hword]
    exact hcommand _
  · rcases hkind with rfl | rfl <;> rfl
  · rw [words_blanks_append hblanks, words_append_cons hword (by decide), words_of_isWord hword,
      List.length_cons, List.length_cons, List.length_nil]
    exact Nat.succ_lt_succ (List.length_pos_of_ne_nil hrest)

/-- A word behind a focus is no part of the event, and is not refused either. -/
theorem focus_drops_a_word :
    ¬ ∀ line event, read line = .ok event → event.text? = none →
      (words line).length = (words event.print).length := by
  intro hkeeps
  exact absurd (hkeeps "focus x".toList focus rfl rfl) (by decide +kernel)

/-- A line that is read as an event without a text has as many words as the canonical
line of the event, unless it is a focus or a blur with words behind it; then it is
always read, and always has more. -/
theorem words_are_kept_but_behind_focus_and_blur (line : List Char) :
    (∀ event, read line = .ok event → event.text? = none →
      (words line).length = (words event.print).length) ↔ ¬ DropsWords line := by
  constructor
  · intro hkept hdrops
    obtain ⟨event, hread, htext, hfewer⟩ := hdrops.exists_read
    exact absurd (hkept event hread htext) (Nat.ne_of_gt hfewer)
  · intro hkeeps event hread htext
    have hprinted : read event.print = .ok event := read_print (representable_of_read hread)
    have hcount := (wordCount?_of_read hread htext).resolve_right hkeeps
    rcases wordCount?_of_read hprinted htext with hprint | hdrops
    · exact Option.some.inj (hcount.symm.trans hprint)
    · -- No canonical line drops words: it would have more of them than itself.
      obtain ⟨other, hother, -, hfewer⟩ := hdrops.exists_read
      obtain rfl := Except.ok.inj (hprinted.symm.trans hother)
      exact absurd hfewer (Nat.lt_irrefl _)

end MaskedField.Event
