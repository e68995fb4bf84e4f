/- # Reading a script as a whole

A script can be read exactly if each of its event lines can, and then its events are
the ones of these lines in order. If not, the error is the one of the first event line
that cannot be read, and the lines before it make a script that can. Both are told by
one relation between lines and events, which grows line by line.
-/

import MaskedField.Event.Script

namespace MaskedField.Event

/-- The lines hold these events, one on each line that is not skipped. -/
inductive Reads : List (List Char) → List Event → Prop where
  | nil : Reads [] []
  | skipped {line : List Char} {lines : List (List Char)} {events : List Event}
      (hline : isEventLine line = false) (hlines : Reads lines events) :
      Reads (line :: lines) events
  | event {line : List Char} {lines : List (List Char)} {event : Event} {events : List Event}
      (hline : isEventLine line = true) (hread : read line = .ok event)
      (hlines : Reads lines events) : Reads (line :: lines) (event :: events)

/-- The events of lines that have been cut already. -/
def readLines (lines : List (List Char)) : Except ReadError (List Event) :=
  (lines.filter isEventLine).mapM read

theorem readLines_skipped {line : List Char} (hline : isEventLine line = false)
    (lines : List (List Char)) : readLines (line :: lines) = readLines lines := by
  rw [readLines, List.filter_cons_of_neg (by simp [hline]), readLines]

theorem readLines_event {line : List Char} (hline : isEventLine line = true)
    (lines : List (List Char)) :
    readLines (line :: lines) =
      (read line).bind fun event => (readLines lines).map (event :: ·) := by
  rw [readLines, List.filter_cons_of_pos hline, List.mapM_cons, readLines]
  cases read line with
  | error error => rfl
  | ok event => cases (lines.filter isEventLine).mapM read <;> rfl

variable {lines : List (List Char)} {events : List Event}

theorem Reads.readLines_eq (hreads : Reads lines events) : readLines lines = .ok events := by
  induction hreads with
  | nil => rfl
  | skipped hline _ ih => rw [readLines_skipped hline, ih]
  | event hline hread _ ih =>
    rw [readLines_event hline, hread, ih]
    rfl

/-- Reading either finds the events of all lines or stops at the first event line that
is no event. -/
theorem reads_or_stops (lines : List (List Char)) :
    (∃ events, Reads lines events) ∨
      ∃ front line back events error, lines = front ++ line :: back ∧ Reads front events ∧
        isEventLine line = true ∧ read line = .error error ∧ readLines lines = .error error := by
  induction lines with
  | nil => exact .inl ⟨[], .nil⟩
  | cons line lines ih =>
    cases hline : isEventLine line with
    | false =>
      rcases ih with ⟨events, hreads⟩ | ⟨front, stop, back, events, error, rfl, hfront, hstop⟩
      · exact .inl ⟨events, .skipped hline hreads⟩
      · refine .inr ⟨line :: front, stop, back, events, error, rfl, .skipped hline hfront, ?_⟩
        rwa [readLines_skipped hline]
    | true =>
      cases hread : read line with
      | error error =>
        refine .inr ⟨[], line, lines, [], error, rfl, .nil, hline, hread, ?_⟩
        rw [readLines_event hline, hread]
        rfl
      | ok event =>
        rcases ih with ⟨events, hreads⟩ |
          ⟨front, stop, back, events, error, rfl, hfront, hstop, hbad, herror⟩
        · exact .inl ⟨event :: events, .event hline hread hreads⟩
        · refine .inr ⟨line :: front, stop, back, event :: events, error, rfl,
            .event hline hread hfront, hstop, hbad, ?_⟩
          rw [readLines_event hline, hread, herror]
          rfl

theorem readLines_eq_ok_iff : readLines lines = .ok events ↔ Reads lines events := by
  refine ⟨fun hread => ?_, Reads.readLines_eq⟩
  rcases reads_or_stops lines with ⟨found, hreads⟩ | ⟨_, _, _, _, error, -, -, -, -, herror⟩
  · obtain rfl := Except.ok.inj (hread.symm.trans hreads.readLines_eq)
    exact hreads
  · rw [herror] at hread
    cases hread

/-- A script is read as the events of its lines. -/
theorem readScript_eq_ok_iff {script : List Char} :
    readScript script = .ok events ↔ Reads (Text.lines script) events :=
  readLines_eq_ok_iff

/-- A script that cannot be read has a first line that is to blame. -/
theorem exists_of_readLines_eq_error {error : ReadError} (hread : readLines lines = .error error) :
    ∃ front line back events, lines = front ++ line :: back ∧ Reads front events ∧
      isEventLine line = true ∧ read line = .error error := by
  rcases reads_or_stops lines with ⟨found, hreads⟩ |
    ⟨front, line, back, events, first, hlines, hfront, hline, hbad, herror⟩
  · rw [hreads.readLines_eq] at hread
    cases hread
  · obtain rfl := Except.error.inj (hread.symm.trans herror)
    exact ⟨front, line, back, events, hlines, hfront, hline, hbad⟩

/-- Every event that is found stands on a line of its own. -/
theorem Reads.exists_line (hreads : Reads lines events) :
    ∀ event ∈ events, ∃ line ∈ lines, read line = .ok event := by
  induction hreads with
  | nil => simp
  | skipped _ _ ih =>
    intro event hevent
    obtain ⟨line, hline, hread⟩ := ih event hevent
    exact ⟨line, List.mem_cons_of_mem _ hline, hread⟩
  | event _ hread _ ih =>
    rw [List.forall_mem_cons]
    refine ⟨⟨_, List.mem_cons_self, hread⟩, ?_⟩
    intro event hevent
    obtain ⟨line, hline, hread⟩ := ih event hevent
    exact ⟨line, List.mem_cons_of_mem _ hline, hread⟩

/-- Every line that is not skipped holds an event. -/
theorem Reads.exists_event (hreads : Reads lines events) :
    ∀ line ∈ lines, isEventLine line = true → ∃ event, read line = .ok event := by
  induction hreads with
  | nil => simp
  | skipped hskipped _ ih =>
    rw [List.forall_mem_cons]
    refine ⟨fun hline => ?_, ih⟩
    rw [hskipped] at hline
    cases hline
  | event _ hread _ ih =>
    rw [List.forall_mem_cons]
    exact ⟨fun _ => ⟨_, hread⟩, ih⟩

end MaskedField.Event
