/- # A replay agrees with its script

A replay reads a line, applies its event and reports at once, while a script can also
be read as a whole and its events applied afterwards. Both see the same lines, both
skip the same ones, and the first line that cannot be read ends the replay with
everything before it done and nothing behind it begun. What a replay does with a
document is therefore what it does with the leading lines, continued; the theory is
one law for appended lines and one for lines that all can be read.
-/

import MaskedField.Proofs.Event.Script
import MaskedField.Proofs.Text.Utf8
import MaskedField.Replay.Basic

namespace MaskedField.Replay

open Event Text

variable (editor : Editor) (field : Field)

/-- One report for each event of a run, taken right after the event. -/
def reports (events : List Event) : List Report :=
  events.mapIdx fun index event =>
    ⟨event, editor.run field (events.take (index + 1)),
      (editor.apply (editor.run field (events.take index)) event).2⟩

theorem reports_cons (event : Event) (events : List Event) :
    reports editor field (event :: events) =
      ⟨event, (editor.apply field event).1, (editor.apply field event).2⟩ ::
        reports editor (editor.apply field event).1 events := by
  simp [reports, List.mapIdx_cons, Editor.run]

theorem length_reports (events : List Event) :
    (reports editor field events).length = events.length :=
  List.length_mapIdx

/-- The events of the reports are the ones that were applied. -/
theorem events_reports (events : List Event) :
    (reports editor field events).map Report.event = events := by
  induction events generalizing field with
  | nil => rfl
  | cons event events ih => rw [reports_cons, List.map_cons, ih]

/-- A report shows the field as the events up to its own have left it. -/
theorem field_of_getElem?_reports {events : List Event} {index : Nat} {report : Report}
    (hreport : (reports editor field events)[index]? = some report) :
    report.field = editor.run field (events.take (index + 1)) := by
  rw [reports, List.getElem?_mapIdx] at hreport
  obtain ⟨event, -, rfl⟩ := Option.map_eq_some_iff.1 hreport
  rfl

/-- The outcome of applying events one after another. -/
def applied (events : List Event) : Outcome :=
  ⟨editor.run field events, reports editor field events, none⟩

/-- If every report is written as a single line, the lines of the output are these. -/
theorem Outcome.lines_output {outcome : Outcome} {format : Format} {body : Report → List Char}
    (hbody : ∀ report, report.line format = body report ++ ['\n'])
    (hlines : ∀ report ∈ outcome.reports, '\n' ∉ body report)
    (hends : ∀ report ∈ outcome.reports, '\r' ∉ (body report).getLast?) :
    lines (outcome.output format) = outcome.reports.map body := by
  have houtput : outcome.output format = (outcome.reports.map body).flatMap (· ++ ['\n']) := by
    rw [Outcome.output, funext hbody, List.flatMap_map]
  rw [houtput]
  apply lines_flatMap_ended
  · rwa [List.forall_mem_map]
  · rwa [List.forall_mem_map]

/-- What comes of going on after an outcome; after a failure nothing does. -/
def Outcome.andThen (before : Outcome) (next : Field → Outcome) : Outcome :=
  match before.failure? with
  | some _ => before
  | none => { next before.field with reports := before.reports ++ (next before.field).reports }

theorem Outcome.andThen_of_failed {before : Outcome} {failure : Failure}
    (hfailed : before.failure? = some failure) (next : Field → Outcome) :
    before.andThen next = before := by
  rw [andThen, hfailed]

/-- The outcome is a failure behind another outcome that was none: the field and
everything that was written are still the same. -/
structure Outcome.StopsAfter (outcome before : Outcome) (failure : Failure) : Prop where
  failed : outcome.failure? = some failure
  before_succeeded : before.failure? = none
  field_eq : outcome.field = before.field
  output_eq : ∀ format, outcome.output format = before.output format

/-- The first step fails, and nothing is changed but the failure. -/
theorem Outcome.stopsAfter_andThen {before : Outcome} (hbefore : before.failure? = none)
    {next : Field → Outcome} {failure : Failure}
    (hnext : ∀ current, next current = ⟨current, [], some failure⟩) :
    (before.andThen next).StopsAfter before failure := by
  rw [andThen, hbefore]
  simp only [hnext, List.append_nil]
  exact ⟨rfl, hbefore, rfl, fun _ => rfl⟩

theorem Outcome.andThen_behind (report : Report) (before : Outcome) (next : Field → Outcome) :
    ({ before with reports := report :: before.reports } : Outcome).andThen next =
      { before.andThen next with reports := report :: (before.andThen next).reports } := by
  rcases before with ⟨left, earlier, _ | failure⟩ <;> rfl

/-- Lines behind others are taken where those have left the field, if they have not
failed. -/
theorem runLines_append (number : Nat) (front back : List (List UInt8)) :
    runLines editor field number (front ++ back) =
      (runLines editor field number front).andThen fun current =>
        runLines editor current (number + front.length) back := by
  induction front generalizing field number with
  | nil => rfl
  | cons line front ih =>
    have hnumber : number + (line :: front).length = number + 1 + front.length := by
      rw [List.length_cons]
      omega
    rw [List.cons_append, runLines, runLines, hnumber]
    cases step editor field number line with
    | error failure => rfl
    | ok report? =>
      cases report? with
      | none => exact ih field (number + 1)
      | some report =>
        simp only [ih report.field (number + 1)]
        exact (Outcome.andThen_behind report _ _).symm

section Step

variable (number : Nat)

theorem step_skipped {line : List Char} (hline : isEventLine line = false) :
    step editor field number (Utf8.encode line) = .ok none := by
  simp [step, ofBytes, Utf8.decode?_encode, hline]

theorem step_event {line : List Char} {event : Event} (hline : isEventLine line = true)
    (hread : read line = .ok event) :
    step editor field number (Utf8.encode line) =
      .ok (some ⟨event, (editor.apply field event).1, (editor.apply field event).2⟩) := by
  simp [step, ofBytes, Utf8.decode?_encode, hline, hread]

theorem step_unreadable {line : List Char} {error : ReadError} (hline : isEventLine line = true)
    (hread : read line = .error error) :
    step editor field number (Utf8.encode line) = .error (.script number error) := by
  simp [step, ofBytes, Utf8.decode?_encode, hline, hread]

theorem step_malformed {line : List UInt8} (hline : Utf8.decode? line = none) :
    step editor field number line = .error (.source .malformed) := by
  simp [step, ofBytes, hline]

end Step

/-- Lines that can all be read leave the field where their events do. -/
theorem runLines_of_reads {lines : List (List Char)} {events : List Event}
    (hreads : Reads lines events) (number : Nat) :
    runLines editor field number (lines.map Utf8.encode) = applied editor field events := by
  induction hreads generalizing field number with
  | nil => rfl
  | skipped hline _ ih =>
    rw [List.map_cons, runLines, step_skipped editor field number hline]
    exact ih field (number + 1)
  | event hline hread _ ih =>
    rw [List.map_cons, runLines, step_event editor field number hline hread]
    simp only [ih, applied, reports_cons]
    rfl

/-- A step that does not fail has a text for its line, and skips it or applies its event. -/
theorem exists_of_step_eq_ok {number : Nat} {line : List UInt8} {report? : Option Report}
    (hstep : step editor field number line = .ok report?) :
    ∃ text, line = Utf8.encode text ∧
      (isEventLine text = false ∧ report? = none ∨
        ∃ event, isEventLine text = true ∧ read text = .ok event ∧
          report? =
            some ⟨event, (editor.apply field event).1, (editor.apply field event).2⟩) := by
  cases hline : Utf8.decode? line with
  | none =>
    rw [step_malformed editor field number hline] at hstep
    cases hstep
  | some text =>
    obtain rfl := Utf8.decode?_eq_some_iff.1 hline
    refine ⟨text, rfl, ?_⟩
    cases hevent : isEventLine text with
    | false =>
      rw [step_skipped editor field number hevent] at hstep
      exact .inl ⟨rfl, (Except.ok.inj hstep).symm⟩
    | true =>
      cases hread : read text with
      | error error =>
        rw [step_unreadable editor field number hevent hread] at hstep
        cases hstep
      | ok event =>
        rw [step_event editor field number hevent hread] at hstep
        exact .inr ⟨event, rfl, rfl, (Except.ok.inj hstep).symm⟩

/-- Whether or not lines can all be taken, the field and the reports are those of the events
of leading lines, applied one after another. Only a failure leaves lines behind these. -/
theorem exists_applied_of_runLines (number : Nat) (lines : List (List UInt8)) :
    ∃ front events, front.map Utf8.encode <+: lines ∧ Reads front events ∧
      (runLines editor field number lines).field = editor.run field events ∧
      (runLines editor field number lines).reports = reports editor field events ∧
      ((runLines editor field number lines).failure? = none → front.map Utf8.encode = lines) := by
  induction lines generalizing field number with
  | nil => exact ⟨[], [], List.nil_prefix, .nil, rfl, rfl, fun _ => rfl⟩
  | cons line lines ih =>
    rw [runLines]
    cases hstep : step editor field number line with
    | error failure => exact ⟨[], [], List.nil_prefix, .nil, rfl, rfl, nofun⟩
    | ok report? =>
      obtain ⟨text, rfl, ⟨hline, rfl⟩ | ⟨event, hline, hread, rfl⟩⟩ :=
        exists_of_step_eq_ok editor field hstep
      · obtain ⟨front, events, hfront, hreads, hfield, hreports, hall⟩ := ih field (number + 1)
        refine ⟨text :: front, events, ?_, .skipped hline hreads, hfield, hreports, ?_⟩
        · exact List.cons_prefix_cons.2 ⟨rfl, hfront⟩
        · exact fun hsucceeds => congrArg (Utf8.encode text :: ·) (hall hsucceeds)
      · obtain ⟨front, events, hfront, hreads, hfield, hreports, hall⟩ :=
          ih (editor.apply field event).1 (number + 1)
        refine ⟨text :: front, event :: events, ?_, .event hline hread hreads, hfield, ?_, ?_⟩
        · exact List.cons_prefix_cons.2 ⟨rfl, hfront⟩
        · rw [reports_cons, ← hreports]
        · exact fun hsucceeds => congrArg (Utf8.encode text :: ·) (hall hsucceeds)

/-- A script that can be read is replayed as its events. -/
theorem run_of_reads {script : List Char} {events : List Event}
    (hreads : Reads (lines script) events) :
    run editor field (Utf8.encode script) = applied editor field events := by
  rw [run, byteLines_encode]
  exact runLines_of_reads editor field hreads 1

/-- A replay does what the replay of its leading lines does, and goes on from there. -/
theorem run_eq_andThen {number : Nat} {bytes : List UInt8}
    (hnumber : number ≤ (byteLines bytes).length) :
    run editor field bytes =
      (run editor field (leadingLines 10 number bytes)).andThen fun current =>
        runLines editor current (number + 1) ((byteLines bytes).drop number) := by
  have hleading : byteLines (leadingLines 10 number bytes) = (byteLines bytes).take number :=
    linesOf_leadingLines number bytes
  have happend := runLines_append editor field 1 ((byteLines bytes).take number)
    ((byteLines bytes).drop number)
  rw [List.take_append_drop, List.length_take, Nat.min_eq_left hnumber, Nat.add_comm 1] at happend
  rw [run, run, hleading, happend]

/-- A line that fails from every state of the field ends the replay as the lines before
it have left it. -/
theorem stopsAfter_of_failing {number : Nat} {bytes line : List UInt8} {failure : Failure}
    (hline : (byteLines bytes)[number]? = some line)
    (hfails : ∀ current, step editor current (number + 1) line = .error failure)
    (hbefore : (run editor field (leadingLines 10 number bytes)).failure? = none) :
    (run editor field bytes).StopsAfter (run editor field (leadingLines 10 number bytes))
      failure := by
  obtain ⟨hinside, hget⟩ := List.getElem?_eq_some_iff.1 hline
  rw [run_eq_andThen editor field (Nat.le_of_lt hinside)]
  apply Outcome.stopsAfter_andThen hbefore
  intro current
  rw [List.drop_eq_getElem_cons hinside, hget, runLines, hfails]

/-- A script that cannot be read has a line, counted from one, at which the replay ends. -/
theorem stopsAfter_of_readScript {script : List Char} {error : ReadError}
    (hread : readScript script = .error error) :
    ∃ number line, (lines script)[number]? = some line ∧ isEventLine line = true ∧
      read line = .error error ∧
      (∀ earlier ∈ (lines script).take number, isEventLine earlier = true →
        ∃ event, read earlier = .ok event) ∧
      (run editor field (Utf8.encode script)).StopsAfter
        (run editor field (leadingLines 10 number (Utf8.encode script)))
        (.script (number + 1) error) := by
  obtain ⟨front, line, back, events, hlines, hfront, hline, hbad⟩ :=
    exists_of_readLines_eq_error hread
  have htake : (lines script).take front.length = front := by simp [hlines]
  have hleading : byteLines (leadingLines 10 front.length (Utf8.encode script)) =
      front.map Utf8.encode := by
    rw [byteLines, linesOf_leadingLines, ← byteLines, byteLines_encode, ← List.map_take, htake]
  have hbefore : (run editor field
      (leadingLines 10 front.length (Utf8.encode script))).failure? = none := by
    rw [run, hleading, runLines_of_reads editor field hfront]
    rfl
  have hnumber : (byteLines (Utf8.encode script))[front.length]? = some (Utf8.encode line) := by
    simp [byteLines_encode, hlines]
  refine ⟨front.length, line, by simp [hlines], hline, hbad, ?_, ?_⟩
  · rw [htake]
    exact hfront.exists_event
  · exact stopsAfter_of_failing editor field hnumber
      (fun current => step_unreadable editor current _ hline hbad) hbefore

/-- Bytes with a line that is no text have a first such line, and those before it are a
script. -/
theorem exists_first_malformed {bytes : List UInt8}
    (hmalformed : ∃ line ∈ byteLines bytes, Utf8.decode? line = none) :
    ∃ number line script, (byteLines bytes)[number]? = some line ∧ Utf8.decode? line = none ∧
      Utf8.decode? (leadingLines 10 number bytes) = some script := by
  have hexists : ∃ line ∈ byteLines bytes, (Utf8.decode? line).isNone = true := by
    simpa using hmalformed
  have hinside := List.findIdx_lt_length_of_exists hexists
  have hfirst := List.findIdx_getElem (w := hinside)
  have hvalid : (Utf8.decode? (leadingLines 10
      ((byteLines bytes).findIdx fun line => (Utf8.decode? line).isNone) bytes)).isSome := by
    rw [isSome_decode?_iff, byteLines, linesOf_leadingLines, ← byteLines]
    intro line hline
    obtain ⟨index, hindex, rfl⟩ := List.mem_take_iff_getElem.1 hline
    have hbefore := List.not_of_lt_findIdx (Nat.lt_of_lt_of_le hindex (Nat.min_le_left _ _))
    simpa using hbefore
  obtain ⟨script, hscript⟩ := Option.isSome_iff_exists.1 hvalid
  exact ⟨_, _, script, List.getElem?_eq_getElem hinside, by simpa using hfirst, hscript⟩

/-- A line that is no text ends the replay, if none before it has. -/
theorem stopsAfter_of_malformed {number : Nat} {bytes line : List UInt8} {script : List Char}
    (hline : (byteLines bytes)[number]? = some line) (hbad : Utf8.decode? line = none)
    (hscript : Utf8.decode? (leadingLines 10 number bytes) = some script) :
    (∀ events, readScript script = .ok events →
      (run editor field bytes).StopsAfter (run editor field (leadingLines 10 number bytes))
        (.source .malformed)) ∧
      ∀ error, readScript script = .error error →
        run editor field bytes = run editor field (leadingLines 10 number bytes) := by
  have hleading := Utf8.decode?_eq_some_iff.1 hscript
  refine ⟨?_, ?_⟩
  · intro events hread
    apply stopsAfter_of_failing editor field hline
      (fun current => step_malformed editor current _ hbad)
    rw [hleading, run_of_reads editor field (readScript_eq_ok_iff.1 hread)]
    rfl
  · intro error hread
    obtain ⟨hinside, -⟩ := List.getElem?_eq_some_iff.1 hline
    obtain ⟨stop, _, -, -, -, -, hstops⟩ := stopsAfter_of_readScript editor field hread
    rw [← hleading] at hstops
    rw [run_eq_andThen editor field (Nat.le_of_lt hinside)]
    exact Outcome.andThen_of_failed hstops.failed _

/-- Only a script that can be read is replayed to its end. -/
theorem exists_reads_of_succeeds {bytes : List UInt8}
    (hsucceeds : (run editor field bytes).failure? = none) :
    ∃ script events, bytes = Utf8.encode script ∧ Reads (lines script) events := by
  obtain ⟨front, events, -, hreads, -, -, hall⟩ :=
    exists_applied_of_runLines editor field 1 (byteLines bytes)
  have hlines : front.map Utf8.encode = byteLines bytes := hall hsucceeds
  have hvalid : (Utf8.decode? bytes).isSome := by
    rw [isSome_decode?_iff, ← hlines, List.forall_mem_map]
    intro line _
    rw [Utf8.decode?_encode, Option.isSome_some]
  obtain ⟨script, hscript⟩ := Option.isSome_iff_exists.1 hvalid
  obtain rfl := Utf8.decode?_eq_some_iff.1 hscript
  obtain rfl : front = lines script := by
    rw [byteLines_encode] at hlines
    exact List.map_injective_iff.2 Utf8.encode_injective hlines
  exact ⟨script, events, rfl, hreads⟩

/-- A replay of a script that can be read applies its events in order and reports each
right after it has been applied. If the script cannot be read, the replay fails at the
first line that is to blame, with the error of the script and the number of the line;
the field and all that was written are those of the lines before it. Bytes with a line
that is no text are replayed as the lines before it, and unless one of those is to
blame, the replay fails there and keeps their field and output. -/
theorem streaming_agrees_with_script (editor : Editor) (field : Field) (bytes : List UInt8) :
    let outcome := run editor field bytes
    (∀ script, Utf8.decode? bytes = some script →
      (∀ events, readScript script = .ok events →
        outcome.failure? = none ∧ outcome.count = events.length ∧
          outcome.field = editor.run field events ∧
          ∀ format, outcome.output format =
            (reports editor field events).flatMap fun report => report.line format) ∧
      ∀ error, readScript script = .error error →
        ∃ number line, (lines script)[number]? = some line ∧ isEventLine line = true ∧
          read line = .error error ∧
          (∀ earlier ∈ (lines script).take number, isEventLine earlier = true →
            ∃ event, read earlier = .ok event) ∧
          outcome.StopsAfter (run editor field (leadingLines 10 number bytes))
            (.script (number + 1) error)) ∧
    ((∃ line ∈ byteLines bytes, Utf8.decode? line = none) →
      ∃ number line script, (byteLines bytes)[number]? = some line ∧
        Utf8.decode? line = none ∧
        Utf8.decode? (leadingLines 10 number bytes) = some script ∧
        (∀ events, readScript script = .ok events →
          outcome.StopsAfter (run editor field (leadingLines 10 number bytes))
            (.source .malformed)) ∧
        ∀ error, readScript script = .error error →
          outcome = run editor field (leadingLines 10 number bytes)) := by
  refine ⟨?_, ?_⟩
  · intro script hscript
    obtain rfl := Utf8.decode?_eq_some_iff.1 hscript
    refine ⟨?_, fun error hread => stopsAfter_of_readScript editor field hread⟩
    intro events hread
    rw [run_of_reads editor field (readScript_eq_ok_iff.1 hread)]
    exact ⟨rfl, length_reports editor field events, rfl, fun _ => rfl⟩
  · intro hmalformed
    obtain ⟨number, line, script, hline, hbad, hscript⟩ := exists_first_malformed hmalformed
    exact ⟨number, line, script, hline, hbad, hscript,
      stopsAfter_of_malformed editor field hline hbad hscript⟩

end MaskedField.Replay
