/- # What a comparison of transcripts marks

Two transcripts are listed side by side up to the end of the longer one, and the mark for an
absent entry takes the place of what is missing. It is a text like any other, and texts are
what is compared. So a step is marked if the transcripts differ there, except where one has
ended and the other has that very text for an entry: this difference is not seen.

The transcript of a run has no such entry, for an entry has a bar in it. A report can be
without a mark all the same, since what is expected may be any texts: it is the transcript
with nothing but marks for absent entries behind it.
-/

import MaskedField.Proofs.Scenario.Run

namespace MaskedField

namespace Transcript

/-- The listing has a line for the step at this index, and the line is marked. -/
def MarkedAt (expected actual : List (List Char)) (index : Nat) : Prop :=
  ∃ step, (compare expected actual)[index]? = some step ∧ step.number = index + 1 ∧
    "  ! ".toList <+: step.line

/-- One of the transcripts has ended, and the other has an entry that cannot be told from
the mark for an absent one. -/
def HidesEnd (expected actual : List (List Char)) (index : Nat) : Prop :=
  expected[index]? = none ∧ actual[index]? = some absent ∨
    expected[index]? = some absent ∧ actual[index]? = none

/-- A line is marked as its step is. -/
theorem marked_line_iff (step : Step) : "  ! ".toList <+: step.line ↔ step.isMarked = true := by
  cases hmarked : step.isMarked with
  | false => simp [Step.line, hmarked]
  | true => simp [Step.line, hmarked]

section Comparison

variable {expected actual : List (List Char)} {index : Nat}

theorem length_compare :
    (compare expected actual).length = max expected.length actual.length := by
  rw [compare, List.length_map, List.length_range]

theorem getElem?_compare (hinside : index < max expected.length actual.length) :
    (compare expected actual)[index]? =
      some ⟨index + 1, expected[index]?.getD absent, actual[index]?.getD absent⟩ := by
  rw [compare, List.getElem?_map, List.getElem?_range hinside]
  rfl

/-- What is shown for two entries differs if they do, unless it is hidden. -/
theorem getD_absent_ne_iff {first second : Option (List Char)} :
    first.getD absent ≠ second.getD absent ↔
      first ≠ second ∧
        ¬ (first = none ∧ second = some absent ∨ first = some absent ∧ second = none) := by
  cases first with
  | none =>
    cases second with
    | none => simp
    | some entry => simp [eq_comm]
  | some entry =>
    cases second with
    | none => simp
    | some other => simp

/-- The marks are on the steps at which the transcripts differ, but for hidden ends. -/
theorem markedAt_iff :
    MarkedAt expected actual index ↔
      expected[index]? ≠ actual[index]? ∧ ¬ HidesEnd expected actual index := by
  rw [HidesEnd, ← getD_absent_ne_iff]
  rcases Nat.lt_or_ge index (max expected.length actual.length) with hinside | hbehind
  · have hstep := getElem?_compare hinside
    constructor
    · rintro ⟨step, hget, -, hline⟩
      obtain rfl := Option.some.inj (hstep.symm.trans hget)
      exact bne_iff_ne.1 ((marked_line_iff _).1 hline)
    · intro hne
      exact ⟨_, hstep, rfl, (marked_line_iff _).2 (bne_iff_ne.2 hne)⟩
  · have hends := Nat.max_le.1 hbehind
    have hnone : (compare expected actual)[index]? = none :=
      List.getElem?_eq_none (by rwa [length_compare])
    rw [List.getElem?_eq_none hends.1, List.getElem?_eq_none hends.2]
    simp [MarkedAt, hnone]

/-- Nothing is marked in front of entries for absent steps. -/
theorem not_markedAt_append_replicate (count : Nat) :
    ¬ MarkedAt (actual ++ List.replicate count absent) actual index := by
  rw [markedAt_iff]
  rintro ⟨hdiffers, hshown⟩
  rcases Nat.lt_or_ge index actual.length with hinside | hbehind
  · exact hdiffers (List.getElem?_append_left hinside)
  · have hended : actual[index]? = none := List.getElem?_eq_none hbehind
    have hadded : (actual ++ List.replicate count absent)[index]? = none ∨
        (actual ++ List.replicate count absent)[index]? = some absent := by
      rw [List.getElem?_append_right hbehind, List.getElem?_replicate]
      split
      · exact .inr rfl
      · exact .inl rfl
    rcases hadded with hnone | habsent
    · exact hdiffers (hnone.trans hended.symm)
    · exact hshown (.inr ⟨habsent, hended⟩)

/-- If nothing is marked, a transcript without entries that read like absent ones is what
was expected, up to such entries behind it. -/
theorem exists_eq_append_replicate (hreal : absent ∉ actual)
    (hunmarked : ∀ index, ¬ MarkedAt expected actual index) :
    ∃ count, expected = actual ++ List.replicate count absent := by
  have hentry (index : Nat) : expected[index]? = actual[index]? ∨
      expected[index]? = some absent ∧ actual[index]? = none := by
    by_cases heq : expected[index]? = actual[index]?
    · exact .inl heq
    · have hhidden : HidesEnd expected actual index := by
        by_contra hshown
        exact hunmarked index (markedAt_iff.2 ⟨heq, hshown⟩)
      refine .inr (hhidden.resolve_left ?_)
      exact fun hleft => hreal (List.mem_of_getElem? hleft.2)
  refine ⟨expected.length - actual.length, List.ext_getElem? fun index => ?_⟩
  rcases Nat.lt_or_ge index actual.length with hinside | hbehind
  · rw [List.getElem?_append_left hinside]
    refine (hentry index).resolve_right ?_
    rintro ⟨-, hended⟩
    exact absurd (List.getElem?_eq_none_iff.1 hended) (Nat.not_le.2 hinside)
  · rw [List.getElem?_append_right hbehind, List.getElem?_replicate]
    have hended : actual[index]? = none := List.getElem?_eq_none hbehind
    rcases hentry index with hsame | ⟨habsent, -⟩
    · rw [hended] at hsame
      have hlength := List.getElem?_eq_none_iff.1 hsame
      rw [hsame, if_neg (by omega)]
    · obtain ⟨hlength, -⟩ := List.getElem?_eq_some_iff.1 habsent
      rw [habsent, if_pos (by omega)]

end Comparison

/-- The entry of a step is not the mark for an absent one: it has a bar. -/
theorem entry_ne_absent (value : List Char) (cursor : Nat) : entry value cursor ≠ absent := by
  intro heq
  have hbar : '|' ∈ entry value cursor := by simp [entry]
  rw [heq] at hbar
  exact absurd hbar (by decide +kernel)

end Transcript

namespace Scenario

open Transcript

variable {engine : Pattern.Engine}

theorem check_of_run {scenario : Scenario} {run : Run} (hrun : scenario.run engine = .ok run) :
    scenario.check engine = .ok (match scenario.problems run with
      | [] => .passed run
      | problems => .failed problems) := by
  rw [check, hrun]
  show (match scenario.problems run with | [] => _ | problems => _) = _
  cases scenario.problems run <;> rfl

/-- A scenario fails with the problems of its run. -/
theorem exists_run_of_check {scenario : Scenario} {problems : List Problem}
    (hcheck : scenario.check engine = .ok (.failed problems)) :
    ∃ run, scenario.run engine = .ok run ∧ problems = scenario.problems run := by
  cases hrun : scenario.run engine with
  | error fault =>
    rw [check, hrun] at hcheck
    cases hcheck
  | ok run =>
    rw [check_of_run hrun] at hcheck
    cases hproblems : scenario.problems run with
    | nil =>
      rw [hproblems] at hcheck
      cases hcheck
    | cons problem rest =>
      rw [hproblems] at hcheck
      cases hcheck
      exact ⟨run, rfl, hproblems.symm⟩

/-- A transcript is reported if one is expected and the run has another. -/
theorem transcript_mem_problems_iff {scenario : Scenario} {run : Run}
    {expected actual : List (List Char)} :
    .transcript expected actual ∈ scenario.problems run ↔
      scenario.transcript? = some expected ∧ actual = run.transcript ∧ expected ≠ actual := by
  rw [problems, List.mem_append, List.mem_append, List.mem_append]
  constructor
  · rintro (((hvalue | hcursor) | hphase) | htranscript)
    · split at hvalue <;> simp at hvalue
    · split at hcursor <;> simp at hcursor
    · split at hphase <;> simp at hphase
    · split at htranscript
      · next stated hstated =>
        rw [List.mem_ite_nil_left, List.mem_singleton, Problem.transcript.injEq] at htranscript
        obtain ⟨hdiffers, rfl, rfl⟩ := htranscript
        exact ⟨hstated, rfl, hdiffers⟩
      · cases htranscript
  · rintro ⟨hexpected, rfl, hdiffers⟩
    right
    rw [hexpected]
    simp [hdiffers]

/-- No entry of a run reads like an absent one. -/
theorem absent_not_mem_transcript {scenario : Scenario} {run : Run}
    (hrun : scenario.run engine = .ok run) : absent ∉ run.transcript := by
  obtain ⟨editor, events, -, -, rfl⟩ := run_eq_ok_iff.1 hrun
  rw [List.mem_map]
  rintro ⟨report, -, hentry⟩
  exact entry_ne_absent _ _ hentry

/-- A transcript with a mark for an absent entry behind it is reported as a difference,
but nothing in the report is marked. -/
theorem absent_mark_hides_a_difference :
    ¬ ∀ (scenario : Scenario) (problems : List Problem) (expected actual : List (List Char)),
      scenario.check .bounded = .ok (.failed problems) → .transcript expected actual ∈ problems →
        ∃ index, MarkedAt expected actual index := by
  intro hmarks
  let scenario : Scenario := ⟨[], "9".toList, [], none, none, none, some ["<none>".toList]⟩
  have hcheck : scenario.check .bounded = .ok (.failed [.transcript ["<none>".toList] []]) := by
    decide +kernel
  obtain ⟨index, hmarked⟩ := hmarks scenario _ _ _ hcheck List.mem_cons_self
  have hunmarked : ¬ MarkedAt ([] ++ List.replicate 1 absent) [] index :=
    not_markedAt_append_replicate 1
  exact hunmarked hmarked

/-- A listing has a line for each step up to the end of the longer transcript. The line is
marked if the transcripts differ there and only if they do, unless one has ended where the
other has an entry that reads like an absent one; then it is never marked, although they
differ. In the report of a scenario something is marked, unless what was expected is the
transcript of the run with nothing but such entries behind it; then nothing is. -/
theorem differences_are_marked_but_for_hidden_ends (expected actual : List (List Char)) :
    difference expected actual = ((Transcript.compare expected actual).map Step.line).flatten ∧
    (Transcript.compare expected actual).length = max expected.length actual.length ∧
    (∀ index, (MarkedAt expected actual index ↔ expected[index]? ≠ actual[index]?) ↔
      ¬ HidesEnd expected actual index) ∧
    ∀ (engine : Pattern.Engine) (scenario : Scenario) (problems : List Problem),
      scenario.check engine = .ok (.failed problems) → .transcript expected actual ∈ problems →
        ((∃ index, MarkedAt expected actual index) ↔
          ¬ ∃ count, expected = actual ++ List.replicate count absent) := by
  refine ⟨List.flatMap_def, length_compare, fun index => ?_,
    fun engine scenario problems hcheck hreported => ?_⟩
  · rw [markedAt_iff]
    constructor
    · intro hexact hhidden
      have hdiffers : expected[index]? ≠ actual[index]? := by
        rcases hhidden with ⟨hleft, hright⟩ | ⟨hleft, hright⟩ <;> simp [hleft, hright]
      exact (hexact.2 hdiffers).2 hhidden
    · exact fun hshown => and_iff_left hshown
  · obtain ⟨run, hrun, rfl⟩ := exists_run_of_check hcheck
    obtain ⟨-, rfl, -⟩ := transcript_mem_problems_iff.1 hreported
    constructor
    · rintro ⟨index, hmarked⟩ ⟨count, rfl⟩
      exact not_markedAt_append_replicate count hmarked
    · intro hother
      by_contra hunmarked
      exact hother (exists_eq_append_replicate (absent_not_mem_transcript hrun)
        (not_exists.1 hunmarked))

end Scenario

end MaskedField
