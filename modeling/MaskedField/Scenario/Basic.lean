/- # Scenarios

A scenario names a mask and the events that happen to a fresh field under it, and
says what it expects of the end: any of the value, the cursor, the phase and the
transcript. What it does not name is not checked.

A scenario whose mask cannot be used, or one of whose steps is not an event, is
faulty; it is neither passed nor failed.
-/

import MaskedField.Event.Reader
import MaskedField.Field.Session
import MaskedField.Scenario.Transcript

namespace MaskedField

/-- A scenario, with what it expects. -/
structure Scenario where
  name : List Char
  mask : List Char
  steps : List (List Char)
  value? : Option (List Char)
  cursor? : Option UInt64
  phase? : Option (List Char)
  transcript? : Option (List (List Char))
  deriving DecidableEq

namespace Scenario

/-- What came of a scenario. -/
structure Run where
  /-- The field after the last step. -/
  field : Field
  /-- One entry for each step. -/
  transcript : List (List Char)
  deriving DecidableEq

/-- Why a scenario cannot be carried out. -/
inductive Fault where
  | mask (error : MaskError)
  | step (error : Event.ReadError)
  deriving DecidableEq

/-- The fault of a scenario as a message. -/
def faultMessage (scenario : Scenario) (fault : Fault) : String :=
  let name := String.ofList scenario.name
  match fault with
  | .mask error =>
    s!"scenario '{name}': invalid mask " ++ Text.quoted scenario.mask ++ ": " ++ error.message
  | .step error => s!"scenario '{name}': " ++ error.message

/-- Carry out steps one after another. -/
def runSteps (editor : Editor) (field : Field) : List (List Char) → Except Fault Run
  | [] => .ok ⟨field, []⟩
  | step :: rest =>
    match Event.read step with
    | .error error => .error (.step error)
    | .ok event => do
      let next := (editor.apply field event).1
      let run ← runSteps editor next rest
      pure { run with transcript := Transcript.entry next.value next.cursor :: run.transcript }

/-- Carry out a scenario against a fresh field; its mask is taken leniently. -/
def run (engine : Pattern.Engine) (scenario : Scenario) : Except Fault Run :=
  match Editor.build engine false scenario.mask with
  | .error error => .error (.mask error)
  | .ok editor => runSteps editor .fresh scenario.steps

/-- An expectation that was not met. -/
inductive Problem where
  | value (expected actual : List Char)
  | cursor (expected : UInt64) (actual : Nat)
  | phase (expected : List Char) (actual : Phase)
  | transcript (expected actual : List (List Char))
  deriving DecidableEq

/-- A problem as a message. -/
def Problem.message : Problem → String
  | value expected actual =>
    "value: expected " ++ Text.quoted expected ++ ", actual " ++ Text.quoted actual
  | cursor expected actual => s!"cursor: expected {expected}, actual {actual}"
  | phase expected actual =>
    "phase: expected " ++ String.ofList expected ++ ", actual " ++ String.ofList actual.word
  | transcript expected actual =>
    "transcript differs:\n" ++ String.ofList (Transcript.difference expected actual)

/-- The expectations of a scenario that a run does not meet. -/
def problems (scenario : Scenario) (run : Run) : List Problem :=
  (match scenario.value? with
    | some expected =>
      if expected = run.field.value then [] else [.value expected run.field.value]
    | none => []) ++
  (match scenario.cursor? with
    | some expected =>
      if expected.toNat = run.field.cursor then [] else [.cursor expected run.field.cursor]
    | none => []) ++
  (match scenario.phase? with
    | some expected =>
      if expected = run.field.phase.word then [] else [.phase expected run.field.phase]
    | none => []) ++
  (match scenario.transcript? with
    | some expected =>
      if expected = run.transcript then [] else [.transcript expected run.transcript]
    | none => [])

/-- How a scenario ends. -/
inductive Verdict where
  | passed (run : Run)
  | failed (problems : List Problem)
  deriving DecidableEq

/-- Carry out a scenario and compare it with what it expects. -/
def check (engine : Pattern.Engine) (scenario : Scenario) : Except Fault Verdict := do
  let run ← scenario.run engine
  match scenario.problems run with
  | [] => pure (.passed run)
  | problems => pure (.failed problems)

/-- The report of a failed scenario. -/
def report (scenario : Scenario) (problems : List Problem) : String :=
  "scenario '" ++ String.ofList scenario.name ++ "' (mask " ++ Text.quoted scenario.mask ++
    "):\n  " ++ String.intercalate "\n  " (problems.map Problem.message)

end Scenario
end MaskedField
