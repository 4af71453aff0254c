import LoadHarness.Check.Counts
import LoadHarness.Names.Map

/-! The log of checks and of iterations that all virtual users of a run append to.

`summarize` counts the log by name.  Nothing is ever taken out of the log, and
the order in which users append to it shows in `results` alone. -/

namespace LoadHarness

/-- The outcome of evaluating one named check once. -/
structure CheckResult where
  name : String
  passed : Bool
  virtualUser : Nat
  iteration : Nat
deriving DecidableEq, Repr

/-- Checks and iterations recorded so far. -/
structure Recorder where
  /-- The log of checks, newest first. -/
  checks : List CheckResult
  /-- Iterations that ran to completion. -/
  iterations : Nat
  /-- Iterations that failed, by the class of their failure. -/
  failed : NameMap Nat
deriving DecidableEq

/-- Passed and failed counts of every name in a log. -/
def summarize (log : List CheckResult) : NameMap CheckCounts :=
  log.foldl (fun map result =>
    map.alter result.name fun counts => (counts.getD .zero).add result.passed) .empty

namespace Recorder

def empty : Recorder := ⟨[], 0, .empty⟩

instance : Inhabited Recorder := ⟨empty⟩

/-- Append the outcome of a check. -/
def record (recorder : Recorder) (result : CheckResult) : Recorder :=
  { recorder with checks := result :: recorder.checks }

/-- Count an iteration that ran to completion, with the class of its failure if it failed. -/
def recordIteration (recorder : Recorder) (failure : Option String) : Recorder where
  checks := recorder.checks
  iterations := recorder.iterations + 1
  failed := match failure with
    | none => recorder.failed
    | some «class» => recorder.failed.alter «class» fun count => count.getD 0 + 1

/-- The log of checks, oldest first. -/
def results (recorder : Recorder) : List CheckResult := recorder.checks.reverse

/-- The counts of every check in the log. -/
def summary (recorder : Recorder) : NameMap CheckCounts := summarize recorder.results

@[simp] theorem results_record (recorder : Recorder) (result : CheckResult) :
    (recorder.record result).results = recorder.results ++ [result] := by
  simp [results, record]

@[simp] theorem iterations_recordIteration (recorder : Recorder) (failure : Option String) :
    (recorder.recordIteration failure).iterations = recorder.iterations + 1 := rfl

end Recorder

end LoadHarness
