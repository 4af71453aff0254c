import LoadHarness.Failure.Cause
import LoadHarness.Options
import LoadHarness.Run.Shared
import LoadHarness.Summary

/-! The summary of a run, from what its parties have left behind. -/

namespace LoadHarness

namespace Options

/-- The allowed suites as one text. -/
def suitesText : Tls.CipherSuites → String
  | .any => "any"
  | .only names => ",".intercalate names.toList

/-- The settings that a summary shows.  What is not set has no entry. -/
def settings (options : Options) : NameMap String :=
  let «optional» (name : String) (value : Option String) : List (String × String) :=
    value.toList.map fun value => (name, value)
  .ofList (
    «optional» "pacing_ms" (options.pacing.map fun pacing => toString pacing.millis) ++
      «optional» "iterations" (options.iterations.map toString) ++
      «optional» "target" options.target ++
      [("io_timeout_ms", toString options.ioTimeout.millis),
        ("tls_min_version", options.tls.min.name),
        ("tls_max_version", options.tls.max.name),
        ("tls_cipher_suites", suitesText options.tls.suites),
        ("insecure_skip_tls_verify", toString options.tls.insecure)])

end Options

namespace Run

/-- How a run ends. -/
inductive Conclusion where
  | finished (summary : Summary)
  /-- The setup of the run failed. -/
  | failed (failure : Failure)
  /-- Hooks of these virtual users broke off. -/
  | crashed (users : List Nat)
  /-- A hook of the run broke off. -/
  | panicked (text : String)
deriving DecidableEq

/-- The failure of a run in which virtual users broke off. -/
def crashFailure (users : List Nat) : Failure :=
  .ofText ("Virtual user panicked: " ++
    ", ".intercalate (users.map fun id => userName id ++ ": Any \x7b .. \x7d"))

/-- The summary of a run, from the two readings of the books on connections. -/
def summarizeRun (name version : String) (startedAt : Int) (options : Options) (endCount : Nat)
    (recorder : Recorder) (opened closed : Nat) : Summary :=
  { Summary.start options.runId name startedAt options.duration.secs options.virtualUsers version
    with
    virtualUserEndCount := endCount
    iterations := recorder.iterations
    failedIterations := recorder.failed
    checks := recorder.summary
    connectionsOpened := opened
    connectionsClosed := closed
    settings := options.settings }

end Run

end LoadHarness
