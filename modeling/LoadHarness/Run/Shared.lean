import LoadHarness.Check.Recorder
import LoadHarness.Ledger
import LoadHarness.Report.Reporter
import LoadHarness.Work

/-! What the parties of a run share, and what the actions of a party do to it.

Every action is one indivisible step.  `Shared.perform` says what it leaves
behind and what it answers; waiting for the end of the run is the one action
that may not be possible yet. -/

namespace LoadHarness.Run

/-- One line of the log. -/
structure LogLine where
  party : Party
  level : Level
  message : String
deriving DecidableEq, Repr

/-- What the parties of a run share. -/
structure Shared where
  runId : String
  recorder : Recorder
  ledger : Ledger Token
  /-- Whether the signal that ends the run is raised. -/
  stopping : Bool
  phase : Phase
  reporter : Report.Reporter
  /-- The log, newest line first. -/
  log : List LogLine

/-- One party at its place: the iteration it is in, and how many connections it has opened. -/
structure Desk where
  party : Party
  iteration : Nat
  connects : Nat
deriving DecidableEq, Repr

/-- What the world outside a run has to say at one moment. -/
structure Outside where
  now : Duration
  reply : (request : Net.Request) → Net.Reply request

/-- The user and the iteration that a check of this party is recorded for. -/
def Desk.stamp (desk : Desk) (name : String) (passed : Bool) : CheckResult :=
  match desk.party with
  | .run => ⟨name, passed, 0, 0⟩
  | .user id => ⟨name, passed, id, desk.iteration⟩
  | .background => ⟨name, passed, 0, 0⟩

namespace Shared

/-- The state at the beginning of a run. -/
def start (runId : String) (reporter : Report.Reporter) : Shared where
  runId := runId
  recorder := .empty
  ledger := .empty
  stopping := false
  phase := .idle
  reporter := reporter
  log := []

def write (shared : Shared) (party : Party) (level : Level) (message : String) : Shared :=
  { shared with log := ⟨party, level, message⟩ :: shared.log }

/-- The log, oldest line first. -/
def lines (shared : Shared) : List LogLine := shared.log.reverse

/-- Raise the signal that ends the run.  Only the first time is worth a line of the log. -/
def raise (shared : Shared) (party : Party) : Shared :=
  if shared.stopping then shared
  else { shared with stopping := true }.write party .debug "Shutdown signal sent"

/-- Change the phase, with a line of the log if it changes. -/
def changePhase (shared : Shared) (party : Party) (change : Phase.Change) : Shared :=
  let next := shared.phase.change change
  if next = shared.phase then shared
  else { shared with phase := next }.write party .info
    ("Run phase " ++ shared.phase.name ++ " -> " ++ next.name)

/-- The state of the run in numbers. -/
def counts (shared : Shared) : Counts where
  checks := shared.recorder.results.length
  iterations := shared.recorder.iterations
  opened := shared.ledger.opened
  «open» := Ledger.openCount shared.ledger.opened shared.ledger.closed
  reporter := shared.reporter.describe

/-- What an action of a party does, and what it answers; nothing if it has to wait. -/
def perform (shared : Shared) (desk : Desk) (outside : Outside) :
    (action : Action) → Option (Shared × Desk × Answer action)
  | .log level message => some (shared.write desk.party level message, desk, ())
  | .check name passed =>
    some ({ shared with recorder := shared.recorder.record (desk.stamp name passed) }, desk, ())
  | .connect leaked =>
    let token : Token := ⟨desk.party, desk.connects, leaked⟩
    some ({ shared with ledger := shared.ledger.open token },
      { desk with connects := desk.connects + 1 }, token)
  | .disconnect token => some ({ shared with ledger := shared.ledger.close token }, desk, ())
  | .stop =>
    some ((shared.write desk.party .info ("Stop requested for run " ++ shared.runId)).raise
      desk.party, desk, ())
  | .stopping => some (shared, desk, shared.stopping)
  | .awaitStop => if shared.stopping then some (shared, desk, ()) else none
  | .phase => some (shared, desk, shared.phase)
  | .counts => some (shared, desk, shared.counts)
  | .now => some (shared, desk, outside.now)
  | .sleep _ => some (shared, desk, ())
  | .report operation =>
    some ({ shared with reporter := shared.reporter.addOperation operation }, desk, ())
  | .ask request => some (shared, desk, outside.reply request)

end Shared

end LoadHarness.Run
