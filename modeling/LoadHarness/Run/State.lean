import LoadHarness.CommandLine.Basic
import LoadHarness.Run.Conclusion
import LoadHarness.Run.User
import LoadHarness.Summary

/-! A run as a whole: what it goes through, and what every move does to it.

    setup → start → launch … → announce → join → halt → finish → teardown → read … → over

The run itself, its virtual users and what runs beside them move one at a time,
in any order.  `State.step` is one move and `State.after` a list of them; a move
of someone who cannot move leaves everything as it is.

There is a thread for every virtual user: a launch never fails.  What a run does
where no thread can be had is left out (it starts no more users, raises the signal
in place of announcing, waits for those that are there, and is torn down, to give
back the error and no summary). -/

namespace LoadHarness.Run

/-- What the run itself is doing. -/
inductive Stage (G : Type) where
  | setup (work : Begun G)
  /-- The phase becomes starting, and the deadline is set. -/
  | start
  /-- Virtual users are started one by one. -/
  | launch
  /-- The phase becomes running, unless the run is being drained. -/
  | announce
  /-- Waiting for every virtual user to come to its end. -/
  | join
  /-- The signal is raised, whether or not anyone else has. -/
  | halt
  /-- The phase becomes done. -/
  | finish
  | teardown (work : Begun G)
  /-- The count of opened connections is read. -/
  | readOpened
  /-- The count of closed connections is read, and the run concluded. -/
  | readClosed (opened : Nat)
  | over (conclusion : Conclusion)

/-- A run. -/
structure State (G V : Type) where
  scenario : Scenario G V
  options : Options
  /-- When the run started, in seconds since the beginning of 1970. -/
  startedAt : Int
  stage : Stage G
  global : G
  /-- The connections that the run itself has opened. -/
  connects : Nat
  /-- The virtual users started so far, each at the place of its id. -/
  users : List (User V)
  shared : Shared
  /-- Whether the deadline is set and the drain is watched for. -/
  armed : Bool
  deadlinePassed : Bool
  /-- The connections that work beside the run has opened. -/
  backgroundConnects : Nat
  /-- What was noted so far, newest first. -/
  journal : List Entry

/-- Someone moves.  Those who may ask for something bring what they would be told. -/
inductive Move where
  | user (id : Nat) (outside : Outside)
  /-- The run itself moves. -/
  | control (outside : Outside)
  /-- The deadline passes. -/
  | deadline
  /-- The person at the terminal asks the run to stop. -/
  | interrupt
  /-- The watcher sees the signal and starts the drain. -/
  | drain
  /-- Work that a hook left behind opens a connection. -/
  | backgroundOpen
  /-- Work that a hook left behind closes one of its connections. -/
  | backgroundClose (serial : Nat)

namespace State

variable {G V : Type}

def setting (state : State G V) : Setting G V := ⟨state.scenario, state.options, state.global⟩

def desk (state : State G V) : Desk := ⟨.run, 0, state.connects⟩

/-- The state of a run that begins with the given options. -/
def start (scenario : Scenario G V) (options : Options) (startedAt : Int) : State G V where
  scenario := scenario
  options := options
  startedAt := startedAt
  stage := match scenario.setup with
    | some hook => .setup ((hook ⟨options⟩).run.run scenario.global)
    | none => .start
  global := scenario.global
  connects := 0
  users := []
  shared := (Shared.start options.runId (.start 0 (options.reporter == .inMemory))).write .run .info
    ("Running scenario " ++ scenario.name ++ " with " ++ toString options.virtualUsers ++
      " virtual users for " ++ options.duration.render)
  armed := false
  deadlinePassed := false
  backgroundConnects := 0
  journal := []

/-- How the run has ended, if it has. -/
def conclusion? (state : State G V) : Option Conclusion :=
  match state.stage with
  | .over conclusion => some conclusion
  | _ => none

/-- Whether every virtual user has come to its end. -/
def allOver (state : State G V) : Bool := state.users.all (·.isOver)

/-- The virtual users of which a hook broke off. -/
def crashed (state : State G V) : List Nat :=
  (state.users.filter fun user => match user.point with | .panicked _ => true | _ => false).map
    (·.id)

/-- The number of virtual users that came to their end in good health. -/
def endCount (state : State G V) : Nat :=
  state.users.countP fun user => match user.point with | .ended => user.healthy | _ => false

/-- What was noted so far, oldest first. -/
def history (state : State G V) : List Entry := state.journal.reverse

def note (state : State G V) (entries : List Entry) : State G V :=
  { state with journal := entries.reverse ++ state.journal }

@[simp] theorem history_note (state : State G V) (entries : List Entry) :
    (state.note entries).history = state.history ++ entries := by
  simp [history, note]

/-- The state after the teardown of the run, or without one. -/
def concludeTeardown (state : State G V) : State G V :=
  match state.crashed with
  | [] => { state with stage := .readOpened }
  | users => { state with stage := .over (.crashed users) }

/-- The state at the teardown of the run, if there is one. -/
def toTeardown (state : State G V) : State G V :=
  match state.scenario.teardown with
  | some hook =>
    { state with stage := .teardown ((hook ⟨state.options⟩).run.run state.global) }
  | none => state.concludeTeardown

/-- Conclude a run in good order: summarize it, and hand the checks to the reporter. -/
def conclude (state : State G V) (opened : Nat) : State G V :=
  let summary := summarizeRun state.scenario.name version state.startedAt state.options
    state.endCount state.shared.recorder opened state.shared.ledger.closed
  let shared := { state.shared with reporter := state.shared.reporter.finalize summary.checks }
  { state with
    stage := .over (.finished summary)
    shared := shared.write .run .info
      ("Scenario " ++ summary.scenarioName ++ " finished: " ++ toString summary.iterations ++
        " iterations, " ++ toString summary.totalFailed ++ " failed, " ++
        toString summary.openConnections ++ " connections left open")
    }.note [.finalized summary.checks]

/-- Take one action of a hook of the run, or see that it has come to its end. -/
def stepHook (state : State G V) (outside : Outside) (begun : Begun G) (kind : HookKind)
    (again : Begun G → Stage G) (finish : State G V → Except Fault Unit → State G V) :
    Option (State G V) :=
  match begun with
  | .done (result, value) =>
    some (finish ({ state with global := value }.note [.called .run kind 0 result]) result)
  | .act action next =>
    match state.shared.perform state.desk outside action with
    | none => none
    | some (shared, desk, answer) =>
      some ({ state with
        shared := shared
        connects := desk.connects
        stage := again (next answer) }.note [.acted .run 0 action])

/-- The next step of the run itself; nothing if it has to wait or is over. -/
def control (state : State G V) (outside : Outside) : Option (State G V) :=
  match state.stage with
  | .setup work =>
    state.stepHook outside work .setup .setup fun state result =>
      match result with
      | .ok () => { state with stage := .start }
      | .error (.failure failure) => { state with stage := .over (.failed failure) }
      | .error (.panic text) => { state with stage := .over (.panicked text) }
  | .start =>
    some { state with
      shared := state.shared.changePhase .run (.set .starting)
      armed := true
      stage := .launch }
  | .launch =>
    if state.users.length < state.options.virtualUsers then
      some { state with users := state.users ++ [User.start state.setting state.users.length] }
    else some { state with stage := .announce }
  | .announce =>
    some { state with
      shared := state.shared.changePhase .run (.advance .starting .running)
      stage := .join }
  | .join => if state.allOver then some { state with stage := .halt } else none
  | .halt => some { state with shared := state.shared.raise .run, stage := .finish }
  | .finish =>
    some { state with shared := state.shared.changePhase .run (.set .done) }.toTeardown
  | .teardown work =>
    state.stepHook outside work .teardown .teardown fun state result =>
      match result with
      | .ok () => state.concludeTeardown
      | .error (.failure failure) =>
        { state with
          shared := state.shared.write .run .error ("Teardown failed: " ++ failure.report)
          }.concludeTeardown
      | .error (.panic text) => { state with stage := .over (.panicked text) }
  | .readOpened => some { state with stage := .readClosed state.shared.ledger.opened }
  | .readClosed opened => some (state.conclude opened)
  | .over _ => none

/-- The next step of a virtual user; nothing if it has to wait, is over or does not exist. -/
def stepUser (state : State G V) (id : Nat) (outside : Outside) : Option (State G V) := do
  let user ← state.users[id]?
  let stepped ← user.step state.setting state.shared outside
  return { state with
    shared := stepped.shared
    users := state.users.set id stepped.user }.note stepped.entries

/-- What a move leaves behind; nothing if it cannot be made. -/
def move? (state : State G V) : Move → Option (State G V)
  | .user id outside => state.stepUser id outside
  | .control outside => state.control outside
  | .deadline =>
    if state.armed && !state.deadlinePassed then
      some { state with
        shared := (state.shared.write .background .debug "Run duration elapsed").raise .background
        deadlinePassed := true }
    else none
  | .interrupt =>
    let reporter := state.shared.reporter
    some { state with
      shared := { state.shared with
        reporter := { reporter with printed :=
          reporter.printed ++ ["Received shutdown signal, draining virtual users..."] }
        }.raise .background }
  | .drain =>
    if state.armed && state.shared.stopping then
      some { state with shared := state.shared.changePhase .background .drain }
    else none
  | .backgroundOpen =>
    let token : Token := ⟨.background, state.backgroundConnects, true⟩
    some { state with
      shared := { state.shared with ledger := state.shared.ledger.open token }
      backgroundConnects := state.backgroundConnects + 1 }
  | .backgroundClose serial =>
    let token : Token := ⟨.background, serial, true⟩
    some { state with
      shared := { state.shared with ledger := state.shared.ledger.close token } }

/-- One move.  Nothing moves in a run that is over. -/
def step (state : State G V) (move : Move) : State G V :=
  match state.conclusion? with
  | some _ => state
  | none => (state.move? move).getD state

/-- Moves, one after the other. -/
def after (state : State G V) (moves : List Move) : State G V := moves.foldl step state

@[simp] theorem after_nil (state : State G V) : state.after [] = state := rfl

@[simp] theorem after_cons (state : State G V) (move : Move) (moves : List Move) :
    state.after (move :: moves) = (state.step move).after moves := rfl

theorem after_append (state : State G V) (first second : List Move) :
    state.after (first ++ second) = (state.after first).after second :=
  List.foldl_append

end State

/-- A run of a scenario, from what its command line says. -/
def begin {G V : Type} (scenario : Scenario G V) (line : CommandLine) (freshId : String)
    (startedAt : Int) : Except ConfigError (State G V) :=
  match Options.resolve line scenario.defaults freshId with
  | .error e => .error e
  | .ok options => .ok (.start scenario options startedAt)

end LoadHarness.Run
