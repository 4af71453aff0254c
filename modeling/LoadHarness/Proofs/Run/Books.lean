import LoadHarness.Proofs.Report.Reporter
import LoadHarness.Proofs.Run.Outcome
import LoadHarness.Proofs.Run.Transition

/-! The books of a run, and what a move enters in them.

The books are the recorder and the ledger of connections: all that a summary is
made of.  A move makes one entry at most, its deed, and which one depends on the
mover alone, never on what others have left behind.

    state.Transition move next → next.shared.books = state.shared.books.after (state.deed move)

The signal is a level: no move takes it back (`State.Transition.stopping`). -/

namespace LoadHarness

namespace Run

/-- What is entered in the books of a run. -/
structure Books where
  recorder : Recorder
  ledger : Ledger Token

/-- One entry in the books. -/
inductive Deed where
  | none
  | check (result : CheckResult)
  | iteration (failure : Option String)
  | opened (token : Token)
  /-- Every open connection that `which` picks is closed. -/
  | closed (which : Token → Bool)

namespace Books

/-- The books with one more entry. -/
def after (books : Books) : Deed → Books
  | .none => books
  | .check result => { books with recorder := books.recorder.record result }
  | .iteration failure => { books with recorder := books.recorder.recordIteration failure }
  | .opened token => { books with ledger := books.ledger.open token }
  | .closed which => { books with ledger := books.ledger.closeWhere which }

end Books

namespace Shared

/-- The books of a run. -/
def books (shared : Shared) : Books := ⟨shared.recorder, shared.ledger⟩

@[simp] theorem books_raise (shared : Shared) (party : Party) :
    (shared.raise party).books = shared.books := by
  unfold raise
  split <;> rfl

@[simp] theorem stopping_raise (shared : Shared) (party : Party) :
    (shared.raise party).stopping = true := by
  unfold raise
  split
  · assumption
  · rfl

@[simp] theorem books_changePhase (shared : Shared) (party : Party) (change : Phase.Change) :
    (shared.changePhase party change).books = shared.books := by
  simp only [changePhase]
  split <;> rfl

@[simp] theorem stopping_changePhase (shared : Shared) (party : Party) (change : Phase.Change) :
    (shared.changePhase party change).stopping = shared.stopping := by
  simp only [changePhase]
  split <;> rfl

@[simp] theorem phase_changePhase (shared : Shared) (party : Party) (change : Phase.Change) :
    (shared.changePhase party change).phase = shared.phase.change change := by
  simp only [changePhase]
  split
  · rename_i h
    exact h.symm
  · rfl

theorem reporter_raise (shared : Shared) (party : Party) :
    (shared.raise party).reporter = shared.reporter := by
  unfold raise
  split <;> rfl

theorem reporter_changePhase (shared : Shared) (party : Party) (change : Phase.Change) :
    (shared.changePhase party change).reporter = shared.reporter := by
  simp only [changePhase]
  split <;> rfl

end Shared

/-! ## Actions of hooks -/

/-- What an action of a hook enters in the books. -/
def actionDeed (desk : Desk) : Action → Deed
  | .check name passed => .check (desk.stamp name passed)
  | .connect leaked => .opened ⟨desk.party, desk.connects, leaked⟩
  | .disconnect token => .closed (· == token)
  | _ => .none

section Perform

variable {shared after : Shared} {desk next : Desk} {outside : Outside} {action : Action}
  {answer : Answer action}

/-- What an action of a hook does to what parties share. -/
structure Shared.Acted (shared : Shared) (desk : Desk) (action : Action) (after : Shared) :
    Prop where
  books : after.books = shared.books.after (actionDeed desk action)
  /-- The signal stays raised, whatever a hook does. -/
  stopping : shared.stopping = true → after.stopping = true
  phase : after.phase = shared.phase
  collectors : after.reporter.collectors.length = shared.reporter.collectors.length

theorem acted_of_perform (h : shared.perform desk outside action = some (after, next, answer)) :
    shared.Acted desk action after := by
  cases action with
  | awaitStop =>
    simp only [Shared.perform] at h
    split at h
    · cases h
      exact ⟨rfl, id, rfl, rfl⟩
    · cases h
  | stop =>
    simp only [Shared.perform, Option.some.injEq, Prod.mk.injEq] at h
    obtain ⟨rfl, -, -⟩ := h
    refine ⟨Shared.books_raise _ _, fun _ => Shared.stopping_raise _ _, ?_, ?_⟩
    · unfold Shared.raise
      split <;> rfl
    · rw [Shared.reporter_raise]
      rfl
  | report operation =>
    cases h
    exact ⟨rfl, id, rfl, Report.Reporter.length_collectors_deliver _ _⟩
  | log | check | connect | disconnect | stopping | phase | counts | now | sleep | ask =>
    cases h
    exact ⟨rfl, id, rfl, rfl⟩

/-- An action changes nothing of a desk but its count of connections. -/
theorem desk_of_perform (h : shared.perform desk outside action = some (after, next, answer)) :
    next = { desk with connects := next.connects } := by
  cases action with
  | awaitStop =>
    rw [Shared.perform] at h
    split at h <;> cases h
    rfl
  | log | check | connect | disconnect | stop | stopping | phase | counts | now | sleep | report
  | ask =>
    cases h
    rfl

/-- An action can be taken at once, unless it waits for the signal. -/
theorem perform_isSome (h : action = .awaitStop → shared.stopping = true) :
    (shared.perform desk outside action).isSome := by
  cases action with
  | awaitStop =>
    rw [Shared.perform, if_pos (h rfl)]
    rfl
  | log | check | connect | disconnect | stop | stopping | phase | counts | now | sleep | report
  | ask => rfl

end Perform

/-! ## Steps of virtual users -/

namespace User

variable {G V : Type}

/-- Whether a connection is kept in the value of a user. -/
def keeps (user : User V) (token : Token) : Bool := token.owner == user.party && !token.leaked

/-- What the next step of a user enters in the books. -/
def deed (user : User V) : Deed :=
  match user.point with
  | .setup (.act action _) | .behaviour (.act action _) | .teardown (.act action _) =>
    actionDeed user.desk action
  | .setup (.done (.error (.panic _), _)) | .behaviour (.done (.error (.panic _), _))
  | .teardown (.done (.error (.panic _), _)) | .leave => .closed user.keeps
  | .settle outcome =>
    match recordOf outcome with
    | some failure => .iteration failure
    | none => .none
  | _ => .none

/-- Giving up a value closes connections and writes to the log. -/
theorem giveUp_eq (setting : Setting G V) (user : User V) (shared : Shared) :
    ∃ log, user.giveUp setting shared =
      { shared with ledger := shared.ledger.closeWhere user.keeps, log := log } := by
  have hlines : ∀ (lines : List String) (shared : Shared),
      ∃ log, lines.foldl (fun shared line => shared.write user.party .debug line) shared =
        { shared with log := log } := by
    intro lines
    induction lines with
    | nil => exact fun shared => ⟨shared.log, rfl⟩
    | cons line lines ih => exact fun shared => ih (shared.write user.party .debug line)
  exact hlines _ _

variable {setting : Setting G V} {user : User V} {shared : Shared} {stepped : Stepped V}

theorem Step.books (h : user.Step setting shared stepped) :
    stepped.shared.books = shared.books.after user.deed := by
  cases h with
  | acts hook hpoint hperform =>
    have hdeed := (acted_of_perform hperform).books
    cases hook <;> (rw [User.deed, hpoint]; exact hdeed)
  | brokeOff hook hpoint =>
    rename_i text value
    obtain ⟨log, heq⟩ := giveUp_eq setting { user with value := value } shared
    rw [heq]
    cases hook <;> (rw [User.deed, hpoint]; rfl)
  | settled hpoint =>
    rename_i outcome
    obtain ⟨log, heq⟩ := settle_shared setting user shared outcome
    rw [heq, User.deed, hpoint]
    simp only [Shared.books]
    cases recordOf outcome <;> rfl
  | left hpoint =>
    obtain ⟨log, heq⟩ := giveUp_eq setting user shared
    rw [heq, User.deed, hpoint]
    rfl
  | returned hpoint =>
    rename_i outcome value
    rw [User.deed, hpoint]
    cases outcome <;> rfl
  | setUp hpoint | setupFailed hpoint | tornDown hpoint | teardownFailed hpoint
  | sawSignal hpoint | sawNoSignal hpoint | capped hpoint | calls hpoint
  | lacksBehaviour hpoint | advanced hpoint | paced hpoint =>
    rw [User.deed, hpoint]
    rfl

/-- A step takes an action, or it leaves all that parties share as it is but for the books and the
log. -/
theorem Step.shared_cases (h : user.Step setting shared stepped) :
    (∃ (outside : Outside) (action : Action) (desk : Desk) (answer : Answer action),
      shared.perform user.desk outside action = some (stepped.shared, desk, answer)) ∨
    ∃ recorder ledger log, stepped.shared =
      { shared with recorder := recorder, ledger := ledger, log := log } := by
  cases h with
  | acts hook hpoint hperform => exact .inl ⟨_, _, _, _, hperform⟩
  | brokeOff =>
    rename_i hook text value hpoint
    obtain ⟨log, heq⟩ := giveUp_eq setting { user with value := value } shared
    exact .inr ⟨_, _, _, heq⟩
  | settled =>
    rename_i outcome hpoint
    obtain ⟨log, heq⟩ := settle_shared setting user shared outcome
    exact .inr ⟨_, _, _, heq⟩
  | left =>
    obtain ⟨log, heq⟩ := giveUp_eq setting user shared
    exact .inr ⟨_, _, _, heq⟩
  | setUp | setupFailed | returned | tornDown | teardownFailed | sawSignal | sawNoSignal
  | capped | calls | lacksBehaviour | advanced | paced => exact .inr ⟨_, _, _, rfl⟩

theorem Step.stopping (h : user.Step setting shared stepped) (hsignal : shared.stopping = true) :
    stepped.shared.stopping = true := by
  rcases h.shared_cases with ⟨outside, action, desk, answer, hperform⟩ | ⟨_, _, _, heq⟩
  · exact (acted_of_perform hperform).stopping hsignal
  · rw [heq]
    exact hsignal

/-- No step of a user changes how many collectors there are. -/
theorem Step.collectors (h : user.Step setting shared stepped) :
    stepped.shared.reporter.collectors.length = shared.reporter.collectors.length := by
  rcases h.shared_cases with ⟨outside, action, desk, answer, hperform⟩ | ⟨_, _, _, heq⟩
  · exact (acted_of_perform hperform).collectors
  · rw [heq]

end User

/-! ## Moves of the run -/

namespace State

variable {G V : Type}

/-- What a move enters in the books. -/
def deed (state : State G V) : Move → Deed
  | .user id _ =>
    match state.users[id]? with
    | some user => user.deed
    | none => .none
  | .control _ =>
    match state.stage with
    | .setup (.act action _) | .teardown (.act action _) => actionDeed state.desk action
    | _ => .none
  | .backgroundOpen => .opened ⟨.background, state.backgroundConnects, true⟩
  | .backgroundClose serial => .closed (· == ⟨.background, serial, true⟩)
  | .deadline | .interrupt | .drain => .none

/-- Going on after the teardown changes nothing but the stage. -/
theorem concludeTeardown_eq (state : State G V) :
    ∃ stage, state.concludeTeardown = { state with stage := stage } := by
  unfold concludeTeardown
  split
  · exact ⟨_, rfl⟩
  · exact ⟨_, rfl⟩

theorem toTeardown_eq (state : State G V) :
    ∃ stage, state.toTeardown = { state with stage := stage } := by
  unfold toTeardown
  split
  · exact ⟨_, rfl⟩
  · exact concludeTeardown_eq state

@[simp] theorem shared_concludeTeardown (state : State G V) :
    state.concludeTeardown.shared = state.shared := by
  obtain ⟨stage, h⟩ := concludeTeardown_eq state
  rw [h]

@[simp] theorem shared_toTeardown (state : State G V) : state.toTeardown.shared = state.shared := by
  obtain ⟨stage, h⟩ := toTeardown_eq state
  rw [h]

variable {state next : State G V} {move : Move}

theorem Transition.books (h : state.Transition move next) :
    next.shared.books = state.shared.books.after (state.deed move) := by
  cases h with
  | user huser hstep =>
    rw [deed, huser]
    exact (User.step_cases hstep).books
  | acts hook hstage hperform =>
    have hdeed := (acted_of_perform hperform).books
    cases hook <;> (rw [deed, hstage]; exact hdeed)
  | brokeOff hook hstage => cases hook <;> (rw [deed, hstage]; rfl)
  | finished hstage =>
    rw [deed, hstage, shared_toTeardown]
    exact Shared.books_changePhase _ _ _
  | tornDown hstage | teardownFailed hstage =>
    rw [deed, hstage, shared_concludeTeardown]
    rfl
  | started hstage | announced hstage =>
    rw [deed, hstage]
    exact Shared.books_changePhase _ _ _
  | halted hstage =>
    rw [deed, hstage]
    exact Shared.books_raise _ _
  | setUp hstage | setupFailed hstage | launched hstage | launchedAll hstage | joined hstage
  | readOpened hstage | concluded hstage =>
    rw [deed, hstage]
    rfl
  | deadline | interrupt => exact Shared.books_raise _ _
  | drain => exact Shared.books_changePhase _ _ _
  | backgroundOpen | backgroundClose => rfl

theorem Transition.stopping (h : state.Transition move next)
    (hsignal : state.shared.stopping = true) : next.shared.stopping = true := by
  cases h with
  | user huser hstep => exact (User.step_cases hstep).stopping hsignal
  | acts hook hstage hperform => exact (acted_of_perform hperform).stopping hsignal
  | finished hstage =>
    rw [shared_toTeardown]
    exact (Shared.stopping_changePhase _ _ _).trans hsignal
  | tornDown hstage | teardownFailed hstage =>
    rw [shared_concludeTeardown]
    exact hsignal
  | started | announced | drain => exact (Shared.stopping_changePhase _ _ _).trans hsignal
  | halted | deadline | interrupt => exact Shared.stopping_raise _ _
  | brokeOff | setUp | setupFailed | launched | launchedAll | joined | readOpened | concluded
  | backgroundOpen | backgroundClose => exact hsignal

/-- No move changes how many collectors there are. -/
theorem Transition.collectors (h : state.Transition move next) :
    next.shared.reporter.collectors.length = state.shared.reporter.collectors.length := by
  cases h with
  | user huser hstep => exact (User.step_cases hstep).collectors
  | acts hook hstage hperform => exact (acted_of_perform hperform).collectors
  | finished => rw [shared_toTeardown, Shared.reporter_changePhase]
  | tornDown | teardownFailed =>
    rw [shared_concludeTeardown]
    rfl
  | started | announced | drain => rw [Shared.reporter_changePhase]
  | halted => rw [Shared.reporter_raise]
  | deadline | interrupt => exact congrArg (·.collectors.length) (Shared.reporter_raise _ _)
  | concluded => exact Report.Reporter.length_collectors_deliver _ _
  | brokeOff | setUp | setupFailed | launched | launchedAll | joined | readOpened
  | backgroundOpen | backgroundClose => rfl

end State

end Run

end LoadHarness
