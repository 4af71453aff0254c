import LoadHarness.Proofs.Check.Sorting
import LoadHarness.Proofs.Check.Tally
import LoadHarness.Proofs.Run.Commutation
import LoadHarness.Proofs.Run.Interleaving

/-! Runs that cannot be told apart.

Two runs are alike when they differ at most in the pauses between iterations, in
the order in which different users made their entries, and in what is only
written down (`State.Alike`).  A hook that is told the same from outside is told
the same by either run (`Shared.Alike.perform`), so runs that are alike stay so
when the run itself moves (`State.Alike.control`), up to their summaries
(`Summary.Agrees`). -/

namespace LoadHarness

/-! ## Summaries -/

/-- The pauses show in one setting only. -/
theorem Options.get?_settings_of_ne (options : Options) (pacing : Option Duration) {name : String}
    (hname : name ≠ "pacing_ms") :
    ({ options with pacing := pacing }.settings).get? name = options.settings.get? name := by
  unfold settings
  rw [NameMap.get?_ofList, NameMap.get?_ofList]
  simp only [List.reverse_append, List.lookup_append, NameMap.lookup_optional, if_neg hname]

/-- Summaries that say the same, but for the pauses between iterations and the moment at which the
run started. -/
structure Summary.Agrees (summary other : Summary) : Prop where
  checks : other.checks = summary.checks
  iterations : other.iterations = summary.iterations
  failedIterations : other.failedIterations = summary.failedIterations
  endCount : other.virtualUserEndCount = summary.virtualUserEndCount
  opened : other.connectionsOpened = summary.connectionsOpened
  closed : other.connectionsClosed = summary.connectionsClosed
  settings : ∀ name, name ≠ "pacing_ms" →
    other.settings.get? name = summary.settings.get? name

namespace Summary.Agrees

variable {summary other third : Summary}

theorem refl (summary : Summary) : summary.Agrees summary :=
  ⟨rfl, rfl, rfl, rfl, rfl, rfl, fun _ _ => rfl⟩

theorem symm (h : summary.Agrees other) : other.Agrees summary :=
  ⟨h.checks.symm, h.iterations.symm, h.failedIterations.symm, h.endCount.symm, h.opened.symm,
    h.closed.symm, fun name hname => (h.settings name hname).symm⟩

theorem trans (h : summary.Agrees other) (h' : other.Agrees third) : summary.Agrees third :=
  ⟨h'.checks.trans h.checks, h'.iterations.trans h.iterations,
    h'.failedIterations.trans h.failedIterations, h'.endCount.trans h.endCount,
    h'.opened.trans h.opened, h'.closed.trans h.closed,
    fun name hname => (h'.settings name hname).trans (h.settings name hname)⟩

end Summary.Agrees

/-! ## What the parties share -/

namespace Run

/-- What parties share in two runs that they cannot tell apart. -/
structure Shared.Alike (shared other : Shared) : Prop where
  books : shared.books.Same other.books
  stopping : other.stopping = shared.stopping
  phase : other.phase = shared.phase
  collectors : other.reporter.collectors.length = shared.reporter.collectors.length

namespace Shared.Alike

variable {shared other third : Shared}

theorem refl (shared : Shared) : shared.Alike shared := ⟨.refl _, rfl, rfl, rfl⟩

theorem symm (h : shared.Alike other) : other.Alike shared :=
  ⟨h.books.symm, h.stopping.symm, h.phase.symm, h.collectors.symm⟩

theorem trans (h : shared.Alike other) (h' : other.Alike third) : shared.Alike third :=
  ⟨h.books.trans h'.books, h'.stopping.trans h.stopping, h'.phase.trans h.phase,
    h'.collectors.trans h.collectors⟩

/-- What is written in the log is no difference. -/
theorem write (shared : Shared) (party : Party) (level : Level) (message : String) :
    shared.Alike (shared.write party level message) := ⟨.refl _, rfl, rfl, rfl⟩

/-- Neither is what is printed. -/
theorem print (shared : Shared) (lines : List String) :
    shared.Alike { shared with reporter := { shared.reporter with printed := lines } } :=
  ⟨.refl _, rfl, rfl, rfl⟩

/-- Neither is a signal that was raised before. -/
theorem raise (shared : Shared) (h : shared.stopping = true) (party : Party) :
    shared.Alike (shared.raise party) := by
  rw [Shared.raise, if_pos h]
  exact refl shared

theorem raise_both (h : shared.Alike other) (party : Party) :
    (shared.raise party).Alike (other.raise party) := by
  unfold Shared.raise
  rw [h.stopping]
  split
  · exact h
  · exact ⟨h.books, rfl, h.phase, h.collectors⟩

theorem counts (h : shared.Alike other) : other.counts = shared.counts := by
  have hchecks : shared.recorder.results.length = other.recorder.results.length :=
    (perm_of_filter h.books.results).length_eq
  have hiterations : shared.recorder.iterations = other.recorder.iterations := h.books.iterations
  have hopened : shared.ledger.opened = other.ledger.opened := h.books.opened
  have hclosed : shared.ledger.closed = other.ledger.closed := h.books.closed
  have hreporter : other.reporter.describe = shared.reporter.describe := by
    unfold Report.Reporter.describe
    rw [h.collectors]
  rw [Shared.counts, Shared.counts, hchecks, hiterations, hopened, hclosed, hreporter]

/-- A hook is told the same in both runs. -/
theorem perform (h : shared.Alike other) (desk : Desk) {outside elsewhere : Outside}
    {action : Action} (hsaid : action.listens = true → outside = elsewhere) :
    Option.Rel (fun result result' => result.1.Alike result'.1 ∧ result.2 = result'.2)
      (shared.perform desk outside action) (other.perform desk elsewhere action) := by
  have hbooks := fun deed => h.books.after deed
  cases action with
  | awaitStop =>
    simp only [Shared.perform, h.stopping]
    split
    · exact .some ⟨h, rfl⟩
    · exact .none
  | stop =>
    refine .some ⟨raise_both ?_ _, rfl⟩
    exact (write shared ..).symm.trans (h.trans (write other ..))
  | stopping => exact .some ⟨h, Prod.ext rfl h.stopping.symm⟩
  | phase => exact .some ⟨h, Prod.ext rfl h.phase.symm⟩
  | counts => exact .some ⟨h, Prod.ext rfl h.counts.symm⟩
  | now | ask =>
    rw [hsaid rfl]
    exact .some ⟨h, rfl⟩
  | log => exact .some ⟨(write shared ..).symm.trans (h.trans (write other ..)), rfl⟩
  | check => exact .some ⟨⟨hbooks (.check _), h.stopping, h.phase, h.collectors⟩, rfl⟩
  | connect => exact .some ⟨⟨hbooks (.opened _), h.stopping, h.phase, h.collectors⟩, rfl⟩
  | disconnect => exact .some ⟨⟨hbooks (.closed _), h.stopping, h.phase, h.collectors⟩, rfl⟩
  | sleep => exact .some ⟨h, rfl⟩
  | report operation =>
    refine .some ⟨⟨h.books, h.stopping, h.phase, ?_⟩, rfl⟩
    simp only [Report.Reporter.addOperation, Report.Reporter.length_collectors_deliver]
    exact h.collectors

end Shared.Alike

/-! ## Runs -/

/-- Stages that are the same, up to summaries that agree. -/
inductive Stage.Alike {G : Type} : Stage G → Stage G → Prop where
  | refl (stage : Stage G) : Alike stage stage
  | finished {summary other : Summary} (h : summary.Agrees other) :
    Alike (.over (.finished summary)) (.over (.finished other))

namespace Stage.Alike

variable {G : Type} {stage other third : Stage G}

theorem symm (h : stage.Alike other) : other.Alike stage := by
  cases h with
  | refl => exact .refl stage
  | finished hagrees => exact .finished hagrees.symm

theorem trans (h : stage.Alike other) (h' : other.Alike third) : stage.Alike third := by
  cases h with
  | refl => exact h'
  | finished hagrees =>
    cases h' with
    | refl => exact .finished hagrees
    | finished hagrees' => exact .finished (hagrees.trans hagrees')

end Stage.Alike

namespace State

variable {G V : Type}

/-- Runs that cannot be told apart. -/
structure Alike (state other : State G V) : Prop where
  scenario : other.scenario = state.scenario
  options : other.options = { state.options with pacing := other.options.pacing }
  stage : state.stage.Alike other.stage
  global : other.global = state.global
  connects : other.connects = state.connects
  users : other.users = state.users
  shared : state.shared.Alike other.shared

namespace Alike

variable {state other third : State G V}

theorem refl (state : State G V) : state.Alike state :=
  ⟨rfl, rfl, .refl _, rfl, rfl, rfl, .refl _⟩

theorem symm (h : state.Alike other) : other.Alike state := by
  refine ⟨h.scenario.symm, ?_, h.stage.symm, h.global.symm, h.connects.symm, h.users.symm,
    h.shared.symm⟩
  rw [h.options]

theorem trans (h : state.Alike other) (h' : other.Alike third) : state.Alike third := by
  refine ⟨h'.scenario.trans h.scenario, ?_, h.stage.trans h'.stage, h'.global.trans h.global,
    h'.connects.trans h.connects, h'.users.trans h.users, h.shared.trans h'.shared⟩
  rw [h'.options, h.options]

theorem stage_eq (h : state.Alike other) (hrunning : state.conclusion? = none) :
    other.stage = state.stage := by
  have hstage := h.stage
  generalize hthis : state.stage = stage at hstage
  generalize hother : other.stage = stage' at hstage
  cases hstage with
  | refl => rfl
  | finished =>
    rw [conclusion?, hthis] at hrunning
    cases hrunning

theorem running (h : state.Alike other) (hrunning : state.conclusion? = none) :
    other.conclusion? = none := by
  rw [conclusion?, h.stage_eq hrunning]
  exact hrunning

theorem concluded (h : state.Alike other) (hconcluded : state.conclusion?.isSome = true) :
    other.conclusion?.isSome = true := by
  rw [← Bool.not_eq_false, Option.isSome_eq_false_iff, Option.isNone_iff_eq_none]
  intro hrunning
  rw [h.symm.running hrunning] at hconcluded
  cases hconcluded

theorem isMiddle (h : state.Alike other) (hrunning : state.conclusion? = none)
    (hmiddle : state.stage.isMiddle = false) : other.stage.isMiddle = false := by
  rw [h.stage_eq hrunning]
  exact hmiddle

/-- A change that neither touches what counts nor the stage. -/
theorem of_frame (hscenario : other.scenario = state.scenario)
    (hoptions : other.options = state.options) (hstage : other.stage = state.stage)
    (hglobal : other.global = state.global) (hconnects : other.connects = state.connects)
    (husers : other.users = state.users) (hshared : state.shared.Alike other.shared) :
    state.Alike other := by
  refine ⟨hscenario, ?_, ?_, hglobal, hconnects, husers, hshared⟩
  · rw [hoptions]
  · rw [hstage]
    exact .refl _

theorem listens (h : state.Alike other) (hrunning : state.conclusion? = none) :
    other.listens = state.listens := by
  rw [State.listens, State.listens, action?, action?, h.stage_eq hrunning]

theorem concludeTeardown (h : state.Alike other) :
    state.concludeTeardown.Alike other.concludeTeardown := by
  have hcrashed : other.crashed = state.crashed := by rw [crashed, crashed, h.users]
  unfold State.concludeTeardown
  rw [hcrashed]
  split
  · exact ⟨h.scenario, h.options, .refl _, h.global, h.connects, h.users, h.shared⟩
  · exact ⟨h.scenario, h.options, .refl _, h.global, h.connects, h.users, h.shared⟩

theorem toTeardown (h : state.Alike other)
    (hhook : ∀ hook, state.scenario.teardown = some hook →
      hook ⟨other.options⟩ = hook ⟨state.options⟩) :
    state.toTeardown.Alike other.toTeardown := by
  unfold State.toTeardown
  rw [h.scenario]
  split
  · rename_i hook hteardown
    rw [hhook hook hteardown, h.global]
    exact ⟨rfl, h.options, .refl _, rfl, h.connects, h.users, h.shared⟩
  · exact h.concludeTeardown

theorem agrees (h : state.Alike other) (opened : Nat) :
    (summarizeRun state.scenario.name version state.startedAt state.options state.endCount
      state.shared.recorder opened state.shared.ledger.closed).Agrees
    (summarizeRun other.scenario.name version other.startedAt other.options other.endCount
      other.shared.recorder opened other.shared.ledger.closed) where
  checks := (summarize_of_perm (perm_of_filter h.shared.books.results)).symm
  iterations := h.shared.books.iterations.symm
  failedIterations := h.shared.books.failed.symm
  endCount := congrArg (List.countP _) h.users
  opened := rfl
  closed := h.shared.books.closed.symm
  settings := by
    intro name hname
    simp only [summarizeRun]
    rw [h.options]
    exact Options.get?_settings_of_ne state.options _ hname

theorem conclude (h : state.Alike other) (opened : Nat) :
    (state.conclude opened).Alike (other.conclude opened) := by
  refine ⟨h.scenario, h.options, .finished (h.agrees opened), h.global, h.connects, h.users, ?_⟩
  refine ⟨h.shared.books, h.shared.stopping, h.shared.phase, ?_⟩
  simp only [State.conclude, note, Shared.write, Report.Reporter.finalize,
    Report.Reporter.length_collectors_deliver]
  exact h.shared.collectors

/-- Both runs take the same step of a hook of their own. -/
theorem stepHook (h : state.Alike other) {outside elsewhere : Outside} {work : Begun G}
    (hsaid : ∀ action next, work = .act action next → action.listens = true →
      outside = elsewhere)
    (kind : HookKind) (again : Begun G → Stage G)
    {finish : State G V → Except Fault Unit → State G V}
    (hfinish : ∀ (state other : State G V) result, state.Alike other →
      (finish state result).Alike (finish other result)) :
    Option.Rel Alike (state.stepHook outside work kind again finish)
      (other.stepHook elsewhere work kind again finish) := by
  cases work with
  | done last =>
    obtain ⟨result, value⟩ := last
    refine .some (hfinish _ _ result ?_)
    exact ⟨h.scenario, h.options, h.stage, rfl, h.connects, h.users, h.shared⟩
  | act action next =>
    have hdesk : other.desk = state.desk := by rw [desk, desk, h.connects]
    have hperform := h.shared.perform state.desk (hsaid action next rfl)
    rw [State.stepHook, State.stepHook, hdesk]
    generalize state.shared.perform state.desk outside action = result at hperform
    generalize other.shared.perform state.desk elsewhere action = result' at hperform
    cases hperform with
    | none => exact .none
    | some hresult =>
      obtain ⟨hshared, heq⟩ := hresult
      simp only [heq]
      exact .some ⟨h.scenario, h.options, .refl _, h.global, rfl, h.users, hshared⟩

/-- Runs that are alike and whose hook is told the same stay alike when they move themselves. -/
theorem control (h : state.Alike other) (hrunning : state.conclusion? = none)
    (hmiddle : state.stage.isMiddle = false) {outside elsewhere : Outside}
    (hsaid : state.listens = true → outside = elsewhere) :
    Option.Rel Alike (state.control outside) (other.control elsewhere) := by
  have hstage := h.stage_eq hrunning
  have hheard : ∀ (hook : RunHook) (work : Begun G), state.stage = hook.stage work →
      ∀ action next, work = .act action next → action.listens = true → outside = elsewhere := by
    rintro hook _ hhook action next rfl hlistens
    apply hsaid
    rw [State.listens, action?, hhook]
    cases hook <;> exact hlistens
  unfold State.control
  rw [hstage]
  cases hwhere : state.stage with
  | setup work =>
    refine h.stepHook (hheard .setup work hwhere) _ _ fun state other result h => ?_
    have hover : ∀ stage, Alike { state with stage := stage } { other with stage := stage } :=
      fun stage => ⟨h.scenario, h.options, .refl _, h.global, h.connects, h.users, h.shared⟩
    cases result with
    | ok value => exact hover _
    | error fault => cases fault <;> exact hover _
  | teardown work =>
    refine h.stepHook (hheard .teardown work hwhere) _ _ fun state other result h => ?_
    cases result with
    | ok value => exact h.concludeTeardown
    | error fault =>
      cases fault with
      | failure failure =>
        apply concludeTeardown
        refine ⟨h.scenario, h.options, h.stage, h.global, h.connects, h.users, ?_⟩
        exact (Shared.Alike.write ..).symm.trans (h.shared.trans (Shared.Alike.write ..))
      | panic text =>
        exact ⟨h.scenario, h.options, .refl _, h.global, h.connects, h.users, h.shared⟩
  | readOpened =>
    have hopened : other.shared.ledger.opened = state.shared.ledger.opened :=
      h.shared.books.opened.symm
    rw [hopened]
    exact .some ⟨h.scenario, h.options, .refl _, h.global, h.connects, h.users, h.shared⟩
  | readClosed opened => exact .some (h.conclude opened)
  | «over» conclusion =>
    rw [conclusion?, hwhere] at hrunning
    cases hrunning
  | start | launch | announce | join | halt | finish =>
    rw [hwhere] at hmiddle
    cases hmiddle

end Alike

end State

end Run

end LoadHarness
