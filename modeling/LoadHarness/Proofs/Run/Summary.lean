import LoadHarness.Proofs.Check.Tally
import LoadHarness.Proofs.Run.Checks
import LoadHarness.Proofs.Run.Protocol

/-! The check counts of a run.

    summary.checks = summarize (what setup, users and teardown have recorded)

Counting is a matter of the log alone (`tallied_summarize`, `get?_summarize_append`), and the log
of a run is what its hooks have recorded, from the setup to the end of the teardown
(`State.checks_of_finished`). -/

namespace LoadHarness.Run

/-- Nothing of a finished run is left out of its counts: all that comes after the teardown is that
they are handed over. -/
theorem State.checks_of_finished {G V : Type} {scenario : Scenario G V} {options : Options}
    {startedAt : Int} {moves : List Move} {state : State G V} {summary : Summary}
    (hstate : (State.start scenario options startedAt).after moves = state)
    (hfinished : state.conclusion? = some (.finished summary)) :
    ∃ setup users teardown,
      state.history = setup ++ users ++ teardown ++ [.finalized summary.checks] ∧
      RunHook.setup.Past scenario options (.ok ()) setup ∧
      (∀ entry ∈ users, ∃ id < options.virtualUsers, entry.user? = some id) ∧
      TornDown scenario options teardown ∧
      state.shared.recorder.results = (setup ++ users ++ teardown).filterMap Entry.check? ∧
      summary.checks = summarize state.shared.recorder.results := by
  cases course_of_conclusion? scenario options startedAt moves hstate hfinished with
  | finished hall htold =>
    obtain ⟨setup, users, rest, hhistory, hsetup, husers, teardown, rfl, hteardown⟩ := htold
    have hlength : state.users.length = options.virtualUsers := by
      simpa using congrArg List.length hall.ids
    rw [hlength] at husers
    rw [← List.append_assoc] at hhistory
    have hresults := results_after scenario options startedAt moves
    rw [hstate, hhistory, List.filterMap_append] at hresults
    refine ⟨setup, users, teardown, hhistory, hsetup, husers, hteardown,
      hresults.trans (List.append_nil _), ?_⟩
    obtain ⟨opened, rfl⟩ := summary_eq hstate hfinished
    rfl

/-- The counts of a log are exactly its results by name, whatever their order, and the counts of two
logs add up.  Those of a finished run count all that was recorded from its setup up to the end of
its teardown. -/
theorem checks_tallied {G V : Type} (scenario : Scenario G V) (options : Options) (startedAt : Int)
    (moves : List Move) :
    (∀ log, Tallied log (summarize log)) ∧
    (∀ log other : List CheckResult, log.Perm other → summarize log = summarize other) ∧
    (∀ log other name, (summarize (log ++ other)).get? name =
      ((summarize log).get? name).merge (· + ·) ((summarize other).get? name)) ∧
    ∀ summary,
      ((State.start scenario options startedAt).after moves).conclusion? =
        some (.finished summary) →
      ∃ setup users teardown,
        ((State.start scenario options startedAt).after moves).history =
          setup ++ users ++ teardown ++ [.finalized summary.checks] ∧
        RunHook.setup.Past scenario options (.ok ()) setup ∧
        (∀ entry ∈ users, ∃ id < options.virtualUsers, entry.user? = some id) ∧
        State.TornDown scenario options teardown ∧
        ((State.start scenario options startedAt).after moves).shared.recorder.results =
          (setup ++ users ++ teardown).filterMap Entry.check? ∧
        summary.checks = summarize ((setup ++ users ++ teardown).filterMap Entry.check?) := by
  refine ⟨tallied_summarize, fun log other => summarize_of_perm, get?_summarize_append,
    fun summary hfinished => ?_⟩
  obtain ⟨setup, users, teardown, hhistory, hsetup, husers, hteardown, hresults, hchecks⟩ :=
    State.checks_of_finished rfl hfinished
  rw [hresults] at hchecks
  exact ⟨setup, users, teardown, hhistory, hsetup, husers, hteardown, hresults, hchecks⟩

namespace Sample

/-- The run and its user make checks of one name. -/
def checking : Scenario Unit Unit :=
  { scenario with
    setup := some fun _ => Hook.record "alive" false
    teardown := some fun _ => Hook.record "tidy" true }

end Sample

/-- What the setup and the teardown have recorded is counted with the rest. -/
theorem checks_tallied_sample :
    ∃ summary,
      ((State.start Sample.checking (Sample.options 1 none) 0).after
        (Sample.control 6 ++ Sample.user 0 11 ++ Sample.control 7)).conclusion? =
          some (.finished summary) ∧
      (∃ recorded, Tallied recorded summary.checks) ∧
      summary.checks.get? "alive" = some ⟨1, 1⟩ ∧ summary.checks.get? "tidy" = some ⟨1, 0⟩ := by
  obtain ⟨htallied, -, -, hrun⟩ := checks_tallied Sample.checking (Sample.options 1 none) 0
    (Sample.control 6 ++ Sample.user 0 11 ++ Sample.control 7)
  have hfinished : ∃ summary,
      ((State.start Sample.checking (Sample.options 1 none) 0).after
        (Sample.control 6 ++ Sample.user 0 11 ++ Sample.control 7)).conclusion? =
          some (.finished summary) ∧
      summary.checks.get? "alive" = some ⟨1, 1⟩ ∧ summary.checks.get? "tidy" = some ⟨1, 0⟩ :=
    ⟨_, rfl, rfl, rfl⟩
  obtain ⟨summary, hfinished, halive, htidy⟩ := hfinished
  obtain ⟨setup, users, teardown, -, -, -, -, -, hchecks⟩ := hrun summary hfinished
  have hrecorded := htallied ((setup ++ users ++ teardown).filterMap Entry.check?)
  rw [← hchecks] at hrecorded
  exact ⟨summary, hfinished, ⟨_, hrecorded⟩, halive, htidy⟩

end LoadHarness.Run
