import LoadHarness.Proofs.Run.Stages

/-! What collectors are handed in the course of a run.

A call to the reporter hands one thing to every collector (`Reporter.collectors_deliver`).
Hooks can only hand over records of operations, so the check counts come from the
conclusion of a run and from nowhere else: once if it is concluded in good order,
and never if it is not (`State.reported_after`). -/

namespace LoadHarness

namespace Report.Reporter

/-- Every collector was handed these check counts, and no others. -/
def HandedOver (reporter : Reporter) (checks : List (NameMap CheckCounts)) : Prop :=
  ∀ collector ∈ reporter.collectors, collector.checks = checks

variable {reporter : Reporter} {checks : List (NameMap CheckCounts)}

theorem handedOver_start (keepers : Nat) (printing : Bool) :
    (start keepers printing).HandedOver [] := by
  intro collector hmem
  rw [Collector.checks, received_of_mem_start hmem]
  rfl

theorem HandedOver.deliver (h : reporter.HandedOver checks) (delivery : Delivery) :
    (reporter.deliver delivery).HandedOver (checks ++ delivery.checks?.toList) := by
  intro collector hmem
  obtain ⟨before, hbefore, rfl⟩ := exists_of_mem_deliver hmem
  rw [Collector.checks_receive, h before hbefore]

end Report.Reporter

namespace Run

open Report (Reporter)

/-- The check counts that an entry says the reporter was given. -/
def Entry.finalized? : Entry → Option (NameMap CheckCounts)
  | .finalized checks => some checks
  | .acted .. | .called .. | .looked .. => none

section Moves

variable {G V : Type} {checks : List (NameMap CheckCounts)}

theorem handedOver_of_perform {shared after : Shared} {desk next : Desk} {outside : Outside}
    {action : Action} {answer : Answer action}
    (h : shared.perform desk outside action = some (after, next, answer))
    (hchecks : shared.reporter.HandedOver checks) : after.reporter.HandedOver checks := by
  cases action with
  | awaitStop =>
    simp only [Shared.perform] at h
    split at h
    · cases h
      exact hchecks
    · cases h
  | stop =>
    simp only [Shared.perform, Option.some.injEq, Prod.mk.injEq] at h
    obtain ⟨rfl, -, -⟩ := h
    rw [Shared.reporter_raise]
    exact hchecks
  | report operation =>
    cases h
    have hdelivered := hchecks.deliver (.operation operation)
    rwa [Report.Delivery.checks?, Option.toList_none, List.append_nil] at hdelivered
  | log | check | connect | disconnect | stopping | phase | counts | now | sleep | ask =>
    cases h
    exact hchecks

theorem User.Step.handedOver {setting : Setting G V} {user : User V} {shared : Shared}
    {stepped : Stepped V} (h : user.Step setting shared stepped)
    (hchecks : shared.reporter.HandedOver checks) :
    stepped.shared.reporter.HandedOver checks := by
  rcases h.shared_cases with ⟨outside, action, desk, answer, hperform⟩ | ⟨_, _, _, heq⟩
  · exact handedOver_of_perform hperform hchecks
  · rw [heq]
    exact hchecks

namespace State

variable {state next : State G V} {move : Move}

/-- These check counts were handed over so far, each once to every collector. -/
structure Reported (state : State G V) (checks : List (NameMap CheckCounts)) : Prop where
  finalized : state.history.filterMap Entry.finalized? = checks
  handedOver : state.shared.reporter.HandedOver checks

/-- The check counts that are handed over in a run: those of its summary. -/
def reports (state : State G V) : List (NameMap CheckCounts) :=
  match state.stage with
  | .over (.finished summary) => [summary.checks]
  | _ => []

theorem reports_of_running (h : state.conclusion? = none) : state.reports = [] := by
  unfold reports
  split
  · rename_i hstage
    rw [conclusion?, hstage] at h
    cases h
  · rfl

theorem Reported.note (h : state.Reported checks) {entries : List Entry}
    (hhistory : next.history = state.history ++ entries)
    (hentries : entries.filterMap Entry.finalized? = [])
    (hreporter : next.shared.reporter.HandedOver checks) : next.Reported checks :=
  ⟨by rw [hhistory, List.filterMap_append, h.finalized, hentries, List.append_nil], hreporter⟩

theorem Reported.silent (h : state.Reported checks) (hjournal : next.journal = state.journal)
    (hreporter : next.shared.reporter.HandedOver checks) : next.Reported checks :=
  ⟨by rw [history, hjournal]; exact h.finalized, hreporter⟩

theorem Reported.concludeTeardown (h : state.Reported []) :
    state.concludeTeardown.Reported state.concludeTeardown.reports := by
  unfold State.concludeTeardown
  split <;> exact h.silent rfl h.handedOver

theorem Reported.toTeardown (h : state.Reported []) :
    state.toTeardown.Reported state.toTeardown.reports := by
  unfold State.toTeardown
  split
  · exact h.silent rfl h.handedOver
  · exact h.concludeTeardown

theorem finalized?_of_user? {entry : Entry} {id : Nat} (h : entry.user? = some id) :
    entry.finalized? = none := by
  cases entry with
  | finalized checks => cases h
  | acted | called | looked => rfl

theorem Transition.reported (h : state.Transition move next) (hrunning : state.conclusion? = none)
    (hreported : state.Reported []) : next.Reported next.reports := by
  have hnone := reports_of_running hrunning
  have hkept := hreported.handedOver
  cases h with
  | user huser hstep =>
    rename_i id outside user stepped
    have hstep := User.step_cases hstep
    have hreports : (state.put id stepped).reports = [] := hnone
    rw [hreports]
    refine hreported.note (history_put _ _ _) ?_ (hstep.handedOver hkept)
    exact List.filterMap_eq_nil_iff.mpr fun entry hmem =>
      finalized?_of_user? (hstep.entries entry hmem)
  | acts hook hstage hperform =>
    have hafter := handedOver_of_perform hperform hkept
    cases hook <;> exact hreported.note (history_note _ _) rfl hafter
  | setUp | setupFailed | brokeOff => exact hreported.note (history_note _ _) rfl hkept
  | finished =>
    refine Reported.toTeardown (hreported.silent rfl ?_)
    rw [Shared.reporter_changePhase]
    exact hkept
  | tornDown | teardownFailed =>
    exact Reported.concludeTeardown (hreported.note (history_note _ _) rfl hkept)
  | started | announced =>
    refine hreported.silent rfl ?_
    rw [Shared.reporter_changePhase]
    exact hkept
  | halted =>
    refine hreported.silent rfl ?_
    rw [Shared.reporter_raise]
    exact hkept
  | launchedAll | joined | readOpened => exact hreported.silent rfl hkept
  | concluded =>
    rename_i opened hstage
    refine ⟨?_, hkept.deliver (.checks _)⟩
    rw [conclude, history_note, List.filterMap_append]
    exact congrArg (· ++ _) hreported.finalized
  | launched | backgroundOpen | backgroundClose =>
    change Reported _ state.reports
    rw [hnone]
    exact hreported.silent rfl hkept
  | deadline | interrupt =>
    change Reported _ state.reports
    rw [hnone]
    refine hreported.silent rfl ?_
    rw [Shared.reporter_raise]
    exact hkept
  | drain =>
    change Reported _ state.reports
    rw [hnone]
    refine hreported.silent rfl ?_
    rw [Shared.reporter_changePhase]
    exact hkept

theorem reported_after (scenario : Scenario G V) (options : Options) (startedAt : Int)
    (moves : List Move) :
    ((State.start scenario options startedAt).after moves).Reported
      ((State.start scenario options startedAt).after moves).reports := by
  refine after_induction moves (P := fun state => state.Reported state.reports) ?_ ?_
  · have hnone : (State.start scenario options startedAt).reports = [] := by
      unfold reports State.start
      cases scenario.setup <;> rfl
    rw [hnone]
    exact ⟨rfl, Report.Reporter.handedOver_start _ _⟩
  · intro state move next h hrunning htransition
    rw [reports_of_running hrunning] at h
    exact htransition.reported hrunning h

end State

end Moves

end Run

end LoadHarness
