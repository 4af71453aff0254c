import LoadHarness.Proofs.Run.Phases
import LoadHarness.Proofs.Run.Progress

/-! Every run comes to its conclusion, if everyone has a turn again and again.

Before the signal is raised only two things can make the run itself wait: a setup
that waits for the signal, and users that are not over.  Once users are there the
deadline is set, so the signal is raised in the end (`State.exists_stopping`), and
from there on nothing can make anyone wait for ever (`State.exists_concluded`). -/

namespace LoadHarness

/-- Work that never waits for the end of the run. -/
def Work.NeverWaits {α : Type} : Work α → Prop
  | .done _ => True
  | .act action next => action ≠ .awaitStop ∧ ∀ answer, (next answer).NeverWaits

namespace Run.State

variable {G V : Type} {state next : State G V} {move : Move} {schedule : Nat → Move}

/-- A run whose setup need not wait for the signal, and whose deadline has raised the signal if it
has passed. -/
structure Timely (state : State G V) : Prop where
  prompt : ∀ work, state.stage = .setup work → work.NeverWaits
  overdue : state.deadlinePassed = true → state.shared.stopping = true

theorem timely_start {scenario : Scenario G V} {options : Options} (startedAt : Int)
    (hsetup : ∀ hook, scenario.setup = some hook →
      ((hook ⟨options⟩).run.run scenario.global).NeverWaits) :
    (State.start scenario options startedAt).Timely := by
  refine ⟨fun work hstage => ?_, fun h => by cases h⟩
  simp only [State.start] at hstage
  cases hhook : scenario.setup with
  | none =>
    rw [hhook] at hstage
    cases hstage
  | some hook =>
    rw [hhook] at hstage
    cases hstage
    exact hsetup hook hhook

theorem stage_concludeTeardown (state : State G V) (work : Begun G) :
    state.concludeTeardown.stage ≠ .setup work := by
  unfold concludeTeardown
  split <;> exact fun h => by cases h

theorem stage_toTeardown (state : State G V) (work : Begun G) :
    state.toTeardown.stage ≠ .setup work := by
  unfold toTeardown
  split
  · exact fun h => by cases h
  · exact stage_concludeTeardown state work

/-- What is left of a setup after a move was left of it before. -/
theorem Transition.prompt (h : state.Transition move next)
    (hprompt : ∀ work, state.stage = .setup work → work.NeverWaits) :
    ∀ work, next.stage = .setup work → work.NeverWaits := by
  intro work hstage
  cases h with
  | acts hook hbefore =>
    cases hook with
    | setup =>
      cases hstage
      exact (hprompt _ hbefore).2 _
    | teardown => cases hstage
  | finished => exact absurd hstage (stage_toTeardown _ _)
  | tornDown | teardownFailed => exact absurd hstage (stage_concludeTeardown _ _)
  | launched | user | deadline | interrupt | drain | backgroundOpen | backgroundClose =>
    exact hprompt work hstage
  | setUp | setupFailed | brokeOff | started | launchedAll | announced | joined | halted
  | readOpened | concluded => cases hstage

/-- Once set, the deadline stays set. -/
theorem Transition.armed (h : state.Transition move next) (harmed : state.armed = true) :
    next.armed = true := by
  cases h with
  | finished =>
    obtain ⟨stage, heq⟩ := toTeardown_eq
      { state with shared := state.shared.changePhase .run (.set .done) }
    rw [heq]
    exact harmed
  | tornDown | teardownFailed =>
    unfold concludeTeardown
    split <;> exact harmed
  | started => rfl
  | user | acts | setUp | setupFailed | brokeOff | launched | launchedAll | announced | joined
  | halted | readOpened | concluded | deadline | interrupt | drain | backgroundOpen
  | backgroundClose => exact harmed

/-- A deadline that passes raises the signal. -/
theorem Transition.overdue (h : state.Transition move next)
    (hoverdue : state.deadlinePassed = true → state.shared.stopping = true)
    (hpassed : next.deadlinePassed = true) : next.shared.stopping = true := by
  have hsignal := h.stopping
  cases h with
  | deadline => exact Shared.stopping_raise _ _
  | finished =>
    obtain ⟨stage, heq⟩ := toTeardown_eq
      { state with shared := state.shared.changePhase .run (.set .done) }
    rw [heq] at hpassed
    exact hsignal (hoverdue hpassed)
  | tornDown | teardownFailed =>
    unfold concludeTeardown at hpassed
    split at hpassed <;> exact hsignal (hoverdue hpassed)
  | user | acts | setUp | setupFailed | brokeOff | started | launched | launchedAll | announced
  | joined | halted | readOpened | concluded | interrupt | drain | backgroundOpen
  | backgroundClose => exact hsignal (hoverdue hpassed)

theorem Timely.after (h : state.Timely) (moves : List Move) : (state.after moves).Timely :=
  after_induction moves h fun _ _ _ h _ htransition =>
    ⟨htransition.prompt h.prompt, htransition.overdue h.overdue⟩

theorem armed_follow (harmed : state.armed = true) (schedule : Nat → Move) (n : Nat) :
    (state.follow schedule n).armed = true :=
  after_induction _ (P := fun state => state.armed = true) harmed fun _ _ _ h _ htransition =>
    htransition.armed h

/-- Only users can make a run wait whose setup need not. -/
theorem canMove_of_timely (h : state.Timely) (hphased : state.Phased)
    (hrunning : state.conclusion? = none) (hover : state.stage = .join → state.allOver = true) :
    state.canMove = true := by
  unfold canMove
  split
  · rename_i haction
    unfold action? at haction
    split at haction
    · rename_i next hstage
      cases haction
      exact absurd rfl (h.prompt _ hstage).1
    · rename_i action next hstage
      simp only [Phased, hstage] at hphased
      exact hphased.2
    · cases haction
  · rename_i hstage _
    exact hover hstage
  · rename_i conclusion hstage _
    rw [conclusion?, hstage] at hrunning
    cases hrunning
  · rfl

/-- The deadline raises the signal when its turn comes, if nothing has done so before. -/
theorem stopping_of_deadline (h : state.Timely) (harmed : state.armed = true)
    (hrunning : state.conclusion? = none) : (state.step .deadline).shared.stopping = true := by
  rw [step, hrunning]
  simp only [move?, harmed, Bool.true_and, Bool.not_eq_true']
  cases hpassed : state.deadlinePassed with
  | false => exact Shared.stopping_raise _ _
  | true => exact h.overdue hpassed

/-- In a run that goes on and on the signal is raised one day. -/
theorem exists_stopping (h : state.Timely)
    (hphased : ∀ n, (state.follow schedule n).Phased)
    (hnever : ∀ n, (state.follow schedule n).conclusion? = none)
    (hcontrol : Again schedule fun move => ∃ outside, move = .control outside)
    (hdeadline : Again schedule fun move => move = .deadline) :
    ∃ n, (state.follow schedule n).shared.stopping = true := by
  obtain ⟨n, hrest⟩ := exists_rest Position.wellFounded_further
    (fun n => (state.follow schedule n).position) fun n => by
      rw [follow_succ]
      exact position_step _ _
  obtain ⟨m, hle, outside, hturn⟩ := hcontrol n
  -- the run has come to rest, so that it can only be waiting for users, and the deadline is set
  have hjoin : (state.follow schedule m).stage = .join := by
    by_contra hne
    apply hrest m hle
    rw [follow_succ, hturn]
    exact further_of_control (hnever m)
      (canMove_of_timely (h.after _) (hphased m) (hnever m) fun hat => absurd hat hne) outside
  have harmed : (state.follow schedule m).armed = true := by
    have hthere := hphased m
    simp only [Phased, hjoin] at hthere
    exact hthere.2.1
  obtain ⟨k, hlek, hturn⟩ := hdeadline m
  have hset : (state.follow schedule k).armed = true := by
    have hlater := armed_follow harmed (fun i => schedule (m + i)) (k - m)
    rw [follow_add, Nat.add_sub_cancel' hlek] at hlater
    exact hlater
  refine ⟨k + 1, ?_⟩
  rw [follow_succ, hturn]
  exact stopping_of_deadline (h.after _) hset (hnever k)

/-- A run in which everyone has a turn again and again is concluded, if its setup need not wait for
the signal. -/
theorem exists_concluded_of_again (scenario : Scenario G V) (options : Options) (startedAt : Int)
    (hsetup : ∀ hook, scenario.setup = some hook →
      ((hook ⟨options⟩).run.run scenario.global).NeverWaits)
    (hcontrol : Again schedule fun move => ∃ outside, move = .control outside)
    (hagain : ∀ id < options.virtualUsers,
      Again schedule fun move => ∃ outside, move = .user id outside)
    (hdeadline : Again schedule fun move => move = .deadline) :
    ∃ n, ((State.start scenario options startedAt).follow schedule n).conclusion?.isSome =
      true := by
  by_contra hnever
  simp only [not_exists, Option.not_isSome_iff_eq_none] at hnever
  obtain ⟨n, hsignal⟩ := exists_stopping (timely_start startedAt hsetup)
    (fun n => phased_after scenario options startedAt _) hnever hcontrol hdeadline
  have hstaged := (staged_start scenario options startedAt).follow schedule n
  obtain ⟨m, hconcluded⟩ := exists_concluded hstaged hsignal (hcontrol.shift n) fun id hlt => by
    rw [options_follow] at hlt
    exact (hagain id hlt).shift n
  rw [follow_add, hnever] at hconcluded
  cases hconcluded

end Run.State

end LoadHarness
