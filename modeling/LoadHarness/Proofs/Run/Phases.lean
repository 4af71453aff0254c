import LoadHarness.Proofs.Run.Stages
import LoadHarness.Proofs.Run.Trace

/-! The phase of a run only ever goes forward.

The run itself changes the phase three times, and each time in another way: it
sets it, advances it from one phase only, and sets it again.  The watcher of the
drain comes in between at any time once it is armed.  None of these changes is safe
by itself; what keeps them apart is the stage at which the run makes its own
(`State.Phased`):

    stage                            phase
    setup, start                     idle
    launch, announce                 starting, or draining once the signal is raised
    join, halt, finish               running, or draining once the signal is raised
    teardown, read …, over           done, with the signal raised

So every transition goes forward (`State.Transition.phase_le`), and what a hook is
told when it asks for the phase depends on what kind of hook it is
(`phases_ordered`). -/

namespace LoadHarness

namespace Phase

theorem le_refl (a : Phase) : a ≤ a := Nat.le_refl a.rank

theorem le_trans {a b c : Phase} (h : a ≤ b) (h' : b ≤ c) : a ≤ c :=
  Nat.le_trans (m := b.rank) h h'

theorem eq_done_of_le {phase : Phase} (h : .done ≤ phase) : phase = .done := by
  cases phase with
  | done => rfl
  | idle | starting | running | draining => exact absurd h (by decide)

theorem le_done (phase : Phase) : phase ≤ .done := by
  cases phase <;> decide

/-- A drain never takes a run back. -/
theorem le_change_drain (phase : Phase) : phase ≤ phase.change .drain := by
  cases phase <;> decide

end Phase

namespace Run

/-- The stages of a run, as far as its phase tells them apart. -/
inductive Period where
  | before
  | launching
  | running
  | behind
  /-- The run itself broke off, in its setup or in its teardown. -/
  | broken

/-- The period that a stage belongs to. -/
def Stage.period {G : Type} : Stage G → Period
  | .setup _ | .start | .over (.failed _) => .before
  | .launch | .announce => .launching
  | .join | .halt | .finish => .running
  | .teardown _ | .readOpened | .readClosed _ | .over (.finished _) | .over (.crashed _) => .behind
  | .over (.panicked _) => .broken

/-! ## What a move does to the phase -/

theorem User.Step.phase {G V : Type} {setting : Setting G V} {user : User V} {shared : Shared}
    {stepped : Stepped V} (h : user.Step setting shared stepped) :
    stepped.shared.phase = shared.phase := by
  rcases h.shared_cases with ⟨outside, action, desk, answer, hperform⟩ | ⟨_, _, _, heq⟩
  · exact (acted_of_perform hperform).phase
  · rw [heq]

theorem Shared.phase_raise (shared : Shared) (party : Party) :
    (shared.raise party).phase = shared.phase := by
  unfold raise
  split <;> rfl

namespace State

variable {G V : Type} {state next : State G V} {move : Move}

/-- The change of the phase that a move makes, if it makes one. -/
def phaseChange? (state : State G V) : Move → Option Phase.Change
  | .control _ =>
    match state.stage with
    | .start => some (.set .starting)
    | .announce => some (.advance .starting .running)
    | .finish => some (.set .done)
    | _ => none
  | .drain => some .drain
  | .user .. | .deadline | .interrupt | .backgroundOpen | .backgroundClose _ => none

theorem Transition.phase (h : state.Transition move next) :
    next.shared.phase =
      (state.phaseChange? move).elim state.shared.phase state.shared.phase.change := by
  cases h with
  | user huser hstep => exact (User.step_cases hstep).phase
  | acts hook hstage hperform =>
    have hphase := (acted_of_perform hperform).phase
    cases hook <;> (rw [phaseChange?, hstage]; exact hphase)
  | brokeOff hook hstage => cases hook <;> (rw [phaseChange?, hstage]; rfl)
  | finished hstage =>
    rw [phaseChange?, hstage, shared_toTeardown]
    exact Shared.phase_changePhase _ _ _
  | tornDown hstage | teardownFailed hstage =>
    rw [phaseChange?, hstage, shared_concludeTeardown]
    rfl
  | started hstage | announced hstage =>
    rw [phaseChange?, hstage]
    exact Shared.phase_changePhase _ _ _
  | halted hstage =>
    rw [phaseChange?, hstage]
    exact Shared.phase_raise _ _
  | setUp hstage | setupFailed hstage | launched hstage | launchedAll hstage | joined hstage
  | readOpened hstage | concluded hstage =>
    rw [phaseChange?, hstage]
    rfl
  | deadline | interrupt => exact Shared.phase_raise _ _
  | drain => exact Shared.phase_changePhase _ _ _
  | backgroundOpen | backgroundClose => rfl

/-! ## The phase at each stage -/

/-- A run is in this phase, or in the drain of it. -/
def InPhase (state : State G V) (phase : Phase) : Prop :=
  state.shared.phase = phase ∨ state.shared.phase = .draining ∧ state.shared.stopping = true

theorem InPhase.mono {phase : Phase} (h : state.InPhase phase)
    (hphase : next.shared.phase = state.shared.phase)
    (hsignal : state.shared.stopping = true → next.shared.stopping = true) :
    next.InPhase phase := by
  rcases h with h | ⟨h, hraised⟩
  · exact .inl (hphase.trans h)
  · exact .inr ⟨hphase.trans h, hsignal hraised⟩

/-- The drain takes a run out of its phase, and no further. -/
theorem InPhase.drain {phase : Phase} (h : state.InPhase phase)
    (hstarted : phase = .starting ∨ phase = .running)
    (hphase : next.shared.phase = state.shared.phase.change .drain)
    (hraised : next.shared.stopping = true) : next.InPhase phase := by
  rcases h with h | ⟨h, -⟩
  · exact .inr ⟨hphase.trans (by rw [h]; exact if_pos hstarted), hraised⟩
  · exact .inr ⟨hphase.trans (by rw [h]; rfl), hraised⟩

/-- Once the users are started the run goes on to its next phase, unless it is being drained. -/
theorem InPhase.advance {phase after : Phase} (h : state.InPhase phase) (hne : phase ≠ .draining)
    (hphase : next.shared.phase = state.shared.phase.change (.advance phase after))
    (hsignal : state.shared.stopping = true → next.shared.stopping = true) :
    next.InPhase after := by
  rcases h with h | ⟨h, hraised⟩
  · exact .inl (hphase.trans (by rw [h]; exact if_pos rfl))
  · exact .inr ⟨hphase.trans (by rw [h]; exact if_neg hne.symm), hsignal hraised⟩

/-- The phase at each stage, and whether the drain is watched for. -/
def Phased (state : State G V) : Prop :=
  match state.stage.period with
  | .before => state.shared.phase = .idle ∧ state.armed = false
  | .launching => state.InPhase .starting ∧ state.armed = true
  | .running =>
    state.InPhase .running ∧ state.armed = true ∧
      (state.stage = .finish → state.shared.stopping = true)
  | .behind => state.shared.phase = .done ∧ state.shared.stopping = true
  | .broken =>
    state.shared.phase = .idle ∨ state.shared.phase = .done ∧ state.shared.stopping = true

theorem phased_start (scenario : Scenario G V) (options : Options) (startedAt : Int) :
    (State.start scenario options startedAt).Phased := by
  unfold Phased State.start
  cases scenario.setup <;> exact ⟨rfl, rfl⟩

/-- What neither takes the run on nor changes its phase. -/
theorem Phased.mono (h : state.Phased) (hstage : next.stage = state.stage)
    (hphase : next.shared.phase = state.shared.phase) (harmed : next.armed = state.armed)
    (hsignal : state.shared.stopping = true → next.shared.stopping = true) : next.Phased := by
  revert h
  unfold Phased
  rw [hstage]
  split <;> intro h
  case h_1 => exact ⟨hphase.trans h.1, harmed.trans h.2⟩
  case h_2 => exact ⟨h.1.mono hphase hsignal, harmed.trans h.2⟩
  case h_3 => exact ⟨h.1.mono hphase hsignal, harmed.trans h.2.1, fun hat => hsignal (h.2.2 hat)⟩
  case h_4 => exact ⟨hphase.trans h.1, hsignal h.2⟩
  case h_5 => exact h.imp hphase.trans fun h => ⟨hphase.trans h.1, hsignal h.2⟩

/-- The watcher may come at any time once it is armed, and undoes nothing. -/
theorem Phased.drain (h : state.Phased) (harmed : state.armed = true)
    (hstage : next.stage = state.stage)
    (hphase : next.shared.phase = state.shared.phase.change .drain)
    (hkept : next.armed = state.armed) (hraised : next.shared.stopping = true) : next.Phased := by
  have hdone : state.shared.phase = .done → next.shared.phase = .done := fun h => by
    rw [hphase, h]
    rfl
  have hidle : state.shared.phase = .idle → next.shared.phase = .idle := fun h => by
    rw [hphase, h]
    rfl
  revert h
  unfold Phased
  rw [hstage]
  split <;> intro h
  case h_1 => exact absurd (h.2.symm.trans harmed) (by decide)
  case h_2 => exact ⟨h.1.drain (.inl rfl) hphase hraised, hkept.trans h.2⟩
  case h_3 =>
    exact ⟨h.1.drain (.inr rfl) hphase hraised, hkept.trans h.2.1, fun _ => hraised⟩
  case h_4 => exact ⟨hdone h.1, hraised⟩
  case h_5 => exact h.imp hidle fun h => ⟨hdone h.1, hraised⟩

theorem phased_concludeTeardown
    (h : state.shared.phase = .done ∧ state.shared.stopping = true) :
    state.concludeTeardown.Phased := by
  unfold concludeTeardown
  split <;> exact h

theorem phased_toTeardown (h : state.shared.phase = .done ∧ state.shared.stopping = true) :
    state.toTeardown.Phased := by
  unfold toTeardown
  split
  · exact h
  · exact phased_concludeTeardown h

theorem Phased.keep (h : state.Phased) (htransition : state.Transition move next) :
    next.Phased := by
  have hsignal := htransition.stopping
  cases htransition with
  | user huser hstep => exact h.mono rfl (User.step_cases hstep).phase rfl hsignal
  | acts hook hstage hperform =>
    have hphase := (acted_of_perform hperform).phase
    cases hook with
    | setup =>
      simp only [Phased, hstage] at h
      exact ⟨hphase.trans h.1, h.2⟩
    | teardown =>
      simp only [Phased, hstage] at h
      exact ⟨hphase.trans h.1, hsignal h.2⟩
  | brokeOff hook hstage =>
    cases hook with
    | setup =>
      simp only [Phased, hstage] at h
      exact .inl h.1
    | teardown =>
      simp only [Phased, hstage] at h
      exact .inr h
  | setUp hstage | setupFailed hstage | launchedAll hstage | readOpened hstage
  | concluded hstage =>
    simp only [Phased, hstage] at h
    exact h
  | started => exact ⟨.inl (Shared.phase_changePhase _ _ _), rfl⟩
  | launched => exact h.mono rfl rfl rfl id
  | announced hstage =>
    simp only [Phased, hstage] at h
    exact ⟨h.1.advance (by decide) (Shared.phase_changePhase _ _ _) hsignal, h.2,
      fun h => by cases h⟩
  | joined hstage =>
    simp only [Phased, hstage] at h
    exact ⟨h.1, h.2.1, fun h => by cases h⟩
  | halted hstage =>
    simp only [Phased, hstage] at h
    exact ⟨h.1.mono (Shared.phase_raise _ _) hsignal, h.2.1, fun _ => Shared.stopping_raise _ _⟩
  | finished hstage =>
    simp only [Phased, hstage] at h
    exact phased_toTeardown
      ⟨Shared.phase_changePhase _ _ _, (Shared.stopping_changePhase _ _ _).trans (h.2.2 trivial)⟩
  | tornDown hstage | teardownFailed hstage =>
    simp only [Phased, hstage] at h
    exact phased_concludeTeardown h
  | deadline | interrupt => exact h.mono rfl (Shared.phase_raise _ _) rfl hsignal
  | drain harmed hraised =>
    exact h.drain harmed rfl (Shared.phase_changePhase _ _ _) rfl (hsignal hraised)
  | backgroundOpen | backgroundClose => exact h.mono rfl rfl rfl id

theorem phased_after (scenario : Scenario G V) (options : Options) (startedAt : Int)
    (moves : List Move) : ((State.start scenario options startedAt).after moves).Phased :=
  after_induction moves (phased_start scenario options startedAt) fun _ _ _ h _ htransition =>
    h.keep htransition

/-! ## No phase comes back -/

/-- No transition takes a run to an earlier phase. -/
theorem Transition.phase_le (h : state.Transition move next) (hphased : state.Phased) :
    state.shared.phase ≤ next.shared.phase := by
  rw [h.phase]
  cases hchange : state.phaseChange? move with
  | none => exact Phase.le_refl _
  | some change =>
    unfold phaseChange? at hchange
    split at hchange
    case h_2 =>
      cases hchange
      exact Phase.le_change_drain _
    case h_1 =>
      split at hchange <;> cases hchange
      · rename_i hstage
        simp only [Phased, hstage] at hphased
        rw [hphased.1]
        decide
      · rename_i hstage
        simp only [Phased, hstage] at hphased
        rcases hphased.1 with h | ⟨h, -⟩ <;> (rw [h]; decide)
      · exact Phase.le_done _
    all_goals cases hchange

theorem phase_le_step (hphased : state.Phased) (move : Move) :
    state.shared.phase ≤ (state.step move).shared.phase := by
  rcases step_cases state move with h | ⟨-, h⟩
  · rw [h]
    exact Phase.le_refl _
  · exact h.phase_le hphased

/-- The phases that a run is in, from now on and after each of the moves. -/
def phases (state : State G V) : List Move → List Phase
  | [] => [state.shared.phase]
  | move :: moves => state.shared.phase :: (state.step move).phases moves

theorem Phased.step (h : state.Phased) (move : Move) : (state.step move).Phased := by
  rcases step_cases state move with heq | ⟨-, htransition⟩
  · rw [heq]
    exact h
  · exact h.keep htransition

theorem phase_le_of_mem_phases (h : state.Phased) (moves : List Move) :
    ∀ phase ∈ state.phases moves, state.shared.phase ≤ phase := by
  induction moves generalizing state with
  | nil =>
    intro phase hmem
    rw [List.mem_singleton.mp hmem]
    exact Phase.le_refl _
  | cons move moves ih =>
    intro phase hmem
    rcases List.mem_cons.mp hmem with rfl | hlater
    · exact Phase.le_refl _
    · exact Phase.le_trans (phase_le_step h move) (ih (h.step move) phase hlater)

theorem pairwise_phases (h : state.Phased) (moves : List Move) :
    (state.phases moves).Pairwise (· ≤ ·) := by
  induction moves generalizing state with
  | nil => exact List.pairwise_singleton _ _
  | cons move moves ih =>
    refine List.pairwise_cons.mpr ⟨fun phase hmem => ?_, ih (h.step move)⟩
    exact Phase.le_trans (phase_le_step h move)
      (phase_le_of_mem_phases (h.step move) moves phase hmem)

theorem mem_phases_after (state : State G V) (moves : List Move) :
    (state.after moves).shared.phase ∈ state.phases moves := by
  induction moves generalizing state with
  | nil => exact List.mem_singleton.mpr rfl
  | cons move moves ih => exact List.mem_cons_of_mem _ (ih _)

/-! ## What hooks see of the phase -/

/-- A move answers a hook that asks for the phase. -/
inductive Tells (state : State G V) : Move → HookKind → Phase → Prop where
  | user (hook : UserHook) {id : Nat} {outside : Outside} {user : User V}
      {next : Phase → Begun V} {after : Shared} {desk : Desk} {phase : Phase}
      (huser : state.users[id]? = some user)
      (hpoint : user.point = hook.point (.act .phase next))
      (hperform : state.shared.perform user.desk outside .phase = some (after, desk, phase)) :
      Tells state (.user id outside) hook.kind phase
  | run (hook : RunHook) {outside : Outside} {next : Phase → Begun G} {after : Shared}
      {desk : Desk} {phase : Phase} (hstage : state.stage = hook.stage (.act .phase next))
      (hperform : state.shared.perform state.desk outside .phase = some (after, desk, phase)) :
      Tells state (.control outside) hook.kind phase

theorem phase_of_perform {shared after : Shared} {desk next : Desk} {outside : Outside}
    {phase : Phase} (h : shared.perform desk outside .phase = some (after, next, phase)) :
    phase = shared.phase := by
  cases h
  rfl

/-- A hook of the run that is told the phase is what the run is doing. -/
theorem Tells.of_run {phase : Phase} (hook : RunHook) (h : state.Tells move hook.kind phase) :
    ∃ work, state.stage = hook.stage work ∧ phase = state.shared.phase := by
  generalize hkind : hook.kind = kind at h
  cases h with
  | user other => cases hook <;> cases other <;> cases hkind
  | run other hstage hperform =>
    cases hook <;> cases other <;> cases hkind <;> exact ⟨_, hstage, phase_of_perform hperform⟩

/-- While a user lives the run is started and not done. -/
theorem Phased.of_living (h : state.Phased) (hstaged : state.Staged) {user : User V}
    (hmem : user ∈ state.users) (hliving : user.isOver = false) :
    state.shared.phase ≠ .idle ∧ state.shared.phase ≠ .done := by
  have hphase {phase : Phase} (hne : phase ≠ .idle ∧ phase ≠ .done) (h : state.InPhase phase) :
      state.shared.phase ≠ .idle ∧ state.shared.phase ≠ .done := by
    rcases h with h | ⟨h, -⟩
    · rw [h]
      exact hne
    · rw [h]
      exact ⟨by decide, by decide⟩
  rcases stage_of_living hstaged (not_allOver hmem hliving) with hstage | hstage | hstage <;>
    simp only [Phased, hstage] at h
  · exact hphase ⟨by decide, by decide⟩ h.1
  · exact hphase ⟨by decide, by decide⟩ h.1
  · exact hphase ⟨by decide, by decide⟩ h.1

/-- A run that is drained or done has seen the signal. -/
theorem Phased.stopping_of_draining_le (h : state.Phased) (hle : .draining ≤ state.shared.phase) :
    state.shared.stopping = true := by
  have hearly {phase : Phase} (hlt : ¬ .draining ≤ phase) (h : state.InPhase phase) :
      state.shared.stopping = true := by
    rcases h with h | ⟨-, h⟩
    · rw [h] at hle
      exact absurd hle hlt
    · exact h
  unfold Phased at h
  split at h
  case h_1 =>
    rw [h.1] at hle
    exact absurd hle (by decide)
  case h_2 => exact hearly (by decide) h.1
  case h_3 => exact hearly (by decide) h.1
  case h_4 => exact h.2
  case h_5 =>
    rcases h with h | h
    · rw [h] at hle
      exact absurd hle (by decide)
    · exact h.2

/-- A run is done only by its own doing, once it has waited for its users. -/
theorem Transition.done_cases (h : state.Transition move next)
    (hphase : next.shared.phase = .done) : state.shared.phase = .done ∨ state.stage = .finish := by
  rw [h.phase] at hphase
  cases hchange : state.phaseChange? move with
  | none =>
    rw [hchange] at hphase
    exact .inl hphase
  | some change =>
    rw [hchange] at hphase
    unfold phaseChange? at hchange
    split at hchange
    case h_2 =>
      cases hchange
      cases hbefore : state.shared.phase <;> rw [hbefore] at hphase <;> cases hphase
      exact .inl rfl
    case h_1 =>
      split at hchange <;> cases hchange
      · cases hphase
      · cases hbefore : state.shared.phase <;> rw [hbefore] at hphase <;> cases hphase
        exact .inl rfl
      · exact .inr (by assumption)
    all_goals cases hchange

/-- Every virtual user was started and is over. -/
def Emptied (state : State G V) : Prop :=
  state.users.length = state.options.virtualUsers ∧ state.allOver = true

theorem Emptied.keep (h : state.Emptied) (htransition : state.Transition move next) :
    next.Emptied := by
  have husers : next.users = state.users := by
    rcases htransition.users_cases with ⟨_, _, user, _, -, huser, hstep, -⟩ | ⟨-, hlt, -⟩ |
      ⟨haside, -⟩
    · have hliving := not_allOver (List.mem_of_getElem? huser) hstep.not_isOver
      rw [h.2] at hliving
      cases hliving
    · exact absurd h.1 (Nat.ne_of_lt hlt)
    · exact haside.users
  rw [Emptied, allOver, husers, htransition.fixed.2.1]
  exact h

/-- A run that is done has no living user and starts no other. -/
theorem emptied_of_done (scenario : Scenario G V) (options : Options) (startedAt : Int)
    (moves : List Move)
    (h : ((State.start scenario options startedAt).after moves).shared.phase = .done) :
    ((State.start scenario options startedAt).after moves).Emptied := by
  revert h
  refine (after_induction moves (P := fun state => state.Staged ∧
    (state.shared.phase = .done → state.Emptied)) ⟨staged_start scenario options startedAt,
      fun h => by cases h⟩ ?_).2
  intro state move next ⟨hstaged, hemptied⟩ _ htransition
  refine ⟨hstaged.keep htransition, fun hphase => ?_⟩
  rcases htransition.done_cases hphase with hdone | hstage
  · exact (hemptied hdone).keep htransition
  · simp only [Staged, hstage] at hstaged
    exact Emptied.keep hstaged htransition

/-- What is known of the phase at every moment of a run, and what hooks see of it. -/
structure PhaseSafe (state : State G V) : Prop where
  draining : state.shared.phase = .draining → state.shared.stopping = true
  done : state.shared.phase = .done →
    state.shared.stopping = true ∧ state.users.length = state.options.virtualUsers ∧
      ∀ user ∈ state.users, user.isOver = true
  user : ∀ (hook : UserHook) move phase, state.Tells move hook.kind phase →
    phase ≠ .idle ∧ phase ≠ .done
  setup : ∀ move phase, state.Tells move .setup phase → phase = .idle
  teardown : ∀ move phase, state.Tells move .teardown phase → phase = .done

theorem phaseSafe_after (scenario : Scenario G V) (options : Options) (startedAt : Int)
    (moves : List Move) : ((State.start scenario options startedAt).after moves).PhaseSafe := by
  have hemptied := emptied_of_done scenario options startedAt moves
  have hphased := phased_after scenario options startedAt moves
  have hstaged := staged_after scenario options startedAt moves
  generalize (State.start scenario options startedAt).after moves = state at *
  constructor
  case draining =>
    intro hphase
    exact hphased.stopping_of_draining_le (by rw [hphase]; decide)
  case done =>
    intro hphase
    have hsignal := hphased.stopping_of_draining_le (by rw [hphase]; decide)
    exact ⟨hsignal, (hemptied hphase).1, (allOver_iff state).mp (hemptied hphase).2⟩
  case user =>
    intro hook move phase htells
    generalize hkind : hook.kind = kind at htells
    cases htells with
    | user other huser hpoint hperform =>
      rw [phase_of_perform hperform]
      refine hphased.of_living hstaged (List.mem_of_getElem? huser) ?_
      cases other <;> (rw [User.isOver, hpoint]; rfl)
    | run other => cases hook <;> cases other <;> cases hkind
  case setup =>
    intro move phase htells
    obtain ⟨work, hstage, rfl⟩ := Tells.of_run .setup htells
    simp only [Phased, hstage] at hphased
    exact hphased.1
  case teardown =>
    intro move phase htells
    obtain ⟨work, hstage, rfl⟩ := Tells.of_run .teardown htells
    simp only [Phased, hstage] at hphased
    exact hphased.1

end State

/-- The phases of a run follow one another in their order, and none comes back. -/
theorem phases_ordered {G V : Type} (scenario : Scenario G V) (options : Options) (startedAt : Int)
    (moves : List Move) :
    ((State.start scenario options startedAt).phases moves).Pairwise (· ≤ ·) ∧
      ((State.start scenario options startedAt).after moves).PhaseSafe ∧
      ∀ later,
        (((State.start scenario options startedAt).after moves).shared.phase = .draining →
          (((State.start scenario options startedAt).after moves).after later).shared.phase ≠
            .running) ∧
        (((State.start scenario options startedAt).after moves).shared.phase = .done →
          (((State.start scenario options startedAt).after moves).after later).shared.phase =
            .done) := by
  have hphased := State.phased_after scenario options startedAt moves
  refine ⟨State.pairwise_phases (State.phased_start scenario options startedAt) moves,
    State.phaseSafe_after scenario options startedAt moves, fun later => ?_⟩
  have hle := State.phase_le_of_mem_phases hphased later _ (State.mem_phases_after _ later)
  constructor
  · intro hdraining hrunning
    rw [hdraining, hrunning] at hle
    exact absurd hle (by decide)
  · intro hdone
    rw [hdone] at hle
    exact Phase.eq_done_of_le hle

/-- The signal is raised before the run has started and the drain comes before the users are all
there, so the run never announces that they run; another drain comes when it is done. -/
theorem phases_ordered_sample :
    (State.start Sample.scenario (Sample.options 1 none) 0).phases
        (.interrupt :: Sample.control 1 ++ [.drain] ++ Sample.control 3 ++ Sample.user 0 4 ++
          Sample.control 3 ++ [.drain]) =
      [.idle, .idle, .starting, .draining, .draining, .draining, .draining, .draining, .draining,
        .draining, .draining, .draining, .draining, .done, .done] ∧
      ((State.start Sample.scenario (Sample.options 1 none) 0).phases
        (.interrupt :: Sample.control 1 ++ [.drain] ++ Sample.control 3 ++ Sample.user 0 4 ++
          Sample.control 3 ++ [.drain])).Pairwise (· ≤ ·) ∧
      ((State.start Sample.scenario (Sample.options 1 none) 0).after
        (.interrupt :: Sample.control 1 ++ [.drain])).shared.stopping = true ∧
      (((State.start Sample.scenario (Sample.options 1 none) 0).after
        (.interrupt :: Sample.control 1 ++ [.drain])).after (Sample.control 3)).shared.phase ≠
          .running ∧
      (((State.start Sample.scenario (Sample.options 1 none) 0).after
        (.interrupt :: Sample.control 1 ++ [.drain] ++ Sample.control 3 ++ Sample.user 0 4 ++
          Sample.control 3)).after [.drain]).shared.phase = .done := by
  have hdraining := phases_ordered Sample.scenario (Sample.options 1 none) 0
    (.interrupt :: Sample.control 1 ++ [.drain])
  have hdone := phases_ordered Sample.scenario (Sample.options 1 none) 0
    (.interrupt :: Sample.control 1 ++ [.drain] ++ Sample.control 3 ++ Sample.user 0 4 ++
      Sample.control 3)
  exact ⟨rfl, (phases_ordered Sample.scenario (Sample.options 1 none) 0 _).1,
    hdraining.2.1.draining rfl, (hdraining.2.2 (Sample.control 3)).1 rfl,
    (hdone.2.2 [.drain]).2 rfl⟩

end Run

end LoadHarness
