import LoadHarness.Proofs.Run.Alike

/-! Two runs in step.

Where no virtual user has anything to do, the run itself is the only one that
changes anything that counts: such a run is calm.  Two calm runs that are alike,
and whose hooks are told the same, take the same steps, however many moves of
others stand between (`State.lockstep`).  So they come to the launch of the users
alike, and from their teardown to conclusions that agree. -/

namespace LoadHarness.Run

namespace State

variable {G V : Type} {state other next : State G V} {move : Move} {outside : Outside}

theorem step_of_concluded (h : state.conclusion?.isSome = true) (move : Move) :
    state.step move = state := by
  obtain ⟨conclusion, h⟩ := Option.isSome_iff_exists.mp h
  rw [step, h]

theorem after_of_concluded (h : state.conclusion?.isSome = true) (moves : List Move) :
    state.after moves = state := by
  induction moves with
  | nil => rfl
  | cons move moves ih => rw [after_cons, step_of_concluded h, ih]

/-! ## Calm -/

/-- Whether only the run itself can change anything that counts: either no users are there yet, and
nobody can raise the signal without disturbing the run, or all are over, and all is said and done
about the signal. -/
def Calm (state : State G V) : Prop :=
  (state.users = [] ∧ state.armed = false ∧ 0 < state.options.virtualUsers) ∨
    (state.allOver = true ∧ state.shared.stopping = true ∧ state.shared.phase = .done)

theorem Calm.allOver (h : state.Calm) : state.allOver = true := by
  rcases h with ⟨hnil, -⟩ | ⟨hover, -⟩
  · rw [State.allOver, hnil, List.all_nil]
  · exact hover

theorem changePhase_drain_of_done {shared : Shared} (h : shared.phase = .done) (party : Party) :
    shared.changePhase party .drain = shared := by
  have hdone : shared.phase.change .drain = shared.phase := by
    rw [h]
    rfl
  rw [Shared.changePhase, if_pos hdone]

/-- In a calm run that is not disturbed, nobody but the run itself makes a difference. -/
theorem Calm.idle (h : state.Calm) (hquiet : next.quiet = true) (hback : move.isBackground = false)
    (hmove : ∀ outside, move ≠ .control outside) (htransition : state.Transition move next) :
    state.Alike next ∧ next.Calm := by
  have hover := h.allOver
  have hframe : ∀ next : State G V, next.scenario = state.scenario → next.options = state.options →
      next.stage = state.stage → next.global = state.global → next.connects = state.connects →
      next.users = state.users → state.shared.stopping = true → state.shared.phase = .done →
      state.shared.Alike next.shared → state.Alike next ∧ next.Calm := by
    intro next hscenario hoptions hstage hglobal hconnects husers hsignal hphase hshared
    refine ⟨.of_frame hscenario hoptions hstage hglobal hconnects husers hshared, .inr ⟨?_, ?_, ?_⟩⟩
    · rw [State.allOver, husers]
      exact hover
    · exact hshared.stopping.trans hsignal
    · exact hshared.phase.trans hphase
  cases htransition with
  | user huser hstep =>
    rw [not_allOver (List.mem_of_getElem? huser) (User.step_cases hstep).not_isOver] at hover
    cases hover
  | deadline harmed =>
    rcases h with ⟨-, hunarmed, -⟩ | ⟨-, hsignal, hphase⟩
    · rw [hunarmed] at harmed
      cases harmed
    · exact hframe _ rfl rfl rfl rfl rfl rfl hsignal hphase
        ((Shared.Alike.write ..).trans (.raise (state.shared.write ..) hsignal _))
  | interrupt =>
    rcases h with ⟨hnil, -, hpos⟩ | ⟨-, hsignal, hphase⟩
    · simp only [quiet, Shared.stopping_raise, hnil, List.length_nil, Bool.not_true, Bool.false_or,
        Bool.and_eq_true, beq_iff_eq] at hquiet
      omega
    · refine hframe _ rfl rfl rfl rfl rfl rfl hsignal hphase ?_
      apply (Shared.Alike.print state.shared _).trans
      apply Shared.Alike.raise
      exact hsignal
  | drain harmed =>
    rcases h with ⟨-, hunarmed, -⟩ | ⟨-, hsignal, hphase⟩
    · rw [hunarmed] at harmed
      cases harmed
    · refine hframe _ rfl rfl rfl rfl rfl rfl hsignal hphase ?_
      rw [changePhase_drain_of_done hphase]
      exact .refl _
  | backgroundOpen | backgroundClose => cases hback
  | acts | setUp | setupFailed | brokeOff | started | launched | launchedAll | announced | joined
  | halted | finished | tornDown | teardownFailed | readOpened | concluded =>
    exact absurd rfl (hmove _)

/-- A calm run stays calm until it begins to start users. -/
theorem Calm.control (h : state.Calm) (hmiddle : state.stage.isMiddle = false)
    (htransition : state.Transition (.control outside) next) :
    next.Calm ∧ (next.stage.isMiddle = true → next.stage = .start) := by
  have hkeep : ∀ next : State G V, next.users = state.users → next.armed = state.armed →
      next.options = state.options → next.shared.phase = state.shared.phase →
      (state.shared.stopping = true → next.shared.stopping = true) → next.Calm := by
    intro next husers harmed hoptions hphase hsignal
    rcases h with ⟨hnil, hunarmed, hpos⟩ | ⟨hover, hraised, hdone⟩
    · refine .inl ⟨husers.trans hnil, harmed.trans hunarmed, ?_⟩
      rw [hoptions]
      exact hpos
    · refine .inr ⟨?_, hsignal hraised, hphase.trans hdone⟩
      rw [State.allOver, husers]
      exact hover
  cases htransition with
  | acts hook hstage hperform =>
    have hacted := acted_of_perform hperform
    refine ⟨hkeep _ rfl rfl rfl hacted.phase hacted.stopping, ?_⟩
    cases hook <;> exact fun hmiddle => by cases hmiddle
  | setUp => exact ⟨hkeep _ rfl rfl rfl rfl id, fun _ => rfl⟩
  | setupFailed | brokeOff => exact ⟨hkeep _ rfl rfl rfl rfl id, fun hmiddle => by cases hmiddle⟩
  | tornDown | teardownFailed =>
    unfold concludeTeardown
    split
    · exact ⟨hkeep _ rfl rfl rfl rfl id, fun hmiddle => by cases hmiddle⟩
    · exact ⟨hkeep _ rfl rfl rfl rfl id, fun hmiddle => by cases hmiddle⟩
  | readOpened | concluded => exact ⟨hkeep _ rfl rfl rfl rfl id, fun hmiddle => by cases hmiddle⟩
  | started hstage | launched hstage | launchedAll hstage | announced hstage | joined hstage
  | halted hstage | finished hstage =>
    rw [hstage] at hmiddle
    cases hmiddle

/-! ## The turns of the run itself -/

/-- A hook that waits for the signal is told nothing. -/
theorem listens_of_blocked (h : state.control outside = none) : state.listens = false := by
  have hwait : ∀ (work : Begun G) (kind : HookKind) (again : Begun G → Stage G)
      (finish : State G V → Except Fault Unit → State G V),
      state.stepHook outside work kind again finish = none →
      ∀ action next, work = .act action next → action.listens = false := by
    rintro _ kind again finish hnone action next rfl
    rw [stepHook] at hnone
    split at hnone
    · rename_i hperform
      cases action with
      | now | ask => cases hperform
      | log | check | connect | disconnect | stop | stopping | awaitStop | phase | counts | sleep
      | report => rfl
    · cases hnone
  unfold control at h
  rw [listens]
  unfold action?
  split
  · rename_i action next hstage
    rw [hstage] at h
    exact hwait _ _ _ _ h action next rfl
  · rename_i action next hstage
    rw [hstage] at h
    exact hwait _ _ _ _ h action next rfl
  · rfl

/-- The run itself has its turn: after idle moves it takes a step that leads to `next`, and nothing
that counts has changed before. -/
structure OwnTurn (state : State G V) (moves idle : List Move) (outside : Outside)
    (back : List Move) (next : State G V) : Prop where
  split : moves = idle ++ .control outside :: back
  alike : state.Alike (state.after idle)
  calm : (state.after idle).Calm
  control : (state.after idle).control outside = some next
  step : (state.after idle).step (.control outside) = next
  undisturbed : next.undisturbed back = true
  heard : state.heard moves = (state.after idle).heard (.control outside :: back)

variable {moves idle back : List Move}

theorem OwnTurn.after (h : state.OwnTurn moves idle outside back next) (later : List Move) :
    state.after (idle ++ .control outside :: later) = next.after later := by
  rw [after_append, after_cons, h.step]

/-- An idle move before the turn. -/
theorem OwnTurn.cons (h : (state.step move).OwnTurn moves idle outside back next)
    (halike : state.Alike (state.step move))
    (hheard : state.heard (move :: moves) = (state.step move).heard moves) :
    state.OwnTurn (move :: moves) (move :: idle) outside back next where
  split := by rw [h.split, List.cons_append]
  alike := halike.trans h.alike
  calm := h.calm
  control := h.control
  step := h.step
  undisturbed := h.undisturbed
  heard := hheard.trans h.heard

/-- In a calm run that comes to a conclusion the run itself has its turn. -/
theorem Calm.exists_turn (h : state.Calm) (hrunning : state.conclusion? = none)
    (hmiddle : state.stage.isMiddle = false) (moves : List Move)
    (hundisturbed : state.undisturbed moves = true)
    (hconcluded : (state.after moves).conclusion?.isSome = true) :
    ∃ idle outside back next, state.OwnTurn moves idle outside back next := by
  induction moves generalizing state with
  | nil =>
    rw [after_nil, hrunning] at hconcluded
    cases hconcluded
  | cons move moves ih =>
    simp only [State.undisturbed, Bool.and_eq_true, Bool.not_eq_true'] at hundisturbed
    obtain ⟨⟨hquiet, hback⟩, hundisturbed⟩ := hundisturbed
    have hidle : state.Alike (state.step move) → (state.step move).Calm →
        state.heard (move :: moves) = (state.step move).heard moves →
        ∃ idle outside back next, state.OwnTurn (move :: moves) idle outside back next := by
      intro halike hcalm hheard
      obtain ⟨idle, outside, back, next, hturn⟩ := ih hcalm (halike.running hrunning)
        (halike.isMiddle hrunning hmiddle) hundisturbed hconcluded
      exact ⟨move :: idle, outside, back, next, hturn.cons halike hheard⟩
    by_cases hmove : ∃ outside, move = .control outside
    · obtain ⟨outside, rfl⟩ := hmove
      have hstep : state.step (.control outside) = (state.control outside).getD state := by
        rw [State.step, hrunning]
        rfl
      cases hcontrol : state.control outside with
      | none =>
        rw [hcontrol] at hstep
        apply hidle
        · rw [hstep]
          exact .refl state
        · rw [hstep]
          exact h
        · exact heard_cons (listens_of_blocked hcontrol) _ _
      | some next =>
        rw [hcontrol] at hstep
        rw [hstep] at hundisturbed
        exact ⟨[], outside, moves, next, rfl, .refl state, h, hcontrol, hstep, hundisturbed, rfl⟩
    · have hmove : ∀ outside, move ≠ .control outside := fun outside heq => hmove ⟨outside, heq⟩
      have hheard : state.heard (move :: moves) = (state.step move).heard moves := by
        cases move with
        | control outside => exact absurd rfl (hmove outside)
        | user | deadline | interrupt | drain | backgroundOpen | backgroundClose => rfl
      rcases step_cases state move with heq | ⟨-, htransition⟩
      · apply hidle
        · rw [heq]
          exact .refl state
        · rw [heq]
          exact h
        · exact hheard
      · obtain ⟨halike, hcalm⟩ :=
          h.idle (quiet_of_undisturbed hundisturbed) hback hmove htransition
        exact hidle halike hcalm hheard

/-! ## Two runs -/

/-- Runs that are told the same over all are told the same at once. -/
theorem said_of_heard {outside' : Outside} {back' : List Move}
    (hlistens : other.listens = state.listens)
    (h : state.heard (.control outside :: back) = other.heard (.control outside' :: back')) :
    (state.listens = true → outside = outside') ∧
      (state.step (.control outside)).heard back =
        (other.step (.control outside')).heard back' := by
  rw [heard, heard, hlistens] at h
  split at h
  · obtain ⟨hsaid, hrest⟩ := List.cons.inj h
    exact ⟨fun _ => hsaid, hrest⟩
  · rename_i hnone
    exact ⟨fun hlistens => absurd hlistens hnone, h⟩

/-- Two calm runs that cannot be told apart, on their way to their conclusions. -/
structure InStep (state other : State G V) (moves moves' : List Move) : Prop where
  alike : state.Alike other
  calm : state.Calm
  calm' : other.Calm
  undisturbed : state.undisturbed moves = true
  undisturbed' : other.undisturbed moves' = true
  concluded : (state.after moves).conclusion?.isSome = true
  concluded' : (other.after moves').conclusion?.isSome = true
  heard : state.heard moves = other.heard moves'

/-- Runs in step have their turns in step. -/
theorem InStep.exists_turns {moves' : List Move} (h : InStep state other moves moves')
    (hrunning : state.conclusion? = none) (hmiddle : state.stage.isMiddle = false) :
    ∃ idle outside back next idle' outside' back' next',
      state.OwnTurn moves idle outside back next ∧ other.OwnTurn moves' idle' outside' back' next' ∧
      InStep next next' back back' ∧ (next.stage.isMiddle = true → next.stage = .start) := by
  obtain ⟨idle, outside, back, next, hturn⟩ :=
    h.calm.exists_turn hrunning hmiddle moves h.undisturbed h.concluded
  obtain ⟨idle', outside', back', next', hturn'⟩ :=
    h.calm'.exists_turn (h.alike.running hrunning) (h.alike.isMiddle hrunning hmiddle) moves'
      h.undisturbed' h.concluded'
  refine ⟨idle, outside, back, next, idle', outside', back', next', hturn, hturn', ?_⟩
  -- both runs are about to take the same step of their own
  have halike := hturn.alike.symm.trans (h.alike.trans hturn'.alike)
  have hmiddle := hturn.alike.isMiddle hrunning hmiddle
  have hrunning := hturn.alike.running hrunning
  have hheard := hturn.heard.symm.trans (h.heard.trans hturn'.heard)
  obtain ⟨hsaid, hheard⟩ := said_of_heard (halike.listens hrunning) hheard
  rw [hturn.step, hturn'.step] at hheard
  have hnext := halike.control hrunning hmiddle hsaid
  rw [hturn.control, hturn'.control] at hnext
  have hconcluded := h.concluded
  have hconcluded' := h.concluded'
  rw [hturn.split, hturn.after] at hconcluded
  rw [hturn'.split, hturn'.after] at hconcluded'
  obtain ⟨hcalm, hstart⟩ := hturn.calm.control hmiddle (transition_of_control hturn.control)
  obtain ⟨hcalm', -⟩ := hturn'.calm.control (halike.isMiddle hrunning hmiddle)
    (transition_of_control hturn'.control)
  cases hnext with
  | some hnext =>
    exact ⟨⟨hnext, hcalm, hcalm', hturn.undisturbed, hturn'.undisturbed, hconcluded, hconcluded',
      hheard⟩, hstart⟩

/-- Runs in step come to the launch of their users in step, or to conclusions that agree. -/
theorem InStep.lockstep {moves' : List Move} (h : InStep state other moves moves')
    (hmiddle : state.stage.isMiddle = true → state.stage = .start) :
    (∃ front back front' back', moves = front ++ back ∧ moves' = front' ++ back' ∧
        InStep (state.after front) (other.after front') back back' ∧
        (state.after front).stage = .start) ∨
      (state.after moves).Alike (other.after moves') := by
  induction hlength : moves.length using Nat.strongRecOn
    generalizing state other moves moves' with
  | ind length ih =>
    cases hrunning : state.conclusion? with
    | some conclusion =>
      have hover : state.conclusion?.isSome = true := by rw [hrunning]; rfl
      rw [after_of_concluded hover, after_of_concluded (h.alike.concluded hover)]
      exact .inr h.alike
    | none =>
      by_cases hstart : state.stage = .start
      · exact .inl ⟨[], moves, [], moves', rfl, rfl, h, hstart⟩
      have hmiddle : state.stage.isMiddle = false := by
        rw [← Bool.not_eq_true]
        exact fun h => hstart (hmiddle h)
      obtain ⟨idle, outside, back, next, idle', outside', back', next', hturn, hturn', hin,
          hnext⟩ :=
        h.exists_turns hrunning hmiddle
      have hlt : back.length < length := by
        rw [← hlength, hturn.split, List.length_append, List.length_cons]
        omega
      rw [hturn.split, hturn'.split, hturn.after, hturn'.after]
      rcases ih back.length hlt hin hnext rfl with
        ⟨front, rest, front', rest', rfl, rfl, hin, hstage⟩ | hend
      · refine .inl ⟨idle ++ .control outside :: front, rest, idle' ++ .control outside' :: front',
          rest', ?_, ?_, ?_, ?_⟩
        · rw [List.append_assoc, List.cons_append]
        · rw [List.append_assoc, List.cons_append]
        · rw [hturn.after, hturn'.after]
          exact hin
        · rw [hturn.after]
          exact hstage
      · exact .inr hend

end State

end LoadHarness.Run
