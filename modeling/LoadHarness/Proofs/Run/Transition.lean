import LoadHarness.Proofs.Run.Step
import LoadHarness.Run.State

/-! What a move of a run can be, said once.

    state.step move = state  ∨  state.Transition move (state.step move)      (State.step_cases)

What holds at the beginning and is kept by every transition holds after any list
of moves (`State.after_induction`). -/

namespace LoadHarness.Run

/-- The hooks of the run itself, as work that it can be in. -/
inductive RunHook where
  | setup
  | teardown
deriving DecidableEq, Repr

namespace RunHook

/-- The kind of a hook. -/
def kind : RunHook → HookKind
  | setup => .setup
  | teardown => .teardown

/-- The stage of a run that is in a hook. -/
def stage {G : Type} : RunHook → Begun G → Stage G
  | setup => .setup
  | teardown => .teardown

end RunHook

namespace State

variable {G V : Type}

/-- The state once the user at a place has taken a step. -/
def put (state : State G V) (id : Nat) (stepped : Stepped V) : State G V :=
  { state with
    shared := stepped.shared
    users := state.users.set id stepped.user }.note stepped.entries

@[simp] theorem shared_put (state : State G V) (id : Nat) (stepped : Stepped V) :
    (state.put id stepped).shared = stepped.shared := rfl

@[simp] theorem users_put (state : State G V) (id : Nat) (stepped : Stepped V) :
    (state.put id stepped).users = state.users.set id stepped.user := rfl

@[simp] theorem history_put (state : State G V) (id : Nat) (stepped : Stepped V) :
    (state.put id stepped).history = state.history ++ stepped.entries := history_note _ _

/-- What a move does, where it does something. -/
inductive Transition (state : State G V) : Move → State G V → Prop where
  | user {id : Nat} {outside : Outside} {user : User V} {stepped : Stepped V}
      (huser : state.users[id]? = some user)
      (hstep : user.step state.setting state.shared outside = some stepped) :
      Transition state (.user id outside) (state.put id stepped)
  | acts (hook : RunHook) {outside : Outside} {action : Action} {next : Answer action → Begun G}
      {after : Shared} {desk : Desk} {answer : Answer action}
      (hstage : state.stage = hook.stage (.act action next))
      (hperform : state.shared.perform state.desk outside action = some (after, desk, answer)) :
      Transition state (.control outside)
        ({ state with
          shared := after
          connects := desk.connects
          stage := hook.stage (next answer) }.note [.acted .run 0 action])
  | setUp {outside : Outside} {value : G} (hstage : state.stage = .setup (.done (.ok (), value))) :
      Transition state (.control outside)
        ({ state with global := value, stage := .start }.note [.called .run .setup 0 (.ok ())])
  | setupFailed {outside : Outside} {failure : Failure} {value : G}
      (hstage : state.stage = .setup (.done (.error (.failure failure), value))) :
      Transition state (.control outside)
        ({ state with global := value, stage := .over (.failed failure) }.note
          [.called .run .setup 0 (.error (.failure failure))])
  | brokeOff (hook : RunHook) {outside : Outside} {text : String} {value : G}
      (hstage : state.stage = hook.stage (.done (.error (.panic text), value))) :
      Transition state (.control outside)
        ({ state with global := value, stage := .over (.panicked text) }.note
          [.called .run hook.kind 0 (.error (.panic text))])
  | started {outside : Outside} (hstage : state.stage = .start) :
      Transition state (.control outside)
        { state with
          shared := state.shared.changePhase .run (.set .starting)
          armed := true
          stage := .launch }
  | launched {outside : Outside} (hstage : state.stage = .launch)
      (hlt : state.users.length < state.options.virtualUsers) :
      Transition state (.control outside)
        { state with users := state.users ++ [User.start state.setting state.users.length] }
  | launchedAll {outside : Outside} (hstage : state.stage = .launch)
      (hle : state.options.virtualUsers ≤ state.users.length) :
      Transition state (.control outside) { state with stage := .announce }
  | announced {outside : Outside} (hstage : state.stage = .announce) :
      Transition state (.control outside)
        { state with
          shared := state.shared.changePhase .run (.advance .starting .running)
          stage := .join }
  | joined {outside : Outside} (hstage : state.stage = .join) (hover : state.allOver = true) :
      Transition state (.control outside) { state with stage := .halt }
  | halted {outside : Outside} (hstage : state.stage = .halt) :
      Transition state (.control outside)
        { state with shared := state.shared.raise .run, stage := .finish }
  | finished {outside : Outside} (hstage : state.stage = .finish) :
      Transition state (.control outside)
        { state with shared := state.shared.changePhase .run (.set .done) }.toTeardown
  | tornDown {outside : Outside} {value : G}
      (hstage : state.stage = .teardown (.done (.ok (), value))) :
      Transition state (.control outside)
        ({ state with global := value }.note [.called .run .teardown 0 (.ok ())]).concludeTeardown
  | teardownFailed {outside : Outside} {failure : Failure} {value : G}
      (hstage : state.stage = .teardown (.done (.error (.failure failure), value))) :
      Transition state (.control outside)
        ({ state with
          global := value
          shared := state.shared.write .run .error ("Teardown failed: " ++ failure.report) }.note
          [.called .run .teardown 0 (.error (.failure failure))]).concludeTeardown
  | readOpened {outside : Outside} (hstage : state.stage = .readOpened) :
      Transition state (.control outside)
        { state with stage := .readClosed state.shared.ledger.opened }
  | concluded {outside : Outside} {opened : Nat} (hstage : state.stage = .readClosed opened) :
      Transition state (.control outside) (state.conclude opened)
  | deadline (harmed : state.armed = true) (hpassed : state.deadlinePassed = false) :
      Transition state .deadline
        { state with
          shared := (state.shared.write .background .debug "Run duration elapsed").raise .background
          deadlinePassed := true }
  | interrupt :
      Transition state .interrupt
        { state with
          shared := { state.shared with
            reporter := { state.shared.reporter with printed :=
              state.shared.reporter.printed ++
                ["Received shutdown signal, draining virtual users..."] }
            }.raise .background }
  | drain (harmed : state.armed = true) (hsignal : state.shared.stopping = true) :
      Transition state .drain
        { state with shared := state.shared.changePhase .background .drain }
  | backgroundOpen :
      Transition state .backgroundOpen
        { state with
          shared := { state.shared with
            ledger := state.shared.ledger.open ⟨.background, state.backgroundConnects, true⟩ }
          backgroundConnects := state.backgroundConnects + 1 }
  | backgroundClose {serial : Nat} :
      Transition state (.backgroundClose serial)
        { state with
          shared := { state.shared with
            ledger := state.shared.ledger.close ⟨.background, serial, true⟩ } }

theorem transition_of_stepHook {state next : State G V} {outside : Outside} {work : Begun G}
    (hook : RunHook) {finish : State G V → Except Fault Unit → State G V}
    (hstage : state.stage = hook.stage work)
    (h : state.stepHook outside work hook.kind hook.stage finish = some next)
    (hdone : ∀ result value, work = .done (result, value) →
      state.Transition (.control outside)
        (finish ({ state with global := value }.note [.called .run hook.kind 0 result]) result)) :
    state.Transition (.control outside) next := by
  cases work with
  | done last =>
    obtain ⟨result, value⟩ := last
    simp only [stepHook, Option.some.injEq] at h
    subst h
    exact hdone result value rfl
  | act action next =>
    rw [stepHook] at h
    split at h
    · cases h
    · rename_i after desk answer hperform
      simp only [Option.some.injEq] at h
      subst h
      exact .acts hook hstage hperform

theorem transition_of_control {state next : State G V} {outside : Outside}
    (h : state.control outside = some next) : state.Transition (.control outside) next := by
  unfold control at h
  split at h
  · rename_i work hstage
    refine transition_of_stepHook .setup hstage h fun result value hwork => ?_
    subst hwork
    match result with
    | .ok () => exact .setUp hstage
    | .error (.failure failure) => exact .setupFailed hstage
    | .error (.panic text) => exact .brokeOff .setup hstage
  · rename_i hstage
    simp only [Option.some.injEq] at h
    subst h
    exact .started hstage
  · rename_i hstage
    split at h
    · rename_i hlt
      simp only [Option.some.injEq] at h
      subst h
      exact .launched hstage hlt
    · rename_i hle
      simp only [Option.some.injEq] at h
      subst h
      exact .launchedAll hstage (Nat.le_of_not_lt hle)
  · rename_i hstage
    simp only [Option.some.injEq] at h
    subst h
    exact .announced hstage
  · rename_i hstage
    split at h
    · rename_i hover
      simp only [Option.some.injEq] at h
      subst h
      exact .joined hstage hover
    · cases h
  · rename_i hstage
    simp only [Option.some.injEq] at h
    subst h
    exact .halted hstage
  · rename_i hstage
    simp only [Option.some.injEq] at h
    subst h
    exact .finished hstage
  · rename_i work hstage
    refine transition_of_stepHook .teardown hstage h fun result value hwork => ?_
    subst hwork
    match result with
    | .ok () => exact .tornDown hstage
    | .error (.failure failure) => exact .teardownFailed hstage
    | .error (.panic text) => exact .brokeOff .teardown hstage
  · rename_i hstage
    simp only [Option.some.injEq] at h
    subst h
    exact .readOpened hstage
  · rename_i opened hstage
    simp only [Option.some.injEq] at h
    subst h
    exact .concluded hstage
  · cases h

theorem transition_of_move? {state next : State G V} {move : Move}
    (h : state.move? move = some next) : state.Transition move next := by
  cases move with
  | user id outside =>
    simp only [move?, stepUser, Option.bind_eq_bind, Option.bind_eq_some_iff] at h
    obtain ⟨user, huser, stepped, hstep, hnext⟩ := h
    cases hnext
    exact .user huser hstep
  | control outside => exact transition_of_control h
  | deadline =>
    simp only [move?] at h
    split at h
    · rename_i hready
      simp only [Bool.and_eq_true, Bool.not_eq_true'] at hready
      cases h
      exact .deadline hready.1 hready.2
    · cases h
  | interrupt =>
    cases h
    exact .interrupt
  | drain =>
    simp only [move?] at h
    split at h
    · rename_i hready
      simp only [Bool.and_eq_true] at hready
      cases h
      exact .drain hready.1 hready.2
    · cases h
  | backgroundOpen =>
    cases h
    exact .backgroundOpen
  | backgroundClose serial =>
    cases h
    exact .backgroundClose

theorem step_cases (state : State G V) (move : Move) :
    state.step move = state ∨
      state.conclusion? = none ∧ state.Transition move (state.step move) := by
  unfold step
  cases hover : state.conclusion? with
  | some conclusion => exact .inl rfl
  | none =>
    cases hmove : state.move? move with
    | none => exact .inl rfl
    | some next => exact .inr ⟨rfl, transition_of_move? hmove⟩

/-- What holds at the beginning and is kept by every transition holds after all moves. -/
theorem after_induction {P : State G V → Prop} {state : State G V} (moves : List Move)
    (hstart : P state)
    (hkeep : ∀ state move next, P state → state.conclusion? = none →
      state.Transition move next → P next) : P (state.after moves) := by
  induction moves generalizing state with
  | nil => exact hstart
  | cons move moves ih =>
    rw [after_cons]
    apply ih
    rcases step_cases state move with h | ⟨hrunning, h⟩
    · rw [h]
      exact hstart
    · exact hkeep state move _ hstart hrunning h

end State

end LoadHarness.Run
