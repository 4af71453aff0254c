import LoadHarness.Run.User

/-! What a step of a virtual user can be, said once.

    user.step setting shared outside = some stepped → user.Step setting shared stepped

`User.Step` has a case for each thing that can happen at a point of a user's life,
with all that the step leaves behind.  What follows about users goes through
these cases and never opens `User.step` again. -/

namespace LoadHarness.Run

/-- The hooks of a virtual user, as work that it can be in. -/
inductive UserHook where
  | setup
  | behaviour
  | teardown
deriving DecidableEq, Repr

namespace UserHook

/-- The kind of a hook. -/
def kind : UserHook → HookKind
  | setup => .userSetup
  | behaviour => .behaviour
  | teardown => .userTeardown

/-- The point of a user that is in a hook. -/
def point {V : Type} : UserHook → Begun V → Point V
  | setup => .setup
  | behaviour => .behaviour
  | teardown => .teardown

end UserHook

/-- The result of a hook that comes to its end without breaking off. -/
def resultOf (outcome : Except Failure Unit) : Except Fault Unit := outcome.mapError .failure

namespace User

variable {G V : Type}

/-- The note that a hook has come to its end. -/
def calledNote (user : User V) (hook : HookKind) (result : Except Fault Unit) : List Entry :=
  [.called user.party hook user.iteration result]

/-- What a step of a user is. -/
inductive Step (setting : Setting G V) (user : User V) (shared : Shared) : Stepped V → Prop where
  | acts (hook : UserHook) {action : Action} {next : Answer action → Begun V}
      {outside : Outside} {after : Shared} {desk : Desk} {answer : Answer action}
      (hpoint : user.point = hook.point (.act action next))
      (hperform : shared.perform user.desk outside action = some (after, desk, answer)) :
      Step setting user shared
        ⟨after, { user with connects := desk.connects, point := hook.point (next answer) },
          [.acted user.party user.iteration action]⟩
  | setUp {value : V} (hpoint : user.point = .setup (.done (.ok (), value))) :
      Step setting user shared
        ⟨shared, { user with value := value }.toCycle setting, user.calledNote .userSetup (.ok ())⟩
  | setupFailed {failure : Failure} {value : V}
      (hpoint : user.point = .setup (.done (.error (.failure failure), value))) :
      Step setting user shared
        ⟨shared.write user.party .error
            ("Agent setup failed for virtual user " ++ user.name ++ ": " ++ failure.report),
          { user with value := value, healthy := false }.toTeardown setting,
          user.calledNote .userSetup (.error (.failure failure))⟩
  | returned {outcome : Except Failure Unit} {value : V}
      (hpoint : user.point = .behaviour (.done (resultOf outcome, value))) :
      Step setting user shared
        ⟨shared, { user with value := value, point := .settle outcome },
          user.calledNote .behaviour (resultOf outcome)⟩
  | tornDown {value : V} (hpoint : user.point = .teardown (.done (.ok (), value))) :
      Step setting user shared
        ⟨shared, { user with value := value, point := .leave },
          user.calledNote .userTeardown (.ok ())⟩
  | teardownFailed {failure : Failure} {value : V}
      (hpoint : user.point = .teardown (.done (.error (.failure failure), value))) :
      Step setting user shared
        ⟨shared.write user.party .error
            ("Agent teardown failed for virtual user " ++ user.name ++ ": " ++ failure.report),
          { user with value := value, point := .leave },
          user.calledNote .userTeardown (.error (.failure failure))⟩
  | brokeOff (hook : UserHook) {text : String} {value : V}
      (hpoint : user.point = hook.point (.done (.error (.panic text), value))) :
      Step setting user shared
        ⟨{ user with value := value }.giveUp setting shared,
          { user with value := value, point := .panicked text },
          user.calledNote hook.kind (.error (.panic text))⟩
  | sawSignal (hpoint : user.point = .testSignal) (hsignal : shared.stopping = true) :
      Step setting user shared
        ⟨shared.write user.party .debug ("Stopping virtual user " ++ user.name),
          user.toTeardown setting, [.looked user.id user.iteration true]⟩
  | sawNoSignal (hpoint : user.point = .testSignal) (hsignal : shared.stopping = false) :
      Step setting user shared
        ⟨shared, { user with point := .testCap }, [.looked user.id user.iteration false]⟩
  | capped (hpoint : user.point = .testCap)
      (hcap : setting.options.iterations.any (· ≤ user.iteration) = true) :
      Step setting user shared
        ⟨shared.write user.party .debug
            ("Virtual user " ++ user.name ++ " reached its iteration cap"),
          user.toTeardown setting, []⟩
  | calls {hook : UserContext G → Hook V Unit} (hpoint : user.point = .testCap)
      (hcap : setting.options.iterations.any (· ≤ user.iteration) = false)
      (hbehaviour : setting.scenario.behaviour = some hook) :
      Step setting user shared
        ⟨shared, { user with point := .behaviour (user.begin setting hook) }, []⟩
  | lacksBehaviour (hpoint : user.point = .testCap)
      (hcap : setting.options.iterations.any (· ≤ user.iteration) = false)
      (hbehaviour : setting.scenario.behaviour = none) :
      Step setting user shared ⟨shared, user.toTeardown setting, []⟩
  | settled {outcome : Except Failure Unit} (hpoint : user.point = .settle outcome) :
      Step setting user shared
        ⟨(user.settle setting shared outcome).1, (user.settle setting shared outcome).2, []⟩
  | advanced (hpoint : user.point = .advance) :
      Step setting user shared
        ⟨shared, { user with
          iteration := user.iteration + 1
          point := if setting.options.pacing.isSome then .pace else .testSignal }, []⟩
  | paced (hpoint : user.point = .pace) :
      Step setting user shared ⟨shared, { user with point := .testSignal }, []⟩
  | left (hpoint : user.point = .leave) :
      Step setting user shared ⟨user.giveUp setting shared, { user with point := .ended }, []⟩

/-- What happens at the end of a hook, and what happens at every action of one. -/
theorem step_of_stepHook {setting : Setting G V} {user : User V} {shared : Shared}
    {outside : Outside} {stepped : Stepped V} {work : Begun V} (hook : UserHook)
    {finish : User V → Except Fault Unit → Stepped V} (hpoint : user.point = hook.point work)
    (h : user.stepHook shared outside work hook.point finish = some stepped)
    (hdone : ∀ result value, work = .done (result, value) →
      user.Step setting shared (finish { user with value := value } result)) :
    user.Step setting shared stepped := by
  cases work with
  | done last =>
    obtain ⟨result, value⟩ := last
    simp only [stepHook, Option.some.injEq] at h
    subst h
    exact hdone result value rfl
  | act action next =>
    rw [stepHook] at h
    split at h
    · cases h
    · rename_i after desk answer hperform
      simp only [Option.some.injEq] at h
      subst h
      exact .acts hook hpoint hperform

theorem step_cases {setting : Setting G V} {user : User V} {shared : Shared} {outside : Outside}
    {stepped : Stepped V} (h : user.step setting shared outside = some stepped) :
    user.Step setting shared stepped := by
  unfold step at h
  split at h
  · rename_i work hpoint
    refine step_of_stepHook .setup hpoint h fun result value hwork => ?_
    subst hwork
    match result with
    | .ok () => exact .setUp hpoint
    | .error (.failure failure) => exact .setupFailed hpoint
    | .error (.panic text) => exact .brokeOff .setup hpoint
  · rename_i hpoint
    split at h
    · rename_i hsignal
      simp only [Option.some.injEq] at h
      subst h
      rw [hsignal]
      exact .sawSignal hpoint hsignal
    · rename_i hsignal
      simp only [Bool.not_eq_true] at hsignal
      simp only [Option.some.injEq] at h
      subst h
      rw [hsignal]
      exact .sawNoSignal hpoint hsignal
  · rename_i hpoint
    split at h
    · rename_i hcap
      simp only [Option.some.injEq] at h
      subst h
      exact .capped hpoint hcap
    · rename_i hcap
      simp only [Bool.not_eq_true] at hcap
      split at h
      · rename_i hook hbehaviour
        simp only [Option.some.injEq] at h
        subst h
        exact .calls hpoint hcap hbehaviour
      · rename_i hbehaviour
        simp only [Option.some.injEq] at h
        subst h
        exact .lacksBehaviour hpoint hcap hbehaviour
  · rename_i work hpoint
    refine step_of_stepHook .behaviour hpoint h fun result value hwork => ?_
    subst hwork
    match result with
    | .ok () =>
      have hreturned : user.point = .behaviour (.done (resultOf (.ok ()), value)) := hpoint
      exact .returned hreturned
    | .error (.failure failure) =>
      have hreturned : user.point = .behaviour (.done (resultOf (.error failure), value)) := hpoint
      exact .returned hreturned
    | .error (.panic text) => exact .brokeOff .behaviour hpoint
  · rename_i outcome hpoint
    simp only [Option.some.injEq] at h
    subst h
    exact .settled hpoint
  · rename_i hpoint
    simp only [Option.some.injEq] at h
    subst h
    exact .advanced hpoint
  · rename_i hpoint
    simp only [Option.some.injEq] at h
    subst h
    exact .paced hpoint
  · rename_i work hpoint
    refine step_of_stepHook .teardown hpoint h fun result value hwork => ?_
    subst hwork
    match result with
    | .ok () => exact .tornDown hpoint
    | .error (.failure failure) => exact .teardownFailed hpoint
    | .error (.panic text) => exact .brokeOff .teardown hpoint
  · rename_i hpoint
    simp only [Option.some.injEq] at h
    subst h
    exact .left hpoint
  · cases h
  · cases h

end User

end LoadHarness.Run
