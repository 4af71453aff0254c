import LoadHarness.Proofs.Run.Users

/-! What holds of the work that a virtual user is in.

The hooks of a user begin with work, its actions leave less of it, and its end
leaves a value.  What the beginnings have, the actions keep and the ends hand on
to the value is said once (`Setting.Keeps`), and holds of the user for all its
life (`User.Working.step`).

Under two settings in which its hooks begin alike, a user goes the same ways
(`Setting.BeginAlike`). -/

namespace LoadHarness.Run

variable {G V : Type}

namespace UserHook

/-- What a scenario has a virtual user do in a hook. -/
def ofScenario (scenario : Scenario G V) : UserHook → Option (UserContext G → Hook V Unit)
  | setup => scenario.userSetup
  | behaviour => scenario.behaviour
  | teardown => scenario.userTeardown

theorem point_injective {hook other : UserHook} {work begun : Begun V}
    (h : hook.point work = other.point begun) : hook = other ∧ work = begun := by
  cases hook <;> cases other <;> cases h <;> exact ⟨rfl, rfl⟩

end UserHook

/-- A user with a good value, and with work of which `P` holds if it is in a hook. -/
structure User.Working (good : V → Prop) (P : UserHook → Nat → Begun V → Prop) (user : User V) :
    Prop where
  value : good user.value
  work : ∀ (hook : UserHook) (work : Begun V), user.point = hook.point work →
    P hook user.iteration work

/-- The hooks of user `id` begin, go on and end with what `good` and `P` say of values and work. -/
structure Setting.Keeps (setting : Setting G V) (id : Nat) (good : V → Prop)
    (P : UserHook → Nat → Begun V → Prop) : Prop where
  fresh : good setting.scenario.fresh
  begins : ∀ (hook : UserHook) body, hook.ofScenario setting.scenario = some body →
    ∀ iteration value, good value →
      P hook iteration ((body ⟨id, iteration, setting.options, setting.global⟩).run.run value)
  acts : ∀ (hook : UserHook) (iteration : Nat) {shared after : Shared} {desk later : Desk}
    {outside : Outside} {action : Action} {answer : Answer action}
    {next : Answer action → Begun V}, desk.party = .user id →
      shared.perform desk outside action = some (after, later, answer) →
        P hook iteration (.act action next) → P hook iteration (next answer)
  ends : ∀ (hook : UserHook) (iteration : Nat) result value,
    P hook iteration (.done (result, value)) → good value

namespace User.Working

variable {setting : Setting G V} {user : User V} {shared : Shared} {stepped : Stepped V}
  {good : V → Prop} {P : UserHook → Nat → Begun V → Prop}

theorem of_outside (hvalue : good user.value)
    (h : ∀ (hook : UserHook) (work : Begun V), user.point ≠ hook.point work) :
    user.Working good P :=
  ⟨hvalue, fun hook work hpoint => absurd hpoint (h hook work)⟩

theorem begin (hook : UserHook) (hkeeps : setting.Keeps user.id good P) (hvalue : good user.value)
    {body : UserContext G → Hook V Unit} (hbody : hook.ofScenario setting.scenario = some body)
    (hpoint : user.point = hook.point (user.begin setting body)) : user.Working good P := by
  refine ⟨hvalue, fun other work h => ?_⟩
  obtain ⟨rfl, rfl⟩ := UserHook.point_injective (hpoint.symm.trans h)
  exact hkeeps.begins hook body hbody user.iteration user.value hvalue

theorem toTeardown (hkeeps : setting.Keeps user.id good P) (hvalue : good user.value) :
    (user.toTeardown setting).Working good P := by
  obtain ⟨point, heq, ⟨body, hbody, rfl⟩ | ⟨-, rfl⟩⟩ := user.toTeardown_cases setting
  · rw [heq]
    exact .begin .teardown hkeeps hvalue hbody rfl
  · rw [heq]
    exact .of_outside hvalue fun hook _ => by cases hook <;> exact nofun

theorem toCycle (hkeeps : setting.Keeps user.id good P) (hvalue : good user.value) :
    (user.toCycle setting).Working good P := by
  rcases user.toCycle_cases setting with ⟨-, -, heq⟩ | ⟨-, heq⟩
  · rw [heq]
    exact .of_outside hvalue fun hook _ => by cases hook <;> exact nofun
  · rw [heq]
    exact .toTeardown hkeeps hvalue

theorem start {id : Nat} (hkeeps : setting.Keeps id good P) :
    (User.start setting id).Working good P := by
  unfold User.start
  split
  · rename_i body hbody
    exact .begin .setup hkeeps hkeeps.fresh hbody rfl
  · exact .toCycle hkeeps hkeeps.fresh

theorem step (h : user.Working good P) (hkeeps : setting.Keeps user.id good P)
    (hstep : user.Step setting shared stepped) : stepped.user.Working good P := by
  have hend : ∀ (hook : UserHook) {result value},
      user.point = hook.point (.done (result, value)) → good value :=
    fun hook {_ _} hpoint => hkeeps.ends hook user.iteration _ _ (h.work hook _ hpoint)
  cases hstep with
  | acts hook hpoint hperform =>
    refine ⟨h.value, fun other work heq => ?_⟩
    obtain ⟨rfl, rfl⟩ := UserHook.point_injective heq.symm
    exact hkeeps.acts _ _ rfl hperform (h.work _ _ hpoint)
  | setUp hpoint => exact .toCycle hkeeps (hend .setup hpoint)
  | setupFailed hpoint => exact .toTeardown hkeeps (hend .setup hpoint)
  | returned hpoint =>
    exact .of_outside (hend .behaviour hpoint) fun hook _ => by cases hook <;> exact nofun
  | tornDown hpoint | teardownFailed hpoint =>
    exact .of_outside (hend .teardown hpoint) fun hook _ => by cases hook <;> exact nofun
  | brokeOff other hpoint =>
    exact .of_outside (hend other hpoint) fun hook _ => by cases hook <;> exact nofun
  | sawSignal | capped | lacksBehaviour => exact .toTeardown hkeeps h.value
  | calls hpoint hcap hbody => exact .begin .behaviour hkeeps h.value hbody rfl
  | settled =>
    rw [User.settle_user]
    split
    · exact .toTeardown hkeeps h.value
    · exact .of_outside h.value fun hook _ => by cases hook <;> exact nofun
  | advanced =>
    refine .of_outside h.value fun hook _ => ?_
    cases setting.options.pacing.isSome <;> cases hook <;> exact nofun
  | sawNoSignal | paced | left =>
    exact .of_outside h.value fun hook _ => by cases hook <;> exact nofun

end User.Working

/-! ## Hooks that begin alike -/

/-- Two settings under which the users that `who` picks have the same value to begin with, and begin
every hook in the same way. -/
structure Setting.BeginAlike (setting other : Setting G V) (who : Nat → Prop) : Prop where
  fresh : other.scenario.fresh = setting.scenario.fresh
  hooks : ∀ hook : UserHook, Option.Rel
    (fun body body' => ∀ user : User V, who user.id →
      user.begin other body' = user.begin setting body)
    (hook.ofScenario setting.scenario) (hook.ofScenario other.scenario)

namespace Setting.BeginAlike

variable {setting other : Setting G V} {who : Nat → Prop} {user : User V}

/-- Both settings lack a hook, or have one that begins in the same way. -/
theorem hook_cases (h : setting.BeginAlike other who) (hook : UserHook) :
    hook.ofScenario setting.scenario = none ∧ hook.ofScenario other.scenario = none ∨
      ∃ body body', hook.ofScenario setting.scenario = some body ∧
        hook.ofScenario other.scenario = some body' ∧
        ∀ user : User V, who user.id → user.begin other body' = user.begin setting body := by
  have hhook := h.hooks hook
  generalize hbody : hook.ofScenario setting.scenario = installed at hhook
  generalize hbody' : hook.ofScenario other.scenario = installed' at hhook
  cases hhook with
  | none => exact .inl ⟨rfl, rfl⟩
  | some hbegin => exact .inr ⟨_, _, rfl, rfl, hbegin⟩

theorem toTeardown (h : setting.BeginAlike other who) (hwho : who user.id) :
    user.toTeardown other = user.toTeardown setting := by
  rcases h.hook_cases .teardown with ⟨hnone, hnone'⟩ | ⟨body, body', hbody, hbody', hbegin⟩
  · simp only [UserHook.ofScenario] at hnone hnone'
    simp only [User.toTeardown, hnone, hnone']
  · simp only [UserHook.ofScenario] at hbody hbody'
    simp only [User.toTeardown, hbody, hbody', hbegin user hwho]

theorem toCycle (h : setting.BeginAlike other who) (hwho : who user.id) :
    user.toCycle other = user.toCycle setting := by
  have hinstalled : other.scenario.behaviour.isSome = setting.scenario.behaviour.isSome := by
    rcases h.hook_cases .behaviour with ⟨hnone, hnone'⟩ | ⟨body, body', hbody, hbody', -⟩
    · simp only [UserHook.ofScenario] at hnone hnone'
      rw [hnone, hnone']
    · simp only [UserHook.ofScenario] at hbody hbody'
      rw [hbody, hbody', Option.isSome_some, Option.isSome_some]
  rw [User.toCycle, User.toCycle, hinstalled, h.toTeardown hwho]

theorem start (h : setting.BeginAlike other who) {id : Nat} (hwho : who id) :
    User.start other id = User.start setting id := by
  rcases h.hook_cases .setup with ⟨hnone, hnone'⟩ | ⟨body, body', hbody, hbody', hbegin⟩
  · simp only [UserHook.ofScenario] at hnone hnone'
    simp only [User.start, hnone, hnone', h.fresh]
    exact h.toCycle hwho
  · simp only [UserHook.ofScenario] at hbody hbody'
    simp only [User.start, hbody, hbody', h.fresh]
    rw [hbegin _ hwho]

end Setting.BeginAlike

end LoadHarness.Run
