import LoadHarness.Proofs.Run.Commutation
import LoadHarness.Proofs.Run.Trace

/-! A virtual user by itself.

A hook that only does what is its own is told nothing of the others: the answers
to its actions are settled by its own desk.  A user with such hooks does the same
in every run, as long as it sees no signal: what it does is `User.solo`, one step
after the other, with the pauses left out (`User.Step.solo`). -/

namespace LoadHarness

/-! ## Work that is its own -/

/-- Whether an action tells a party nothing of the others and touches nothing of theirs. -/
def Action.Own (party : Party) : Action → Prop
  | .log .. | .check .. | .connect _ | .stop | .sleep _ | .report _ => True
  | .disconnect token => token.owner = party
  | .stopping | .awaitStop | .phase | .counts | .now | .ask _ => False

/-- Whether an answer names nothing that is not the party's own. -/
def Answer.Own (party : Party) (action : Action) (answer : Answer action) : Prop :=
  match action, answer with
  | .connect _, token => (show Token from token).owner = party
  | _, _ => True

/-- Work of nothing but actions of the party's own, that ends with a good value. -/
def Work.Own {α : Type} (party : Party) (good : α → Prop) : Work α → Prop
  | .done value => good value
  | .act action next =>
    action.Own party ∧ ∀ answer, answer.Own party action → (next answer).Own party good

namespace Run

theorem perform_own {shared after : Shared} {desk next : Desk} {outside : Outside}
    {action : Action} {answer : Answer action} (hown : action.Own desk.party)
    (h : shared.perform desk outside action = some (after, next, answer)) :
    answer.Own desk.party action ∧ ∀ (other : Shared) (elsewhere : Outside),
      ∃ after, other.perform desk elsewhere action = some (after, next, answer) := by
  cases action with
  | connect leaked =>
    cases h
    exact ⟨rfl, fun _ _ => ⟨_, rfl⟩⟩
  | log | check | disconnect | stop | sleep | report =>
    cases h
    exact ⟨trivial, fun _ _ => ⟨_, rfl⟩⟩
  | stopping | awaitStop | phase | counts | now | ask => exact hown.elim

theorem ownedBy_actionDeed {desk : Desk} {id : Nat} {action : Action}
    (hdesk : desk.party = .user id) (hown : action.Own desk.party) :
    (actionDeed desk action).OwnedBy id := by
  cases action with
  | check name passed =>
    simp only [actionDeed, Deed.OwnedBy, Desk.stamp, hdesk]
  | connect leaked => exact hdesk
  | disconnect token =>
    intro other hother
    rw [beq_iff_eq.mp hother]
    exact hown.trans hdesk
  | log | stop | sleep | report => trivial
  | stopping | awaitStop | phase | counts | now | ask => exact hown.elim

section

variable {G V : Type}

/-- The hooks of virtual users do nothing but what is their own: each depends on the id of its user,
the iteration, the options, the value of the run and the value of the user alone.  `own` says which
values a user can have. -/
structure Local (scenario : Scenario G V) (options : Options) (own : Nat → V → Prop) : Prop where
  fresh : ∀ id, own id scenario.fresh
  hooks : ∀ (hook : UserHook) body, hook.ofScenario scenario = some body →
    ∀ id iteration global value, own id value →
      ((body ⟨id, iteration, options, global⟩).run.run value).Own (.user id) fun last =>
        own id last.2

/-- A user with a value of its own and work of its own. -/
structure Tame (own : Nat → V → Prop) (user : User V) : Prop where
  value : own user.id user.value
  work : ∀ (hook : UserHook) (work : Begun V), user.point = hook.point work →
    work.Own (.user user.id) fun last => own user.id last.2

variable {own : Nat → V → Prop} {setting : Setting G V} {user : User V} {shared : Shared}
  {stepped : Stepped V}

theorem Tame.of_outside (hvalue : own user.id user.value)
    (h : ∀ (hook : UserHook) (work : Begun V), user.point ≠ hook.point work) : Tame own user :=
  ⟨hvalue, fun hook work hpoint => absurd hpoint (h hook work)⟩

theorem Local.keeps (hlocal : Local setting.scenario setting.options own) (id : Nat) :
    setting.Keeps id (own id) fun _ _ work => work.Own (.user id) fun last => own id last.2 where
  fresh := hlocal.fresh id
  begins := fun hook body hbody iteration value hvalue =>
    hlocal.hooks hook body hbody id iteration setting.global value hvalue
  acts := by
    rintro hook iteration _ _ desk _ _ _ answer _ hdesk hperform ⟨haction, hnext⟩
    rw [← hdesk] at haction
    have hanswer := (perform_own haction hperform).1
    rw [hdesk] at hanswer
    exact hnext answer hanswer
  ends := fun _ _ _ _ h => h

theorem Tame.start (hlocal : Local setting.scenario setting.options own) (id : Nat) :
    Tame own (User.start setting id) := by
  have hworking := User.Working.start (hlocal.keeps id)
  have hid := User.id_start setting id
  generalize User.start setting id = user at hworking hid ⊢
  subst hid
  exact ⟨hworking.value, hworking.work⟩

theorem Tame.step (h : Tame own user) (hlocal : Local setting.scenario setting.options own)
    (hstep : user.Step setting shared stepped) : Tame own stepped.user := by
  have hworking := User.Working.step ⟨h.value, h.work⟩ (hlocal.keeps user.id) hstep
  rw [← hstep.id] at hworking
  exact ⟨hworking.value, hworking.work⟩

/-- All that a tame user enters in the books is its own. -/
theorem Tame.ownedBy_deed (h : Tame own user) : user.deed.OwnedBy user.id := by
  have hacts : ∀ (hook : UserHook) (action : Action) (next : Answer action → Begun V),
      user.point = hook.point (.act action next) → (actionDeed user.desk action).OwnedBy user.id :=
    fun hook action next hpoint => ownedBy_actionDeed rfl (h.work hook _ hpoint).1
  have hkeeps : (Deed.closed user.keeps).OwnedBy user.id := by
    intro token htoken
    rw [User.keeps, Bool.and_eq_true, beq_iff_eq] at htoken
    exact htoken.1
  unfold User.deed
  split
  · rename_i action next hpoint
    exact hacts .setup action next hpoint
  · rename_i action next hpoint
    exact hacts .behaviour action next hpoint
  · rename_i action next hpoint
    exact hacts .teardown action next hpoint
  · exact hkeeps
  · exact hkeeps
  · exact hkeeps
  · exact hkeeps
  · split <;> trivial
  · trivial

/-! ## The same hooks under other options -/

/-- Two settings in which users do the same: they differ at most in the pauses between iterations,
and no hook makes anything of that. -/
structure Setting.Agrees (setting other : Setting G V) : Prop where
  scenario : other.scenario = setting.scenario
  options : other.options = { setting.options with pacing := other.options.pacing }
  begin : ∀ (hook : UserHook) body, hook.ofScenario setting.scenario = some body →
    ∀ user : User V, user.begin other body = user.begin setting body

namespace Setting.Agrees

variable {other : Setting G V}

theorem refl (setting : Setting G V) : setting.Agrees setting := ⟨rfl, rfl, fun _ _ _ _ => rfl⟩

theorem beginAlike (h : setting.Agrees other) : setting.BeginAlike other fun _ => True where
  fresh := by rw [h.scenario]
  hooks := by
    intro hook
    rw [h.scenario]
    cases hbody : hook.ofScenario setting.scenario with
    | none => exact .none
    | some body => exact .some fun user _ => h.begin hook body hbody user

theorem iterations (h : setting.Agrees other) :
    other.options.iterations = setting.options.iterations := by
  rw [h.options]

end Setting.Agrees

/-! ## The solo run -/

/-- A state of the run in which no signal is raised. -/
def Shared.quiet : Shared := .start "" default

/-- A user past its pause, if it is in one. -/
def User.rested (user : User V) : User V :=
  match user.point with
  | .pace => { user with point := .testSignal }
  | _ => user

/-- The next step of a user by itself, with no signal and no pauses. -/
def User.solo (setting : Setting G V) (user : User V) : User V :=
  match user.step setting .quiet .offline with
  | some stepped => stepped.user.rested
  | none => user

theorem rested_of_ne_pace (h : user.point ≠ .pace) : user.rested = user := by
  unfold User.rested
  split
  · rename_i hpoint
    exact absurd hpoint h
  · rfl

theorem Tame.rested (h : Tame own user) : Tame own user.rested := by
  unfold User.rested
  split
  · exact .of_outside h.value fun hook _ => by cases hook <;> exact nofun
  · exact h

theorem rested_toTeardown (setting : Setting G V) (user : User V) :
    (user.toTeardown setting).rested = user.toTeardown setting := by
  obtain ⟨point, heq, ⟨_, -, rfl⟩ | ⟨-, rfl⟩⟩ := user.toTeardown_cases setting
  · rw [heq]
    rfl
  · rw [heq]
    rfl

theorem rested_toCycle (setting : Setting G V) (user : User V) :
    (user.toCycle setting).rested = user.toCycle setting := by
  rcases user.toCycle_cases setting with ⟨-, -, heq⟩ | ⟨-, heq⟩
  · rw [heq]
    rfl
  · rw [heq]
    exact rested_toTeardown setting user

theorem rested_start (setting : Setting G V) (id : Nat) :
    (User.start setting id).rested = User.start setting id := by
  unfold User.start
  split
  · rfl
  · exact rested_toCycle setting _

theorem Tame.solo (h : Tame own user) (hlocal : Local setting.scenario setting.options own) :
    Tame own (user.solo setting) := by
  unfold User.solo
  split
  · rename_i hstep
    exact (h.step hlocal (User.step_cases hstep)).rested
  · exact h

/-- A tame user that is not in a pause and sees no signal does in every run what it does by
itself. -/
theorem User.Step.solo {other : Setting G V} (hagrees : setting.Agrees other)
    (hstep : user.Step other shared stepped) (htame : Tame own user) (hpace : user.point ≠ .pace)
    (hquiet : user.point = .testSignal → shared.stopping = false) :
    user.solo setting = stepped.user.rested := by
  have hteardown : ∀ later : User V, later.toTeardown other = later.toTeardown setting :=
    fun _ => hagrees.beginAlike.toTeardown trivial
  cases hstep with
  | acts hook hpoint hperform =>
    obtain ⟨haction, -⟩ := htame.work hook _ hpoint
    obtain ⟨after, hquietly⟩ := (perform_own haction hperform).2 .quiet .offline
    rw [User.solo]
    cases hook <;>
      (simp only [UserHook.point] at hpoint
       simp only [User.step, hpoint, User.stepHook, hquietly]
       rfl)
  | setUp hpoint =>
    rw [User.solo]
    simp only [User.step, hpoint, User.stepHook, hagrees.beginAlike.toCycle trivial]
  | setupFailed hpoint =>
    rw [User.solo]
    simp only [User.step, hpoint, User.stepHook, hteardown]
  | returned hpoint =>
    rename_i outcome value
    rw [User.solo]
    cases outcome <;> simp only [User.step, hpoint, User.stepHook, resultOf, Except.mapError]
  | tornDown hpoint | teardownFailed hpoint =>
    rw [User.solo]
    simp only [User.step, hpoint, User.stepHook]
  | brokeOff hook hpoint =>
    rw [User.solo]
    cases hook <;>
      (simp only [UserHook.point] at hpoint
       simp only [User.step, hpoint, User.stepHook, User.breakOff])
  | sawSignal hpoint hsignal =>
    rw [hquiet hpoint] at hsignal
    cases hsignal
  | sawNoSignal hpoint =>
    rw [User.solo]
    simp only [User.step, hpoint, Shared.quiet, Shared.start, Bool.false_eq_true, if_false]
  | capped hpoint hcap =>
    rw [hagrees.iterations] at hcap
    rw [User.solo]
    simp only [User.step, hpoint, hcap, if_true, hteardown]
  | calls hpoint hcap hbody =>
    rw [hagrees.iterations] at hcap
    rw [hagrees.scenario] at hbody
    rw [User.solo]
    simp only [User.step, hpoint, hcap, hbody, Bool.false_eq_true, if_false,
      hagrees.begin .behaviour _ hbody]
  | lacksBehaviour hpoint hcap hnone =>
    rw [hagrees.iterations] at hcap
    rw [hagrees.scenario] at hnone
    rw [User.solo]
    simp only [User.step, hpoint, hcap, hnone, Bool.false_eq_true, if_false, hteardown]
  | settled hpoint =>
    rw [User.solo]
    simp only [User.step, hpoint, User.settle_user, hteardown]
  | advanced hpoint =>
    rw [User.solo]
    simp only [User.step, hpoint]
    cases setting.options.pacing.isSome <;> cases other.options.pacing.isSome <;> rfl
  | paced hpoint => exact absurd hpoint hpace
  | left hpoint =>
    rw [User.solo]
    simp only [User.step, hpoint]

theorem User.id_rested (user : User V) : user.rested.id = user.id := by
  unfold User.rested
  split <;> rfl

theorem User.id_solo (setting : Setting G V) (user : User V) :
    (user.solo setting).id = user.id := by
  unfold User.solo
  split
  · rename_i hstep
    rw [User.id_rested, (User.step_cases hstep).id]
  · rfl

/-- A user after so many steps by itself. -/
def orbit (setting : Setting G V) (id : Nat) : Nat → User V
  | 0 => .start setting id
  | n + 1 => (orbit setting id n).solo setting

theorem id_orbit (setting : Setting G V) (id n : Nat) : (orbit setting id n).id = id := by
  induction n with
  | zero => exact User.id_start setting id
  | succ n ih => rw [orbit, User.id_solo, ih]

theorem tame_orbit (hlocal : Local setting.scenario setting.options own) (id n : Nat) :
    Tame own (orbit setting id n) := by
  induction n with
  | zero => exact .start hlocal id
  | succ n ih => exact ih.solo hlocal

/-- What a user by itself enters in the books in its first steps. -/
def deeds (setting : Setting G V) (id n : Nat) : List (Nat × Deed) :=
  (List.range n).map fun i => (id, (orbit setting id i).deed)

theorem deeds_succ (setting : Setting G V) (id n : Nat) :
    deeds setting id (n + 1) = deeds setting id n ++ [(id, (orbit setting id n).deed)] := by
  rw [deeds, List.range_succ, List.map_append]
  rfl

/-- The solo run of a user has one end. -/
theorem orbit_unique {id n m : Nat} (hn : (orbit setting id n).isOver = true)
    (hm : (orbit setting id m).isOver = true)
    (hbefore : ∀ i < n, (orbit setting id i).isOver = false)
    (hbefore' : ∀ i < m, (orbit setting id i).isOver = false) : n = m := by
  apply Nat.le_antisymm
  · by_contra hlt
    rw [hbefore m (Nat.lt_of_not_le hlt)] at hm
    cases hm
  · by_contra hlt
    rw [hbefore' n (Nat.lt_of_not_le hlt)] at hn
    cases hn

end

end Run

end LoadHarness
