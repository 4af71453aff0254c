import LoadHarness.Proofs.Run.Visits
import LoadHarness.Proofs.Work.Only

/-! What the hooks of the run itself do, and what its setup hands on.

The hooks of the run ask whatever they like of the network, so what its setup leaves behind is
not settled by the scenario.  It is settled as far as every end of the setup is good
(`Provides`): then users find a good value, whatever the network has replied
(`State.equipped_after`).  And what the hooks of the run keep to is all that is noted of it
(`State.which_of_acted`). -/

namespace LoadHarness

namespace Run

variable {G V : Type}

/-- The hooks of the run keep to some actions, and whenever its setup comes to its end in good order
it leaves a good value to the users. -/
structure Provides (scenario : Scenario G V) (options : Options) (which : Action → Prop)
    (good : G → Prop) : Prop where
  setup : ∀ body, scenario.setup = some body → Hook.Only which (body ⟨options⟩)
  teardown : ∀ body, scenario.teardown = some body → Hook.Only which (body ⟨options⟩)
  given : ∀ body taken value, scenario.setup = some body →
    Hook.Takes (body ⟨options⟩) scenario.global taken (.ok ()) value → good value
  untouched : scenario.setup = none → good scenario.global

namespace State

variable {scenario : Scenario G V} {options : Options} {which : Action → Prop} {good : G → Prop}
  {state next : State G V} {move : Move}

/-- What is left to the hooks of the run, and what its setup has handed on. -/
def Provided (scenario : Scenario G V) (options : Options) (which : Action → Prop)
    (good : G → Prop) (state : State G V) : Prop :=
  match state.stage with
  | .setup work => ∃ body taken, scenario.setup = some body ∧
    ((body ⟨options⟩).run.run scenario.global).Leaves taken work
  | .start | .launch | .announce | .join => good state.global
  | .teardown work => work.Only which
  | .halt | .finish | .readOpened | .readClosed _ | .over _ => True

theorem provided_start (h : Provides scenario options which good) (startedAt : Int) :
    (State.start scenario options startedAt).Provided scenario options which good := by
  unfold Provided State.start
  cases hsetup : scenario.setup with
  | none => exact h.untouched hsetup
  | some body => exact ⟨body, [], rfl, .start _⟩

theorem provided_concludeTeardown (state : State G V) :
    state.concludeTeardown.Provided scenario options which good := by
  unfold concludeTeardown
  split <;> trivial

theorem Provided.keep (h : state.Provided scenario options which good)
    (hprovides : Provides scenario options which good) (hscenario : state.scenario = scenario)
    (hoptions : state.options = options) (hstaged : state.Staged)
    (htransition : state.Transition move next) :
    next.Provided scenario options which good := by
  cases htransition with
  | user huser hstep =>
    rcases stage_of_step hstaged huser (User.step_cases hstep) with hstage | hstage | hstage <;>
      (simp only [Provided, put, note, hstage] at h ⊢
       exact h)
  | acts hook hstage hperform =>
    cases hook with
    | setup =>
      simp only [Provided, hstage, RunHook.stage] at h
      obtain ⟨body, taken, hbody, hleaves⟩ := h
      exact ⟨body, _, hbody, hleaves.concat _⟩
    | teardown =>
      simp only [Provided, hstage, RunHook.stage] at h
      exact h.2 _
  | setUp hstage =>
    simp only [Provided, hstage] at h
    obtain ⟨body, taken, hbody, hleaves⟩ := h
    exact hprovides.given body taken _ hbody hleaves.takes_of_done
  | launched hstage =>
    simp only [Provided, hstage] at h ⊢
    exact h
  | started hstage | launchedAll hstage | announced hstage =>
    simp only [Provided, hstage] at h
    exact h
  | finished hstage =>
    unfold toTeardown
    split
    · rename_i body hbody
      subst hscenario hoptions
      exact hprovides.teardown body hbody _
    · exact provided_concludeTeardown _
  | tornDown | teardownFailed => exact provided_concludeTeardown _
  | setupFailed | brokeOff | joined | halted | readOpened | concluded => trivial
  | deadline | interrupt | drain | backgroundOpen | backgroundClose => exact h

theorem provided_after (hprovides : Provides scenario options which good) (startedAt : Int)
    (moves : List Move) :
    ((State.start scenario options startedAt).after moves).Provided scenario options which
      good := by
  induction moves using List.reverseRecOn with
  | nil => exact provided_start hprovides startedAt
  | append_singleton moves move ih =>
    obtain ⟨hscenario, hoptions, -⟩ := fixed_after (start scenario options startedAt) moves
    rw [after_append, after_cons, after_nil]
    rcases step_cases ((start scenario options startedAt).after moves) move with heq | ⟨-, h⟩
    · rw [heq]
      exact ih
    · exact ih.keep hprovides hscenario hoptions (staged_after scenario options startedAt moves) h

/-- Whoever begins a hook finds a good value of the run. -/
theorem equipped_after (hprovides : Provides scenario options which good) (startedAt : Int)
    (moves : List Move) :
    ((State.start scenario options startedAt).after moves).Equipped good := by
  have hprovided := provided_after hprovides startedAt moves
  have hstaged := staged_after scenario options startedAt moves
  intro hbegins
  have hstage := hbegins.elim (stage_of_living hstaged) .inl
  rcases hstage with hstage | hstage | hstage <;>
    (simp only [Provided, hstage] at hprovided
     exact hprovided)

/-- A transition notes no action of the run but one that its hooks keep to. -/
theorem Transition.which_of_acted (h : state.Transition move next)
    (hprovided : state.Provided scenario options which good)
    (hprovides : Provides scenario options which good)
    (hacted : ∀ iteration action, .acted .run iteration action ∈ state.history → which action) :
    ∀ iteration action, .acted .run iteration action ∈ next.history → which action := by
  have hquiet : ∀ {entries : List Entry}, next.history = state.history ++ entries →
      (∀ iteration action, Entry.acted .run iteration action ∈ entries → which action) →
      ∀ iteration action, .acted .run iteration action ∈ next.history → which action := by
    intro entries hhistory hentries iteration action hmem
    rw [hhistory] at hmem
    exact (List.mem_append.mp hmem).elim (hacted iteration action) (hentries iteration action)
  cases h with
  | user huser hstep =>
    refine hquiet (history_put _ _ _) fun iteration action hmem => ?_
    cases (User.step_cases hstep).entries _ hmem
  | acts hook hstage hperform =>
    refine hquiet (history_note _ _) fun iteration action hmem => ?_
    cases List.mem_singleton.mp hmem
    cases hook with
    | setup =>
      simp only [Provided, hstage, RunHook.stage] at hprovided
      obtain ⟨body, taken, hbody, hleaves⟩ := hprovided
      have honly := hprovides.setup body hbody scenario.global
      exact (honly.of_leaves hleaves).2.1
    | teardown =>
      simp only [Provided, hstage, RunHook.stage] at hprovided
      exact hprovided.1
  | setUp | setupFailed | brokeOff | concluded =>
    refine hquiet (history_note _ _) fun iteration action hmem => ?_
    cases List.mem_singleton.mp hmem
  | tornDown | teardownFailed =>
    refine hquiet ((history_concludeTeardown _).trans (history_note _ _))
      fun iteration action hmem => ?_
    cases List.mem_singleton.mp hmem
  | finished =>
    exact hquiet ((history_toTeardown _).trans (List.append_nil _).symm)
      fun _ _ hmem => absurd hmem List.not_mem_nil
  | started | launched | launchedAll | announced | joined | halted | readOpened | deadline
  | interrupt | drain | backgroundOpen | backgroundClose => exact hacted

/-- What the run itself has done, its hooks keep to. -/
theorem which_of_acted (hprovides : Provides scenario options which good) (startedAt : Int)
    (moves : List Move) :
    ∀ iteration action, .acted .run iteration action ∈
      ((State.start scenario options startedAt).after moves).history → which action := by
  induction moves using List.reverseRecOn with
  | nil => exact fun _ _ hmem => absurd hmem List.not_mem_nil
  | append_singleton moves move ih =>
    have hprovided := provided_after hprovides startedAt moves
    rw [after_append, after_cons, after_nil]
    rcases step_cases ((start scenario options startedAt).after moves) move with heq | ⟨-, h⟩
    · rw [heq]
      exact ih
    · exact h.which_of_acted hprovided hprovides ih

end State

end Run

end LoadHarness
