import LoadHarness.Proofs.Run.Stages

/-! The value that the setup of a run gives to the virtual users.

A setup may ask for whatever it likes, so that it is not settled by the scenario what it comes to.
But a run gives its users a value once, if at all, and keeps to that:

    state.given? (first ++ second) = (state.given? first).or ((state.after first).given? second)
                                                                          (State.given?_append)

So at every stage it is known whether a value was given, and as long as there are users that go on
it is the value of the run (`State.given_after`). -/

namespace LoadHarness.Run.State

variable {G V : Type} {state next : State G V} {move : Move} {moves : List Move} {given : Option G}

/-- The value that a run is about to give to its virtual users. -/
def giving? (state : State G V) : Option G :=
  match state.stage with
  | .start => some state.global
  | _ => none

/-- The value that a run gives to its virtual users in the course of some moves, if its setup comes
to its end in good order. -/
def given? (state : State G V) : List Move → Option G
  | [] => state.giving?
  | move :: moves => state.giving?.or ((state.step move).given? moves)

theorem giving?_or_given? (state : State G V) (moves : List Move) :
    state.giving?.or (state.given? moves) = state.given? moves := by
  cases moves <;> cases h : state.giving? <;> simp [given?, h]

theorem given?_append (state : State G V) (first second : List Move) :
    state.given? (first ++ second) =
      (state.given? first).or ((state.after first).given? second) := by
  induction first generalizing state with
  | nil => exact (giving?_or_given? state second).symm
  | cons move first ih =>
    rw [List.cons_append, given?, given?, ih, after_cons, Option.or_assoc]

/-- What is known at each stage of the value that was given to virtual users. -/
def Given (given : Option G) (state : State G V) : Prop :=
  match state.stage with
  | .setup _ | .over (.failed _) => given = none
  | .start | .launch | .announce | .join => given = some state.global
  | .over (.panicked _) =>
    given = none ∧ state.users = [] ∨
      given.isSome = true ∧ state.users.length = state.options.virtualUsers
  | .halt | .finish | .teardown _ | .readOpened | .readClosed _ | .over (.crashed _)
  | .over (.finished _) => given.isSome = true

/-- To be about to give a value is to have given it. -/
theorem Given.or_giving? (h : state.Given given) : given.or state.giving? = given := by
  cases hstage : state.stage with
  | start =>
    simp only [Given, hstage] at h
    rw [h, Option.some_or]
  | setup | launch | announce | join | halt | finish | teardown | readOpened | readClosed | «over» =>
    rw [giving?, hstage, Option.or_none]

theorem given_start (scenario : Scenario G V) (options : Options) (startedAt : Int) :
    (State.start scenario options startedAt).Given
      (State.start scenario options startedAt).giving? := by
  unfold Given giving? State.start
  cases scenario.setup <;> rfl

theorem given_concludeTeardown (h : given.isSome = true) : state.concludeTeardown.Given given := by
  unfold concludeTeardown
  split <;> exact h

theorem given_toTeardown (h : given.isSome = true) : state.toTeardown.Given given := by
  unfold toTeardown
  split
  · exact h
  · exact given_concludeTeardown h

/-- A transition gives a value, or keeps to what was given before. -/
theorem Given.keep (h : state.Given given) (hstaged : state.Staged)
    (htransition : state.Transition move next) :
    next.Given given ∨ given = none ∧ next.Given next.giving? := by
  cases htransition with
  | setUp hstage =>
    simp only [Given, hstage] at h
    exact .inr ⟨h, rfl⟩
  | user huser hstep =>
    refine .inl ?_
    rcases stage_of_step hstaged huser (User.step_cases hstep) with hstage | hstage | hstage <;>
      (simp only [Given, put, note, hstage] at h ⊢
       exact h)
  | acts hook hstage =>
    cases hook <;> (simp only [Given, hstage] at h; exact .inl h)
  | brokeOff hook hstage =>
    cases hook with
    | setup =>
      simp only [Given, Staged, hstage] at h hstaged
      exact .inl (.inl ⟨h, hstaged⟩)
    | teardown =>
      simp only [Given, Staged, hstage] at h hstaged
      exact .inl (.inr ⟨h, hstaged.1⟩)
  | joined hstage =>
    simp only [Given, hstage] at h
    refine .inl ?_
    simp only [Given, h, Option.isSome_some]
  | finished hstage =>
    simp only [Given, hstage] at h
    exact .inl (given_toTeardown h)
  | tornDown hstage | teardownFailed hstage =>
    simp only [Given, hstage] at h
    exact .inl (given_concludeTeardown h)
  | launched hstage =>
    simp only [Given, hstage] at h ⊢
    exact .inl h
  | setupFailed hstage | started hstage | launchedAll hstage | announced hstage | halted hstage
  | readOpened hstage | concluded hstage =>
    simp only [Given, hstage] at h
    exact .inl h
  | deadline | interrupt | drain | backgroundOpen | backgroundClose => exact .inl h

theorem Given.after (h : state.Given given) (hstaged : state.Staged) (moves : List Move) :
    (state.after moves).Given (given.or (state.given? moves)) := by
  induction moves generalizing state given with
  | nil =>
    rw [after_nil, given?, h.or_giving?]
    exact h
  | cons move moves ih =>
    rw [after_cons, given?, ← Option.or_assoc, h.or_giving?]
    rcases step_cases state move with heq | ⟨-, htransition⟩
    · rw [heq]
      exact ih h hstaged
    · rcases h.keep hstaged htransition with hnext | ⟨rfl, hnext⟩
      · exact ih hnext (hstaged.keep htransition)
      · have hlater := ih hnext (hstaged.keep htransition)
        rw [giving?_or_given?] at hlater
        exact hlater

theorem given_after (scenario : Scenario G V) (options : Options) (startedAt : Int)
    (moves : List Move) :
    ((State.start scenario options startedAt).after moves).Given
      ((State.start scenario options startedAt).given? moves) := by
  have h := (given_start scenario options startedAt).after
    (staged_start scenario options startedAt) moves
  rw [giving?_or_given?] at h
  exact h

/-- While users go on, the run has the value that was given to them. -/
theorem Given.eq_some (h : state.Given given)
    (hstage : state.stage = .launch ∨ state.stage = .announce ∨ state.stage = .join) :
    given = some state.global := by
  rcases hstage with hstage | hstage | hstage <;>
    (simp only [Given, hstage] at h
     exact h)

/-- At every moment at which users go on, the run has the value that it has given in all. -/
theorem global_of_given? {scenario : Scenario G V} {options : Options} {startedAt : Int} {g : G}
    {front : List Move} (h : (State.start scenario options startedAt).given? moves = some g)
    (hfront : front <+: moves)
    (hstage : ((State.start scenario options startedAt).after front).stage = .launch ∨
      ((State.start scenario options startedAt).after front).stage = .announce ∨
      ((State.start scenario options startedAt).after front).stage = .join) :
    ((State.start scenario options startedAt).after front).global = g := by
  obtain ⟨back, rfl⟩ := hfront
  rw [given?_append, (given_after scenario options startedAt front).eq_some hstage,
    Option.some_or] at h
  exact Option.some.inj h

/-- There are no users without a value to give them. -/
theorem Given.isSome_of_users (h : state.Given given) (hstaged : state.Staged)
    (hne : state.users ≠ []) : given.isSome = true := by
  cases hstage : state.stage with
  | setup | start =>
    simp only [Staged, hstage] at hstaged
    exact absurd hstaged hne
  | launch => rw [h.eq_some (.inl hstage), Option.isSome_some]
  | announce => rw [h.eq_some (.inr (.inl hstage)), Option.isSome_some]
  | join => rw [h.eq_some (.inr (.inr hstage)), Option.isSome_some]
  | halt | finish | teardown | readOpened | readClosed =>
    simp only [Given, hstage] at h
    exact h
  | «over» conclusion =>
    cases conclusion with
    | failed =>
      simp only [Staged, hstage] at hstaged
      exact absurd hstaged hne
    | panicked =>
      simp only [Given, hstage] at h
      rcases h with ⟨-, hnil⟩ | ⟨hsome, -⟩
      · exact absurd hnil hne
      · exact hsome
    | crashed | finished =>
      simp only [Given, hstage] at h
      exact h

/-- A run that is concluded had all its users, if there was a value to give them. -/
theorem Given.length_of_concluded (h : state.Given given) (hstaged : state.Staged)
    (hsome : given.isSome = true) (hconcluded : state.conclusion?.isSome = true) :
    state.users.length = state.options.virtualUsers := by
  obtain ⟨conclusion, hconclusion⟩ := Option.isSome_iff_exists.mp hconcluded
  have hstage := stage_of_conclusion? hconclusion
  simp only [Given, hstage] at h
  rcases hstaged.of_concluded hconclusion with ⟨-, ⟨failure, rfl⟩ | ⟨text, rfl⟩⟩ | ⟨hfull, -⟩
  · simp only at h
    rw [h] at hsome
    cases hsome
  · rcases h with ⟨hnone, -⟩ | ⟨-, hfull⟩
    · rw [hnone] at hsome
      cases hsome
    · exact hfull
  · exact hfull

end LoadHarness.Run.State
