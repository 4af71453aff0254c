import LoadHarness.Proofs.Run.Users

/-! What is known of the virtual users at each stage of a run.

None is there before the launch, all of them are after it, and behind the stage
that waits for them all are over.  Only a run of which no user broke off comes to
a summary, and the summary is read off the books at that moment. -/

namespace LoadHarness.Run.State

variable {G V : Type}

/-- What is known of the virtual users at each stage. -/
def Staged (state : State G V) : Prop :=
  match state.stage with
  | .setup _ | .start | .over (.failed _) => state.users = []
  | .launch => state.users.length ≤ state.options.virtualUsers
  | .announce | .join => state.users.length = state.options.virtualUsers
  | .halt | .finish | .teardown _ | .over (.crashed _) =>
    state.users.length = state.options.virtualUsers ∧ state.allOver = true
  | .readOpened | .readClosed _ | .over (.finished _) =>
    state.users.length = state.options.virtualUsers ∧ ∀ user ∈ state.users, user.point = .ended
  | .over (.panicked _) =>
    state.users = [] ∨
      state.users.length = state.options.virtualUsers ∧ state.allOver = true

theorem allOver_iff (state : State G V) :
    state.allOver = true ↔ ∀ user ∈ state.users, user.isOver = true := List.all_eq_true

theorem allOver_of_ended {state : State G V} (h : ∀ user ∈ state.users, user.point = .ended) :
    state.allOver = true := by
  rw [allOver_iff]
  intro user hmem
  rw [User.isOver, h user hmem]

theorem ended_of_crashed {state : State G V} (hover : state.allOver = true)
    (hcrashed : state.crashed = []) : ∀ user ∈ state.users, user.point = .ended := by
  intro user hmem
  have hnone := List.filter_eq_nil_iff.mp (List.map_eq_nil_iff.mp hcrashed) user hmem
  have hisover := (allOver_iff state).mp hover user hmem
  rw [User.isOver] at hisover
  split at hisover
  · assumption
  · rename_i text hpoint
    rw [hpoint] at hnone
    exact absurd rfl hnone
  · cases hisover

/-- There are never more users than the options say. -/
theorem Staged.length_le {state : State G V} (h : state.Staged) :
    state.users.length ≤ state.options.virtualUsers := by
  have hnil : state.users = [] → state.users.length ≤ state.options.virtualUsers := by
    intro hnil
    rw [hnil]
    exact Nat.zero_le _
  unfold Staged at h
  split at h
  · exact hnil h
  · exact hnil h
  · exact hnil h
  · exact h
  · exact Nat.le_of_eq h
  · exact Nat.le_of_eq h
  · exact Nat.le_of_eq h.1
  · exact Nat.le_of_eq h.1
  · exact Nat.le_of_eq h.1
  · exact Nat.le_of_eq h.1
  · exact Nat.le_of_eq h.1
  · exact Nat.le_of_eq h.1
  · exact Nat.le_of_eq h.1
  · rcases h with h | h
    · exact hnil h
    · exact Nat.le_of_eq h.1

theorem staged_start (scenario : Scenario G V) (options : Options) (startedAt : Int) :
    (State.start scenario options startedAt).Staged := by
  unfold Staged State.start
  cases scenario.setup <;> rfl

/-- While a user lives, the run has the stages of the setup behind it and those of the conclusion
before it. -/
theorem stage_of_living {state : State G V} (h : state.Staged) (hliving : state.allOver = false) :
    state.stage = .launch ∨ state.stage = .announce ∨ state.stage = .join := by
  have hne : state.users ≠ [] := fun hnil => by
    rw [allOver, hnil] at hliving
    cases hliving
  unfold Staged at h
  split at h
  · exact absurd h hne
  · exact absurd h hne
  · exact absurd h hne
  · exact .inl (by assumption)
  · exact .inr (.inl (by assumption))
  · exact .inr (.inr (by assumption))
  · rw [h.2] at hliving
    cases hliving
  · rw [h.2] at hliving
    cases hliving
  · rw [h.2] at hliving
    cases hliving
  · rw [h.2] at hliving
    cases hliving
  · rw [allOver_of_ended h.2] at hliving
    cases hliving
  · rw [allOver_of_ended h.2] at hliving
    cases hliving
  · rw [allOver_of_ended h.2] at hliving
    cases hliving
  · rcases h with hnil | ⟨-, h⟩
    · exact absurd hnil hne
    · rw [h] at hliving
      cases hliving

theorem not_allOver {state : State G V} {user : User V} (hmem : user ∈ state.users)
    (hliving : user.isOver = false) : state.allOver = false := by
  rw [← Bool.not_eq_true, allOver_iff]
  intro h
  rw [h user hmem] at hliving
  cases hliving

/-- A state in which users can still move is one in which a user lives. -/
theorem stage_of_step {state : State G V} {id : Nat} {user : User V} {stepped : Stepped V}
    (h : state.Staged) (huser : state.users[id]? = some user)
    (hstep : user.Step state.setting state.shared stepped) :
    state.stage = .launch ∨ state.stage = .announce ∨ state.stage = .join :=
  stage_of_living h (not_allOver (List.mem_of_getElem? huser) hstep.not_isOver)

theorem staged_user {state : State G V} {id : Nat} {user : User V} {stepped : Stepped V}
    (h : state.Staged) (huser : state.users[id]? = some user)
    (hstep : user.Step state.setting state.shared stepped) :
    (state.put id stepped).Staged := by
  rcases stage_of_step h huser hstep with hstage | hstage | hstage <;>
    (simp only [Staged, hstage] at h
     simp only [Staged, put, note, hstage, List.length_set]
     exact h)

theorem staged_concludeTeardown {state : State G V}
    (h : state.users.length = state.options.virtualUsers ∧ state.allOver = true) :
    state.concludeTeardown.Staged := by
  unfold concludeTeardown
  split
  · rename_i hcrashed
    exact ⟨h.1, ended_of_crashed h.2 hcrashed⟩
  · exact h

theorem staged_toTeardown {state : State G V}
    (h : state.users.length = state.options.virtualUsers ∧ state.allOver = true) :
    state.toTeardown.Staged := by
  unfold toTeardown
  split
  · exact h
  · exact staged_concludeTeardown h

theorem Staged.keep {state next : State G V} {move : Move} (h : state.Staged)
    (htransition : state.Transition move next) : next.Staged := by
  cases htransition with
  | user huser hstep => exact staged_user h huser (User.step_cases hstep)
  | acts hook hstage => cases hook <;> (simp only [Staged, hstage] at h; exact h)
  | brokeOff hook hstage =>
    cases hook with
    | setup =>
      simp only [Staged, hstage] at h
      exact .inl h
    | teardown =>
      simp only [Staged, hstage] at h
      exact .inr h
  | started hstage =>
    simp only [Staged, hstage] at h
    simp only [Staged, h, List.length_nil]
    exact Nat.zero_le _
  | launched hstage hlt =>
    simp only [Staged, hstage, List.length_append, List.length_singleton]
    exact hlt
  | launchedAll hstage hle =>
    simp only [Staged, hstage] at h
    exact Nat.le_antisymm h hle
  | joined hstage hover =>
    simp only [Staged, hstage] at h
    exact ⟨h, hover⟩
  | finished hstage =>
    simp only [Staged, hstage] at h
    exact staged_toTeardown h
  | tornDown hstage | teardownFailed hstage =>
    simp only [Staged, hstage] at h
    exact staged_concludeTeardown h
  | setUp hstage | setupFailed hstage | announced hstage | halted hstage | readOpened hstage
  | concluded hstage =>
    simp only [Staged, hstage] at h
    exact h
  | deadline | interrupt | drain | backgroundOpen | backgroundClose => exact h

theorem Staged.after {state : State G V} (h : state.Staged) (moves : List Move) :
    (state.after moves).Staged :=
  after_induction moves h fun _ _ _ h _ htransition => h.keep htransition

theorem staged_after (scenario : Scenario G V) (options : Options) (startedAt : Int)
    (moves : List Move) : ((State.start scenario options startedAt).after moves).Staged :=
  (staged_start scenario options startedAt).after moves

theorem stage_of_conclusion? {state : State G V} {conclusion : Conclusion}
    (h : state.conclusion? = some conclusion) : state.stage = .over conclusion := by
  unfold conclusion? at h
  split at h
  · rename_i hstage
    cases h
    exact hstage
  · cases h

/-- Once a run is concluded all its users are there and over, unless its setup failed or broke off
before there were any. -/
theorem Staged.of_concluded {state : State G V} (h : state.Staged) {conclusion : Conclusion}
    (hconcluded : state.conclusion? = some conclusion) :
    state.users = [] ∧
        ((∃ failure, conclusion = .failed failure) ∨ ∃ text, conclusion = .panicked text) ∨
      state.users.length = state.options.virtualUsers ∧ state.allOver = true := by
  have hstage := stage_of_conclusion? hconcluded
  cases conclusion with
  | failed failure =>
    simp only [Staged, hstage] at h
    exact .inl ⟨h, .inl ⟨failure, rfl⟩⟩
  | crashed users =>
    simp only [Staged, hstage] at h
    exact .inr h
  | finished summary =>
    simp only [Staged, hstage] at h
    exact .inr ⟨h.1, allOver_of_ended h.2⟩
  | panicked text =>
    simp only [Staged, hstage] at h
    rcases h with hnil | h
    · exact .inl ⟨hnil, .inr ⟨text, rfl⟩⟩
    · exact .inr h

theorem Staged.isOver_of_concluded {state : State G V} (h : state.Staged)
    (hconcluded : state.conclusion?.isSome = true) {user : User V} (hmem : user ∈ state.users) :
    user.isOver = true := by
  obtain ⟨conclusion, hconclusion⟩ := Option.isSome_iff_exists.mp hconcluded
  rcases h.of_concluded hconclusion with ⟨hnil, -⟩ | ⟨-, hover⟩
  · rw [hnil] at hmem
    cases hmem
  · exact (allOver_iff state).mp hover user hmem

/-- A summary is read off the books when the run is over, all but the count of opened connections,
which was read before. -/
theorem summary_eq {scenario : Scenario G V} {options : Options} {startedAt : Int}
    {moves : List Move} {state : State G V} {summary : Summary}
    (hstate : (State.start scenario options startedAt).after moves = state)
    (h : state.conclusion? = some (.finished summary)) :
    ∃ opened, summary = summarizeRun scenario.name version startedAt options state.endCount
      state.shared.recorder opened state.shared.ledger.closed := by
  have hkept : ∀ summary, state.stage = .over (.finished summary) →
      ∃ opened, summary = summarizeRun state.scenario.name version state.startedAt state.options
        state.endCount state.shared.recorder opened state.shared.ledger.closed := by
    rw [← hstate]
    apply after_induction moves (P := fun state => ∀ summary,
      state.stage = .over (.finished summary) →
        ∃ opened, summary = summarizeRun state.scenario.name version state.startedAt state.options
          state.endCount state.shared.recorder opened state.shared.ledger.closed)
    · intro summary hstage
      simp only [State.start] at hstage
      cases hsetup : scenario.setup <;> rw [hsetup] at hstage <;> cases hstage
    · intro state move next _ hrunning htransition summary hstage
      cases htransition with
      | concluded =>
        cases hstage
        exact ⟨_, rfl⟩
      | acts hook => cases hook <;> cases hstage
      | finished =>
        unfold toTeardown at hstage
        split at hstage
        · cases hstage
        · unfold concludeTeardown at hstage
          split at hstage <;> cases hstage
      | tornDown | teardownFailed =>
        unfold concludeTeardown at hstage
        split at hstage <;> cases hstage
      | setUp | setupFailed | brokeOff | started | launchedAll | announced | joined | halted
      | readOpened => cases hstage
      | user | deadline | interrupt | drain | backgroundOpen | backgroundClose =>
        replace hstage : state.stage = .over (.finished summary) := hstage
        rw [conclusion?, hstage] at hrunning
        cases hrunning
      | launched hlaunch =>
        replace hstage : state.stage = .over (.finished summary) := hstage
        rw [hlaunch] at hstage
        cases hstage
  have hstage := stage_of_conclusion? h
  obtain ⟨hscenario, hoptions, hstarted⟩ :=
    fixed_after (State.start scenario options startedAt) moves
  rw [hstate] at hscenario hoptions hstarted
  have hsummary := hkept summary hstage
  rw [hscenario, hoptions, hstarted] at hsummary
  exact hsummary

end LoadHarness.Run.State
