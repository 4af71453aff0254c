import LoadHarness.Proofs.Run.Users

/-! The life of one user, told by its own notes.

    opening ++ pass 0 ++ … ++ pass (k - 1) ++ how it left the cycle ++ closing

A pass is a look at the signal and a call of the behaviour.  `Life` says at every
point which part of this is noted so far, and `life_after` that it does so after
all moves, whatever the other users and the signal do in between. -/

namespace LoadHarness.Run

/-! ## What is noted of a life -/

/-- Whether an entry tells of a hook that came to its end, or of a look at the signal. -/
def Entry.isTurn : Entry → Bool
  | .called .. | .looked .. => true
  | .acted .. | .finalized _ => false

/-- What the journal says about the hooks and the looks of one user. -/
def State.turns {G V : Type} (state : State G V) (id : Nat) : List Entry :=
  (state.notes id).filter Entry.isTurn

/-- One pass through the cycle, which comes to this outcome. -/
def pass (id iteration : Nat) (outcome : Except Failure Unit) : List Entry :=
  [.looked id iteration false, .called (.user id) .behaviour iteration (resultOf outcome)]

/-- The passes that come to these outcomes, from the first iteration on. -/
def passes (id : Nat) (outcomes : List (Except Failure Unit)) : List Entry :=
  outcomes.zipIdx.flatMap fun (outcome, iteration) => pass id iteration outcome

theorem passes_append_singleton (id : Nat) (outcomes : List (Except Failure Unit))
    (outcome : Except Failure Unit) :
    passes id (outcomes ++ [outcome]) = passes id outcomes ++ pass id outcomes.length outcome := by
  simp [passes, List.zipIdx_append]

section

variable {G V : Type} (scenario : Scenario G V) (options : Options)

/-- What is noted of a setup that ends well, if there is one. -/
def opening (id : Nat) : List Entry :=
  if scenario.userSetup.isSome then [.called (.user id) .userSetup 0 (.ok ())] else []

/-- What is noted of a teardown, if there is one. -/
def closing (id iteration : Nat) (outcome : Except Failure Unit) : List Entry :=
  if scenario.userTeardown.isSome then
    [.called (.user id) .userTeardown iteration (resultOf outcome)]
  else []

/-- Outcomes after which the cycle goes on: the cap lets each of these passes begin, and none of
them bails. -/
structure Cycle (outcomes : List (Except Failure Unit)) : Prop where
  installed : scenario.behaviour.isSome = true
  below : ∀ i < outcomes.length, options.iterations.any (· ≤ i) = false
  on : ∀ outcome ∈ outcomes, bails outcome = false

/-- The ways in which a user comes to its teardown, with its health and its iteration there, and
with what is noted of it up to there. -/
inductive Exit (id : Nat) : (healthy : Bool) → (iteration : Nat) → List Entry → Prop where
  | setupFailed {failure : Failure} (hinstalled : scenario.userSetup.isSome = true) :
      Exit id false 0 [.called (.user id) .userSetup 0 (.error (.failure failure))]
  | noBehaviour (hnone : scenario.behaviour = none) : Exit id true 0 (opening scenario id)
  | signal {outcomes : List (Except Failure Unit)} (hcycle : Cycle scenario options outcomes) :
      Exit id true outcomes.length
        (opening scenario id ++ passes id outcomes ++ [.looked id outcomes.length true])
  | cap {outcomes : List (Except Failure Unit)} (hcycle : Cycle scenario options outcomes)
      (hcap : options.iterations.any (· ≤ outcomes.length) = true) :
      Exit id true outcomes.length
        (opening scenario id ++ passes id outcomes ++ [.looked id outcomes.length false])
  | bail {outcomes : List (Except Failure Unit)} {outcome : Except Failure Unit}
      (hcycle : Cycle scenario options outcomes)
      (hcap : options.iterations.any (· ≤ outcomes.length) = false)
      (hbails : bails outcome = true) :
      Exit id false outcomes.length (opening scenario id ++ passes id (outcomes ++ [outcome]))

/-- What is known of a user at every point of its life, with what is noted of it so far. -/
def Life (user : User V) (turns : List Entry) : Prop :=
  match user.point with
  | .setup _ =>
    scenario.userSetup.isSome = true ∧ user.healthy = true ∧ user.iteration = 0 ∧ turns = []
  | .testSignal | .pace => ∃ outcomes, Cycle scenario options outcomes ∧ user.healthy = true ∧
    user.iteration = outcomes.length ∧ turns = opening scenario user.id ++ passes user.id outcomes
  | .testCap => ∃ outcomes, Cycle scenario options outcomes ∧ user.healthy = true ∧
    user.iteration = outcomes.length ∧
    turns = opening scenario user.id ++ passes user.id outcomes ++
      [.looked user.id user.iteration false]
  | .behaviour _ => ∃ outcomes, Cycle scenario options outcomes ∧ user.healthy = true ∧
    user.iteration = outcomes.length ∧
    options.iterations.any (· ≤ user.iteration) = false ∧
    turns = opening scenario user.id ++ passes user.id outcomes ++
      [.looked user.id user.iteration false]
  | .settle outcome => ∃ outcomes, Cycle scenario options outcomes ∧ user.healthy = true ∧
    user.iteration = outcomes.length ∧
    options.iterations.any (· ≤ user.iteration) = false ∧
    turns = opening scenario user.id ++ passes user.id (outcomes ++ [outcome])
  | .advance => ∃ outcomes, Cycle scenario options outcomes ∧ user.healthy = true ∧
    user.iteration + 1 = outcomes.length ∧
    turns = opening scenario user.id ++ passes user.id outcomes
  | .teardown _ => scenario.userTeardown.isSome = true ∧
    Exit scenario options user.id user.healthy user.iteration turns
  | .leave | .ended => ∃ before outcome,
    Exit scenario options user.id user.healthy user.iteration before ∧
    turns = before ++ closing scenario user.id user.iteration outcome
  | .panicked _ => True

end

/-! ## What a step adds -/

variable {G V : Type} {setting : Setting G V} {user : User V} {shared : Shared}
  {stepped : Stepped V} {turns : List Entry}

theorem Cycle.next {scenario : Scenario G V} {options : Options}
    {outcomes : List (Except Failure Unit)} {outcome : Except Failure Unit}
    (hcycle : Cycle scenario options outcomes)
    (hcap : options.iterations.any (· ≤ outcomes.length) = false)
    (hbails : bails outcome = false) : Cycle scenario options (outcomes ++ [outcome]) where
  installed := hcycle.installed
  below := by
    intro i hlt
    rw [List.length_append, List.length_singleton] at hlt
    rcases Nat.lt_succ_iff_lt_or_eq.mp hlt with hlt | rfl
    · exact hcycle.below i hlt
    · exact hcap
  on := by
    intro other hmem
    rcases List.mem_append.mp hmem with hmem | hmem
    · exact hcycle.on other hmem
    · rw [List.mem_singleton.mp hmem]
      exact hbails

theorem Cycle.nil {scenario : Scenario G V} {options : Options}
    (h : scenario.behaviour.isSome = true) : Cycle scenario options [] :=
  ⟨h, fun _ hlt => absurd hlt (Nat.not_lt_zero _), fun _ hmem => absurd hmem List.not_mem_nil⟩

theorem Exit.toTeardown
    (h : Exit setting.scenario setting.options user.id user.healthy user.iteration turns) :
    Life setting.scenario setting.options (user.toTeardown setting) turns := by
  obtain ⟨point, heq, ⟨hook, hsome, rfl⟩ | ⟨hnone, rfl⟩⟩ := user.toTeardown_cases setting
  · rw [heq]
    exact ⟨by rw [hsome]; rfl, h⟩
  · rw [heq]
    refine ⟨turns, .ok (), h, ?_⟩
    rw [closing, hnone, if_neg (by simp), List.append_nil]

theorem life_toCycle (hhealthy : user.healthy = true) (hiteration : user.iteration = 0)
    (hturns : turns = opening setting.scenario user.id) :
    Life setting.scenario setting.options (user.toCycle setting) turns := by
  rcases user.toCycle_cases setting with ⟨-, hsome, heq⟩ | ⟨hnone, heq⟩
  · rw [heq]
    refine ⟨[], .nil hsome, hhealthy, hiteration, ?_⟩
    rw [hturns]
    exact (List.append_nil _).symm
  · rw [heq]
    apply Exit.toTeardown
    rw [hhealthy, hiteration, hturns]
    rcases hnone with hsick | hnone
    · rw [hhealthy] at hsick
      cases hsick
    · exact .noBehaviour hnone

theorem life_start (setting : Setting G V) (id : Nat) :
    Life setting.scenario setting.options (User.start setting id) [] := by
  unfold User.start
  split
  · rename_i hook hsome
    exact ⟨by rw [hsome]; rfl, rfl, rfl, rfl⟩
  · rename_i hnone
    refine life_toCycle rfl rfl ?_
    rw [opening, hnone]
    rfl

namespace Life

variable (h : Life setting.scenario setting.options user turns)
include h

theorem setUp {value : V} (hpoint : user.point = .setup (.done (.ok (), value))) :
    Life setting.scenario setting.options ({ user with value := value }.toCycle setting)
      (turns ++ user.calledNote .userSetup (.ok ())) := by
  simp only [Life, hpoint] at h
  obtain ⟨hsetup, hhealthy, hiteration, rfl⟩ := h
  refine life_toCycle hhealthy hiteration ?_
  rw [opening, if_pos hsetup, List.nil_append, User.calledNote, User.party, hiteration]

theorem setupFailed {failure : Failure} {value : V}
    (hpoint : user.point = .setup (.done (.error (.failure failure), value))) :
    Life setting.scenario setting.options
      ({ user with value := value, healthy := false }.toTeardown setting)
      (turns ++ user.calledNote .userSetup (.error (.failure failure))) := by
  simp only [Life, hpoint] at h
  obtain ⟨hsetup, -, hiteration, rfl⟩ := h
  apply Exit.toTeardown
  simp only [User.calledNote, User.party, hiteration]
  exact .setupFailed hsetup

/-- With its call of the behaviour a pass is complete. -/
theorem returned {outcome : Except Failure Unit} {value : V}
    (hpoint : user.point = .behaviour (.done (resultOf outcome, value))) :
    Life setting.scenario setting.options { user with value := value, point := .settle outcome }
      (turns ++ user.calledNote .behaviour (resultOf outcome)) := by
  simp only [Life, hpoint] at h
  obtain ⟨outcomes, hcycle, hhealthy, hiteration, hcap, rfl⟩ := h
  refine ⟨outcomes, hcycle, hhealthy, hiteration, hcap, ?_⟩
  rw [passes_append_singleton, ← hiteration]
  simp [User.calledNote, User.party, pass]

theorem tornDown {outcome : Except Failure Unit} {value : V}
    (hpoint : user.point = .teardown (.done (resultOf outcome, value))) :
    Life setting.scenario setting.options { user with value := value, point := .leave }
      (turns ++ user.calledNote .userTeardown (resultOf outcome)) := by
  simp only [Life, hpoint] at h
  obtain ⟨hteardown, hexit⟩ := h
  refine ⟨turns, outcome, hexit, ?_⟩
  rw [closing, if_pos hteardown]
  rfl

/-- A user that looks at the signal leaves its cycle if it is raised, and goes on if it is not. -/
theorem looks (hpoint : user.point = .testSignal) :
    Life setting.scenario setting.options (user.toTeardown setting)
        (turns ++ [.looked user.id user.iteration true]) ∧
      Life setting.scenario setting.options { user with point := .testCap }
        (turns ++ [.looked user.id user.iteration false]) := by
  simp only [Life, hpoint] at h
  obtain ⟨outcomes, hcycle, hhealthy, hiteration, rfl⟩ := h
  refine ⟨?_, outcomes, hcycle, hhealthy, hiteration, rfl⟩
  apply Exit.toTeardown
  rw [hhealthy, hiteration]
  exact .signal hcycle

theorem capped (hpoint : user.point = .testCap)
    (hcap : setting.options.iterations.any (· ≤ user.iteration) = true) :
    Life setting.scenario setting.options (user.toTeardown setting) turns := by
  simp only [Life, hpoint] at h
  obtain ⟨outcomes, hcycle, hhealthy, hiteration, rfl⟩ := h
  apply Exit.toTeardown
  rw [hiteration] at hcap
  rw [hhealthy, hiteration]
  exact .cap hcycle hcap

/-- The pass of an outcome is behind the user: the cycle goes on from it, or was left with it. -/
theorem settled {outcome : Except Failure Unit} (hpoint : user.point = .settle outcome) :
    Life setting.scenario setting.options (user.settle setting shared outcome).2 turns := by
  simp only [Life, hpoint] at h
  obtain ⟨outcomes, hcycle, hhealthy, hiteration, hcap, rfl⟩ := h
  rw [hiteration] at hcap
  rw [User.settle_user]
  split
  · rename_i hbails
    apply Exit.toTeardown
    rw [hiteration]
    exact .bail hcycle hcap hbails
  · rename_i hbails
    rw [Bool.not_eq_true] at hbails
    refine ⟨outcomes ++ [outcome], hcycle.next hcap hbails, hhealthy, ?_, rfl⟩
    rw [List.length_append, List.length_singleton, hiteration]

theorem step (hstep : user.Step setting shared stepped) :
    Life setting.scenario setting.options stepped.user
      (turns ++ stepped.entries.filter Entry.isTurn) := by
  cases hstep with
  | acts hook hpoint =>
    cases hook <;>
      (simp only [Life, hpoint, UserHook.point] at h
       simpa [Life, UserHook.point, Entry.isTurn] using h)
  | setUp hpoint => exact h.setUp hpoint
  | setupFailed hpoint => exact h.setupFailed hpoint
  | returned hpoint => exact h.returned hpoint
  | tornDown hpoint =>
    have hreturned : user.point = .teardown (.done (resultOf (.ok ()), _)) := hpoint
    exact h.tornDown hreturned
  | teardownFailed hpoint =>
    rename_i failure value
    have hreturned : user.point = .teardown (.done (resultOf (.error failure), _)) := hpoint
    exact h.tornDown hreturned
  | brokeOff hook hpoint => trivial
  | sawSignal hpoint => exact (h.looks hpoint).1
  | sawNoSignal hpoint => exact (h.looks hpoint).2
  | capped hpoint hcap =>
    rw [List.filter_nil, List.append_nil]
    exact h.capped hpoint hcap
  | calls hpoint hcap =>
    simp only [Life, hpoint] at h
    obtain ⟨outcomes, hcycle, hhealthy, hiteration, rfl⟩ := h
    exact ⟨outcomes, hcycle, hhealthy, hiteration, hcap, List.append_nil _⟩
  | lacksBehaviour hpoint hcap hnone =>
    simp only [Life, hpoint] at h
    obtain ⟨outcomes, hcycle, -⟩ := h
    have hsome := hcycle.installed
    rw [hnone] at hsome
    cases hsome
  | settled hpoint =>
    rw [List.filter_nil, List.append_nil]
    exact h.settled hpoint
  | advanced hpoint =>
    simp only [Life, hpoint] at h
    obtain ⟨outcomes, hcycle, hhealthy, hiteration, rfl⟩ := h
    rw [List.filter_nil, List.append_nil]
    unfold Life
    cases setting.options.pacing.isSome <;> exact ⟨outcomes, hcycle, hhealthy, hiteration, rfl⟩
  | paced hpoint | left hpoint =>
    simp only [Life, hpoint] at h
    rw [List.filter_nil, List.append_nil]
    exact h

end Life

namespace State

theorem life_after (scenario : Scenario G V) (options : Options) (startedAt : Int)
    (moves : List Move) {id : Nat} {user : User V}
    (h : ((start scenario options startedAt).after moves).users[id]? = some user) :
    user.id = id ∧ Life scenario options user
      (((start scenario options startedAt).after moves).turns id) := by
  refine user_induction
    (P := fun user notes => Life scenario options user (notes.filter Entry.isTurn)) ?_ ?_ moves h
  · rintro setting rfl rfl id
    exact life_start setting id
  · rintro setting rfl rfl user shared stepped notes hlife hstep
    rw [List.filter_append]
    exact hlife.step hstep

end State

end LoadHarness.Run
