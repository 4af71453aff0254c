import LoadHarness.Proofs.Run.Stages
import LoadHarness.Run.Execute
import Mathlib.Order.WellFounded

/-! Once the signal is raised, whoever keeps moving gets to its end.

Every step takes a user on in its life, or on in the work of a hook, and work has
an end (`Work.wellFounded_follows`).  Nothing but the signal can make a user wait,
so a user that moves again and again comes to its end (`State.exists_over`), and if
the run and all its users do, the run is concluded (`State.exists_concluded`). -/

namespace LoadHarness

/-! ## Work has an end -/

/-- The work that is left after one action and its answer. -/
def Work.Follows {α : Type} (left work : Work α) : Prop :=
  ∃ (action : Action) (next : Answer action → Work α) (answer : Answer action),
    work = .act action next ∧ left = next answer

theorem Work.wellFounded_follows {α : Type} : WellFounded (Follows (α := α)) := by
  refine ⟨fun work => ?_⟩
  induction work with
  | done value => exact ⟨_, fun _ ⟨_, _, _, h, _⟩ => by cases h⟩
  | act action next ih =>
    refine ⟨_, ?_⟩
    rintro _ ⟨_, _, answer, h, rfl⟩
    cases h
    exact ih answer

/-- Where someone is: a number that goes down, and the work there. -/
abbrev Position (α : Type) : Type := Nat × Work α

/-- To be further on. -/
def Position.Further {α : Type} : Position α → Position α → Prop :=
  Prod.Lex (· < ·) Work.Follows

theorem Position.wellFounded_further {α : Type} : WellFounded (Further (α := α)) :=
  WellFounded.prod_lex Nat.lt_wfRel.wf Work.wellFounded_follows

/-- What only ever moves on comes to rest. -/
theorem exists_rest {α : Type} {r : α → α → Prop} (hwf : WellFounded r) (f : Nat → α)
    (hstep : ∀ n, f (n + 1) = f n ∨ r (f (n + 1)) (f n)) :
    ∃ n, ∀ m, n ≤ m → ¬ r (f (m + 1)) (f m) := by
  obtain ⟨_, ⟨n, rfl⟩, hmin⟩ := hwf.has_min (Set.range f) ⟨f 0, 0, rfl⟩
  have hsame : ∀ m, n ≤ m → f m = f n := by
    intro m hle
    induction m, hle using Nat.le_induction with
    | base => rfl
    | succ m _ ih =>
      rcases hstep m with h | h
      · rw [h, ih]
      · rw [ih] at h
        exact absurd h (hmin _ ⟨m + 1, rfl⟩)
  refine ⟨n, fun m hle h => ?_⟩
  rw [hsame m hle] at h
  exact hmin _ ⟨m + 1, rfl⟩ h

namespace Run

/-! ## Users -/

/-- How many points are still before a user, once the signal is raised. -/
def Point.rank {V : Type} : Point V → Nat
  | .setup _ => 9
  | .testCap => 8
  | .behaviour _ => 7
  | .settle _ => 6
  | .advance => 5
  | .pace => 4
  | .testSignal => 3
  | .teardown _ => 2
  | .leave => 1
  | .ended | .panicked _ => 0

namespace User

variable {G V : Type} {setting : Setting G V} {user next : User V} {shared : Shared}
  {stepped : Stepped V}

/-- How far a user is from its end, once the signal is raised. -/
def position (user : User V) : Position (Except Fault Unit × V) :=
  (user.point.rank, match user.point with
    | .setup work | .behaviour work | .teardown work => work
    | _ => .done (.ok (), user.value))

theorem further_of_rank_lt (h : next.point.rank < user.point.rank) :
    next.position.Further user.position := Prod.Lex.left _ _ h

theorem rank_toTeardown (setting : Setting G V) (user : User V) :
    (user.toTeardown setting).point.rank ≤ 2 := by
  obtain ⟨point, heq, ⟨_, -, rfl⟩ | ⟨-, rfl⟩⟩ := user.toTeardown_cases setting
  · rw [heq]
    exact Nat.le_refl 2
  · rw [heq]
    exact Nat.le_succ 1

theorem rank_toCycle (setting : Setting G V) (user : User V) :
    (user.toCycle setting).point.rank ≤ 3 := by
  rcases user.toCycle_cases setting with ⟨-, -, heq⟩ | ⟨-, heq⟩
  · rw [heq]
    exact Nat.le_refl 3
  · rw [heq]
    exact Nat.le_succ_of_le (rank_toTeardown setting user)

/-- With the signal raised there is no way back to the top of the cycle. -/
theorem Step.further (h : user.Step setting shared stepped) (hsignal : shared.stopping = true) :
    stepped.user.position.Further user.position := by
  have hteardown := rank_toTeardown (V := V) setting
  have hcycle := rank_toCycle (V := V) setting
  cases h with
  | acts hook hpoint =>
    cases hook <;>
      (rw [position, position, hpoint]
       exact Prod.Lex.right _ ⟨_, _, _, rfl, rfl⟩)
  | brokeOff hook hpoint =>
    apply further_of_rank_lt
    rw [hpoint]
    cases hook <;> exact Nat.zero_lt_succ _
  | sawNoSignal hpoint hnone =>
    rw [hsignal] at hnone
    cases hnone
  | setUp hpoint =>
    apply further_of_rank_lt
    rw [hpoint]
    exact Nat.lt_of_le_of_lt (hcycle _) (by simp only [Point.rank]; omega)
  | setupFailed hpoint | sawSignal hpoint | capped hpoint | lacksBehaviour hpoint =>
    apply further_of_rank_lt
    rw [hpoint]
    exact Nat.lt_of_le_of_lt (hteardown _) (by simp only [Point.rank]; omega)
  | settled hpoint =>
    apply further_of_rank_lt
    rw [hpoint, settle_user]
    split
    · exact Nat.lt_of_le_of_lt (hteardown _) (by simp only [Point.rank]; omega)
    · simp only [Point.rank]
      omega
  | advanced hpoint =>
    apply further_of_rank_lt
    rw [hpoint]
    cases hpacing : setting.options.pacing.isSome <;> simp [Point.rank]
  | returned hpoint | tornDown hpoint | teardownFailed hpoint | calls hpoint | paced hpoint
  | left hpoint =>
    apply further_of_rank_lt
    rw [hpoint]
    simp only [Point.rank]
    omega

theorem stepHook_isSome {outside : Outside} {begun : Begun V} {again : Begun V → Point V}
    {finish : User V → Except Fault Unit → Stepped V} (hsignal : shared.stopping = true) :
    (user.stepHook shared outside begun again finish).isSome = true := by
  unfold stepHook
  cases begun with
  | done last => rfl
  | act action next =>
    have hsome : (shared.perform user.desk outside action).isSome :=
      perform_isSome fun _ => hsignal
    obtain ⟨⟨after, desk, answer⟩, hperform⟩ := Option.isSome_iff_exists.mp hsome
    simp only [hperform, Option.isSome_some]

/-- With the signal raised nothing makes a user wait. -/
theorem step_isSome (setting : Setting G V) (outside : Outside) (hsignal : shared.stopping = true)
    (hover : user.isOver = false) : (user.step setting shared outside).isSome = true := by
  unfold step
  split
  · exact stepHook_isSome hsignal
  · rw [if_pos hsignal]
    rfl
  · split
    · rfl
    · split <;> rfl
  · exact stepHook_isSome hsignal
  · rfl
  · rfl
  · rfl
  · exact stepHook_isSome hsignal
  · rfl
  · rename_i hpoint
    rw [isOver, hpoint] at hover
    cases hover
  · rename_i text hpoint
    rw [isOver, hpoint] at hover
    cases hover

end User

/-! ## The run itself -/

namespace State

variable {G V : Type} {state next : State G V} {move : Move} {outside : Outside}

/-- How many stages are still before a run, with every user to launch for one. -/
def rank (state : State G V) : Nat :=
  match state.stage with
  | .setup _ => 10 + state.options.virtualUsers
  | .start => 9 + state.options.virtualUsers
  | .launch => 8 + (state.options.virtualUsers - state.users.length)
  | .announce => 7
  | .join => 6
  | .halt => 5
  | .finish => 4
  | .teardown _ => 3
  | .readOpened => 2
  | .readClosed _ => 1
  | .over _ => 0

/-- How far a run is from its conclusion. -/
def position (state : State G V) : Position (Except Fault Unit × G) :=
  (state.rank, match state.stage with
    | .setup work | .teardown work => work
    | _ => .done (.ok (), state.global))

theorem further_of_rank_lt (h : next.rank < state.rank) :
    next.position.Further state.position := Prod.Lex.left _ _ h

theorem rank_concludeTeardown (state : State G V) : state.concludeTeardown.rank ≤ 2 := by
  unfold concludeTeardown
  split
  · exact Nat.le_refl 2
  · exact Nat.zero_le 2

theorem rank_toTeardown (state : State G V) : state.toTeardown.rank ≤ 3 := by
  unfold toTeardown
  split
  · exact Nat.le_refl 3
  · exact Nat.le_succ_of_le (rank_concludeTeardown state)

theorem Transition.further (h : state.Transition (.control outside) next) :
    next.position.Further state.position := by
  cases h with
  | acts hook hstage =>
    cases hook <;>
      (rw [position, position, rank, rank, hstage]
       exact Prod.Lex.right _ ⟨_, _, _, rfl, rfl⟩)
  | brokeOff hook hstage =>
    apply further_of_rank_lt
    cases hook <;> simp only [rank, note, hstage, RunHook.stage] <;> omega
  | finished hstage =>
    apply further_of_rank_lt
    refine Nat.lt_of_le_of_lt (rank_toTeardown _) ?_
    simp only [rank, hstage]
    omega
  | tornDown hstage | teardownFailed hstage =>
    apply further_of_rank_lt
    refine Nat.lt_of_le_of_lt (rank_concludeTeardown _) ?_
    simp only [rank, hstage]
    omega
  | launched hstage hlt =>
    apply further_of_rank_lt
    simp only [rank, hstage, List.length_append, List.length_singleton]
    omega
  | setUp hstage | setupFailed hstage | started hstage | launchedAll hstage | announced hstage
  | joined hstage | halted hstage | readOpened hstage | concluded hstage =>
    apply further_of_rank_lt
    simp only [rank, note, conclude, hstage]
    omega

/-- Nobody but the run itself takes the run on. -/
theorem Transition.position_eq (h : state.Transition move next)
    (hmove : ∀ outside, move ≠ .control outside) : next.position = state.position := by
  cases h with
  | user =>
    simp only [position, rank, put, note, List.length_set]
  | deadline | interrupt | drain | backgroundOpen | backgroundClose => rfl
  | acts | setUp | setupFailed | brokeOff | started | launched | launchedAll | announced | joined
  | halted | finished | tornDown | teardownFailed | readOpened | concluded =>
    exact absurd rfl (hmove _)

theorem stepHook_isSome {begun : Begun G} {kind : HookKind} {again : Begun G → Stage G}
    {finish : State G V → Except Fault Unit → State G V}
    (hready : ∀ next, begun = .act .awaitStop next → state.shared.stopping = true) :
    (state.stepHook outside begun kind again finish).isSome = true := by
  unfold stepHook
  cases begun with
  | done last => rfl
  | act action next =>
    have hsome : (state.shared.perform state.desk outside action).isSome :=
      perform_isSome fun haction => by
        subst haction
        exact hready next rfl
    obtain ⟨⟨after, desk, answer⟩, hperform⟩ := Option.isSome_iff_exists.mp hsome
    simp only [hperform, Option.isSome_some]

/-- A run that need not wait moves when it is its turn. -/
theorem control_isSome (outside : Outside) (hready : state.canMove = true) :
    (state.control outside).isSome = true := by
  unfold control
  split
  · rename_i work hstage
    refine stepHook_isSome fun next hwork => ?_
    simp only [canMove, action?, hstage, hwork] at hready
    exact hready
  · rfl
  · split <;> rfl
  · rfl
  · rename_i hstage
    simp only [canMove, action?, hstage] at hready
    rw [if_pos hready]
    rfl
  · rfl
  · rfl
  · rename_i work hstage
    refine stepHook_isSome fun next hwork => ?_
    simp only [canMove, action?, hstage, hwork] at hready
    exact hready
  · rfl
  · rfl
  · rename_i conclusion hstage
    simp only [canMove, action?, hstage] at hready
    cases hready

/-- With the signal raised, nothing but users makes the run wait. -/
theorem canMove_of_stopping (hsignal : state.shared.stopping = true)
    (hrunning : state.conclusion? = none) (hover : state.stage = .join → state.allOver = true) :
    state.canMove = true := by
  unfold canMove
  split
  · exact hsignal
  · rename_i hstage _
    exact hover hstage
  · rename_i conclusion hstage _
    rw [conclusion?, hstage] at hrunning
    cases hrunning
  · rfl

/-! ## Schedules -/

/-- The signal stays raised. -/
theorem stopping_after (hsignal : state.shared.stopping = true) (moves : List Move) :
    (state.after moves).shared.stopping = true :=
  after_induction moves (P := fun state => state.shared.stopping = true) hsignal
    fun _ _ _ h _ htransition => htransition.stopping h

/-- What a move does to a user that is there. -/
theorem getElem?_step {id : Nat} {user : User V} (huser : state.users[id]? = some user)
    (move : Move) :
    (state.step move).users[id]? = some user ∨
      ∃ stepped, user.Step state.setting state.shared stepped ∧
        (state.step move).users[id]? = some stepped.user := by
  rcases step_cases state move with heq | ⟨-, htransition⟩
  · rw [heq]
    exact .inl huser
  by_cases hmove : ∃ outside, move = .user id outside
  · obtain ⟨outside, rfl⟩ := hmove
    generalize state.step (.user id outside) = next at htransition
    cases htransition with
    | user hold hstep =>
      rw [huser] at hold
      cases hold
      refine .inr ⟨_, User.step_cases hstep, ?_⟩
      rw [users_put, List.getElem?_set_self (List.getElem?_eq_some_iff.mp huser).1]
  · exact .inl (htransition.getElem?_users huser fun outside h => hmove ⟨outside, h⟩)

/-- With the signal raised, a user that is not over can always move. -/
theorem step_own_move (hstaged : state.Staged) (hsignal : state.shared.stopping = true)
    {id : Nat} {user : User V} (huser : state.users[id]? = some user)
    (hover : user.isOver = false) (outside : Outside) :
    ∃ stepped, user.Step state.setting state.shared stepped ∧
      (state.step (.user id outside)).users[id]? = some stepped.user := by
  have hrunning : state.conclusion? = none := by
    rw [← Option.not_isSome_iff_eq_none]
    intro hconcluded
    rw [hstaged.isOver_of_concluded hconcluded (List.mem_of_getElem? huser)] at hover
    cases hover
  obtain ⟨stepped, hstep⟩ := Option.isSome_iff_exists.mp
    (User.step_isSome state.setting outside hsignal hover)
  refine ⟨stepped, User.step_cases hstep, ?_⟩
  simp only [step, hrunning, move?, stepUser, huser, hstep, Option.bind_eq_bind, Option.bind_some,
    Option.pure_def, Option.getD_some, note,
    List.getElem?_set_self (List.getElem?_eq_some_iff.mp huser).1]

variable {schedule : Nat → Move}

/-- A run after the first moves of an endless schedule. -/
def follow (state : State G V) (schedule : Nat → Move) (n : Nat) : State G V :=
  state.after ((List.range n).map schedule)

theorem follow_succ (state : State G V) (schedule : Nat → Move) (n : Nat) :
    state.follow schedule (n + 1) = (state.follow schedule n).step (schedule n) := by
  rw [follow, List.range_succ, List.map_append, after_append]
  rfl

theorem Staged.follow (h : state.Staged) (schedule : Nat → Move) (n : Nat) :
    (state.follow schedule n).Staged := h.after _

theorem stopping_follow (hsignal : state.shared.stopping = true) (schedule : Nat → Move) (n : Nat) :
    (state.follow schedule n).shared.stopping = true := stopping_after hsignal _

theorem options_follow (state : State G V) (schedule : Nat → Move) (n : Nat) :
    (state.follow schedule n).options = state.options := (fixed_after _ _).2.1

/-- Whether a schedule has such moves again and again. -/
def Again (schedule : Nat → Move) (which : Move → Prop) : Prop :=
  ∀ n, ∃ m, n ≤ m ∧ which (schedule m)

theorem getElem?_follow (schedule : Nat → Move) {id : Nat} {user : User V}
    (huser : state.users[id]? = some user) (n : Nat) :
    ∃ later, (state.follow schedule n).users[id]? = some later := by
  induction n with
  | zero => exact ⟨user, huser⟩
  | succ n ih =>
    obtain ⟨later, hlater⟩ := ih
    rw [follow_succ]
    rcases getElem?_step hlater (schedule n) with h | ⟨stepped, -, h⟩
    · exact ⟨_, h⟩
    · exact ⟨_, h⟩

/-- With the signal raised, a user that moves again and again comes to its end, whatever the
others do. -/
theorem exists_over (hstaged : state.Staged) (hsignal : state.shared.stopping = true)
    {id : Nat} {user : User V} (huser : state.users[id]? = some user)
    (hagain : Again schedule fun move => ∃ outside, move = .user id outside) :
    ∃ n later, (state.follow schedule n).users[id]? = some later ∧ later.isOver = true := by
  choose user huser using getElem?_follow schedule huser
  have hraised := stopping_follow hsignal schedule
  obtain ⟨n, hrest⟩ := exists_rest Position.wellFounded_further (fun n => (user n).position) (by
    intro n
    have hnext := huser (n + 1)
    rw [follow_succ] at hnext
    rcases getElem?_step (huser n) (schedule n) with h | ⟨stepped, hstep, h⟩
    · rw [hnext, Option.some.injEq] at h
      exact .inl (congrArg User.position h)
    · rw [hnext, Option.some.injEq] at h
      rw [h]
      exact .inr (hstep.further (hraised n)))
  obtain ⟨m, hle, outside, hmove⟩ := hagain n
  refine ⟨m, user m, huser m, ?_⟩
  by_contra hover
  rw [Bool.not_eq_true] at hover
  obtain ⟨stepped, hstep, h⟩ :=
    step_own_move (hstaged.follow schedule m) (hraised m) (huser m) hover outside
  have hnext := huser (m + 1)
  rw [follow_succ, hmove, h, Option.some.injEq] at hnext
  apply hrest m hle
  rw [← hnext]
  exact hstep.further (hraised m)

theorem follow_add (state : State G V) (schedule : Nat → Move) (n m : Nat) :
    (state.follow schedule n).follow (fun i => schedule (n + i)) m =
      state.follow schedule (n + m) := by
  rw [follow, follow, follow, List.range_add, List.map_append, after_append, List.map_map]
  rfl

theorem Again.shift {which : Move → Prop} (h : Again schedule which) (n : Nat) :
    Again (fun i => schedule (n + i)) which := by
  intro k
  obtain ⟨m, hle, hm⟩ := h (n + k)
  refine ⟨m - n, by omega, ?_⟩
  have heq : n + (m - n) = m := by omega
  dsimp only
  rw [heq]
  exact hm

/-- A user that is over is left alone. -/
theorem follow_over {id n : Nat} {user : User V}
    (huser : (state.follow schedule n).users[id]? = some user) (hover : user.isOver = true)
    {m : Nat} (hle : n ≤ m) : (state.follow schedule m).users[id]? = some user := by
  induction m, hle using Nat.le_induction with
  | base => exact huser
  | succ m _ ih =>
    rw [follow_succ]
    rcases getElem?_step ih (schedule m) with h | ⟨stepped, hstep, -⟩
    · exact h
    · rw [hstep.not_isOver] at hover
      cases hover

/-- With the signal raised, users that all move again and again are all over one day. -/
theorem exists_all_over (schedule : Nat → Move) (hstaged : state.Staged)
    (hsignal : state.shared.stopping = true)
    (hagain : ∀ id < state.users.length,
      Again schedule fun move => ∃ outside, move = .user id outside) :
    ∃ n, ∀ m, n ≤ m → ∀ id < state.users.length, ∃ user,
      (state.follow schedule m).users[id]? = some user ∧ user.isOver = true := by
  suffices hsome : ∀ k ≤ state.users.length, ∃ n, ∀ m, n ≤ m → ∀ id < k, ∃ user,
      (state.follow schedule m).users[id]? = some user ∧ user.isOver = true from
    hsome _ (Nat.le_refl _)
  intro k hle
  induction k with
  | zero => exact ⟨0, fun _ _ _ hlt => absurd hlt (Nat.not_lt_zero _)⟩
  | succ k ih =>
    obtain ⟨n, hn⟩ := ih (by omega)
    obtain ⟨n', user, huser, hover⟩ :=
      exists_over hstaged hsignal (List.getElem?_eq_getElem hle) (hagain k hle)
    refine ⟨max n n', fun m hm id hlt => ?_⟩
    rcases Nat.lt_succ_iff_lt_or_eq.mp hlt with hlt | rfl
    · exact hn m (by omega) id hlt
    · exact ⟨user, follow_over huser hover (by omega), hover⟩

theorem position_step (state : State G V) (move : Move) :
    (state.step move).position = state.position ∨
      (state.step move).position.Further state.position := by
  rcases step_cases state move with heq | ⟨-, htransition⟩
  · exact .inl (congrArg position heq)
  by_cases hmove : ∃ outside, move = .control outside
  · obtain ⟨outside, rfl⟩ := hmove
    exact .inr htransition.further
  · exact .inl (htransition.position_eq fun outside h => hmove ⟨outside, h⟩)

/-- A run that need not wait moves on when it is its turn. -/
theorem further_of_control (hrunning : state.conclusion? = none) (hready : state.canMove = true)
    (outside : Outside) : (state.step (.control outside)).position.Further state.position := by
  obtain ⟨next, hnext⟩ := Option.isSome_iff_exists.mp (control_isSome outside hready)
  have hstep : state.step (.control outside) = next := by
    rw [step, hrunning]
    simp only [move?, hnext, Option.getD_some]
  rw [hstep]
  exact (transition_of_control hnext).further

/-- With the signal raised, a run that moves again and again, as do all its users, is concluded. -/
theorem exists_concluded (hstaged : state.Staged) (hsignal : state.shared.stopping = true)
    (hcontrol : Again schedule fun move => ∃ outside, move = .control outside)
    (hagain : ∀ id < state.options.virtualUsers,
      Again schedule fun move => ∃ outside, move = .user id outside) :
    ∃ n, (state.follow schedule n).conclusion?.isSome = true := by
  by_contra hnever
  simp only [not_exists, Option.not_isSome_iff_eq_none] at hnever
  have hraised := stopping_follow hsignal schedule
  obtain ⟨n, hrest⟩ := exists_rest Position.wellFounded_further
    (fun n => (state.follow schedule n).position) fun n => by
      rw [follow_succ]
      exact position_step _ _
  -- the run has come to rest, so that it can only be waiting for users, and all of them are there
  have hwaits : ∀ m, n ≤ m → (∃ outside, schedule m = .control outside) →
      (state.follow schedule m).stage = .join ∧ (state.follow schedule m).allOver = false := by
    rintro m hle ⟨outside, hmove⟩
    by_contra hready
    apply hrest m hle
    rw [follow_succ, hmove]
    apply further_of_control (hnever m)
    apply canMove_of_stopping (hraised m) (hnever m)
    intro hjoin
    rw [← Bool.not_eq_false]
    exact fun hover => hready ⟨hjoin, hover⟩
  have hall : ∀ m, (state.follow schedule m).stage = .join →
      (state.follow schedule m).users.length = state.options.virtualUsers := by
    intro m hjoin
    have hthere := hstaged.follow schedule m
    simp only [Staged, hjoin] at hthere
    rw [hthere, options_follow]
  obtain ⟨m, hle, hturn⟩ := hcontrol n
  obtain ⟨hjoin, -⟩ := hwaits m hle hturn
  have hlength := hall m hjoin
  obtain ⟨k, hk⟩ := exists_all_over (fun i => schedule (m + i)) (hstaged.follow schedule m)
    (hraised m) fun id hlt => (hagain id (hlength ▸ hlt)).shift m
  obtain ⟨l, hlel, hturn⟩ := hcontrol (m + k)
  obtain ⟨hjoin, hnot⟩ := hwaits l (by omega) hturn
  have hlengthl := hall l hjoin
  have hover : (state.follow schedule l).allOver = true := by
    rw [allOver_iff]
    intro user hmem
    obtain ⟨id, hlt, rfl⟩ := List.getElem_of_mem hmem
    obtain ⟨later, hlater, hlaterOver⟩ := hk (l - m) (by omega) id (by
      rw [hlength, ← hlengthl]
      exact hlt)
    rw [follow_add, Nat.add_sub_cancel' (by omega), List.getElem?_eq_getElem hlt] at hlater
    cases hlater
    exact hlaterOver
  rw [hover] at hnot
  cases hnot

end State

end Run

end LoadHarness
