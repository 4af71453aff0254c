import LoadHarness.Proofs.Run.Accounting
import LoadHarness.Proofs.Run.Progress

/-! How users drain once the signal is raised.

A call of the behaviour is begun when a user goes on from the test of its cap.

    begun t ≤ begun s + (1 if the user was past its test of the signal in s)

No call begins otherwise (`State.Transition.begun_le`), and none that has begun is
given up: it returns, is recorded, and the user comes to its teardown and its end. -/

namespace LoadHarness.Run

/-! ## Calls that have begun -/

/-- Whether an entry tells of a call of a behaviour that came to its end. -/
def Entry.isBehaviour : Entry → Bool
  | .called _ .behaviour _ _ => true
  | _ => false

/-- One for a user that is in its behaviour. -/
def Point.inFlight {V : Type} : Point V → Nat
  | .behaviour _ => 1
  | _ => 0

/-- One for a user that has passed its test of the signal and has not yet called its behaviour. -/
def Point.passed {V : Type} : Point V → Nat
  | .testCap => 1
  | _ => 0

namespace User

variable {G V : Type}

theorem idle_toTeardown (setting : Setting G V) (user : User V) :
    (user.toTeardown setting).point.inFlight = 0 ∧ (user.toTeardown setting).point.passed = 0 := by
  obtain ⟨point, heq, ⟨_, -, rfl⟩ | ⟨-, rfl⟩⟩ := user.toTeardown_cases setting
  · rw [heq]
    exact ⟨rfl, rfl⟩
  · rw [heq]
    exact ⟨rfl, rfl⟩

theorem idle_toCycle (setting : Setting G V) (user : User V) :
    (user.toCycle setting).point.inFlight = 0 ∧ (user.toCycle setting).point.passed = 0 := by
  rcases user.toCycle_cases setting with ⟨-, -, heq⟩ | ⟨-, heq⟩
  · rw [heq]
    exact ⟨rfl, rfl⟩
  · rw [heq]
    exact idle_toTeardown setting user

theorem idle_start (setting : Setting G V) (id : Nat) :
    (start setting id).point.inFlight = 0 ∧ (start setting id).point.passed = 0 := by
  unfold start
  split
  · exact ⟨rfl, rfl⟩
  · exact idle_toCycle setting _

/-- With the signal raised, a step ends a call or begins one, and it begins one only for a user that
has passed its test. -/
theorem Step.inFlight {setting : Setting G V} {user : User V} {shared : Shared}
    {stepped : Stepped V} (h : user.Step setting shared stepped)
    (hsignal : shared.stopping = true) :
    user.point.inFlight ≤ stepped.entries.countP Entry.isBehaviour + stepped.user.point.inFlight ∧
      stepped.entries.countP Entry.isBehaviour + stepped.user.point.inFlight +
          stepped.user.point.passed ≤
        user.point.inFlight + user.point.passed := by
  have hteardown := idle_toTeardown (V := V) setting
  have hcycle := idle_toCycle (V := V) setting
  cases h with
  | acts hook hpoint =>
    rw [hpoint]
    cases hook <;> exact ⟨Nat.le_refl _, Nat.le_refl _⟩
  | brokeOff hook hpoint =>
    rw [hpoint]
    cases hook <;> exact ⟨Nat.le_refl _, Nat.le_refl _⟩
  | sawNoSignal hpoint hnone =>
    rw [hsignal] at hnone
    cases hnone
  | setUp hpoint =>
    rw [hpoint, (hcycle _).1, (hcycle _).2]
    exact ⟨Nat.le_refl _, Nat.le_refl _⟩
  | setupFailed hpoint | sawSignal hpoint =>
    rw [hpoint, (hteardown _).1, (hteardown _).2]
    exact ⟨Nat.le_refl _, Nat.le_refl _⟩
  | capped hpoint | lacksBehaviour hpoint =>
    rw [hpoint, (hteardown _).1, (hteardown _).2]
    exact ⟨Nat.le_refl _, Nat.zero_le _⟩
  | settled hpoint =>
    rw [hpoint, settle_user]
    split
    · rw [(hteardown _).1, (hteardown _).2]
      exact ⟨Nat.le_refl _, Nat.le_refl _⟩
    · exact ⟨Nat.le_refl _, Nat.le_refl _⟩
  | advanced hpoint =>
    rw [hpoint]
    cases hpacing : setting.options.pacing.isSome <;> simp [Point.inFlight, Point.passed]
  | calls hpoint =>
    rw [hpoint]
    exact ⟨Nat.zero_le _, Nat.le_refl _⟩
  | returned hpoint | tornDown hpoint | teardownFailed hpoint | paced hpoint | left hpoint =>
    rw [hpoint]
    exact ⟨Nat.le_refl _, Nat.le_refl _⟩

end User

namespace State

variable {G V : Type}

/-- Calls of the behaviour of user `id` that came to their end. -/
def returned (state : State G V) (id : Nat) : Nat := (state.notes id).countP Entry.isBehaviour

/-- Calls of the behaviour of user `id` that have begun. -/
def begun (state : State G V) (id : Nat) : Nat :=
  state.returned id + (state.users[id]?).elim 0 fun user => user.point.inFlight

/-- One if user `id` has passed its test of the signal and has not yet called its behaviour. -/
def passed (state : State G V) (id : Nat) : Nat :=
  (state.users[id]?).elim 0 fun user => user.point.passed

variable {state next : State G V} {move : Move}

/-- With the signal raised, no call is lost, and one begins only for a user that has passed its
test of the signal. -/
theorem Transition.begun_le (h : state.Transition move next)
    (hsignal : state.shared.stopping = true)
    (hids : ∀ (id : Nat) (user : User V), state.users[id]? = some user → user.id = id) (id : Nat) :
    state.begun id ≤ next.begun id ∧
      next.begun id + next.passed id ≤ state.begun id + state.passed id := by
  rcases h.users_cases with ⟨mover, outside, user, stepped, -, huser, hstep, rfl⟩ |
    ⟨-, -, rfl, -⟩ | ⟨haside, -⟩
  · have hnotes := notes_put hstep mover id
    obtain rfl := hids mover user huser
    have hlt := (List.getElem?_eq_some_iff.mp huser).1
    simp only [begun, returned, passed, hnotes, List.countP_append]
    by_cases hid : user.id = id
    · subst hid
      have hcalls := hstep.inFlight hsignal
      simp only [users_put, List.getElem?_set_self hlt, huser, if_pos, Option.elim_some]
      omega
    · simp only [users_put, List.getElem?_set_ne hid, if_neg hid, List.countP_nil]
      exact ⟨Nat.le_refl _, Nat.le_refl _⟩
  · have hidle := User.idle_start state.setting state.users.length
    have hnew : ∀ f : User V → Nat, f (User.start state.setting state.users.length) = 0 →
        ((state.users ++ [User.start state.setting state.users.length])[id]?).elim 0 f =
          (state.users[id]?).elim 0 f := by
      intro f hzero
      rw [List.getElem?_append]
      split
      · rfl
      · rename_i hge
        rw [List.getElem?_eq_none (Nat.le_of_not_lt hge), List.getElem?_singleton]
        split
        · exact hzero
        · rfl
    simp only [begun, passed, hnew (fun user => user.point.inFlight) hidle.1,
      hnew (fun user => user.point.passed) hidle.2]
    exact ⟨Nat.le_refl _, Nat.le_refl _⟩
  · simp only [begun, returned, passed, haside.users, haside.notes]
    exact ⟨Nat.le_refl _, Nat.le_refl _⟩

theorem begun_after (scenario : Scenario G V) (options : Options) (startedAt : Int)
    (moves : List Move)
    (hsignal : ((start scenario options startedAt).after moves).shared.stopping = true)
    (later : List Move) (id : Nat) :
    ((start scenario options startedAt).after moves).begun id ≤
        (((start scenario options startedAt).after moves).after later).begun id ∧
      (((start scenario options startedAt).after moves).after later).begun id +
          (((start scenario options startedAt).after moves).after later).passed id ≤
        ((start scenario options startedAt).after moves).begun id +
          ((start scenario options startedAt).after moves).passed id := by
  induction later using List.reverseRecOn with
  | nil => exact ⟨Nat.le_refl _, Nat.le_refl _⟩
  | append_singleton later move ih =>
    have hraised := stopping_after hsignal later
    have hids : ∀ (id : Nat) (user : User V),
        ((start scenario options startedAt).after (moves ++ later)).users[id]? = some user →
          user.id = id := fun _ _ => id_of_getElem? scenario options startedAt (moves ++ later)
    rw [after_append] at hids
    rw [after_append, after_cons, after_nil]
    generalize ((start scenario options startedAt).after moves).after later = state at *
    rcases step_cases state move with heq | ⟨-, htransition⟩
    · rw [heq]
      exact ih
    · have hstep := htransition.begun_le hraised hids id
      omega

theorem begun_eq_zero (scenario : Scenario G V) (options : Options) (startedAt : Int)
    (moves : List Move) (h : ((start scenario options startedAt).after moves).users = [])
    (id : Nat) :
    ((start scenario options startedAt).after moves).begun id = 0 ∧
      ((start scenario options startedAt).after moves).passed id = 0 := by
  have hnone : ((start scenario options startedAt).after moves).users[id]? = none := by
    rw [h]
    rfl
  have hnotes := notes_eq_nil scenario options startedAt moves hnone
  simp only [begun, returned, passed, hnone, hnotes]
  exact ⟨rfl, rfl⟩

theorem returned_of_over {state : State G V} {id : Nat} {user : User V}
    (huser : state.users[id]? = some user) (hover : user.isOver = true) :
    state.returned id = state.begun id := by
  have hidle : user.point.inFlight = 0 := by
    rw [User.isOver] at hover
    split at hover
    · rename_i hpoint
      rw [hpoint]
      rfl
    · rename_i text hpoint
      rw [hpoint]
      rfl
    · cases hover
  rw [begun, huser, Option.elim_some, hidle, Nat.add_zero]

end State

/-! ## Draining -/

section

variable {G V : Type} {scenario : Scenario G V} {options : Options} {id : Nat} {healthy : Bool}
  {setup teardown : Option (Except Failure Unit)} {outcomes : List (Except Failure Unit)}

theorem countP_isBehaviour_behaviours (id : Nat) (outcomes : List (Except Failure Unit)) :
    (behaviours id outcomes).countP Entry.isBehaviour = outcomes.length := by
  have hall : ∀ entry ∈ behaviours id outcomes, entry.isBehaviour = true := by
    intro entry hmem
    obtain ⟨_, -, rfl⟩ := List.mem_map.mp hmem
    rfl
  rw [List.countP_eq_length.mpr hall, behaviours, List.length_map, List.length_zipIdx]

/-- A life tells of every call of the behaviour. -/
theorem Lived.length_outcomes {state : State G V}
    (h : Lived scenario options id healthy (state.turns id) setup outcomes teardown) :
    outcomes.length = state.returned id := by
  have hturns : state.returned id = ((state.turns id).filter Entry.isCall).countP
      Entry.isBehaviour := by
    rw [State.returned, State.turns, List.countP_filter, List.countP_filter]
    congr 1
    funext entry
    cases entry with
    | called party hook => cases hook <;> rfl
    | acted | looked | finalized => rfl
  have hsetup : (setup.toList.map fun outcome => Entry.called (.user id) .userSetup 0
      (resultOf outcome)).countP Entry.isBehaviour = 0 := by
    cases setup <;> rfl
  have hteardown : (teardown.toList.map fun outcome => Entry.called (.user id) .userTeardown
      (lastIteration outcomes) (resultOf outcome)).countP Entry.isBehaviour = 0 := by
    cases teardown <;> rfl
  rw [hturns, h.calls, List.countP_append, List.countP_append, hsetup, hteardown,
    countP_isBehaviour_behaviours, Nat.zero_add, Nat.add_zero]

/-- What becomes of user `id` between a moment at which the signal is raised and a later one. -/
structure Drained (scenario : Scenario G V) (options : Options) (raised later : State G V)
    (id : Nat) : Prop where
  /-- No call that has begun is lost. -/
  kept : raised.begun id ≤ later.begun id
  /-- One more call begins at most, and only if the user has passed its test of the signal. -/
  atMostOne : later.begun id ≤ raised.begun id + raised.passed id
  /-- No call begins at all if there was no user yet. -/
  noneBefore : raised.users = [] → later.begun id = 0
  /-- When the user is over, every call that has begun has come to its end. -/
  completed : ∀ user, later.users[id]? = some user → user.isOver = true →
    later.returned id = later.begun id
  /-- What calls return is recorded as ever: all of it, once users are over. -/
  recorded : ∃ counted, later.Recorded counted ∧
    (later.allOver = true → counted.Perm (later.outcomes.filterMap recordOf))
  /-- The last hook is the teardown, after all the calls that have begun. -/
  lived : ∀ user, later.users[id]? = some user → user.point = .ended →
    ∃ setup outcomes teardown,
      Lived scenario options id user.healthy (later.turns id) setup outcomes teardown ∧
      outcomes.length = later.begun id

end

variable {G V : Type}

/-- Whenever the signal is raised and whoever raises it: after that every user drains, a user that
moves again and again comes to its end, and if all users and the run do so the run is concluded,
with every user at its end unless a hook of the run itself failed. -/
theorem drained_of_stopping (scenario : Scenario G V) (options : Options) (startedAt : Int)
    (moves : List Move)
    (hsignal : ((State.start scenario options startedAt).after moves).shared.stopping = true) :
    (∀ later id, Drained scenario options ((State.start scenario options startedAt).after moves)
      (((State.start scenario options startedAt).after moves).after later) id) ∧
    (∀ (schedule : Nat → Move) (id : Nat) (user : User V),
      ((State.start scenario options startedAt).after moves).users[id]? = some user →
      (State.Again schedule fun move => ∃ outside, move = .user id outside) →
      ∃ n later,
        (((State.start scenario options startedAt).after moves).follow schedule n).users[id]? =
          some later ∧ later.isOver = true) ∧
    ∀ schedule : Nat → Move,
      (State.Again schedule fun move => ∃ outside, move = .control outside) →
      (∀ id < options.virtualUsers,
        State.Again schedule fun move => ∃ outside, move = .user id outside) →
      ∃ n conclusion,
        (((State.start scenario options startedAt).after moves).follow schedule n).conclusion? =
          some conclusion ∧
        ((((State.start scenario options startedAt).after moves).follow schedule n).users = [] ∧
            ((∃ failure, conclusion = .failed failure) ∨ ∃ text, conclusion = .panicked text) ∨
          (((State.start scenario options startedAt).after moves).follow schedule n).users.length =
              options.virtualUsers ∧
            (((State.start scenario options startedAt).after moves).follow schedule n).allOver =
              true) := by
  have hstaged := State.staged_after scenario options startedAt moves
  refine ⟨fun later id => ?_, fun schedule id user huser hagain => ?_,
    fun schedule hcontrol hagain => ?_⟩
  · have hbegun := State.begun_after scenario options startedAt moves hsignal later id
    constructor
    case kept => exact hbegun.1
    case atMostOne => omega
    case noneBefore =>
      intro hnil
      have hzero := State.begun_eq_zero scenario options startedAt moves hnil id
      omega
    case completed => exact fun user huser hover => State.returned_of_over huser hover
    case recorded =>
      rw [← State.after_append]
      obtain ⟨counted, hrecorded⟩ :=
        State.exists_recorded_after scenario options startedAt (moves ++ later)
      exact ⟨counted, hrecorded, hrecorded.perm_of_allOver⟩
    case lived =>
      intro user huser hended
      have hreturned := State.returned_of_over huser (by rw [User.isOver, hended])
      rw [← hreturned]
      rw [← State.after_append] at huser ⊢
      obtain ⟨rfl, hlife⟩ := State.life_after scenario options startedAt (moves ++ later) huser
      simp only [Life, hended] at hlife
      obtain ⟨before, last, hexit, hturns⟩ := hlife
      obtain ⟨setup, outcomes, teardown, hlived⟩ := hexit.lived hturns
      exact ⟨setup, outcomes, teardown, hlived, hlived.length_outcomes⟩
  · exact State.exists_over hstaged hsignal huser hagain
  · have hoptions := (State.fixed_after (State.start scenario options startedAt) moves).2.1
    obtain ⟨n, hconcluded⟩ := State.exists_concluded hstaged hsignal hcontrol (by
      intro id hlt
      rw [hoptions] at hlt
      exact hagain id hlt)
    obtain ⟨conclusion, hconclusion⟩ := Option.isSome_iff_exists.mp hconcluded
    have hfollow :
        (((State.start scenario options startedAt).after moves).follow schedule n).options =
          options := (State.options_follow _ schedule n).trans hoptions
    have hcases := (hstaged.follow schedule n).of_concluded hconclusion
    rw [hfollow] at hcases
    exact ⟨n, conclusion, hconclusion, hcases⟩

/-- The signal is raised by a person while the only user is on its way to its first iteration. -/
theorem drained_sample :
    ((State.start Sample.scenario (Sample.options 1 none) 0).after
        (Sample.control 2 ++ Sample.user 0 2 ++ [.interrupt])).shared.stopping = true ∧
      ∀ later id, Drained Sample.scenario (Sample.options 1 none)
        ((State.start Sample.scenario (Sample.options 1 none) 0).after
          (Sample.control 2 ++ Sample.user 0 2 ++ [.interrupt]))
        (((State.start Sample.scenario (Sample.options 1 none) 0).after
          (Sample.control 2 ++ Sample.user 0 2 ++ [.interrupt])).after later) id := by
  have hsignal : ((State.start Sample.scenario (Sample.options 1 none) 0).after
      (Sample.control 2 ++ Sample.user 0 2 ++ [.interrupt])).shared.stopping = true := rfl
  exact ⟨hsignal, (drained_of_stopping Sample.scenario (Sample.options 1 none) 0 _ hsignal).1⟩

end LoadHarness.Run
