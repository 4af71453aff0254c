import LoadHarness.Proofs.Run.Books
import Mathlib.Data.List.Induction

/-! The virtual users of a run, seen apart from what else is in its state.

A transition is a step of one user, the launch of one, or something that leaves
the users as they are and notes nothing about them (`State.Transition.users_cases`).
Scenario and options never change.

A user is a machine of its own: what it begins with and keeps, step by step,
holds of it and of its notes whatever the others do (`State.user_induction`). -/

namespace LoadHarness.Run

/-- The virtual user that an entry of the journal is about. -/
def Entry.user? : Entry → Option Nat
  | .acted (.user id) _ _ | .called (.user id) _ _ _ | .looked id _ _ => some id
  | .acted .run _ _ | .acted .background _ _ | .called .run _ _ _ | .called .background _ _ _
  | .finalized _ => none

theorem exists_split {α : Type} {l : List α} {n : Nat} {a : α} (h : l[n]? = some a) :
    ∃ front back, l = front ++ a :: back ∧ front.length = n ∧
      ∀ b, l.set n b = front ++ b :: back := by
  obtain ⟨hlt, rfl⟩ := List.getElem?_eq_some_iff.mp h
  refine ⟨l.take n, l.drop (n + 1), ?_, ?_, ?_⟩
  · rw [List.getElem_cons_drop, List.take_append_drop]
  · rw [List.length_take]
    omega
  · intro b
    rw [List.set_eq_take_append_cons_drop, if_pos hlt]

namespace User

variable {G V : Type}

theorem toTeardown_cases (setting : Setting G V) (user : User V) :
    ∃ point, user.toTeardown setting = { user with point := point } ∧
      ((∃ hook, setting.scenario.userTeardown = some hook ∧
          point = .teardown (user.begin setting hook)) ∨
        setting.scenario.userTeardown = none ∧ point = .leave) := by
  unfold toTeardown
  split
  · rename_i hook h
    exact ⟨_, rfl, .inl ⟨hook, h, rfl⟩⟩
  · rename_i h
    exact ⟨_, rfl, .inr ⟨h, rfl⟩⟩

theorem toCycle_cases (setting : Setting G V) (user : User V) :
    (user.healthy = true ∧ setting.scenario.behaviour.isSome = true ∧
        user.toCycle setting = { user with point := .testSignal }) ∨
      ((user.healthy = false ∨ setting.scenario.behaviour = none) ∧
        user.toCycle setting = user.toTeardown setting) := by
  unfold toCycle
  split
  · rename_i h
    rw [Bool.and_eq_true] at h
    exact .inl ⟨h.1, h.2, rfl⟩
  · rename_i h
    refine .inr ⟨?_, rfl⟩
    cases hhealthy : user.healthy with
    | false => exact .inl rfl
    | true =>
      rw [hhealthy, Bool.true_and, Bool.not_eq_true, Option.isSome_eq_false_iff,
        Option.isNone_iff_eq_none] at h
      exact .inr h

@[simp] theorem id_toTeardown (setting : Setting G V) (user : User V) :
    (user.toTeardown setting).id = user.id := by
  obtain ⟨point, h, -⟩ := user.toTeardown_cases setting
  rw [h]

@[simp] theorem id_toCycle (setting : Setting G V) (user : User V) :
    (user.toCycle setting).id = user.id := by
  rcases user.toCycle_cases setting with ⟨-, -, h⟩ | ⟨-, h⟩
  · rw [h]
  · rw [h, id_toTeardown]

theorem id_start (setting : Setting G V) (id : Nat) : (start setting id).id = id := by
  unfold start
  split
  · rfl
  · exact id_toCycle _ _

variable {setting : Setting G V} {user : User V} {shared : Shared} {stepped : Stepped V}

theorem Step.id (h : user.Step setting shared stepped) : stepped.user.id = user.id := by
  cases h with
  | setUp => exact id_toCycle _ _
  | setupFailed | sawSignal | capped | lacksBehaviour => exact id_toTeardown _ _
  | settled =>
    rw [settle_user]
    split
    · exact id_toTeardown _ _
    · rfl
  | acts | returned | tornDown | teardownFailed | brokeOff | sawNoSignal | calls | advanced
  | paced | left => rfl

theorem Step.not_isOver (h : user.Step setting shared stepped) : user.isOver = false := by
  unfold isOver
  cases h with
  | acts hook hpoint | brokeOff hook hpoint => cases hook <;> (rw [hpoint]; rfl)
  | setUp hpoint | setupFailed hpoint | returned hpoint | tornDown hpoint | teardownFailed hpoint
  | sawSignal hpoint | sawNoSignal hpoint | capped hpoint | calls hpoint | lacksBehaviour hpoint
  | settled hpoint | advanced hpoint | paced hpoint | left hpoint =>
    rw [hpoint]

/-- A step of a user is noted as its own. -/
theorem Step.entries (h : user.Step setting shared stepped) :
    ∀ entry ∈ stepped.entries, entry.user? = some user.id := by
  intro entry hmem
  cases h with
  | acts | setUp | setupFailed | returned | tornDown | teardownFailed | brokeOff | sawSignal
  | sawNoSignal =>
    rw [List.mem_singleton.mp hmem]
    rfl
  | capped | calls | lacksBehaviour | settled | advanced | paced | left => cases hmem

end User

namespace State

variable {G V : Type}

/-- What a transition that is no step of a user leaves as it is. -/
structure Aside (state next : State G V) : Prop where
  users : next.users = state.users
  noted : ∃ entries, next.history = state.history ++ entries ∧
    ∀ entry ∈ entries, entry.user? = none

theorem Aside.of_journal_eq {state next : State G V} (husers : next.users = state.users)
    (hjournal : next.journal = state.journal) : state.Aside next :=
  ⟨husers, [], by rw [history, history, hjournal, List.append_nil], fun _ h => by cases h⟩

theorem Aside.of_note {state next : State G V} {entry : Entry} (husers : next.users = state.users)
    (hjournal : next.journal = entry :: state.journal) (hentry : entry.user? = none) :
    state.Aside next := by
  refine ⟨husers, [entry], ?_, ?_⟩
  · rw [history, history, hjournal, List.reverse_cons]
  · intro other hmem
    rw [List.mem_singleton.mp hmem]
    exact hentry

theorem frame_concludeTeardown (state : State G V) :
    state.concludeTeardown.users = state.users ∧
      state.concludeTeardown.journal = state.journal := by
  obtain ⟨stage, h⟩ := concludeTeardown_eq state
  rw [h]
  exact ⟨rfl, rfl⟩

theorem frame_toTeardown (state : State G V) :
    state.toTeardown.users = state.users ∧ state.toTeardown.journal = state.journal := by
  obtain ⟨stage, h⟩ := toTeardown_eq state
  rw [h]
  exact ⟨rfl, rfl⟩

@[simp] theorem history_concludeTeardown (state : State G V) :
    state.concludeTeardown.history = state.history :=
  congrArg List.reverse (frame_concludeTeardown state).2

@[simp] theorem history_toTeardown (state : State G V) :
    state.toTeardown.history = state.history :=
  congrArg List.reverse (frame_toTeardown state).2

variable {state next : State G V} {move : Move}

theorem Transition.users_cases (h : state.Transition move next) :
    (∃ id outside user stepped, move = .user id outside ∧ state.users[id]? = some user ∧
      user.Step state.setting state.shared stepped ∧
      next = state.put id stepped) ∨
    (state.stage = .launch ∧ state.users.length < state.options.virtualUsers ∧
      (next = { state with
        users := state.users ++ [User.start state.setting state.users.length] }) ∧
      ∀ id outside, move ≠ .user id outside) ∨
    (state.Aside next ∧ ∀ id outside, move ≠ .user id outside) := by
  cases h with
  | user huser hstep => exact .inl ⟨_, _, _, _, rfl, huser, User.step_cases hstep, rfl⟩
  | launched hstage hlt => exact .inr (.inl ⟨hstage, hlt, rfl, fun _ _ h => by cases h⟩)
  | acts | setUp | setupFailed | brokeOff =>
    exact .inr (.inr ⟨.of_note rfl rfl rfl, fun _ _ h => by cases h⟩)
  | finished =>
    have hframe := frame_toTeardown
      { state with shared := state.shared.changePhase .run (.set .done) }
    exact .inr (.inr ⟨.of_journal_eq hframe.1 hframe.2, fun _ _ h => by cases h⟩)
  | tornDown | teardownFailed =>
    refine .inr (.inr ⟨.of_note (frame_concludeTeardown _).1 (frame_concludeTeardown _).2 rfl, ?_⟩)
    exact fun _ _ h => by cases h
  | concluded => exact .inr (.inr ⟨.of_note rfl rfl rfl, fun _ _ h => by cases h⟩)
  | started | launchedAll | announced | joined | halted | readOpened | deadline | interrupt
  | drain | backgroundOpen | backgroundClose =>
    exact .inr (.inr ⟨.of_journal_eq rfl rfl, fun _ _ h => by cases h⟩)

theorem Transition.fixed (h : state.Transition move next) :
    next.scenario = state.scenario ∧ next.options = state.options ∧
      next.startedAt = state.startedAt := by
  cases h with
  | finished =>
    obtain ⟨stage, h⟩ := toTeardown_eq
      { state with shared := state.shared.changePhase .run (.set .done) }
    rw [h]
    exact ⟨rfl, rfl, rfl⟩
  | tornDown | teardownFailed =>
    unfold concludeTeardown
    split <;> exact ⟨rfl, rfl, rfl⟩
  | user | acts | setUp | setupFailed | brokeOff | started | launched | launchedAll | announced
  | joined | halted | readOpened | concluded | deadline | interrupt | drain | backgroundOpen
  | backgroundClose => exact ⟨rfl, rfl, rfl⟩

theorem fixed_after (state : State G V) (moves : List Move) :
    (state.after moves).scenario = state.scenario ∧
      (state.after moves).options = state.options ∧
      (state.after moves).startedAt = state.startedAt := by
  apply after_induction moves (P := fun other =>
    other.scenario = state.scenario ∧ other.options = state.options ∧
      other.startedAt = state.startedAt) ⟨rfl, rfl, rfl⟩
  intro before move next hbefore _ h
  obtain ⟨hscenario, hoptions, hstarted⟩ := h.fixed
  exact ⟨hscenario.trans hbefore.1, hoptions.trans hbefore.2.1, hstarted.trans hbefore.2.2⟩

/-- What the journal says about one user, oldest first. -/
def notes (state : State G V) (id : Nat) : List Entry :=
  state.history.filter fun entry => entry.user? == some id

theorem filter_user?_of_forall {entries : List Entry} {about : Option Nat}
    (h : ∀ entry ∈ entries, entry.user? = about) (id : Nat) :
    entries.filter (fun entry => entry.user? == some id) =
      if about = some id then entries else [] := by
  split
  · rename_i hid
    rw [List.filter_eq_self]
    intro entry hmem
    rw [h entry hmem, hid, beq_self_eq_true]
  · rename_i hid
    rw [List.filter_eq_nil_iff]
    intro entry hmem
    rw [h entry hmem, beq_iff_eq]
    exact hid

/-- The step of a user is added to the notes of that user alone. -/
theorem notes_put {user : User V} {shared : Shared} {stepped : Stepped V}
    (hstep : user.Step state.setting shared stepped) (mover id : Nat) :
    (state.put mover stepped).notes id =
      state.notes id ++ if user.id = id then stepped.entries else [] := by
  rw [notes, history_put, List.filter_append, filter_user?_of_forall hstep.entries]
  simp only [notes, Option.some.injEq]

theorem Aside.notes (h : state.Aside next) (id : Nat) : next.notes id = state.notes id := by
  obtain ⟨entries, hhistory, hentries⟩ := h.noted
  rw [State.notes, hhistory, List.filter_append, filter_user?_of_forall hentries, if_neg (by simp),
    List.append_nil, State.notes]

/-- Users stand at the places of their ids, what `P` says holds of each of them and its notes, and
nothing is noted of one that is not there yet. -/
structure Noted (P : User V → List Entry → Prop) (state : State G V) : Prop where
  absent : ∀ id, state.users.length ≤ id → state.notes id = []
  present : ∀ id user, state.users[id]? = some user → user.id = id ∧ P user (state.notes id)

variable {P : User V → List Entry → Prop}

theorem Noted.put (h : state.Noted P) {id : Nat} {user : User V} {shared : Shared}
    {stepped : Stepped V} (huser : state.users[id]? = some user)
    (hstep : user.Step state.setting shared stepped)
    (hkeep : P user (state.notes id) → P stepped.user (state.notes id ++ stepped.entries)) :
    (state.put id stepped).Noted P := by
  have hnotes := notes_put hstep id
  have hlt := (List.getElem?_eq_some_iff.mp huser).1
  obtain ⟨hid, hP⟩ := h.present id user huser
  constructor
  case absent =>
    intro other hle
    rw [users_put, List.length_set] at hle
    rw [hnotes, h.absent other hle, if_neg (by omega), List.append_nil]
  case present =>
    intro other later hlater
    rw [hnotes, hid]
    by_cases hne : id = other
    · subst hne
      rw [users_put, List.getElem?_set_self hlt, Option.some.injEq] at hlater
      rw [← hlater, if_pos rfl]
      exact ⟨hstep.id.trans hid, hkeep hP⟩
    · rw [users_put, List.getElem?_set_ne hne] at hlater
      rw [if_neg hne, List.append_nil]
      exact h.present other later hlater

theorem Noted.launch (h : state.Noted P)
    (hstart : P (User.start state.setting state.users.length) []) :
    Noted P { state with
      users := state.users ++ [User.start state.setting state.users.length] } := by
  constructor
  case absent =>
    intro id hle
    rw [List.length_append, List.length_singleton] at hle
    exact h.absent id (by omega)
  case present =>
    intro id user huser
    rw [List.getElem?_append] at huser
    split at huser
    · exact h.present id user huser
    · rename_i hge
      rw [List.getElem?_singleton] at huser
      split at huser
      · rename_i hlast
        cases huser
        have hid : state.users.length = id := by omega
        subst hid
        rw [← h.absent _ (Nat.le_refl _)] at hstart
        exact ⟨User.id_start _ _, hstart⟩
      · cases huser

theorem Noted.aside (h : state.Noted P) (haside : state.Aside next) : next.Noted P := by
  constructor
  case absent =>
    intro id hle
    rw [haside.users] at hle
    rw [haside.notes, h.absent id hle]
  case present =>
    intro id user huser
    rw [haside.users] at huser
    rw [haside.notes]
    exact h.present id user huser

/-- What every user begins with and keeps step by step, together with its notes, holds of every
user there is after all moves. -/
theorem noted_after {scenario : Scenario G V} {options : Options} {startedAt : Int}
    (hstart : ∀ setting : Setting G V, setting.scenario = scenario → setting.options = options →
      ∀ id, P (.start setting id) [])
    (hkeep : ∀ setting : Setting G V, setting.scenario = scenario → setting.options = options →
      ∀ (user : User V) (shared : Shared) (stepped : Stepped V) (notes : List Entry),
        P user notes → user.Step setting shared stepped → P stepped.user (notes ++ stepped.entries))
    (moves : List Move) : ((start scenario options startedAt).after moves).Noted P := by
  induction moves using List.reverseRecOn with
  | nil => exact ⟨fun _ _ => rfl, fun _ _ h => by cases h⟩
  | append_singleton moves move ih =>
    obtain ⟨hscenario, hoptions, -⟩ := fixed_after (start scenario options startedAt) moves
    rw [after_append, after_cons, after_nil]
    generalize (start scenario options startedAt).after moves = state at *
    rcases step_cases state move with heq | ⟨-, htransition⟩
    · rw [heq]
      exact ih
    rcases htransition.users_cases with ⟨id, _, user, stepped, -, huser, hstep, heq⟩ |
      ⟨-, -, heq, -⟩ | ⟨haside, -⟩
    · rw [heq]
      exact ih.put huser hstep fun hP =>
        hkeep state.setting hscenario hoptions user _ stepped _ hP hstep
    · rw [heq]
      exact ih.launch (hstart state.setting hscenario hoptions _)
    · exact ih.aside haside

theorem user_induction {scenario : Scenario G V} {options : Options} {startedAt : Int}
    (hstart : ∀ setting : Setting G V, setting.scenario = scenario → setting.options = options →
      ∀ id, P (.start setting id) [])
    (hkeep : ∀ setting : Setting G V, setting.scenario = scenario → setting.options = options →
      ∀ (user : User V) (shared : Shared) (stepped : Stepped V) (notes : List Entry),
        P user notes → user.Step setting shared stepped → P stepped.user (notes ++ stepped.entries))
    (moves : List Move) {id : Nat} {user : User V}
    (h : ((start scenario options startedAt).after moves).users[id]? = some user) :
    user.id = id ∧ P user (((start scenario options startedAt).after moves).notes id) :=
  (noted_after hstart hkeep moves).present id user h

theorem id_of_getElem? (scenario : Scenario G V) (options : Options) (startedAt : Int)
    (moves : List Move) {id : Nat} {user : User V}
    (h : ((start scenario options startedAt).after moves).users[id]? = some user) : user.id = id :=
  (user_induction (P := fun _ _ => True) (fun _ _ _ _ => trivial)
    (fun _ _ _ _ _ _ _ _ _ => trivial) moves h).1

/-- Every user stands at the place of its id. -/
def Placed (state : State G V) : Prop :=
  ∀ (id : Nat) (user : User V), state.users[id]? = some user → user.id = id

theorem placed_after (scenario : Scenario G V) (options : Options) (startedAt : Int)
    (moves : List Move) : ((State.start scenario options startedAt).after moves).Placed :=
  fun _ _ h => id_of_getElem? scenario options startedAt moves h

theorem notes_eq_nil (scenario : Scenario G V) (options : Options) (startedAt : Int)
    (moves : List Move) {id : Nat}
    (h : ((start scenario options startedAt).after moves).users[id]? = none) :
    ((start scenario options startedAt).after moves).notes id = [] :=
  (noted_after (P := fun _ _ => True) (fun _ _ _ _ => trivial)
    (fun _ _ _ _ _ _ _ _ _ => trivial) moves).absent id (List.getElem?_eq_none_iff.mp h)

/-- Only its own moves change a user that is there. -/
theorem Transition.getElem?_users (h : state.Transition move next) {id : Nat} {user : User V}
    (huser : state.users[id]? = some user) (hmove : ∀ outside, move ≠ .user id outside) :
    next.users[id]? = some user := by
  rcases h.users_cases with ⟨mover, outside, _, stepped, rfl, -, -, rfl⟩ | ⟨-, -, rfl, -⟩ |
    ⟨haside, -⟩
  · have hne : mover ≠ id := by
      rintro rfl
      exact hmove outside rfl
    rw [users_put, List.getElem?_set_ne hne]
    exact huser
  · rw [List.getElem?_append_left (List.getElem?_eq_some_iff.mp huser).1]
    exact huser
  · rw [haside.users]
    exact huser

end State

end LoadHarness.Run
