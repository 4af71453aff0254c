import LoadHarness.Proofs.Check.Tally
import LoadHarness.Proofs.Run.Stages
import LoadHarness.Proofs.Run.Trace

/-! What the summary of a run says about iterations, and what the users did.

An outcome is recorded some time after the call that it comes of has returned.
What is recorded and what users still have to record is together, in some order,
what the calls have returned (`Recorded.keep`); at the end nothing is left to be
recorded.  So every number of the summary is a count of calls. -/

namespace LoadHarness.Run

/-! ## Outcomes and their counts -/

/-- The outcome of a call of a behaviour that returned. -/
def Entry.outcome? : Entry → Option (Except Failure Unit)
  | .called (.user _) .behaviour _ (.ok ()) => some (.ok ())
  | .called (.user _) .behaviour _ (.error (.failure failure)) => some (.error failure)
  | _ => none

/-- The outcomes of all calls of behaviours that returned, in the order in which they did. -/
def State.outcomes {G V : Type} (state : State G V) : List (Except Failure Unit) :=
  state.history.filterMap Entry.outcome?

/-- Whether an iteration gave up because the run is stopping. -/
def cutShort : Except Failure Unit → Bool
  | .ok () => false
  | .error failure => failure.isShutdown

/-- Whether an iteration failed in this class. -/
def failsAs («class» : String) : Except Failure Unit → Bool
  | .ok () => false
  | .error failure => !failure.isShutdown && failure.className == «class»

/-- Whether an entry says that the setup of a user failed or that an iteration of it bailed. -/
def Entry.spoils (id : Nat) : Entry → Bool
  | .called (.user other) .userSetup _ (.error _) => other == id
  | .called (.user other) .behaviour _ (.error (.failure failure)) =>
    other == id && bails (.error failure)
  | _ => false

theorem length_filterMap_recordOf (outcomes : List (Except Failure Unit)) :
    (outcomes.filterMap recordOf).length + outcomes.countP cutShort = outcomes.length := by
  induction outcomes with
  | nil => rfl
  | cons outcome outcomes ih =>
    rw [List.filterMap_cons, List.countP_cons, List.length_cons]
    match outcome with
    | .ok () =>
      simp only [recordOf, cutShort, Bool.false_eq_true, if_false, List.length_cons]
      omega
    | .error failure =>
      cases hshutdown : failure.isShutdown <;>
        simp only [recordOf, cutShort, hshutdown, Bool.false_eq_true, if_false, if_true,
          List.length_cons] <;> omega

theorem count_filterMap_recordOf (outcomes : List (Except Failure Unit)) («class» : String) :
    (outcomes.filterMap recordOf).count (some «class») = outcomes.countP (failsAs «class») := by
  induction outcomes with
  | nil => rfl
  | cons outcome outcomes ih =>
    rw [List.filterMap_cons, List.countP_cons, ← ih]
    match outcome with
    | .ok () => simp [recordOf, failsAs]
    | .error failure =>
      cases hshutdown : failure.isShutdown
      · simp only [recordOf, failsAs, hshutdown, Bool.false_eq_true, if_false, Bool.not_false,
          Bool.true_and, List.count_cons]
        rfl
      · simp [recordOf, failsAs, hshutdown]

theorem countP_isSome_filterMap_recordOf (outcomes : List (Except Failure Unit)) :
    (outcomes.filterMap recordOf).countP Option.isSome + outcomes.countP Except.isOk =
      (outcomes.filterMap recordOf).length := by
  induction outcomes with
  | nil => rfl
  | cons outcome outcomes ih =>
    rw [List.filterMap_cons]
    match outcome with
    | .ok () =>
      rw [List.countP_cons_of_pos rfl]
      simp only [recordOf, List.length_cons, List.countP_cons_of_neg, Option.isSome_none,
        Bool.false_eq_true, not_false_eq_true]
      omega
    | .error failure =>
      rw [List.countP_cons_of_neg (by exact Bool.false_ne_true)]
      cases hshutdown : failure.isShutdown
      · simp only [recordOf, hshutdown, Bool.false_eq_true, if_false, List.length_cons,
          List.countP_cons_of_pos, Option.isSome_some]
        omega
      · simp only [recordOf, hshutdown, if_true]
        exact ih

/-! ## Recorded and still to be recorded -/

/-- The iterations among an entry in the books. -/
def Deed.iterations : Deed → List (Option String)
  | .iteration failure => [failure]
  | .none | .check _ | .opened _ | .closed _ => []

theorem iterations_actionDeed (desk : Desk) (action : Action) :
    (actionDeed desk action).iterations = [] := by
  cases action <;> rfl

/-- Whether a recorder has counted these iterations. -/
def Recorder.Counts (recorder : Recorder) (counted : List (Option String)) : Prop :=
  recorder.iterations = (iterationLog counted).iterations ∧
    recorder.failed = (iterationLog counted).failed

theorem counts_after {books : Books} {counted : List (Option String)} (deed : Deed)
    (h : Recorder.Counts books.recorder counted) :
    Recorder.Counts (books.after deed).recorder (counted ++ deed.iterations) := by
  cases deed with
  | iteration failure =>
    rw [Deed.iterations, Recorder.Counts, iterationLog_append_singleton]
    refine ⟨congrArg (· + 1) h.1, ?_⟩
    simp only [Books.after, failed_recordIteration, h.2]
  | none | check | opened | closed =>
    rw [Deed.iterations, List.append_nil]
    exact h

namespace User

variable {G V : Type}

/-- What a user still has to record of a call that has returned. -/
def pending (user : User V) : List (Option String) :=
  match user.point with
  | .settle outcome => (recordOf outcome).toList
  | _ => []

theorem pending_toTeardown (setting : Setting G V) (user : User V) :
    (user.toTeardown setting).pending = [] := by
  obtain ⟨point, heq, ⟨_, -, rfl⟩ | ⟨-, rfl⟩⟩ := user.toTeardown_cases setting
  · rw [heq]
    rfl
  · rw [heq]
    rfl

theorem pending_toCycle (setting : Setting G V) (user : User V) :
    (user.toCycle setting).pending = [] := by
  rcases user.toCycle_cases setting with ⟨-, -, heq⟩ | ⟨-, heq⟩
  · rw [heq]
    rfl
  · rw [heq]
    exact pending_toTeardown setting user

theorem pending_start (setting : Setting G V) (id : Nat) : (start setting id).pending = [] := by
  unfold start
  split
  · rfl
  · exact pending_toCycle setting _

/-- What a call returns is first pending and then recorded, once each. -/
theorem Step.pending {setting : Setting G V} {user : User V} {shared : Shared}
    {stepped : Stepped V} (h : user.Step setting shared stepped) :
    user.pending ++ (stepped.entries.filterMap Entry.outcome?).filterMap recordOf =
      user.deed.iterations ++ stepped.user.pending := by
  cases h with
  | acts hook hpoint =>
    cases hook <;>
      (rw [User.pending, User.deed, hpoint]
       simp [UserHook.point, User.pending, iterations_actionDeed, Entry.outcome?])
  | setUp hpoint =>
    rw [User.pending, User.deed, hpoint, pending_toCycle]
    rfl
  | setupFailed hpoint | sawSignal hpoint | capped hpoint | lacksBehaviour hpoint =>
    rw [User.pending, User.deed, hpoint, pending_toTeardown]
    rfl
  | returned hpoint =>
    rename_i outcome value
    rw [User.pending, User.deed, hpoint]
    cases outcome with
    | ok value => rfl
    | error failure =>
      cases hshutdown : failure.isShutdown <;>
        simp [resultOf, Except.mapError, calledNote, Entry.outcome?, party, recordOf, hshutdown,
          User.pending, Deed.iterations]
  | brokeOff hook hpoint => cases hook <;> (rw [User.pending, User.deed, hpoint]; rfl)
  | settled hpoint =>
    rename_i outcome
    have hdone : (user.settle setting shared outcome).2.pending = [] := by
      rw [settle_user]
      split
      · exact pending_toTeardown setting _
      · rfl
    rw [User.pending, User.deed, hpoint, hdone]
    simp only [List.filterMap_nil, List.append_nil]
    cases recordOf outcome <;> rfl
  | advanced hpoint =>
    rw [User.pending, User.deed, hpoint]
    cases hpacing : setting.options.pacing.isSome <;> simp [User.pending, Deed.iterations]
  | tornDown hpoint | teardownFailed hpoint | sawNoSignal hpoint | calls hpoint | paced hpoint
  | left hpoint =>
    rw [User.pending, User.deed, hpoint]
    rfl

end User

namespace State

variable {G V : Type}

/-- These iterations are recorded, and with those that users still have to record they are all that
calls have returned. -/
def Recorded (state : State G V) (counted : List (Option String)) : Prop :=
  Recorder.Counts state.shared.recorder counted ∧
    (counted ++ state.users.flatMap User.pending).Perm (state.outcomes.filterMap recordOf)

variable {state next : State G V} {move : Move}

theorem iterations_deed (h : ∀ id outside, move ≠ .user id outside) :
    (state.deed move).iterations = [] := by
  unfold deed
  cases move with
  | user id outside => exact absurd rfl (h id outside)
  | control outside =>
    dsimp only
    split
    · exact iterations_actionDeed _ _
    · exact iterations_actionDeed _ _
    · rfl
  | deadline | interrupt | drain | backgroundOpen | backgroundClose => rfl

theorem Aside.outcomes (h : state.Aside next) : next.outcomes = state.outcomes := by
  obtain ⟨entries, hhistory, hentries⟩ := h.noted
  have hnone : entries.filterMap Entry.outcome? = [] := by
    rw [List.filterMap_eq_nil_iff]
    intro entry hmem
    have huser := hentries entry hmem
    unfold Entry.outcome?
    split
    · cases huser
    · cases huser
    · rfl
  rw [State.outcomes, hhistory, List.filterMap_append, hnone, List.append_nil, State.outcomes]

/-- The law of the books: every step moves an outcome on, and none gets lost or doubled. -/
theorem Recorded.keep {counted : List (Option String)} (h : state.Recorded counted)
    (htransition : state.Transition move next) :
    next.Recorded (counted ++ (state.deed move).iterations) := by
  refine ⟨?_, ?_⟩
  · have hcounts : Recorder.Counts state.shared.books.recorder counted := h.1
    have hbooks := counts_after (state.deed move) hcounts
    rw [← htransition.books] at hbooks
    exact hbooks
  rcases htransition.users_cases with ⟨id, outside, user, stepped, rfl, huser, hstep, rfl⟩ |
    ⟨-, -, rfl, hmove⟩ | ⟨haside, hmove⟩
  · obtain ⟨front, back, husers, -, hset⟩ := exists_split huser
    have hpending := hstep.pending
    have hperm := h.2
    have houtcomes : (state.put id stepped).outcomes =
        state.outcomes ++ stepped.entries.filterMap Entry.outcome? := by
      rw [outcomes, history_put, List.filterMap_append]
      rfl
    rw [houtcomes, deed, huser]
    simp only [users_put, hset, List.filterMap_append]
    rw [husers] at hperm
    simp only [List.flatMap_append, List.flatMap_cons] at hperm ⊢
    rw [List.perm_iff_count] at hperm ⊢
    intro iteration
    have hone := congrArg (List.count iteration) hpending
    have hall := hperm iteration
    simp only [List.count_append] at hone hall ⊢
    omega
  · rw [iterations_deed hmove, List.append_nil]
    simp only [List.flatMap_append, List.flatMap_singleton, User.pending_start, List.append_nil]
    exact h.2
  · rw [iterations_deed hmove, List.append_nil, haside.users, haside.outcomes]
    exact h.2

theorem exists_recorded_after (scenario : Scenario G V) (options : Options) (startedAt : Int)
    (moves : List Move) :
    ∃ counted, ((start scenario options startedAt).after moves).Recorded counted := by
  apply after_induction moves (P := fun state => ∃ counted, state.Recorded counted)
  · exact ⟨[], ⟨rfl, rfl⟩, .nil⟩
  · rintro state move next ⟨counted, hrecorded⟩ - htransition
    exact ⟨_, hrecorded.keep htransition⟩

/-- Once all users are over, what is recorded is what calls have returned. -/
theorem Recorded.perm_of_allOver {counted : List (Option String)} (h : state.Recorded counted)
    (hover : state.allOver = true) : counted.Perm (state.outcomes.filterMap recordOf) := by
  have hpending : state.users.flatMap User.pending = [] := by
    rw [List.flatMap_eq_nil_iff]
    intro user hmem
    have hisover := (allOver_iff state).mp hover user hmem
    rw [User.isOver] at hisover
    split at hisover
    · rename_i hpoint
      rw [User.pending, hpoint]
    · rename_i text hpoint
      rw [User.pending, hpoint]
    · cases hisover
  have hperm := h.2
  rw [hpending, List.append_nil] at hperm
  exact hperm

end State

/-! ## The health of users -/

section

variable {G V : Type} {scenario : Scenario G V} {options : Options} {id : Nat} {healthy : Bool}
  {turns : List Entry} {setup teardown : Option (Except Failure Unit)}
  {outcomes : List (Except Failure Unit)}

theorem spoils_setup (id : Nat) (outcome : Except Failure Unit) :
    Entry.spoils id (.called (.user id) .userSetup 0 (resultOf outcome)) = !outcome.isOk := by
  match outcome with
  | .ok () => rfl
  | .error failure => exact beq_self_eq_true id

theorem spoils_behaviour (id iteration : Nat) (outcome : Except Failure Unit) :
    Entry.spoils id (.called (.user id) .behaviour iteration (resultOf outcome)) =
      bails outcome := by
  match outcome with
  | .ok () => rfl
  | .error failure =>
    change (id == id && bails (.error failure)) = _
    rw [beq_self_eq_true, Bool.true_and]

theorem any_spoils_behaviours (id : Nat) (outcomes : List (Except Failure Unit)) :
    (behaviours id outcomes).any (Entry.spoils id) = outcomes.any bails := by
  rw [behaviours, List.any_map]
  simp only [Function.comp_def, spoils_behaviour]
  conv_rhs => rw [← List.zipIdx_map_fst 0 outcomes, List.any_map]
  rfl

/-- A user is in good health at its end unless one of its notes says otherwise. -/
theorem Lived.healthy_eq
    (h : Lived scenario options id healthy turns setup outcomes teardown) :
    healthy = !turns.any (Entry.spoils id) := by
  have hcalls : turns.any (Entry.spoils id) =
      (turns.filter Entry.isCall).any (Entry.spoils id) := by
    rw [List.any_filter]
    congr 1
    funext entry
    cases entry <;> rfl
  have hsetup : (setup.toList.map fun outcome => Entry.called (.user id) .userSetup 0
      (resultOf outcome)).any (Entry.spoils id) = !setup.all Except.isOk := by
    cases setup with
    | none => rfl
    | some outcome =>
      rw [Option.toList_some, List.map_singleton, List.any_cons, List.any_nil, Bool.or_false,
        spoils_setup, Option.all_some]
  have hteardown : (teardown.toList.map fun outcome => Entry.called (.user id) .userTeardown
      (lastIteration outcomes) (resultOf outcome)).any (Entry.spoils id) = false := by
    cases teardown <;> rfl
  rw [hcalls, h.calls, List.any_append, List.any_append, hsetup, hteardown, any_spoils_behaviours,
    Bool.eq_iff_iff, h.healthy_iff]
  simp

theorem countP_eq_countP_range {α : Type} {l : List α} {p : α → Bool} {q : Nat → Bool}
    (h : ∀ i a, l[i]? = some a → p a = q i) : l.countP p = (List.range l.length).countP q := by
  induction l using List.reverseRecOn with
  | nil => rfl
  | append_singleton l a ih =>
    have hlast := h l.length a List.getElem?_concat_length
    rw [List.length_append, List.length_singleton, List.range_succ, List.countP_append,
      List.countP_append, List.countP_singleton, List.countP_singleton, hlast,
      ih fun i b hget => h i b (by
        rw [List.getElem?_append_left (List.getElem?_eq_some_iff.mp hget).1]
        exact hget)]

theorem any_spoils_turns (state : State G V) (id : Nat) :
    (state.turns id).any (Entry.spoils id) = state.history.any (Entry.spoils id) := by
  rw [State.turns, State.notes, List.any_filter, List.any_filter]
  congr 1
  funext entry
  unfold Entry.spoils
  split
  · simp [Entry.user?, Entry.isTurn]
  · simp [Entry.user?, Entry.isTurn]
  · simp

end

/-! ## The summary -/

variable {G V : Type}

/-- However the moves of users are interleaved and whenever the signal is raised, every number that
a summary tells about iterations and users is a count of calls: iterations are calls that returned
anything but a shutdown, failures are counted under their class, and users are counted that neither
failed in their setup nor bailed. -/
theorem summary_counts_calls (scenario : Scenario G V) (options : Options) (startedAt : Int)
    (moves : List Move) {summary : Summary}
    (h : ((State.start scenario options startedAt).after moves).conclusion? =
      some (.finished summary)) :
    summary.iterations +
        ((State.start scenario options startedAt).after moves).outcomes.countP cutShort =
      ((State.start scenario options startedAt).after moves).outcomes.length ∧
    (∀ «class», summary.failedIterations.get? «class» = positive?
      (((State.start scenario options startedAt).after moves).outcomes.countP (failsAs «class»))) ∧
    summary.totalFailed +
        ((State.start scenario options startedAt).after moves).outcomes.countP Except.isOk =
      summary.iterations ∧
    summary.virtualUserEndCount = (List.range options.virtualUsers).countP fun id =>
      !((State.start scenario options startedAt).after moves).history.any (Entry.spoils id) := by
  obtain ⟨counted, hrecorded⟩ := State.exists_recorded_after scenario options startedAt moves
  have hstaged := State.staged_after scenario options startedAt moves
  have hlived : ∀ (id : Nat) (user : User V),
      ((State.start scenario options startedAt).after moves).users[id]? = some user →
        user.id = id ∧ Life scenario options user
          (((State.start scenario options startedAt).after moves).turns id) := fun _ _ =>
    State.life_after scenario options startedAt moves
  obtain ⟨opened, rfl⟩ := State.summary_eq rfl h
  have hoptions := (State.fixed_after (State.start scenario options startedAt) moves).2.1
  generalize hstate : (State.start scenario options startedAt).after moves = state at *
  have hended : state.users.length = options.virtualUsers ∧
      ∀ user ∈ state.users, user.point = .ended := by
    unfold State.conclusion? at h
    split at h
    · rename_i conclusion hstage
      cases h
      simp only [State.Staged, hstage] at hstaged
      rw [hoptions] at hstaged
      exact hstaged
    · cases h
  have hperm := hrecorded.perm_of_allOver (State.allOver_of_ended hended.2)
  have hiterations : state.shared.recorder.iterations =
      (state.outcomes.filterMap recordOf).length := by
    rw [hrecorded.1.1, iterations_iterationLog, hperm.length_eq]
  refine ⟨?_, fun «class» => ?_, ?_, ?_⟩
  · change state.shared.recorder.iterations + _ = _
    rw [hiterations, length_filterMap_recordOf]
  · change state.shared.recorder.failed.get? «class» = _
    rw [hrecorded.1.2, get?_failed_iterationLog, hperm.count_eq, count_filterMap_recordOf]
  · change state.shared.recorder.failed.values.foldr (· + ·) 0 + _ =
      state.shared.recorder.iterations
    rw [hrecorded.1.2, totalFailed_iterationLog, hperm.countP_eq, hiterations,
      countP_isSome_filterMap_recordOf]
  · change state.endCount = _
    rw [State.endCount, ← hended.1]
    apply countP_eq_countP_range
    intro id user huser
    have hpoint := hended.2 user (List.mem_of_getElem? huser)
    obtain ⟨rfl, hlife⟩ := hlived id user huser
    simp only [Life, hpoint] at hlife
    obtain ⟨before, last, hexit, hturns⟩ := hlife
    obtain ⟨setup, outcomes, teardown, hlived⟩ := hexit.lived hturns
    rw [hpoint, ← any_spoils_turns]
    exact hlived.healthy_eq

theorem summary_counts_calls_sample :
    ∃ summary, ((State.start Sample.scenario (Sample.options 2 none) 0).after
        (Sample.control 3 ++ Sample.user 1 12 ++ Sample.user 0 12 ++
          Sample.control 8)).conclusion? = some (.finished summary) ∧
      summary.iterations +
          ((State.start Sample.scenario (Sample.options 2 none) 0).after
            (Sample.control 3 ++ Sample.user 1 12 ++ Sample.user 0 12 ++
              Sample.control 8)).outcomes.countP cutShort =
        ((State.start Sample.scenario (Sample.options 2 none) 0).after
          (Sample.control 3 ++ Sample.user 1 12 ++ Sample.user 0 12 ++
            Sample.control 8)).outcomes.length := by
  have hsome : ∃ summary, ((State.start Sample.scenario (Sample.options 2 none) 0).after
      (Sample.control 3 ++ Sample.user 1 12 ++ Sample.user 0 12 ++ Sample.control 8)).conclusion? =
      some (.finished summary) := ⟨_, rfl⟩
  obtain ⟨summary, hsummary⟩ := hsome
  exact ⟨summary, hsummary,
    (summary_counts_calls Sample.scenario (Sample.options 2 none) 0 _ hsummary).1⟩

end LoadHarness.Run
