import LoadHarness.Proofs.Run.Calls
import LoadHarness.Proofs.Run.Ending
import LoadHarness.Proofs.Run.Reporting

/-! What a run calls, in which order, and what it is concluded with.

    setup … | users … users … users | teardown … | the check counts

The history of a run falls into these parts (`State.Told`): its own setup, everything
that its users do, its own teardown, and the last word of a run that is concluded in
good order.  `State.Plot` says at every stage how far the telling is.  Only two
things decide the conclusion: a setup that fails, and users of which a hook
breaks off (`course_of_concluded`). -/

namespace LoadHarness.Run

/-! ## Hooks of the run itself -/

namespace RunHook

variable {G V : Type}

/-- What a scenario has the run do in a hook. -/
def ofScenario (scenario : Scenario G V) : RunHook → Option (RunContext → Hook G Unit)
  | setup => scenario.setup
  | teardown => scenario.teardown

/-- The run is in a hook: it has noted nothing but actions since, and the hook can come to all that
the rest of its work can. -/
structure At (scenario : Scenario G V) (options : Options) (hook : RunHook) (work : Begun G)
    (notes : List Entry) : Prop where
  acts : ∀ entry ∈ notes, ∃ action, entry = .acted .run 0 action
  yields : ∃ body value, hook.ofScenario scenario = some body ∧
    ∀ last, work.Yields last → ((body ⟨options⟩).run.run value).Yields last

/-- What is noted of a hook by the time it is past: nothing if there is none, and otherwise what it
has done and a result that it can come to. -/
inductive Past (scenario : Scenario G V) (options : Options) (hook : RunHook) :
    Except Fault Unit → List Entry → Prop where
  | none (hnone : hook.ofScenario scenario = none) : Past scenario options hook (.ok ()) []
  | called {body : RunContext → Hook G Unit} {value last : G} {result : Except Fault Unit}
      {acts : List Entry} (hbody : hook.ofScenario scenario = some body)
      (hacts : ∀ entry ∈ acts, ∃ action, entry = .acted .run 0 action)
      (hyields : ((body ⟨options⟩).run.run value).Yields (result, last)) :
      Past scenario options hook result (acts ++ [.called .run hook.kind 0 result])

variable {scenario : Scenario G V} {options : Options} {hook : RunHook} {notes : List Entry}

theorem at_begin (hook : RunHook) {body : RunContext → Hook G Unit}
    (hbody : hook.ofScenario scenario = some body) (value : G) :
    hook.At scenario options ((body ⟨options⟩).run.run value) [] :=
  ⟨List.forall_mem_nil _, body, value, hbody, fun _ h => h⟩

theorem At.act {action : Action} {next : Answer action → Begun G}
    (h : hook.At scenario options (.act action next) notes) (answer : Answer action) :
    hook.At scenario options (next answer) (notes ++ [.acted .run 0 action]) := by
  obtain ⟨body, value, hbody, hyields⟩ := h.yields
  refine ⟨fun entry hmem => ?_, body, value, hbody, fun last h => hyields last (.act answer h)⟩
  rcases List.mem_append.mp hmem with hold | hnew
  · exact h.acts entry hold
  · exact ⟨action, List.mem_singleton.mp hnew⟩

theorem At.past {result : Except Fault Unit} {last : G}
    (h : hook.At scenario options (.done (result, last)) notes) :
    hook.Past scenario options result (notes ++ [.called .run hook.kind 0 result]) := by
  obtain ⟨body, value, hbody, hyields⟩ := h.yields
  exact .called hbody h.acts (hyields _ (.done _))

/-- Of the hooks of the run only this one is noted, with this result. -/
theorem Past.eq_of_called_mem {result other : Except Fault Unit} {kind : HookKind} {iteration : Nat}
    (h : hook.Past scenario options result notes)
    (hmem : .called .run kind iteration other ∈ notes) : kind = hook.kind ∧ other = result := by
  cases h with
  | none => cases hmem
  | called hbody hacts =>
    rcases List.mem_append.mp hmem with hact | hcall
    · obtain ⟨action, h⟩ := hacts _ hact
      cases h
    · cases List.mem_singleton.mp hcall
      exact ⟨rfl, rfl⟩

theorem Past.called_mem {fault : Fault} (h : hook.Past scenario options (.error fault) notes) :
    .called .run hook.kind 0 (.error fault) ∈ notes := by
  cases h with
  | called => exact List.mem_append_right _ (List.mem_singleton_self _)

end RunHook

namespace State

variable {G V : Type} {scenario : Scenario G V} {options : Options} {state next : State G V}
  {move : Move}

/-! ## The parts of a history -/

/-- The teardown is past, whether or not it has failed. -/
def TornDown (scenario : Scenario G V) (options : Options) (notes : List Entry) : Prop :=
  ∃ outcome, RunHook.teardown.Past scenario options (resultOf outcome) notes

/-- A history with the setup behind it, then what users note, and then a part of this kind. -/
def Told (state : State G V) (scenario : Scenario G V) (options : Options)
    (ending : List Entry → Prop) : Prop :=
  ∃ opening middle rest, state.history = opening ++ middle ++ rest ∧
    RunHook.setup.Past scenario options (.ok ()) opening ∧
    (∀ entry ∈ middle, ∃ id < state.users.length, entry.user? = some id) ∧ ending rest

/-- How far the history of a run has come at each stage. -/
def Plot (state : State G V) (scenario : Scenario G V) (options : Options) : Prop :=
  match state.stage with
  | .setup work => RunHook.setup.At scenario options work state.history
  | .start | .launch | .announce | .join | .halt | .finish => state.Told scenario options (· = [])
  | .teardown work => state.Told scenario options (RunHook.teardown.At scenario options work)
  | .readOpened | .readClosed _ => state.Told scenario options (TornDown scenario options)
  | .over (.failed failure) =>
    RunHook.setup.Past scenario options (.error (.failure failure)) state.history
  | .over (.crashed users) =>
    users = state.crashed ∧ users ≠ [] ∧ state.Told scenario options (TornDown scenario options)
  | .over (.finished summary) =>
    state.Told scenario options fun rest => ∃ closing,
      rest = closing ++ [.finalized summary.checks] ∧ TornDown scenario options closing
  | .over (.panicked text) =>
    state.users = [] ∧ RunHook.setup.Past scenario options (.error (.panic text)) state.history ∨
      state.Emptied ∧
        state.Told scenario options (RunHook.teardown.Past scenario options (.error (.panic text)))

theorem plot_start (scenario : Scenario G V) (options : Options) (startedAt : Int) :
    (State.start scenario options startedAt).Plot scenario options := by
  unfold Plot State.start
  cases hsetup : scenario.setup with
  | none => exact ⟨[], [], [], rfl, .none hsetup, List.forall_mem_nil _, rfl⟩
  | some hook => exact RunHook.at_begin .setup hsetup _

section

variable {ending after : List Entry → Prop} {entries : List Entry}

/-- What is noted next goes to the last part. -/
theorem Told.note (h : state.Told scenario options ending)
    (hafter : ∀ rest, ending rest → after (rest ++ entries))
    (hhistory : next.history = state.history ++ entries)
    (husers : state.users.length ≤ next.users.length) : next.Told scenario options after := by
  obtain ⟨opening, middle, rest, heq, hopening, hmiddle, hrest⟩ := h
  refine ⟨opening, middle, rest ++ entries, ?_, hopening, fun entry hmem => ?_, hafter rest hrest⟩
  · rw [hhistory, heq, List.append_assoc]
  · obtain ⟨id, hlt, hid⟩ := hmiddle entry hmem
    exact ⟨id, by omega, hid⟩

theorem Told.silent (h : state.Told scenario options ending)
    (hafter : ∀ rest, ending rest → after rest) (hjournal : next.journal = state.journal)
    (husers : state.users.length ≤ next.users.length) : next.Told scenario options after := by
  have hhistory : next.history = state.history ++ [] := by
    rw [history, hjournal, history, List.append_nil]
  refine h.note (fun rest hrest => ?_) hhistory husers
  rw [List.append_nil]
  exact hafter rest hrest

/-- The setup is past and nothing was done since. -/
theorem told_of_past (hpast : RunHook.setup.Past scenario options (.ok ()) state.history) :
    state.Told scenario options (· = []) := by
  refine ⟨state.history, [], [], ?_, hpast, List.forall_mem_nil _, rfl⟩
  rw [List.append_nil, List.append_nil]

/-- What a user notes comes before everything of the teardown. -/
theorem Told.put (h : state.Told scenario options (· = [])) {id : Nat} {user : User V}
    {stepped : Stepped V} (hplaced : state.Placed) (huser : state.users[id]? = some user)
    (hstep : user.Step state.setting state.shared stepped) :
    (state.put id stepped).Told scenario options (· = []) := by
  obtain ⟨opening, middle, rest, heq, hopening, hmiddle, rfl⟩ := h
  refine ⟨opening, middle ++ stepped.entries, [], ?_, hopening, fun entry hmem => ?_, rfl⟩
  · rw [history_put, heq, List.append_nil, List.append_nil, List.append_assoc]
  · rw [users_put, List.length_set]
    rcases List.mem_append.mp hmem with hold | hnew
    · exact hmiddle entry hold
    · refine ⟨id, (List.getElem?_eq_some_iff.mp huser).1, ?_⟩
      rw [hstep.entries entry hnew, hplaced id user huser]

end

theorem plot_concludeTeardown (h : state.Told scenario options (TornDown scenario options)) :
    state.concludeTeardown.Plot scenario options := by
  unfold concludeTeardown
  split
  · exact h.silent (fun _ h => h) rfl (Nat.le_refl _)
  · rename_i hne
    exact ⟨rfl, fun h => hne h, h.silent (fun _ h => h) rfl (Nat.le_refl _)⟩

theorem plot_toTeardown (h : state.Told scenario options (· = []))
    (hscenario : state.scenario = scenario) (hoptions : state.options = options) :
    state.toTeardown.Plot scenario options := by
  subst hscenario hoptions
  unfold toTeardown
  split
  · rename_i body hbody
    refine h.silent (fun rest hrest => ?_) rfl (Nat.le_refl _)
    rw [hrest]
    exact RunHook.at_begin .teardown hbody _
  · rename_i hnone
    refine plot_concludeTeardown (h.silent (fun rest hrest => ?_) rfl (Nat.le_refl _))
    rw [hrest]
    exact ⟨.ok (), .none hnone⟩

theorem Plot.keep (h : state.Plot scenario options) (hscenario : state.scenario = scenario)
    (hoptions : state.options = options) (hstaged : state.Staged) (hplaced : state.Placed)
    (htransition : state.Transition move next) : next.Plot scenario options := by
  cases htransition with
  | user huser hstep =>
    have hstep := User.step_cases hstep
    rcases stage_of_step hstaged huser hstep with hstage | hstage | hstage <;>
      (simp only [Plot, hstage] at h
       simp only [Plot, State.put, note, hstage]
       exact h.put hplaced huser hstep)
  | acts hook hstage hperform =>
    cases hook with
    | setup =>
      simp only [Plot, hstage, RunHook.stage] at h
      simp only [Plot, RunHook.stage, history_note]
      exact h.act _
    | teardown =>
      simp only [Plot, hstage, RunHook.stage] at h
      exact h.note (fun _ hrest => hrest.act _) (history_note _ _) (Nat.le_refl _)
  | setUp hstage =>
    simp only [Plot, hstage] at h
    refine told_of_past ?_
    rw [history_note]
    exact h.past
  | setupFailed hstage =>
    simp only [Plot, hstage] at h
    simp only [Plot, history_note]
    exact h.past
  | brokeOff hook hstage =>
    cases hook with
    | setup =>
      simp only [Plot, hstage, RunHook.stage] at h
      simp only [Staged, hstage, RunHook.stage] at hstaged
      refine .inl ⟨hstaged, ?_⟩
      rw [history_note]
      exact h.past
    | teardown =>
      simp only [Plot, hstage, RunHook.stage] at h
      simp only [Staged, hstage, RunHook.stage] at hstaged
      exact .inr ⟨hstaged, h.note (fun _ hrest => hrest.past) (history_note _ _) (Nat.le_refl _)⟩
  | launched hstage hlt =>
    simp only [Plot, hstage] at h
    simp only [Plot, hstage]
    refine h.silent (fun _ hrest => hrest) rfl ?_
    rw [List.length_append]
    exact Nat.le_add_right _ _
  | finished hstage =>
    simp only [Plot, hstage] at h
    refine plot_toTeardown (h.silent (fun _ hrest => hrest) rfl (Nat.le_refl _)) hscenario hoptions
  | tornDown hstage =>
    simp only [Plot, hstage] at h
    exact plot_concludeTeardown
      (h.note (fun _ hrest => ⟨.ok (), hrest.past⟩) (history_note _ _) (Nat.le_refl _))
  | teardownFailed hstage =>
    simp only [Plot, hstage] at h
    exact plot_concludeTeardown
      (h.note (fun _ hrest => ⟨.error _, hrest.past⟩) (history_note _ _) (Nat.le_refl _))
  | started hstage | launchedAll hstage | announced hstage | joined hstage | halted hstage
  | readOpened hstage =>
    simp only [Plot, hstage] at h
    exact h.silent (fun _ hrest => hrest) rfl (Nat.le_refl _)
  | concluded hstage =>
    simp only [Plot, hstage] at h
    exact h.note (fun rest hrest => ⟨rest, rfl, hrest⟩) (history_note _ _) (Nat.le_refl _)
  | deadline | interrupt | drain | backgroundOpen | backgroundClose => exact h

theorem plot_after (scenario : Scenario G V) (options : Options) (startedAt : Int)
    (moves : List Move) :
    ((State.start scenario options startedAt).after moves).Plot scenario options := by
  induction moves using List.reverseRecOn with
  | nil => exact plot_start scenario options startedAt
  | append_singleton moves move ih =>
    rw [after_append, after_cons, after_nil]
    obtain ⟨hscenario, hoptions, -⟩ :=
      fixed_after (State.start scenario options startedAt) moves
    rcases step_cases ((State.start scenario options startedAt).after moves) move with h | ⟨-, h⟩
    · rw [h]
      exact ih
    · exact ih.keep hscenario hoptions (staged_after scenario options startedAt moves)
        (placed_after scenario options startedAt moves) h

end State

/-! ## Users of which a hook broke off -/

/-- Whether an entry says that a hook of user `id` broke off. -/
def Entry.breaksOff (id : Nat) : Entry → Bool
  | .called (.user other) _ _ (.error (.panic _)) => other == id
  | _ => false

/-- Whether the life of a user ended in a hook that broke off. -/
def User.hasCrashed {V : Type} (user : User V) : Bool :=
  match user.point with
  | .panicked _ => true
  | _ => false

section

variable {G V : Type} {setting : Setting G V} {user : User V} {shared : Shared}
  {stepped : Stepped V}

theorem User.hasCrashed_toTeardown (setting : Setting G V) (user : User V) :
    (user.toTeardown setting).hasCrashed = false := by
  obtain ⟨point, h, ⟨hook, -, rfl⟩ | ⟨-, rfl⟩⟩ := user.toTeardown_cases setting <;> (rw [h]; rfl)

theorem User.hasCrashed_toCycle (setting : Setting G V) (user : User V) :
    (user.toCycle setting).hasCrashed = false := by
  rcases user.toCycle_cases setting with ⟨-, -, h⟩ | ⟨-, h⟩
  · rw [h]
    rfl
  · rw [h, hasCrashed_toTeardown]

theorem User.hasCrashed_start (setting : Setting G V) (id : Nat) :
    (start setting id : User V).hasCrashed = false := by
  unfold start
  split
  · rfl
  · exact hasCrashed_toCycle _ _

theorem User.hasCrashed_of_not_isOver (h : user.isOver = false) : user.hasCrashed = false := by
  unfold hasCrashed
  split
  · rename_i text hpoint
    rw [isOver, hpoint] at h
    cases h
  · rfl

/-- A user crashes with the step that notes so. -/
theorem User.Step.hasCrashed (h : user.Step setting shared stepped) :
    stepped.user.hasCrashed = stepped.entries.any (Entry.breaksOff user.id) := by
  cases h with
  | brokeOff hook =>
    change true = ((user.id == user.id) || false)
    rw [beq_self_eq_true, Bool.or_false]
  | setUp => exact User.hasCrashed_toCycle _ _
  | setupFailed | sawSignal | capped | lacksBehaviour => exact User.hasCrashed_toTeardown _ _
  | settled =>
    rw [settle_user]
    split
    · exact User.hasCrashed_toTeardown _ _
    · rfl
  | advanced => cases setting.options.pacing <;> rfl
  | returned =>
    rename_i outcome value hpoint
    cases outcome <;> rfl
  | acts hook => cases hook <;> rfl
  | tornDown | teardownFailed | sawNoSignal | calls | paced | left => rfl

theorem map_filter_eq_filter_range {α : Type} {l : List α} {f : α → Nat} {p : α → Bool}
    {q : Nat → Bool} (h : ∀ i a, l[i]? = some a → f a = i ∧ p a = q i) :
    (l.filter p).map f = (List.range l.length).filter q := by
  induction l using List.reverseRecOn with
  | nil => rfl
  | append_singleton l a ih =>
    obtain ⟨hplace, hlast⟩ := h l.length a List.getElem?_concat_length
    rw [List.length_append, List.length_singleton, List.range_succ, List.filter_append,
      List.filter_append, List.map_append, ih fun i b hget => h i b (by
        rw [List.getElem?_append_left (List.getElem?_eq_some_iff.mp hget).1]
        exact hget)]
    simp only [List.filter_cons, List.filter_nil, hlast]
    split
    · rw [List.map_singleton, hplace]
    · rfl

end

namespace State

variable {G V : Type} {state next : State G V} {move : Move}

/-- The virtual users of which a hook broke off, as the history tells of them. -/
def broken (state : State G V) : List Nat :=
  (List.range state.users.length).filter fun id => state.history.any (Entry.breaksOff id)

theorem any_breaksOff_notes (state : State G V) (id : Nat) :
    (state.notes id).any (Entry.breaksOff id) = state.history.any (Entry.breaksOff id) := by
  rw [State.notes, List.any_filter]
  congr 1
  funext entry
  unfold Entry.breaksOff
  split
  · simp [Entry.user?]
  · simp

theorem crashed_eq_broken (scenario : Scenario G V) (options : Options) (startedAt : Int)
    (moves : List Move) {state : State G V}
    (hstate : (State.start scenario options startedAt).after moves = state) :
    state.crashed = state.broken := by
  subst hstate
  refine map_filter_eq_filter_range fun id user huser => ?_
  obtain ⟨hid, hcrashed⟩ := user_induction
    (P := fun user notes => user.hasCrashed = notes.any (Entry.breaksOff user.id))
    (fun setting _ _ id => User.hasCrashed_start setting id)
    (fun setting _ _ user shared stepped notes h hstep => by
      rw [hstep.id, List.any_append, ← h, hstep.hasCrashed,
        User.hasCrashed_of_not_isOver hstep.not_isOver, Bool.false_or]) moves huser
  rw [hid, any_breaksOff_notes] at hcrashed
  exact ⟨hid, hcrashed⟩

/-! ## The course of a run -/

/-- So many virtual users were started, and all of them are over. -/
structure Completed (state : State G V) (users : Nat) : Prop where
  ids : state.users.map (·.id) = List.range users
  isOver : ∀ user ∈ state.users, user.isOver = true

theorem completed_of_allOver (hplaced : state.Placed) {users : Nat}
    (hlength : state.users.length = users) (hover : state.allOver = true) :
    state.Completed users := by
  refine ⟨?_, (allOver_iff state).mp hover⟩
  have hids := map_filter_eq_filter_range (l := state.users) (f := User.id) (p := fun _ => true)
    (q := fun _ => true) fun id user huser => ⟨hplaced id user huser, rfl⟩
  rw [List.filter_eq_self.mpr fun _ _ => rfl, List.filter_eq_self.mpr fun _ _ => rfl,
    hlength] at hids
  exact hids

end State

/-- How a run that is over has come to its conclusion, as its history tells. -/
inductive Course {G V : Type} (scenario : Scenario G V) (options : Options) (state : State G V) :
    Conclusion → Prop where
  /-- After a setup that failed nothing else has happened. -/
  | setupFailed {failure : Failure}
      (hsetup : RunHook.setup.Past scenario options (.error (.failure failure)) state.history)
      (hnobody : state.users = []) (hreported : state.Reported []) :
      Course scenario options state (.failed failure)
  /-- Hooks of users broke off.  The teardown came after all the users nevertheless. -/
  | crashed (hall : state.Completed options.virtualUsers)
      (htold : state.Told scenario options (State.TornDown scenario options))
      (hsome : state.broken ≠ []) (hreported : state.Reported []) :
      Course scenario options state (.crashed state.broken)
  | finished {summary : Summary} (hall : state.Completed options.virtualUsers)
      (htold : state.Told scenario options fun rest => ∃ closing,
        rest = closing ++ [.finalized summary.checks] ∧ State.TornDown scenario options closing)
      (hnone : state.broken = []) (hreported : state.Reported [summary.checks]) :
      Course scenario options state (.finished summary)
  /-- A hook of the run itself broke off, and the run with it. -/
  | setupBrokeOff {text : String}
      (hsetup : RunHook.setup.Past scenario options (.error (.panic text)) state.history)
      (hnobody : state.users = []) (hreported : state.Reported []) :
      Course scenario options state (.panicked text)
  | teardownBrokeOff {text : String} (hall : state.Completed options.virtualUsers)
      (htold : state.Told scenario options
        (RunHook.teardown.Past scenario options (.error (.panic text))))
      (hreported : state.Reported []) : Course scenario options state (.panicked text)

section

variable {G V : Type} (scenario : Scenario G V) (options : Options) (startedAt : Int)
  (moves : List Move) {state : State G V}
  (hstate : (State.start scenario options startedAt).after moves = state)

include hstate

theorem completed_of_emptied (h : state.Emptied) : state.Completed options.virtualUsers := by
  subst hstate
  have hoptions := (State.fixed_after (State.start scenario options startedAt) moves).2.1
  refine State.completed_of_allOver (State.placed_after scenario options startedAt moves) ?_ h.2
  rw [h.1, hoptions]
  rfl

/-- The teardown begins when all the users are over. -/
theorem completed_of_teardown {work : Begun G} (hstage : state.stage = .teardown work) :
    state.Completed options.virtualUsers := by
  have hstaged := State.staged_after scenario options startedAt moves
  rw [hstate] at hstaged
  simp only [State.Staged, hstage] at hstaged
  exact completed_of_emptied scenario options startedAt moves hstate hstaged

theorem course_of_conclusion? {conclusion : Conclusion}
    (hconcluded : state.conclusion? = some conclusion) :
    Course scenario options state conclusion := by
  have hplot := State.plot_after scenario options startedAt moves
  have hstaged := State.staged_after scenario options startedAt moves
  have hreported := State.reported_after scenario options startedAt moves
  have hcrashed := State.crashed_eq_broken scenario options startedAt moves hstate
  have hcompleted := completed_of_emptied scenario options startedAt moves hstate
  rw [hstate] at hplot hstaged hreported
  have hstage := State.stage_of_conclusion? hconcluded
  cases conclusion with
  | failed failure =>
    simp only [State.Plot, hstage] at hplot
    simp only [State.Staged, hstage] at hstaged
    simp only [State.reports, hstage] at hreported
    exact .setupFailed hplot hstaged hreported
  | crashed users =>
    simp only [State.Plot, hstage, hcrashed] at hplot
    simp only [State.Staged, hstage] at hstaged
    simp only [State.reports, hstage] at hreported
    obtain ⟨rfl, hsome, htold⟩ := hplot
    exact .crashed (hcompleted hstaged) htold hsome hreported
  | finished summary =>
    simp only [State.Plot, hstage] at hplot
    simp only [State.Staged, hstage] at hstaged
    simp only [State.reports, hstage] at hreported
    refine .finished (hcompleted ⟨hstaged.1, State.allOver_of_ended hstaged.2⟩) hplot ?_ hreported
    rw [← hcrashed, State.crashed, List.map_eq_nil_iff, List.filter_eq_nil_iff]
    intro user hmem
    rw [hstaged.2 user hmem]
    exact Bool.false_ne_true
  | panicked text =>
    simp only [State.Plot, hstage] at hplot
    simp only [State.reports, hstage] at hreported
    rcases hplot with ⟨hnobody, hsetup⟩ | ⟨hemptied, htold⟩
    · exact .setupBrokeOff hsetup hnobody hreported
    · exact .teardownBrokeOff (hcompleted hemptied) htold hreported

end

section

variable {G V : Type} {scenario : Scenario G V} {options : Options} {state : State G V}
  {conclusion : Conclusion}

theorem State.TornDown.setup_notMem {rest : List Entry} (h : TornDown scenario options rest)
    (result : Except Fault Unit) : .called .run .setup 0 result ∉ rest := by
  obtain ⟨outcome, hpast⟩ := h
  intro hmem
  cases (hpast.eq_of_called_mem hmem).1

/-- Once the setup is past, no other result of it is noted. -/
theorem State.Told.eq_ok_of_setup_mem {ending : List Entry → Prop}
    (h : state.Told scenario options ending)
    (hending : ∀ rest, ending rest → ∀ result, .called .run .setup 0 result ∉ rest)
    {result : Except Fault Unit} (hmem : .called .run .setup 0 result ∈ state.history) :
    result = .ok () := by
  obtain ⟨opening, middle, rest, heq, hopening, hmiddle, hrest⟩ := h
  rw [heq, List.mem_append, List.mem_append] at hmem
  rcases hmem with (hsetup | huser) | hlater
  · exact (hopening.eq_of_called_mem hsetup).2
  · obtain ⟨id, -, hid⟩ := hmiddle _ huser
    cases hid
  · exact absurd hlater (hending rest hrest result)

/-- A setup that fails is what the run is concluded with. -/
theorem Course.eq_failed (h : Course scenario options state conclusion) {failure : Failure}
    (hmem : .called .run .setup 0 (.error (.failure failure)) ∈ state.history) :
    conclusion = .failed failure := by
  cases h with
  | setupFailed hsetup =>
    cases (hsetup.eq_of_called_mem hmem).2
    rfl
  | crashed _ htold => cases htold.eq_ok_of_setup_mem (fun _ h => h.setup_notMem) hmem
  | finished _ htold =>
    cases htold.eq_ok_of_setup_mem (fun rest hrest result hlater => by
      obtain ⟨closing, rfl, hclosing⟩ := hrest
      rcases List.mem_append.mp hlater with hcall | hlast
      · exact hclosing.setup_notMem result hcall
      · cases List.mem_singleton.mp hlast) hmem
  | setupBrokeOff hsetup => cases (hsetup.eq_of_called_mem hmem).2
  | teardownBrokeOff _ htold =>
    cases htold.eq_ok_of_setup_mem (fun rest hrest result hlater => by
      cases (hrest.eq_of_called_mem hlater).1) hmem

/-- Unless a hook breaks off or the setup fails, a run is concluded in good order. -/
theorem Course.exists_finished (h : Course scenario options state conclusion)
    (hwhole : ∀ party hook iteration text,
      .called party hook iteration (.error (.panic text)) ∉ state.history)
    (hsetup : ∀ failure, .called .run .setup 0 (.error (.failure failure)) ∉ state.history) :
    ∃ summary, conclusion = .finished summary := by
  cases h with
  | setupFailed hpast => exact absurd hpast.called_mem (hsetup _)
  | crashed _ _ hsome =>
    obtain ⟨id, hid⟩ := List.exists_mem_of_ne_nil _ hsome
    obtain ⟨entry, hmem, hbreaks⟩ := List.any_eq_true.mp (List.mem_filter.mp hid).2
    unfold Entry.breaksOff at hbreaks
    split at hbreaks
    · exact absurd hmem (hwhole _ _ _ _)
    · cases hbreaks
  | finished => exact ⟨_, rfl⟩
  | setupBrokeOff hpast => exact absurd hpast.called_mem (hwhole _ _ _ _)
  | teardownBrokeOff _ htold =>
    rename_i text _ _
    obtain ⟨opening, middle, rest, heq, -, -, hpast⟩ := htold
    refine absurd ?_ (hwhole .run .teardown 0 text)
    rw [heq]
    exact List.mem_append_right _ hpast.called_mem

end

/-- A command line that is refused begins no run.  A run that is begun comes to its conclusion if
everyone has a turn again and again, and what it is concluded with follows from its setup and from
the users of which a hook broke off, and from nothing else. -/
theorem course_of_concluded {G V : Type} (scenario : Scenario G V) (line : CommandLine)
    (freshId : String) (startedAt : Int) :
    (∀ e, Options.resolve line scenario.defaults freshId = .error e →
      begin scenario line freshId startedAt = .error e) ∧
    ∀ options, Options.resolve line scenario.defaults freshId = .ok options →
      ∃ start, begin scenario line freshId startedAt = .ok start ∧ start.history = [] ∧
        (∀ moves conclusion, (start.after moves).conclusion? = some conclusion →
          Course scenario options (start.after moves) conclusion ∧
          (∀ failure, .called .run .setup 0 (.error (.failure failure)) ∈
              (start.after moves).history → conclusion = .failed failure) ∧
          ((∀ party hook iteration text,
              .called party hook iteration (.error (.panic text)) ∉ (start.after moves).history) →
            (∀ failure, .called .run .setup 0 (.error (.failure failure)) ∉
              (start.after moves).history) →
            ∃ summary, conclusion = .finished summary)) ∧
        (∀ moves work, (start.after moves).stage = .teardown work →
          (start.after moves).Completed options.virtualUsers) ∧
        ∀ schedule,
          (∀ hook, scenario.setup = some hook →
            ((hook ⟨options⟩).run.run scenario.global).NeverWaits) →
          State.Again schedule (fun move => ∃ outside, move = .control outside) →
          (∀ id < options.virtualUsers,
            State.Again schedule fun move => ∃ outside, move = .user id outside) →
          State.Again schedule (fun move => move = .deadline) →
          ∃ n, (start.follow schedule n).conclusion?.isSome = true := by
  refine ⟨fun e hresolve => ?_, fun options hresolve => ?_⟩
  · rw [begin, hresolve]
  · refine ⟨.start scenario options startedAt, ?_, rfl, fun moves conclusion hconcluded => ?_,
      fun moves work hstage => completed_of_teardown scenario options startedAt moves rfl hstage,
      fun schedule hsetup hcontrol hagain hdeadline =>
        State.exists_concluded_of_again scenario options startedAt hsetup hcontrol hagain hdeadline⟩
    · rw [begin, hresolve]
    · have hcourse := course_of_conclusion? scenario options startedAt moves rfl hconcluded
      exact ⟨hcourse, fun failure => hcourse.eq_failed, hcourse.exists_finished⟩

namespace Sample

/-- The second user breaks off in its behaviour.  The teardown of the other one fails, and so does
that of the run. -/
def fragile : Scenario Unit Unit :=
  { scenario with
    setup := some fun _ => pure ()
    behaviour := some fun context =>
      if context.id = 1 then Hook.panic "out of range" else Hook.record "alive" true
    userTeardown := some fun _ => Hook.fail (.ofText "not mine to close")
    teardown := some fun _ => Hook.fail (.ofText "nothing to remove") }

/-- Two users for a second, with one iteration each. -/
def line : CommandLine :=
  { CommandLine.empty with virtualUsers := some 2, duration := some 1, iterations := some 1 }

/-- Everyone has every fourth turn. -/
def turns (n : Nat) : Move :=
  match n % 4 with
  | 0 => .control .offline
  | 1 => .user 0 .offline
  | 2 => .user 1 .offline
  | _ => .deadline

theorem again_turns (i : Nat) : State.Again turns fun move => move = turns i := by
  intro n
  refine ⟨4 * n + i, by omega, ?_⟩
  have hmod : (4 * n + i) % 4 = i % 4 := by omega
  simp only [turns, hmod]

end Sample

/-- A user that breaks off makes the run fail, and teardowns that fail do not. -/
theorem course_of_concluded_sample :
    ∃ options start,
      Options.resolve Sample.line Sample.fragile.defaults "sample" = .ok options ∧
      begin Sample.fragile Sample.line "sample" 0 = .ok start ∧
      (start.after (Sample.control 6 ++ Sample.user 0 11 ++ Sample.user 1 4 ++
        Sample.control 4)).conclusion? = some (.crashed [1]) ∧
      Course Sample.fragile options (start.after (Sample.control 6 ++ Sample.user 0 11 ++
        Sample.user 1 4 ++ Sample.control 4)) (.crashed [1]) ∧
      ∃ n, (start.follow Sample.turns n).conclusion?.isSome = true := by
  obtain ⟨options, hresolve⟩ : ∃ options,
      Options.resolve Sample.line Sample.fragile.defaults "sample" = .ok options := ⟨_, rfl⟩
  obtain ⟨start, hbegin, -, hcourse, -, hends⟩ :=
    (course_of_concluded Sample.fragile Sample.line "sample" 0).2 options hresolve
  have hconcluded : (start.after (Sample.control 6 ++ Sample.user 0 11 ++ Sample.user 1 4 ++
      Sample.control 4)).conclusion? = some (.crashed [1]) := by
    cases hbegin
    rfl
  refine ⟨options, start, hresolve, hbegin, hconcluded, (hcourse _ _ hconcluded).1, ?_⟩
  refine hends Sample.turns (fun hook hhook => ?_) (fun n => ?_) (fun id hlt n => ?_)
    (Sample.again_turns 3)
  · cases hhook
    trivial
  · obtain ⟨m, hle, hturn⟩ := Sample.again_turns 0 n
    exact ⟨m, hle, .offline, hturn⟩
  · cases hresolve
    match id, hlt with
    | 0, _ =>
      obtain ⟨m, hle, hturn⟩ := Sample.again_turns 1 n
      exact ⟨m, hle, .offline, hturn⟩
    | 1, _ =>
      obtain ⟨m, hle, hturn⟩ := Sample.again_turns 2 n
      exact ⟨m, hle, .offline, hturn⟩

end LoadHarness.Run
