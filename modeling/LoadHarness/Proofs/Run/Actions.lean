import LoadHarness.Proofs.Run.Connections
import LoadHarness.Proofs.Run.Reporting
import LoadHarness.Proofs.Work.Orderly

/-! What hooks do, and all that comes of it.

A transition is one action of one hook, noted as such, or it is none (`Transition.acting`).
So what piles up over a run is read off the actions in the journal: the records that every
collector holds (`holds_operations_after`), how many connections were opened (`opened_after`) and
who has opened those that are open (`mem_live_after`). -/

namespace LoadHarness

namespace Report.Reporter

/-- Every collector has these records of operations, and no others. -/
def Holds (reporter : Reporter) (operations : List Operation) : Prop :=
  ∀ collector ∈ reporter.collectors, collector.operations = operations

variable {reporter : Reporter} {operations : List Operation}

theorem holds_start (keepers : Nat) (printing : Bool) : (start keepers printing).Holds [] := by
  intro collector hmem
  rw [Collector.operations, received_of_mem_start hmem]
  rfl

theorem Holds.deliver (h : reporter.Holds operations) (delivery : Delivery) :
    (reporter.deliver delivery).Holds (operations ++ delivery.operation?.toList) := by
  intro collector hmem
  obtain ⟨before, hbefore, rfl⟩ := exists_of_mem_deliver hmem
  rw [Collector.operations_receive, h before hbefore]

end Report.Reporter

namespace Run

/-- The action that an entry tells of, with who took it. -/
def Entry.action? : Entry → Option (Party × Action)
  | .acted party _ action => some (party, action)
  | .called .. | .looked .. | .finalized _ => none

/-- The record that an entry says was handed to the reporter. -/
def Entry.operation? : Entry → Option Operation
  | .acted _ _ (.report operation) => some operation
  | _ => none

/-- Whether an entry says that a connection was opened. -/
def Entry.opens : Entry → Bool
  | .acted _ _ action => action.isOpening
  | _ => false

theorem Entry.operation?_eq_none {entry : Entry} (h : entry.action? = none) :
    entry.operation? = none := by
  cases entry with
  | acted => cases h
  | called | looked | finalized => rfl

theorem Entry.opens_eq_false {entry : Entry} (h : entry.action? = none) : entry.opens = false := by
  cases entry with
  | acted => cases h
  | called | looked | finalized => rfl

namespace User

variable {G V : Type} {setting : Setting G V} {user : User V} {shared : Shared}
  {stepped : Stepped V}

/-- A step is one action, or none. -/
theorem Step.acting (h : user.Step setting shared stepped) :
    (∃ (outside : Outside) (action : Action) (later : Desk) (answer : Answer action),
      shared.perform user.desk outside action = some (stepped.shared, later, answer) ∧
        stepped.entries = [.acted user.party user.iteration action] ∧
        user.deed = actionDeed user.desk action) ∨
      (∀ entry ∈ stepped.entries, entry.action? = none) ∧
        stepped.shared.reporter = shared.reporter ∧ user.deed.openings = [] := by
  cases h with
  | acts hook hpoint hperform =>
    refine .inl ⟨_, _, _, _, hperform, rfl, ?_⟩
    cases hook <;> (rw [User.deed, hpoint]; rfl)
  | brokeOff hook hpoint =>
    rename_i text value
    obtain ⟨log, heq⟩ := giveUp_eq setting { user with value := value } shared
    refine .inr ⟨?_, by rw [heq], ?_⟩
    · intro entry hmem
      rw [List.mem_singleton.mp hmem]
      rfl
    · cases hook <;> (rw [User.deed, hpoint]; rfl)
  | settled hpoint =>
    rename_i outcome
    obtain ⟨log, heq⟩ := settle_shared setting user shared outcome
    refine .inr ⟨fun _ hmem => (List.not_mem_nil hmem).elim, by rw [heq], ?_⟩
    rw [User.deed, hpoint]
    simp only
    cases recordOf outcome <;> rfl
  | left hpoint =>
    obtain ⟨log, heq⟩ := giveUp_eq setting user shared
    exact .inr ⟨fun _ hmem => (List.not_mem_nil hmem).elim, by rw [heq], by rw [User.deed, hpoint]; rfl⟩
  | returned hpoint =>
    rename_i outcome value
    refine .inr ⟨?_, rfl, ?_⟩
    · intro entry hmem
      rw [List.mem_singleton.mp hmem]
      rfl
    · rw [User.deed, hpoint]
      cases outcome <;> rfl
  | setUp hpoint | setupFailed hpoint | tornDown hpoint | teardownFailed hpoint
  | sawSignal hpoint | sawNoSignal hpoint =>
    refine .inr ⟨?_, rfl, by rw [User.deed, hpoint]; rfl⟩
    intro entry hmem
    rw [List.mem_singleton.mp hmem]
    rfl
  | capped hpoint | calls hpoint | lacksBehaviour hpoint | advanced hpoint | paced hpoint =>
    exact .inr ⟨fun _ hmem => (List.not_mem_nil hmem).elim, rfl, by rw [User.deed, hpoint]; rfl⟩

end User

namespace State

variable {G V : Type} {state next : State G V} {move : Move}

/-- One action of a hook, of the run or of a user. -/
structure Acts (state : State G V) (move : Move) (next : State G V) (desk : Desk)
    (action : Action) : Prop where
  party : desk.party ≠ .background
  performs : ∃ (outside : Outside) (later : Desk) (answer : Answer action),
    state.shared.perform desk outside action = some (next.shared, later, answer)
  noted : next.history = state.history ++ [.acted desk.party desk.iteration action]
  deed : state.deed move = actionDeed desk action

/-- A transition by which no hook does anything. -/
structure Idles (state : State G V) (move : Move) (next : State G V) : Prop where
  noted : ∃ entries, next.history = state.history ++ entries ∧
    ∀ entry ∈ entries, entry.action? = none
  collectors : next.shared.reporter.collectors = state.shared.reporter.collectors ∨
    ∃ checks, next.shared.reporter.collectors = (state.shared.reporter.finalize checks).collectors
  openings : ∀ token ∈ (state.deed move).openings, token.owner = .background

theorem Idles.of_journal_eq (hjournal : next.journal = state.journal)
    (hcollectors : next.shared.reporter.collectors = state.shared.reporter.collectors)
    (hopenings : (state.deed move).openings = []) : state.Idles move next :=
  ⟨⟨[], by rw [history, history, hjournal, List.append_nil], fun _ hmem => by cases hmem⟩,
    .inl hcollectors, by rw [hopenings]; exact fun _ hmem => by cases hmem⟩

theorem Idles.of_note (entry : Entry) (hhistory : next.history = state.history ++ [entry])
    (hentry : entry.action? = none)
    (hcollectors : next.shared.reporter.collectors = state.shared.reporter.collectors)
    (hopenings : (state.deed move).openings = []) : state.Idles move next := by
  refine ⟨⟨[entry], hhistory, ?_⟩, .inl hcollectors, ?_⟩
  · intro other hmem
    rw [List.mem_singleton.mp hmem]
    exact hentry
  · rw [hopenings]
    exact fun _ hmem => by cases hmem

/-- A transition is one action of a hook, or none. -/
theorem Transition.acting (h : state.Transition move next) :
    (∃ desk action, state.Acts move next desk action) ∨ state.Idles move next := by
  cases h with
  | user huser hstep =>
    rename_i id outside user stepped
    have hdeed : state.deed (.user id outside) = user.deed := by rw [deed, huser]
    rcases (User.step_cases hstep).acting with
      ⟨elsewhere, action, later, answer, hperform, hentries, haction⟩ |
      ⟨hentries, hreporter, hopenings⟩
    · refine .inl ⟨user.desk, action, by simp [User.desk, User.party], ⟨_, _, _, hperform⟩, ?_,
        hdeed.trans haction⟩
      rw [history_put, hentries]
      rfl
    · refine .inr ⟨⟨stepped.entries, history_put _ _ _, hentries⟩, .inl ?_, ?_⟩
      · rw [shared_put, hreporter]
      · rw [hdeed, hopenings]
        exact fun _ hmem => by cases hmem
  | acts hook hstage hperform =>
    refine .inl ⟨state.desk, _, by simp [desk], ⟨_, _, _, hperform⟩, history_note _ _, ?_⟩
    cases hook <;> (rw [State.deed, hstage]; rfl)
  | setUp hstage | setupFailed hstage =>
    exact .inr (.of_note _ (history_note _ _) rfl rfl (by rw [deed, hstage]; rfl))
  | brokeOff hook hstage =>
    exact .inr (.of_note _ (history_note _ _) rfl rfl (by cases hook <;> (rw [deed, hstage]; rfl)))
  | tornDown hstage =>
    refine .inr (.of_note (.called .run .teardown 0 (.ok ())) ?_ rfl ?_ (by rw [deed, hstage]; rfl))
    · exact (history_concludeTeardown _).trans (history_note _ _)
    · rw [shared_concludeTeardown]
      rfl
  | teardownFailed hstage =>
    rename_i failure value
    refine .inr (.of_note (.called .run .teardown 0 (.error (.failure failure))) ?_ rfl ?_
      (by rw [deed, hstage]; rfl))
    · exact (history_concludeTeardown _).trans (history_note _ _)
    · rw [shared_concludeTeardown]
      rfl
  | started hstage | announced hstage =>
    refine .inr (.of_journal_eq rfl ?_ (by rw [deed, hstage]; rfl))
    exact congrArg (·.collectors) (Shared.reporter_changePhase _ _ _)
  | halted hstage =>
    refine .inr (.of_journal_eq rfl ?_ (by rw [deed, hstage]; rfl))
    exact congrArg (·.collectors) (Shared.reporter_raise _ _)
  | launched hstage | launchedAll hstage | joined hstage | readOpened hstage =>
    exact .inr (.of_journal_eq rfl rfl (by rw [deed, hstage]; rfl))
  | finished hstage =>
    refine .inr (.of_journal_eq (frame_toTeardown _).2 ?_ (by rw [deed, hstage]; rfl))
    rw [shared_toTeardown, Shared.reporter_changePhase]
  | concluded hstage =>
    refine .inr ⟨⟨_, history_note _ _, ?_⟩, .inr ⟨_, rfl⟩, ?_⟩
    · intro entry hmem
      rw [List.mem_singleton.mp hmem]
      rfl
    · rw [deed, hstage]
      exact fun _ hmem => by cases hmem
  | deadline | interrupt =>
    refine .inr (.of_journal_eq rfl ?_ rfl)
    exact congrArg (·.collectors) (Shared.reporter_raise _ _)
  | drain =>
    refine .inr (.of_journal_eq rfl ?_ rfl)
    exact congrArg (·.collectors) (Shared.reporter_changePhase _ _ _)
  | backgroundClose => exact .inr (.of_journal_eq rfl rfl rfl)
  | backgroundOpen =>
    refine .inr ⟨⟨[], (List.append_nil _).symm, fun _ hmem => by cases hmem⟩, .inl rfl, ?_⟩
    intro token hmem
    rw [List.mem_singleton.mp hmem]

/-! ## What comes of all actions -/

/-- The records of operations that hooks have handed to the reporter, oldest first. -/
def operations (state : State G V) : List Operation := state.history.filterMap Entry.operation?

theorem holds_of_perform {shared after : Shared} {desk later : Desk} {outside : Outside}
    {action : Action} {answer : Answer action} {operations : List Operation}
    (h : shared.perform desk outside action = some (after, later, answer))
    (hholds : shared.reporter.Holds operations) :
    after.reporter.Holds
      (operations ++ [Entry.acted desk.party desk.iteration action].filterMap Entry.operation?) := by
  have hkept : shared.reporter.Holds (operations ++ []) := by
    rw [List.append_nil]
    exact hholds
  cases action with
  | awaitStop =>
    rw [Shared.perform] at h
    split at h <;> cases h
    exact hkept
  | stop =>
    simp only [Shared.perform, Option.some.injEq, Prod.mk.injEq] at h
    obtain ⟨rfl, -, -⟩ := h
    rw [Shared.reporter_raise]
    exact hkept
  | report operation =>
    cases h
    exact hholds.deliver (.operation operation)
  | log | check | connect | disconnect | stopping | phase | counts | now | sleep | ask =>
    cases h
    exact hkept

/-- Every collector has the records that hooks have handed over, in that order. -/
theorem holds_operations_after (scenario : Scenario G V) (options : Options) (startedAt : Int)
    (moves : List Move) :
    ((State.start scenario options startedAt).after moves).shared.reporter.Holds
      ((State.start scenario options startedAt).after moves).operations := by
  apply after_induction moves (P := fun state => state.shared.reporter.Holds state.operations)
  · exact Report.Reporter.holds_start _ _
  · intro state move next h _ htransition
    rcases htransition.acting with ⟨desk, action, hacts⟩ | hidles
    · obtain ⟨outside, later, answer, hperform⟩ := hacts.performs
      rw [operations, hacts.noted, List.filterMap_append]
      exact holds_of_perform hperform h
    · obtain ⟨entries, hhistory, hentries⟩ := hidles.noted
      have hnone : entries.filterMap Entry.operation? = [] :=
        List.filterMap_eq_nil_iff.mpr fun entry hmem =>
          Entry.operation?_eq_none (hentries entry hmem)
      rw [operations, hhistory, List.filterMap_append, hnone, List.append_nil]
      rcases hidles.collectors with hsame | ⟨checks, hfinalized⟩
      · exact fun collector hmem => h collector (hsame ▸ hmem)
      · have hdelivered := h.deliver (.checks checks)
        rw [Report.Delivery.operation?, Option.toList_none, List.append_nil] at hdelivered
        exact fun collector hmem => hdelivered collector (hfinalized ▸ hmem)

theorem length_openings_actionDeed (desk : Desk) (action : Action) :
    (actionDeed desk action).openings.length =
      [Entry.acted desk.party desk.iteration action].countP Entry.opens := by
  cases action <;> rfl

/-- Connections are opened by hooks, as the journal says, and by work beside the run. -/
theorem opened_after (scenario : Scenario G V) (options : Options) (startedAt : Int)
    (moves : List Move) :
    ((State.start scenario options startedAt).after moves).shared.ledger.opened =
      ((State.start scenario options startedAt).after moves).history.countP Entry.opens +
        ((State.start scenario options startedAt).after moves).backgroundConnects := by
  induction moves using List.reverseRecOn with
  | nil => rfl
  | append_singleton moves move ih =>
    have hplaced := placed_after scenario options startedAt moves
    rw [after_append, after_cons, after_nil]
    generalize (State.start scenario options startedAt).after moves = state at *
    rcases step_cases state move with heq | ⟨-, htransition⟩
    · rw [heq]
      exact ih
    · have hledger := congrArg Ledger.opened htransition.ledger
      have hbackground := htransition.connectsOf hplaced .background
      simp only [connectsOf] at hledger hbackground
      rcases htransition.acting with ⟨desk, action, hacts⟩ | hidles
      · have hparty : ∀ token ∈ (actionDeed desk action).openings, token.owner = desk.party :=
          fun _ hmem => (eq_of_mem_openings hmem).1
        rw [hacts.deed, countP_owner hparty, if_neg hacts.party] at hbackground
        rw [hacts.deed, length_openings_actionDeed] at hledger
        rw [hledger, hbackground, hacts.noted, List.countP_append]
        omega
      · obtain ⟨entries, hhistory, hentries⟩ := hidles.noted
        have hnone : entries.countP Entry.opens = 0 :=
          List.countP_eq_zero.mpr fun entry hmem => by
            rw [Entry.opens_eq_false (hentries entry hmem)]
            exact Bool.false_ne_true
        rw [countP_owner hidles.openings, if_pos rfl] at hbackground
        rw [hledger, hbackground, hhistory, List.countP_append, hnone]
        omega

/-- What is open was opened by the hook that the journal names, or by work beside the run. -/
theorem mem_live_after (scenario : Scenario G V) (options : Options) (startedAt : Int)
    (moves : List Move) :
    ∀ token ∈ ((State.start scenario options startedAt).after moves).shared.ledger.live,
      token.owner = .background ∨ ∃ iteration, .acted token.owner iteration (.connect token.leaked) ∈
        ((State.start scenario options startedAt).after moves).history := by
  apply after_induction moves (P := fun state => ∀ token ∈ state.shared.ledger.live,
    token.owner = .background ∨
      ∃ iteration, .acted token.owner iteration (.connect token.leaked) ∈ state.history)
  · exact fun _ hmem => by cases hmem
  · intro state move next h _ htransition token hmem
    have hold : token ∈ state.shared.ledger.live → (∃ more, next.history = state.history ++ more) →
        token.owner = .background ∨
          ∃ iteration, .acted token.owner iteration (.connect token.leaked) ∈ next.history := by
      rintro hlive ⟨more, hhistory⟩
      refine (h token hlive).imp_right fun ⟨iteration, hacted⟩ => ⟨iteration, ?_⟩
      rw [hhistory]
      exact List.mem_append_left _ hacted
    rcases htransition.acting with ⟨desk, action, hacts⟩ | hidles
    · rcases htransition.mem_live hmem with ⟨hlive, -⟩ | hnew
      · exact hold hlive ⟨_, hacts.noted⟩
      · rw [hacts.deed] at hnew
        refine .inr ⟨desk.iteration, ?_⟩
        rw [hacts.noted]
        cases action with
        | connect leaked =>
          rw [List.mem_singleton.mp hnew]
          exact List.mem_append_right _ (List.mem_singleton_self _)
        | _ => cases hnew
    · rcases htransition.mem_live hmem with ⟨hlive, -⟩ | hnew
      · obtain ⟨entries, hhistory, -⟩ := hidles.noted
        exact hold hlive ⟨entries, hhistory⟩
      · exact .inl (hidles.openings token hnew)

/-- Work beside a run takes no actions of hooks. -/
theorem party_of_acted (scenario : Scenario G V) (options : Options) (startedAt : Int)
    (moves : List Move) : ∀ party iteration action, .acted party iteration action ∈
      ((State.start scenario options startedAt).after moves).history → party ≠ .background := by
  apply after_induction moves (P := fun state => ∀ party iteration action,
    .acted party iteration action ∈ state.history → party ≠ .background)
  · exact fun _ _ _ hmem => absurd hmem List.not_mem_nil
  · intro state move next h _ htransition party iteration action hmem
    rcases htransition.acting with ⟨desk, taken, hacts⟩ | hidles
    · rw [hacts.noted] at hmem
      rcases List.mem_append.mp hmem with hold | hnew
      · exact h party iteration action hold
      · cases List.mem_singleton.mp hnew
        exact hacts.party
    · obtain ⟨entries, hhistory, hentries⟩ := hidles.noted
      rw [hhistory] at hmem
      rcases List.mem_append.mp hmem with hold | hnew
      · exact h party iteration action hold
      · cases hentries _ hnew

/-! ## Runs beside which nothing happens -/

theorem Transition.backgroundConnects (h : state.Transition move next)
    (hquiet : move.isBackground = false) : next.backgroundConnects = state.backgroundConnects := by
  cases h with
  | backgroundOpen => cases hquiet
  | finished =>
    obtain ⟨stage, heq⟩ := toTeardown_eq
      { state with shared := state.shared.changePhase .run (.set .done) }
    rw [heq]
  | tornDown | teardownFailed =>
    unfold concludeTeardown
    split <;> rfl
  | user | acts | setUp | setupFailed | brokeOff | started | launched | launchedAll | announced
  | joined | halted | readOpened | concluded | deadline | interrupt | drain | backgroundClose => rfl

variable {moves : List Move}

theorem backgroundConnects_after (state : State G V)
    (hquiet : ∀ move ∈ moves, move.isBackground = false) :
    (state.after moves).backgroundConnects = state.backgroundConnects := by
  induction moves generalizing state with
  | nil => rfl
  | cons move moves ih =>
    obtain ⟨hmove, hmoves⟩ := List.forall_mem_cons.mp hquiet
    rw [after_cons, ih _ hmoves]
    rcases step_cases state move with heq | ⟨-, htransition⟩
    · rw [heq]
    · exact htransition.backgroundConnects hmove

theorem rests_of_quiet (state : State G V) (hquiet : ∀ move ∈ moves, move.isBackground = false) :
    state.rests moves = true := by
  induction moves generalizing state with
  | nil => rfl
  | cons move moves ih =>
    obtain ⟨hmove, hmoves⟩ := List.forall_mem_cons.mp hquiet
    rw [rests, ih _ hmoves, hmove, Bool.and_true]
    split <;> rfl

end State

end Run

end LoadHarness
