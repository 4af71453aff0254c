import LoadHarness.Proofs.Run.Users

/-! The log of checks, read off the journal.

Every result in the log was recorded by a hook, in the iteration and for the user
that the journal names, and in the order of the journal (`State.results_after`).
So the part of the log that is about a user is what that user has recorded
(`State.filter_results`).  What the run itself records stands under user 0. -/

namespace LoadHarness.Run

/-- The result that was recorded, if an entry tells of one. -/
def Entry.check? : Entry → Option CheckResult
  | .acted party iteration (.check name passed) =>
    some ((⟨party, iteration, 0⟩ : Desk).stamp name passed)
  | _ => none

/-- The result in an entry in the books. -/
def Deed.check? : Deed → Option CheckResult
  | .check result => some result
  | .none | .iteration _ | .opened _ | .closed _ => Option.none

theorem results_after (books : Books) (deed : Deed) :
    (books.after deed).recorder.results = books.recorder.results ++ deed.check?.toList := by
  cases deed with
  | check result => exact Recorder.results_record _ _
  | none | iteration | opened | closed => exact (List.append_nil _).symm

/-- An action is noted with the result that it enters in the books. -/
theorem filterMap_check?_acted (desk : Desk) (action : Action) :
    [Entry.acted desk.party desk.iteration action].filterMap Entry.check? =
      (actionDeed desk action).check?.toList := by
  cases action <;> rfl

namespace User

variable {G V : Type} {setting : Setting G V} {user : User V} {shared : Shared}
  {stepped : Stepped V}

/-- A step notes the result that it enters in the books. -/
theorem Step.checks (h : user.Step setting shared stepped) :
    stepped.entries.filterMap Entry.check? = user.deed.check?.toList := by
  cases h with
  | acts hook hpoint =>
    cases hook <;> (rw [User.deed, hpoint]; exact filterMap_check?_acted user.desk _)
  | settled hpoint =>
    rename_i outcome
    rw [User.deed, hpoint]
    simp only
    cases recordOf outcome <;> rfl
  | brokeOff hook hpoint => cases hook <;> (rw [User.deed, hpoint]; rfl)
  | returned hpoint =>
    rename_i outcome value
    rw [User.deed, hpoint]
    cases outcome <;> rfl
  | setUp hpoint | setupFailed hpoint | tornDown hpoint | teardownFailed hpoint
  | sawSignal hpoint | sawNoSignal hpoint | capped hpoint | calls hpoint
  | lacksBehaviour hpoint | advanced hpoint | paced hpoint | left hpoint =>
    rw [User.deed, hpoint]
    rfl

end User

namespace State

variable {G V : Type} {state next : State G V} {move : Move}

/-- A move notes the result that it enters in the books. -/
theorem Transition.checks (h : state.Transition move next) :
    next.history.filterMap Entry.check? =
      state.history.filterMap Entry.check? ++ (state.deed move).check?.toList := by
  have hquiet : ∀ {other : State G V} {entries : List Entry},
      other.history = state.history ++ entries → entries.filterMap Entry.check? = [] →
      other.history.filterMap Entry.check? =
        state.history.filterMap Entry.check? ++ Option.none.toList := by
    intro other entries hhistory hnone
    rw [hhistory, List.filterMap_append, hnone]
    rfl
  cases h with
  | user huser hstep =>
    rw [history_put, List.filterMap_append, (User.step_cases hstep).checks, deed, huser]
  | acts hook hstage =>
    rw [history_note, List.filterMap_append]
    cases hook <;>
      (rw [deed, hstage]
       exact congrArg _ (filterMap_check?_acted state.desk _))
  | setUp hstage | setupFailed hstage | concluded hstage =>
    rw [deed, hstage]
    exact hquiet (history_note _ _) rfl
  | brokeOff hook hstage =>
    cases hook <;>
      (rw [deed, hstage]
       exact hquiet (history_note _ _) rfl)
  | tornDown hstage | teardownFailed hstage =>
    rw [history_concludeTeardown, deed, hstage]
    exact hquiet (history_note _ _) rfl
  | finished hstage =>
    rw [history_toTeardown, deed, hstage]
    exact hquiet (List.append_nil _).symm rfl
  | started hstage | launched hstage | launchedAll hstage | announced hstage | joined hstage
  | halted hstage | readOpened hstage =>
    rw [deed, hstage]
    exact hquiet (List.append_nil _).symm rfl
  | deadline | interrupt | drain | backgroundOpen | backgroundClose =>
    exact hquiet (List.append_nil _).symm rfl

/-- The log of checks is what the journal says was recorded, in that order. -/
theorem results_after (scenario : Scenario G V) (options : Options) (startedAt : Int)
    (moves : List Move) :
    ((State.start scenario options startedAt).after moves).shared.recorder.results =
      ((State.start scenario options startedAt).after moves).history.filterMap Entry.check? := by
  apply after_induction moves (P := fun state =>
    state.shared.recorder.results = state.history.filterMap Entry.check?) rfl
  intro state move next h _ htransition
  have hbooks := congrArg (·.recorder.results) htransition.books
  rw [Run.results_after] at hbooks
  rw [htransition.checks, ← h]
  exact hbooks

/-- The results that a user has recorded, oldest first. -/
def checksOf (state : State G V) (id : Nat) : List CheckResult :=
  (state.notes id).filterMap Entry.check?

/-- A result stands under the user that recorded it, unless it stands under user 0. -/
theorem filter_check? {id : Nat} (hpos : 0 < id) (entry : Entry) :
    entry.check?.filter (·.virtualUser == id) =
      if (entry.user? == some id) = true then entry.check? else none := by
  have hne : (0 == id) = false := beq_eq_false_iff_ne.mpr (Nat.ne_of_lt hpos)
  cases entry with
  | acted party iteration action =>
    cases action with
    | check name passed =>
      cases party with
      | user other =>
        rw [Entry.check?, Option.filter_some, Entry.user?, Option.some_beq_some]
        rfl
      | run | background =>
        simp only [Entry.check?, Entry.user?, Desk.stamp, Option.filter_some, hne]
        rfl
    | _ => simp [Entry.check?]
  | called | looked | finalized => simp [Entry.check?]

/-- What the log says about a user is what that user has recorded. -/
theorem filter_results (scenario : Scenario G V) (options : Options) (startedAt : Int)
    (moves : List Move) {id : Nat} (hpos : 0 < id) :
    ((State.start scenario options startedAt).after moves).shared.recorder.results.filter
        (·.virtualUser == id) =
      ((State.start scenario options startedAt).after moves).checksOf id := by
  rw [State.results_after, checksOf, notes, List.filter_filterMap, List.filterMap_filter]
  congr 1
  funext entry
  exact filter_check? hpos entry

end State

end LoadHarness.Run
