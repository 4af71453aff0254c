import LoadHarness.Proofs.Run.Accounting
import LoadHarness.Proofs.Run.Checks
import LoadHarness.Proofs.Run.Given
import LoadHarness.Proofs.Run.Notices

/-! Virtual users are isolated from each other.

Two runs of scenarios that differ in the hooks of other users alone are the same
for a user that is told alike in both, above all: that sees the signal at the same
point of its life (`isolated`).  Whether others fail, bail, break off or do as they
should, and how everyone's moves are ordered, makes no difference to it. -/

namespace LoadHarness.Run

variable {G V : Type}

namespace State

/-- Whether nothing is to come of a user any more: its life is over, or the run was concluded
without it. -/
def doneWith (state : State G V) (id : Nat) : Bool :=
  match state.users[id]? with
  | some user => user.isOver
  | none => state.conclusion?.isSome

/-- A run that was concluded without a user shows that no run has that user. -/
theorem Given.absent {state other : State G V} {given : Option G} {id : Nat}
    (h : state.Given given) (hstaged : state.Staged)
    (hconcluded : state.conclusion?.isSome = true) (habsent : state.users[id]? = none)
    (h' : other.Given given) (hstaged' : other.Staged) (hoptions : other.options = state.options) :
    other.users[id]? = none := by
  rw [List.getElem?_eq_none_iff] at habsent ⊢
  cases hempty : other.users with
  | nil => exact Nat.zero_le _
  | cons user users =>
    have hne : other.users ≠ [] := by
      rw [hempty]
      exact List.cons_ne_nil _ _
    have hfull := h.length_of_concluded hstaged (h'.isSome_of_users hstaged' hne) hconcluded
    have hle := hstaged'.length_le
    rw [hempty, hoptions] at hle
    omega

variable {scenario other : Scenario G V} {options : Options} {startedAt startedAt' : Int}
  {moves moves' : List Move} {id : Nat} {g : G}

/-- A user that is told alike in two runs that give users the same value lives the same life. -/
theorem life_unique (hsame : scenario.SameFor other id)
    (hdiscreet : scenario.DiscreetFor options id)
    (hgiven : (State.start scenario options startedAt).given? moves = some g)
    (hgiven' : (State.start other options startedAt').given? moves' = some g)
    {user user' : User V}
    (huser : ((State.start scenario options startedAt).after moves).users[id]? = some user)
    (huser' : ((State.start other options startedAt').after moves').users[id]? = some user')
    (hover : user.isOver = true) (hover' : user'.isOver = true)
    (halike : ToldAlike ((State.start scenario options startedAt).heardBy id moves)
      ((State.start other options startedAt').heardBy id moves')) :
    user' = user ∧ ((State.start other options startedAt').after moves').notes id =
      ((State.start scenario options startedAt).after moves).notes id := by
  have hsetting : Setting.SameFor ⟨scenario, options, g⟩ ⟨other, options, g⟩ id :=
    ⟨hsame, rfl, rfl⟩
  have hleads := (heeds_after scenario options startedAt id moves
    fun _ hfront => global_of_given? hgiven hfront).present user huser
  have hleads' := (heeds_after other options startedAt' id moves'
    fun _ hfront => global_of_given? hgiven' hfront).present user' huser'
  rw [hsetting.beginAlike.start rfl] at hleads'
  exact hleads.unique hsetting hdiscreet hleads' halike (User.id_start _ _)
    (User.discreet_start hdiscreet) hover hover'

/-- The same, whether or not there is such a user in the end. -/
theorem life_unique_of_done (hsame : scenario.SameFor other id)
    (hdiscreet : scenario.DiscreetFor options id)
    (hgiven : (State.start other options startedAt').given? moves' =
      (State.start scenario options startedAt).given? moves)
    (hdone : ((State.start scenario options startedAt).after moves).doneWith id = true)
    (hdone' : ((State.start other options startedAt').after moves').doneWith id = true)
    (halike : ToldAlike ((State.start scenario options startedAt).heardBy id moves)
      ((State.start other options startedAt').heardBy id moves')) :
    ((State.start other options startedAt').after moves').users[id]? =
        ((State.start scenario options startedAt).after moves).users[id]? ∧
      ((State.start other options startedAt').after moves').notes id =
        ((State.start scenario options startedAt).after moves).notes id := by
  have hstaged := staged_after scenario options startedAt moves
  have hstaged' := staged_after other options startedAt' moves'
  have hknown := given_after scenario options startedAt moves
  have hknown' := given_after other options startedAt' moves'
  rw [hgiven] at hknown'
  have hoptions := (fixed_after (State.start scenario options startedAt) moves).2.1
  have hoptions' := (fixed_after (State.start other options startedAt') moves').2.1
  unfold doneWith at hdone hdone'
  cases huser : ((State.start scenario options startedAt).after moves).users[id]? with
  | none =>
    rw [huser] at hdone
    -- concluded without the user: the setup gave no value, or the options ask for fewer users
    have hnone := hknown.absent hstaged hdone huser hknown' hstaged'
      (hoptions'.trans hoptions.symm)
    rw [notes_eq_nil scenario options startedAt moves huser,
      notes_eq_nil other options startedAt' moves' hnone]
    exact ⟨hnone, rfl⟩
  | some user =>
    rw [huser] at hdone
    cases huser' : ((State.start other options startedAt').after moves').users[id]? with
    | none =>
      rw [huser'] at hdone'
      rw [hknown'.absent hstaged' hdone' huser' hknown hstaged
        (hoptions.trans hoptions'.symm)] at huser
      cases huser
    | some user' =>
      rw [huser'] at hdone'
      have hne : ((State.start scenario options startedAt).after moves).users ≠ [] := by
        intro hnil
        rw [hnil] at huser
        cases huser
      obtain ⟨g, hg⟩ := Option.isSome_iff_exists.mp (hknown.isSome_of_users hstaged hne)
      obtain ⟨rfl, hnotes⟩ := life_unique hsame hdiscreet hg (hgiven.trans hg) huser huser' hdone
        hdone' halike
      exact ⟨rfl, hnotes⟩

end State

/-- A user that is told alike in runs of two scenarios that differ in the hooks of others alone
lives one life, if the setups of the runs have handed on the same value or neither of them any: it
ends at the same point and in the same health, its calls were made in the same iterations and came
to the same results, and it recorded the same checks in the same order.  They are what the log has
under its id; only user 0 shares its id with the run. -/
theorem isolated {scenario other : Scenario G V} {options : Options} {id : Nat}
    (hsame : scenario.SameFor other id) (hdiscreet : scenario.DiscreetFor options id)
    (startedAt startedAt' : Int) {moves moves' : List Move} {state state' : State G V}
    (hstate : (State.start scenario options startedAt).after moves = state)
    (hstate' : (State.start other options startedAt').after moves' = state')
    (hgiven : (State.start other options startedAt').given? moves' =
      (State.start scenario options startedAt).given? moves)
    (hdone : state.doneWith id = true) (hdone' : state'.doneWith id = true)
    (halike : ToldAlike ((State.start scenario options startedAt).heardBy id moves)
      ((State.start other options startedAt').heardBy id moves')) :
    state'.users[id]? = state.users[id]? ∧
      state'.notes id = state.notes id ∧
      (state'.notes id).filterMap Entry.outcome? = (state.notes id).filterMap Entry.outcome? ∧
      state'.checksOf id = state.checksOf id ∧
      (0 < id → state'.shared.recorder.results.filter (·.virtualUser == id) =
        state.shared.recorder.results.filter (·.virtualUser == id)) := by
  subst hstate hstate'
  obtain ⟨huser, hnotes⟩ :=
    State.life_unique_of_done hsame hdiscreet hgiven hdone hdone' halike
  have hchecks : ((State.start other options startedAt').after moves').checksOf id =
      ((State.start scenario options startedAt).after moves).checksOf id := by
    rw [State.checksOf, State.checksOf, hnotes]
  refine ⟨huser, hnotes, congrArg _ hnotes, hchecks, fun hpos => ?_⟩
  rw [State.filter_results _ _ _ _ hpos, State.filter_results _ _ _ _ hpos, hchecks]

namespace Sample

/-- The users of `timed`, but for user 0, of which every call of its behaviour breaks off. -/
def spoiled : Scenario Duration Unit :=
  { timed with
    behaviour := some fun context =>
      if context.id = 0 then Hook.panic "gone"
      else Hook.record "early" (context.global.secs < 9) }

/-- User 1 lives its life, and the person at the terminal stops the run in the middle of it.  The
other user moves in between. -/
def interrupted (first other last : Nat) : List Move :=
  setUpAt (.ofSecs 7) ++ control 3 ++ user 1 first ++ user 0 other ++ [.interrupt] ++ user 1 last

theorem sameFor_spoiled : timed.SameFor spoiled 1 where
  global := rfl
  setup := rfl
  fresh := rfl
  hooks := by
    intro hook
    cases hook with
    | setup | teardown => exact .some fun _ _ => rfl
    | behaviour =>
      refine .some fun context hid => ?_
      rw [if_neg]
      rw [hid]
      decide

theorem discreetFor_timed (options : Options) : timed.DiscreetFor options 1 := by
  intro hook body hbody iteration global value
  cases hook with
  | setup | teardown =>
    cases hbody
    exact trivial
  | behaviour =>
    cases hbody
    exact ⟨trivial, fun _ => trivial⟩

end Sample

/-- User 1 does not see that user 0 breaks off in one run and not in the other. -/
theorem isolated_sample :
    let state := (State.start Sample.timed (Sample.options 2 none) 0).after
      (Sample.interrupted 4 3 6)
    let state' := (State.start Sample.spoiled (Sample.options 2 none) 0).after
      (Sample.interrupted 7 5 3)
    (State.start Sample.timed (Sample.options 2 none) 0).given? (Sample.interrupted 4 3 6) =
        some (.ofSecs 7) ∧
      state.crashed = [] ∧ state'.crashed = [0] ∧ state.doneWith 1 = true ∧
      state'.users[1]? = state.users[1]? ∧ state'.notes 1 = state.notes 1 ∧
        state'.checksOf 1 = state.checksOf 1 ∧ state.checksOf 1 = [⟨"early", true, 1, 0⟩] := by
  intro state state'
  have hgiven : (State.start Sample.timed (Sample.options 2 none) 0).given?
      (Sample.interrupted 4 3 6) = some (.ofSecs 7) := rfl
  have hgiven' : (State.start Sample.spoiled (Sample.options 2 none) 0).given?
      (Sample.interrupted 7 5 3) = some (.ofSecs 7) := rfl
  have hheard : (State.start Sample.timed (Sample.options 2 none) 0).heardBy 1
      (Sample.interrupted 4 3 6) = [.signal false, .signal true] := rfl
  have hheard' : (State.start Sample.spoiled (Sample.options 2 none) 0).heardBy 1
      (Sample.interrupted 7 5 3) = [.signal false, .signal true] := rfl
  have halike : ToldAlike
      ((State.start Sample.timed (Sample.options 2 none) 0).heardBy 1
        (Sample.interrupted 4 3 6))
      ((State.start Sample.spoiled (Sample.options 2 none) 0).heardBy 1
        (Sample.interrupted 7 5 3)) := by
    rw [hheard, hheard']
    exact ⟨rfl, rfl, trivial⟩
  have hdone : state.doneWith 1 = true := rfl
  have hdone' : state'.doneWith 1 = true := rfl
  have hall := isolated Sample.sameFor_spoiled (Sample.discreetFor_timed (Sample.options 2 none)) 0 0
    (rfl : _ = state) (rfl : _ = state') (hgiven'.trans hgiven.symm) hdone hdone' halike
  exact ⟨hgiven, rfl, rfl, hdone, hall.1, hall.2.1, hall.2.2.2.1, rfl⟩

end LoadHarness.Run
