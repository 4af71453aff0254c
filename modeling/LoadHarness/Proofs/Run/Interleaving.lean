import LoadHarness.Proofs.Run.Solo
import LoadHarness.Proofs.Run.Stages
import LoadHarness.Run.Execute

/-! Users side by side.

While users run, the books grow by the deeds of the users alone, and every user
is somewhere on its solo run.

    state.shared.books = first.play trace       trace, as far as user `id` goes, = deeds id n

So the run in between the setup and the teardown is an interleaving of solo runs
(`State.exists_arrives`), provided that no signal is raised too early. -/

namespace LoadHarness

/-- Whether an action asks what no one in the run knows. -/
def Action.listens : Action → Bool
  | .now | .ask _ => true
  | _ => false

namespace Run

/-- Whether a user has left its cycle. -/
def User.hasLeft {V : Type} (user : User V) : Bool :=
  match user.point with
  | .teardown _ | .leave | .ended | .panicked _ => true
  | _ => false

/-- Whether work that a hook left behind moves. -/
def Move.isBackground : Move → Bool
  | .backgroundOpen | .backgroundClose _ => true
  | _ => false

/-- Whether a stage is between the setup and the teardown of the run. -/
def Stage.isMiddle {G : Type} : Stage G → Bool
  | .start | .launch | .announce | .join | .halt | .finish => true
  | _ => false

namespace State

variable {G V : Type}

/-- Whether no signal is raised, or all virtual users have left their cycles. -/
def quiet (state : State G V) : Bool :=
  !state.shared.stopping ||
    state.users.length == state.options.virtualUsers && state.users.all (·.hasLeft)

/-- Whether the signal is not raised before all virtual users have left their cycles, and nothing
but the run and its users moves the connections. -/
def undisturbed (state : State G V) : List Move → Bool
  | [] => state.quiet
  | move :: moves => state.quiet && !move.isBackground && (state.step move).undisturbed moves

/-- Whether the hook of the run is about to ask what no one in the run knows. -/
def listens (state : State G V) : Bool := state.action?.any (·.listens)

/-- What the hooks of the run are told by the world outside. -/
def heard (state : State G V) : List Move → List Outside
  | [] => []
  | .control outside :: moves =>
    if state.listens then outside :: (state.step (.control outside)).heard moves
    else (state.step (.control outside)).heard moves
  | move :: moves => (state.step move).heard moves

theorem quiet_of_undisturbed {state : State G V} {moves : List Move}
    (h : state.undisturbed moves = true) : state.quiet = true := by
  cases moves with
  | nil => exact h
  | cons move moves =>
    simp only [undisturbed, Bool.and_eq_true] at h
    exact h.1.1

/-- An interleaving of solo runs, each as far as its user has come. -/
structure Interleaved (setting : Setting G V) (first : Books) (state : State G V)
    (trace : List (Nat × Deed)) : Prop where
  books : state.shared.books = first.play trace
  user : ∀ id user, state.users[id]? = some user → ∃ n, user.rested = orbit setting id n ∧
    (∀ i < n, (orbit setting id i).isOver = false) ∧
    trace.filter (·.1 == id) = deeds setting id n
  absent : ∀ id, state.users[id]? = none → trace.filter (·.1 == id) = []

variable {own : Nat → V → Prop} {setting : Setting G V} {first : Books} {state next : State G V}
  {trace : List (Nat × Deed)} {move : Move}

theorem Interleaved.ownedBy (h : Interleaved setting first state trace)
    (hlocal : Local setting.scenario setting.options own) :
    ∀ entry ∈ trace, entry.2.OwnedBy entry.1 := by
  intro entry hmem
  have hfilter : entry ∈ trace.filter (·.1 == entry.1) :=
    List.mem_filter.mpr ⟨hmem, beq_self_eq_true _⟩
  cases huser : state.users[entry.1]? with
  | none =>
    rw [h.absent entry.1 huser] at hfilter
    cases hfilter
  | some user =>
    obtain ⟨n, -, -, hdeeds⟩ := h.user entry.1 user huser
    rw [hdeeds] at hfilter
    obtain ⟨i, -, heq⟩ := List.mem_map.mp hfilter
    have howned := (tame_orbit hlocal entry.1 i).ownedBy_deed
    rw [id_orbit] at howned
    rw [← heq]
    exact howned

theorem not_stopping_of_quiet {id : Nat} {user : User V} (hquiet : state.quiet = true)
    (huser : state.users[id]? = some user) (hpoint : user.point = .testSignal) :
    state.shared.stopping = false := by
  rw [quiet, Bool.or_eq_true, Bool.not_eq_true', Bool.and_eq_true] at hquiet
  rcases hquiet with h | ⟨-, hleft⟩
  · exact h
  · have hmem := List.all_eq_true.mp hleft user (List.mem_of_getElem? huser)
    rw [User.hasLeft, hpoint] at hmem
    cases hmem

/-- A pause is nothing that a user does. -/
theorem paced_of_step {user : User V} {shared : Shared} {stepped : Stepped V}
    (hstep : user.Step setting shared stepped) (hpace : user.point = .pace) :
    stepped.user.rested = user.rested ∧ user.deed = .none := by
  have hnot : ∀ point : Point V, user.point = point → point = .pace := fun _ h =>
    h.symm.trans hpace
  cases hstep with
  | paced =>
    refine ⟨?_, ?_⟩
    · rw [User.rested, User.rested, hpace]
    · rw [User.deed, hpace]
  | acts hook hpoint | brokeOff hook hpoint => cases hook <;> cases hnot _ hpoint
  | setUp hpoint | setupFailed hpoint | returned hpoint | tornDown hpoint | teardownFailed hpoint
  | sawSignal hpoint | sawNoSignal hpoint | capped hpoint | calls hpoint | lacksBehaviour hpoint
  | settled hpoint | advanced hpoint | left hpoint => cases hnot _ hpoint

/-- One user has moved on, and entered `more`. -/
theorem Interleaved.put (h : Interleaved setting first state trace) {id m : Nat} {user : User V}
    {stepped : Stepped V} {more : List (Nat × Deed)} (huser : state.users[id]? = some user)
    (hmore : ∀ entry ∈ more, entry.1 = id)
    (hbooks : stepped.shared.books = first.play (trace ++ more))
    (horbit : stepped.user.rested = orbit setting id m)
    (hbefore : ∀ i < m, (orbit setting id i).isOver = false)
    (hdeeds : (trace ++ more).filter (·.1 == id) = deeds setting id m) :
    Interleaved setting first (state.put id stepped) (trace ++ more) := by
  have hlt := (List.getElem?_eq_some_iff.mp huser).1
  have hother : ∀ other, id ≠ other →
      (trace ++ more).filter (·.1 == other) = trace.filter (·.1 == other) := by
    intro other hne
    have hnone : more.filter (·.1 == other) = [] := by
      rw [List.filter_eq_nil_iff]
      intro entry hmem heq
      exact hne ((hmore entry hmem).symm.trans (beq_iff_eq.mp heq))
    rw [List.filter_append, hnone, List.append_nil]
  refine ⟨hbooks, ?_, ?_⟩
  · intro other later hlater
    by_cases hne : id = other
    · subst hne
      rw [users_put, List.getElem?_set_self hlt, Option.some.injEq] at hlater
      rw [← hlater]
      exact ⟨m, horbit, hbefore, hdeeds⟩
    · rw [users_put, List.getElem?_set_ne hne] at hlater
      rw [hother other hne]
      exact h.user other later hlater
  · intro other hnone
    by_cases hne : id = other
    · subst hne
      rw [users_put, List.getElem?_set_self hlt] at hnone
      cases hnone
    · rw [users_put, List.getElem?_set_ne hne] at hnone
      rw [hother other hne]
      exact h.absent other hnone

theorem Interleaved.user_step (h : Interleaved setting first state trace)
    (hlocal : Local setting.scenario setting.options own) (hagrees : setting.Agrees state.setting)
    (hquiet : state.quiet = true) {id : Nat} {user : User V} {stepped : Stepped V}
    (huser : state.users[id]? = some user)
    (hstep : user.Step state.setting state.shared stepped) :
    ∃ trace, Interleaved setting first (state.put id stepped) trace := by
  have hbooks := hstep.books
  obtain ⟨n, horbit, hbefore, hdeeds⟩ := h.user id user huser
  by_cases hpace : user.point = .pace
  · obtain ⟨hrested, hdeed⟩ := paced_of_step hstep hpace
    rw [hdeed, h.books] at hbooks
    refine ⟨trace ++ [], h.put huser (fun _ hmem => by cases hmem) ?_ ?_ hbefore ?_⟩
    · rw [List.append_nil]
      exact hbooks
    · rw [hrested, horbit]
    · rw [List.append_nil, hdeeds]
  · rw [rested_of_ne_pace hpace] at horbit
    have htame := tame_orbit hlocal id n
    rw [← horbit] at htame
    have hsolo := hstep.solo hagrees htame hpace (not_stopping_of_quiet hquiet huser)
    refine ⟨trace ++ [(id, user.deed)], h.put (m := n + 1) huser ?_ ?_ ?_ ?_ ?_⟩
    · intro entry hmem
      rw [List.mem_singleton.mp hmem]
    · rw [hbooks, h.books, Books.play, Books.play, List.foldl_append]
      rfl
    · rw [← hsolo, horbit]
      rfl
    · intro i hi
      rcases Nat.lt_succ_iff_lt_or_eq.mp hi with hi | rfl
      · exact hbefore i hi
      · rw [← horbit]
        exact hstep.not_isOver
    · rw [List.filter_append, hdeeds, deeds_succ, horbit]
      simp

theorem Interleaved.launch (h : Interleaved setting first state trace)
    (hagrees : setting.Agrees state.setting) :
    Interleaved setting first
      { state with users := state.users ++ [User.start state.setting state.users.length] }
      trace := by
  refine ⟨h.books, ?_, ?_⟩
  · intro id user huser
    rw [List.getElem?_append] at huser
    split at huser
    · exact h.user id user huser
    · rename_i hge
      rw [List.getElem?_singleton] at huser
      split at huser
      · rename_i hlast
        have hid : state.users.length = id := by omega
        subst hid
        cases huser
        refine ⟨0, ?_, fun i hlt => absurd hlt (Nat.not_lt_zero i), ?_⟩
        · rw [rested_start, hagrees.beginAlike.start trivial]
          rfl
        · exact h.absent _ (List.getElem?_eq_none (Nat.le_refl _))
      · cases huser
  · intro id hnone
    rw [List.getElem?_eq_none_iff, List.length_append] at hnone
    exact h.absent id (List.getElem?_eq_none (by omega))

theorem Interleaved.of_eq (h : Interleaved setting first state trace)
    (hbooks : next.shared.books = state.shared.books) (husers : next.users = state.users) :
    Interleaved setting first next trace := by
  refine ⟨hbooks.trans h.books, ?_, ?_⟩
  · rw [husers]
    exact h.user
  · rw [husers]
    exact h.absent

/-! ## The middle of a run -/

/-- A run between its setup and its teardown, as an interleaving of solo runs. -/
structure Middle (setting : Setting G V) (first : Books) (connects : Nat)
    (state : State G V) : Prop where
  stage : state.stage.isMiddle = true
  agrees : setting.Agrees state.setting
  global : state.global = setting.global
  connects : state.connects = connects
  raised : state.stage = .finish → state.shared.stopping = true
  traced : ∃ trace, Interleaved setting first state trace

/-- A run in which all users are over and the teardown is about to begin. -/
structure Ready (setting : Setting G V) (first : Books) (connects : Nat) (trace : List (Nat × Deed))
    (state : State G V) : Prop where
  stage : state.stage = .finish
  agrees : setting.Agrees state.setting
  global : state.global = setting.global
  connects : state.connects = connects
  raised : state.shared.stopping = true
  phase : state.shared.phase = .done
  full : state.users.length = state.options.virtualUsers
  allOver : state.allOver = true
  traced : Interleaved setting first state trace

variable {connects : Nat}

theorem deed_of_middle (hstage : state.stage.isMiddle = true)
    (huser : ∀ id outside, move ≠ .user id outside) (hback : move.isBackground = false) :
    state.deed move = .none := by
  cases move with
  | user id outside => exact absurd rfl (huser id outside)
  | control outside =>
    unfold deed Stage.isMiddle at *
    split at hstage
    · rename_i h
      simp only [h]
    · rename_i h
      simp only [h]
    · rename_i h
      simp only [h]
    · rename_i h
      simp only [h]
    · rename_i h
      simp only [h]
    · rename_i h
      simp only [h]
    · cases hstage
  | deadline | interrupt | drain => rfl
  | backgroundOpen | backgroundClose => cases hback

/-- What a move in the middle of a run can change, apart from users and books. -/
theorem Transition.middle (h : state.Transition move next)
    (hstage : state.stage.isMiddle = true) :
    (state.stage = .finish ∧
        next = { state with shared := state.shared.changePhase .run (.set .done) }.toTeardown) ∨
      next.stage.isMiddle = true ∧ next.setting = state.setting ∧
        next.connects = state.connects ∧
        (next.stage = .finish → state.stage = .finish ∨ next.shared.stopping = true) := by
  cases h with
  | finished hfinish => exact .inl ⟨hfinish, rfl⟩
  | halted => exact .inr ⟨rfl, rfl, rfl, fun _ => .inr (Shared.stopping_raise _ _)⟩
  | started | launchedAll | announced | joined =>
    exact .inr ⟨rfl, rfl, rfl, nofun⟩
  | user | launched | deadline | interrupt | drain | backgroundOpen | backgroundClose =>
    exact .inr ⟨hstage, rfl, rfl, .inl⟩
  | acts hook hhook | brokeOff hook hhook =>
    rw [hhook] at hstage
    cases hook <;> cases hstage
  | setUp hother | setupFailed hother | tornDown hother | teardownFailed hother
  | readOpened hother | concluded hother =>
    rw [hother] at hstage
    cases hstage

theorem Middle.keep (h : Middle setting first connects state)
    (hlocal : Local setting.scenario setting.options own) (hquiet : state.quiet = true)
    (hback : move.isBackground = false) (htransition : state.Transition move next) :
    (state.stage = .finish ∧
        next = { state with shared := state.shared.changePhase .run (.set .done) }.toTeardown) ∨
      Middle setting first connects next := by
  obtain ⟨trace, htraced⟩ := h.traced
  rcases htransition.middle h.stage with hfinish | ⟨hstage, hsetting, hconnects, hraised⟩
  · exact .inl hfinish
  refine .inr ⟨hstage, ?_, ?_, hconnects.trans h.connects, ?_, ?_⟩
  · rw [hsetting]
    exact h.agrees
  · have hglobal := congrArg Setting.global hsetting
    exact hglobal.trans h.global
  · intro hfinish
    rcases hraised hfinish with hwas | hnow
    · exact htransition.stopping (h.raised hwas)
    · exact hnow
  · rcases htransition.users_cases with ⟨id, outside, user, stepped, rfl, huser, hstep, rfl⟩ |
      ⟨-, -, rfl, -⟩ | ⟨haside, hmove⟩
    · exact htraced.user_step hlocal h.agrees hquiet huser hstep
    · exact ⟨trace, htraced.launch h.agrees⟩
    · refine ⟨trace, htraced.of_eq ?_ haside.users⟩
      rw [htransition.books, deed_of_middle h.stage hmove hback]
      rfl

theorem listens_of_middle (hstage : state.stage.isMiddle = true) : state.listens = false := by
  have haction : state.action? = none := by
    unfold action?
    split
    · rename_i h
      rw [h] at hstage
      cases hstage
    · rename_i h
      rw [h] at hstage
      cases hstage
    · rfl
  rw [listens, haction, Option.any_none]

theorem conclusion?_of_middle (hstage : state.stage.isMiddle = true) :
    state.conclusion? = none := by
  unfold conclusion?
  split
  · rename_i h
    rw [h] at hstage
    cases hstage
  · rfl

theorem heard_cons (hlistens : state.listens = false) (move : Move) (moves : List Move) :
    state.heard (move :: moves) = (state.step move).heard moves := by
  cases move with
  | control outside => rw [heard, hlistens, if_neg Bool.false_ne_true]
  | user | deadline | interrupt | drain | backgroundOpen | backgroundClose => rfl

/-- A run comes to its teardown, with every user over and the books an interleaving of what the
users enter by themselves, and has moves left from there. -/
structure Arrives (setting : Setting G V) (first : Books) (connects : Nat) (state : State G V)
    (moves front back : List Move) (ready : State G V) (trace : List (Nat × Deed)) : Prop where
  split : moves = front ++ back
  after : state.after front = ready.toTeardown
  isReady : Ready setting first connects trace ready
  undisturbed : ready.toTeardown.undisturbed back = true
  heard : state.heard moves = ready.toTeardown.heard back

/-- A run that is concluded has come by its teardown. -/
theorem exists_arrives (hlocal : Local setting.scenario setting.options own)
    (hmiddle : Middle setting first connects state) (hstaged : state.Staged) (moves : List Move)
    (hundisturbed : state.undisturbed moves = true)
    (hconcluded : (state.after moves).conclusion?.isSome = true) :
    ∃ front back ready trace,
      Arrives setting first connects state moves front back ready trace := by
  induction moves generalizing state with
  | nil =>
    rw [after_nil, conclusion?_of_middle hmiddle.stage] at hconcluded
    cases hconcluded
  | cons move moves ih =>
    have hheard := heard_cons (listens_of_middle hmiddle.stage) move moves
    simp only [State.undisturbed, Bool.and_eq_true, Bool.not_eq_true'] at hundisturbed
    obtain ⟨⟨hquiet, hback⟩, hundisturbed⟩ := hundisturbed
    have hgo : Middle setting first connects (state.step move) → (state.step move).Staged →
        ∃ front back ready trace,
          Arrives setting first connects state (move :: moves) front back ready trace := by
      intro hnext hstagedNext
      obtain ⟨front, back, ready, trace, hrest⟩ := ih hnext hstagedNext hundisturbed hconcluded
      refine ⟨move :: front, back, ready, trace, ?_, hrest.after, hrest.isReady, hrest.undisturbed,
        hheard.trans hrest.heard⟩
      rw [hrest.split, List.cons_append]
    rcases step_cases state move with heq | ⟨-, htransition⟩
    · rw [heq] at hgo
      exact hgo hmiddle hstaged
    rcases hmiddle.keep hlocal hquiet hback htransition with ⟨hfinish, hnext⟩ | hnext
    · obtain ⟨trace, htraced⟩ := hmiddle.traced
      simp only [Staged, hfinish] at hstaged
      rw [hnext] at hundisturbed hheard
      refine ⟨[move], moves, _, trace, rfl, hnext, ?_, hundisturbed, hheard⟩
      exact ⟨hfinish, hmiddle.agrees, hmiddle.global, hmiddle.connects,
        (Shared.stopping_changePhase _ _ _).trans (hmiddle.raised hfinish),
        Shared.phase_changePhase _ _ _, hstaged.1, hstaged.2,
        htraced.of_eq (Shared.books_changePhase _ _ _) rfl⟩
    · exact hgo hnext (hstaged.keep htransition)

end State

end Run

end LoadHarness
