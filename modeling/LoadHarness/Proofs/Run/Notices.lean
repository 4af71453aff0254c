import LoadHarness.Proofs.Run.Hooks
import LoadHarness.Proofs.Run.Stages
import LoadHarness.Run.Execute

/-! What a user is told, and what it makes of it.

A user looks at the signal at the top of its cycle, and its hooks may ask whether
the run is stopping, what time it is, and what a host answers.  These are its
notices.  A hook that asks neither for the phase nor for the counts of the run
learns nothing else of what goes on around it, so that the notices and the hooks of
a user settle all that it does (`User.Leads.unique`), and in a run a user does what
it makes of its notices (`State.heeds_after`). -/

namespace LoadHarness

/-- Whether an action asks nothing that other users have a part in. -/
def Action.Discreet : Action → Prop
  | .phase | .counts => False
  | .log .. | .check .. | .connect _ | .disconnect _ | .stop | .stopping | .awaitStop | .now
  | .sleep _ | .report _ | .ask _ => True

/-- Work of nothing but discreet actions. -/
def Work.Discreet {α : Type} : Work α → Prop
  | .done _ => True
  | .act action next => action.Discreet ∧ ∀ answer, (next answer).Discreet

/-- What a user is told. -/
inductive Notice where
  | signal (raised : Bool)
  | time (now : Duration)
  | reply (request : Net.Request) (reply : Net.Reply request)

/-- Two notices say the same, as far as they are on one thing. -/
def Notice.Alike : Notice → Notice → Prop
  | .signal raised, .signal raised' => raised' = raised
  | .time now, .time now' => now' = now
  | .reply request answer, .reply request' answer' => request' = request → HEq answer' answer
  | _, _ => True

/-- Notices are alike one by one, as long as there are any on both sides. -/
def ToldAlike : List Notice → List Notice → Prop
  | notice :: rest, notice' :: rest' => notice.Alike notice' ∧ ToldAlike rest rest'
  | _, _ => True

/-- What an action is told. -/
def Action.notice? (action : Action) (stopping : Bool) (outside : Run.Outside) : Option Notice :=
  match action with
  | .stopping => some (.signal stopping)
  | .now => some (.time outside.now)
  | .ask request => some (.reply request (outside.reply request))
  | .log .. | .check .. | .connect _ | .disconnect _ | .stop | .awaitStop | .phase | .counts
  | .sleep _ | .report _ => none

/-- The hooks of user `id` are discreet, whatever they are called with. -/
def Scenario.DiscreetFor {G V : Type} (scenario : Scenario G V) (options : Options) (id : Nat) :
    Prop :=
  ∀ (hook : Run.UserHook) body, hook.ofScenario scenario = some body →
    ∀ iteration global value,
      ((body ⟨id, iteration, options, global⟩).run.run value).Discreet

/-- Two scenarios whose runs begin in the same way, and in which user `id` has the same hooks and
the same value to begin with. -/
structure Scenario.SameFor {G V : Type} (scenario other : Scenario G V) (id : Nat) : Prop where
  global : other.global = scenario.global
  setup : other.setup = scenario.setup
  fresh : other.fresh = scenario.fresh
  hooks : ∀ hook : Run.UserHook, Option.Rel
    (fun body body' => ∀ context : UserContext G, context.id = id → body' context = body context)
    (hook.ofScenario scenario) (hook.ofScenario other)

namespace Run

/-- A discreet action comes to the same wherever it is told the same. -/
theorem perform_congr {shared other after after' : Shared} {desk next next' : Desk}
    {outside elsewhere : Outside} {action : Action} {answer answer' : Answer action}
    (hdiscreet : action.Discreet)
    (hnotice : action.notice? other.stopping elsewhere = action.notice? shared.stopping outside)
    (h : shared.perform desk outside action = some (after, next, answer))
    (h' : other.perform desk elsewhere action = some (after', next', answer')) :
    next' = next ∧ answer' = answer := by
  cases action with
  | phase | counts => exact hdiscreet.elim
  | awaitStop =>
    simp only [Shared.perform] at h h'
    split at h <;> cases h
    split at h' <;> cases h'
    exact ⟨rfl, rfl⟩
  | stopping =>
    cases h
    cases h'
    simp only [Action.notice?, Option.some.injEq, Notice.signal.injEq] at hnotice
    exact ⟨rfl, hnotice⟩
  | now =>
    cases h
    cases h'
    simp only [Action.notice?, Option.some.injEq, Notice.time.injEq] at hnotice
    exact ⟨rfl, hnotice⟩
  | ask request =>
    cases h
    cases h'
    simp only [Action.notice?, Option.some.injEq, Notice.reply.injEq, true_and] at hnotice
    exact ⟨rfl, eq_of_heq hnotice⟩
  | log | check | connect | disconnect | stop | sleep | report =>
    cases h
    cases h'
    exact ⟨rfl, rfl⟩

/-- An action that has to wait is told nothing. -/
theorem notice?_of_perform_eq_none {shared : Shared} {desk : Desk} {outside : Outside}
    {action : Action} (h : shared.perform desk outside action = none) :
    action.notice? shared.stopping outside = none := by
  cases action with
  | awaitStop => rfl
  | log | check | connect | disconnect | stop | stopping | phase | counts | now | sleep | report
  | ask => cases h

namespace User

variable {G V : Type} {setting other : Setting G V} {user : User V} {shared elsewhere : Shared}
  {outside outside' : Outside} {stepped stepped' : Stepped V}

/-- What a user is told when it takes its next step. -/
def notice? (user : User V) (stopping : Bool) (outside : Outside) : Option Notice :=
  match user.point with
  | .testSignal => some (.signal stopping)
  | _ => user.action?.bind (·.notice? stopping outside)

/-- A user that takes no step is told nothing. -/
theorem notice?_eq_none (h : user.step setting shared outside = none) :
    user.notice? shared.stopping outside = none := by
  have hhook : ∀ {work : Begun V} {again : Begun V → Point V} {finish},
      user.stepHook shared outside work again finish = none →
      ∃ action next, work = .act action next ∧ action.notice? shared.stopping outside = none := by
    intro work again finish hnone
    cases work with
    | done last => cases hnone
    | act action next =>
      rw [stepHook] at hnone
      split at hnone
      · rename_i hperform
        exact ⟨action, next, rfl, notice?_of_perform_eq_none hperform⟩
      · cases hnone
  cases hpoint : user.point with
  | setup work | behaviour work | teardown work =>
    simp only [step, hpoint] at h
    obtain ⟨action, next, rfl, hnotice⟩ := hhook h
    simp only [notice?, action?, hpoint, Option.bind_some, hnotice]
  | testSignal =>
    simp only [step, hpoint] at h
    split at h <;> cases h
  | testCap | settle | advance | pace | leave | ended | panicked =>
    simp only [notice?, action?, hpoint, Option.bind_none]

/-- Whether all that is left of the hook that a user is in is discreet. -/
def Discreet (user : User V) : Prop :=
  ∀ (hook : UserHook) (work : Begun V), user.point = hook.point work → work.Discreet

theorem keeps_discreet {id : Nat} (h : setting.scenario.DiscreetFor setting.options id) :
    setting.Keeps id (fun _ => True) fun _ _ work => work.Discreet where
  fresh := trivial
  begins := fun hook body hbody iteration value _ =>
    h hook body hbody iteration setting.global value
  acts := fun _ _ _ _ _ _ _ _ answer _ _ _ hwork => hwork.2 answer
  ends := fun _ _ _ _ _ => trivial

theorem discreet_start {id : Nat} (h : setting.scenario.DiscreetFor setting.options id) :
    (start setting id).Discreet :=
  (Working.start (keeps_discreet h)).work

theorem Discreet.step (h : user.Discreet)
    (hhooks : setting.scenario.DiscreetFor setting.options user.id)
    (hstep : user.Step setting shared stepped) : stepped.user.Discreet := by
  refine (Working.step ?_ (keeps_discreet hhooks) hstep).work
  exact ⟨trivial, h⟩

end User

/-! ## The same user under two settings -/

/-- Two settings under which user `id` has the same hooks, options and run value. -/
structure Setting.SameFor {G V : Type} (setting other : Setting G V) (id : Nat) : Prop where
  scenario : setting.scenario.SameFor other.scenario id
  options : other.options = setting.options
  global : other.global = setting.global

theorem Setting.SameFor.beginAlike {G V : Type} {setting other : Setting G V} {id : Nat}
    (h : setting.SameFor other id) : setting.BeginAlike other (· = id) where
  fresh := h.scenario.fresh
  hooks := by
    intro hook
    have hhook := h.scenario.hooks hook
    generalize hook.ofScenario setting.scenario = installed at hhook ⊢
    generalize hook.ofScenario other.scenario = installed' at hhook ⊢
    cases hhook with
    | none => exact .none
    | some hsame =>
      refine .some fun user hid => ?_
      have hcontext : user.context other = user.context setting := by
        rw [User.context, User.context, h.options, h.global]
      rw [User.begin, User.begin, hcontext, hsame (user.context setting) hid]

namespace User

variable {G V : Type} {setting other : Setting G V} {user : User V} {shared elsewhere : Shared}
  {outside outside' : Outside} {stepped stepped' : Stepped V}

/-- An action of a user that is told the same comes to the same. -/
theorem acts_congr {action : Action} {next : Answer action → Begun V} {again : Begun V → Point V}
    {finish finish' : User V → Except Fault Unit → Stepped V} (hdiscreet : action.Discreet)
    (hnotice : action.notice? elsewhere.stopping outside' =
      action.notice? shared.stopping outside)
    (h : user.stepHook shared outside (.act action next) again finish = some stepped)
    (h' : user.stepHook elsewhere outside' (.act action next) again finish' = some stepped') :
    stepped'.user = stepped.user ∧ stepped'.entries = stepped.entries := by
  rw [stepHook] at h h'
  split at h <;> cases h
  split at h' <;> cases h'
  rename_i hperform _ _ _ _ hperform'
  obtain ⟨hdesk, hanswer⟩ := perform_congr hdiscreet hnotice hperform hperform'
  rw [hdesk, hanswer]
  exact ⟨rfl, rfl⟩

/-- At the test of its cap a user is told nothing: what it goes on with is settled by the options and
by its hooks. -/
theorem testCap_congr {id : Nat} (hsame : setting.SameFor other id) (hid : user.id = id)
    (hpoint : user.point = .testCap) (h : user.step setting shared outside = some stepped)
    (h' : user.step other elsewhere outside' = some stepped') :
    stepped'.user = stepped.user ∧ stepped'.entries = stepped.entries := by
  have hteardown := hsame.beginAlike.toTeardown hid
  have hbehaviour := hsame.beginAlike.hook_cases .behaviour
  simp only [UserHook.ofScenario] at hbehaviour
  simp only [step, hpoint, hsame.options] at h h'
  cases hcap : setting.options.iterations.any (· ≤ user.iteration) with
  | true =>
    simp only [hcap, if_true, Option.some.injEq] at h h'
    subst h h'
    exact ⟨hteardown, rfl⟩
  | false =>
    rcases hbehaviour with ⟨hnone, hnone'⟩ | ⟨body, body', hhook, hhook', hbegin⟩
    · simp only [hcap, hnone, hnone', Bool.false_eq_true, if_false, Option.some.injEq] at h h'
      subst h h'
      exact ⟨hteardown, rfl⟩
    · simp only [hcap, hhook, hhook', Bool.false_eq_true, if_false, Option.some.injEq] at h h'
      subst h h'
      rw [hbegin user hid]
      exact ⟨rfl, rfl⟩

/-- A user that is told the same comes to the same point and leaves the same notes. -/
theorem step_congr {id : Nat} (hsame : setting.SameFor other id) (hid : user.id = id)
    (hdiscreet : user.Discreet)
    (hnotice : user.notice? elsewhere.stopping outside' = user.notice? shared.stopping outside)
    (h : user.step setting shared outside = some stepped)
    (h' : user.step other elsewhere outside' = some stepped') :
    stepped'.user = stepped.user ∧ stepped'.entries = stepped.entries := by
  have hteardown : ∀ later : User V, later.id = user.id →
      later.toTeardown other = later.toTeardown setting :=
    fun _ hlater => hsame.beginAlike.toTeardown (hlater.trans hid)
  cases step_cases h with
  | acts hook hpoint =>
    have haction := (hdiscreet hook _ hpoint).1
    cases hook <;>
      (simp only [UserHook.point] at hpoint
       simp only [notice?, action?, hpoint, Option.bind_some] at hnotice
       simp only [step, hpoint] at h h'
       exact acts_congr haction hnotice h h')
  | setUp hpoint =>
    simp only [step, hpoint, stepHook, Option.some.injEq] at h'
    subst h'
    exact ⟨hsame.beginAlike.toCycle hid, rfl⟩
  | setupFailed hpoint =>
    simp only [step, hpoint, stepHook, Option.some.injEq] at h'
    subst h'
    exact ⟨hteardown _ rfl, rfl⟩
  | returned hpoint =>
    rename_i outcome value
    simp only [step, hpoint, stepHook, Option.some.injEq] at h'
    subst h'
    cases outcome <;> exact ⟨rfl, rfl⟩
  | tornDown hpoint | teardownFailed hpoint =>
    simp only [step, hpoint, stepHook, Option.some.injEq] at h'
    subst h'
    exact ⟨rfl, rfl⟩
  | brokeOff hook hpoint =>
    cases hook <;>
      (simp only [UserHook.point] at hpoint
       simp only [step, hpoint, stepHook, Option.some.injEq] at h'
       subst h'
       exact ⟨rfl, rfl⟩)
  | sawSignal hpoint hsignal =>
    simp only [notice?, hpoint, Option.some.injEq, Notice.signal.injEq] at hnotice
    rw [hsignal] at hnotice
    simp only [step, hpoint, hnotice, if_true, Option.some.injEq] at h'
    subst h'
    exact ⟨hteardown _ rfl, rfl⟩
  | sawNoSignal hpoint hsignal =>
    simp only [notice?, hpoint, Option.some.injEq, Notice.signal.injEq] at hnotice
    rw [hsignal] at hnotice
    simp only [step, hpoint, hnotice, Bool.false_eq_true, if_false, Option.some.injEq] at h'
    subst h'
    exact ⟨rfl, rfl⟩
  | capped hpoint | calls hpoint | lacksBehaviour hpoint =>
    exact testCap_congr hsame hid hpoint h h'
  | settled hpoint =>
    simp only [step, hpoint, Option.some.injEq] at h'
    subst h'
    simp only [settle_user, hteardown { user with healthy := false } rfl, and_self]
  | advanced hpoint =>
    simp only [step, hpoint, hsame.options, Option.some.injEq] at h'
    subst h'
    exact ⟨rfl, rfl⟩
  | paced hpoint | left hpoint =>
    simp only [step, hpoint, Option.some.injEq] at h'
    subst h'
    exact ⟨rfl, rfl⟩

/-- What a user makes of what it is told, step by step: where it comes to, and what it notes. -/
inductive Leads (setting : Setting G V) : User V → List Notice → List Entry → User V → Prop where
  | refl (user : User V) : Leads setting user [] [] user
  | step {user last : User V} {shared : Shared} {outside : Outside} {stepped : Stepped V}
      {heard : List Notice} {entries : List Entry}
      (hstep : user.step setting shared outside = some stepped)
      (hrest : Leads setting stepped.user heard entries last) :
      Leads setting user ((user.notice? shared.stopping outside).toList ++ heard)
        (stepped.entries ++ entries) last

theorem Leads.snoc {last : User V} {heard : List Notice} {entries : List Entry}
    (h : Leads setting user heard entries last)
    (hstep : last.step setting shared outside = some stepped) :
    Leads setting user (heard ++ (last.notice? shared.stopping outside).toList)
      (entries ++ stepped.entries) stepped.user := by
  induction h with
  | refl user =>
    have hone := Leads.step hstep (.refl stepped.user)
    rw [List.append_nil, List.append_nil] at hone
    exact hone
  | step hfirst _ ih =>
    rw [List.append_assoc, List.append_assoc]
    exact .step hfirst (ih hstep)

/-- What a user is told next is settled by the user, but for the answer. -/
theorem notice?_cases (user : User V) (stopping raised : Bool) (outside elsewhere : Outside) :
    user.notice? stopping outside = none ∧ user.notice? raised elsewhere = none ∨
      ∃ notice notice', user.notice? stopping outside = some notice ∧
        user.notice? raised elsewhere = some notice' ∧
          (notice.Alike notice' → notice' = notice) := by
  have haction : ∀ action : Action,
      action.notice? stopping outside = none ∧ action.notice? raised elsewhere = none ∨
        ∃ notice notice', action.notice? stopping outside = some notice ∧
          action.notice? raised elsewhere = some notice' ∧
            (notice.Alike notice' → notice' = notice) := by
    intro action
    cases action with
    | stopping | now => exact .inr ⟨_, _, rfl, rfl, fun halike => congrArg _ halike⟩
    | ask request =>
      exact .inr ⟨_, _, rfl, rfl, fun halike => congrArg _ (eq_of_heq (halike rfl))⟩
    | log | check | connect | disconnect | stop | awaitStop | phase | counts | sleep | report =>
      exact .inl ⟨rfl, rfl⟩
  unfold notice?
  split
  · exact .inr ⟨_, _, rfl, rfl, fun halike => congrArg _ halike⟩
  · cases user.action? with
    | none => exact .inl ⟨rfl, rfl⟩
    | some action => exact haction action

/-- A user that is told alike until its life is over has lived the same life. -/
theorem Leads.unique {id : Nat} (hsame : setting.SameFor other id)
    (hhooks : setting.scenario.DiscreetFor setting.options id) {heard heard' : List Notice}
    {entries entries' : List Entry} {last last' : User V}
    (h : Leads setting user heard entries last) (h' : Leads other user heard' entries' last')
    (halike : ToldAlike heard heard') (hid : user.id = id) (hdiscreet : user.Discreet)
    (hover : last.isOver = true) (hover' : last'.isOver = true) :
    last' = last ∧ entries' = entries := by
  induction h generalizing heard' entries' with
  | refl user =>
    cases h' with
    | refl => exact ⟨rfl, rfl⟩
    | step hstep' =>
      rw [(step_cases hstep').not_isOver] at hover
      cases hover
  | step hstep hrest ih =>
    rename_i user last shared outside stepped heard entries
    cases h' with
    | refl =>
      rw [(step_cases hstep).not_isOver] at hover'
      cases hover'
    | step hstep' hrest' =>
      rename_i shared' outside' stepped' heard' entries'
      -- what is asked is settled by where the user is, so being told alike is being told the same
      obtain ⟨hnotice, hlater⟩ : user.notice? shared'.stopping outside' =
          user.notice? shared.stopping outside ∧ ToldAlike heard heard' := by
        rcases user.notice?_cases shared.stopping shared'.stopping outside outside' with
          ⟨hnone, hnone'⟩ | ⟨notice, notice', hsome, hsome', heq⟩
        · rw [hnone, hnone'] at halike ⊢
          exact ⟨rfl, halike⟩
        · rw [hsome, hsome'] at halike ⊢
          exact ⟨congrArg _ (heq halike.1), halike.2⟩
      obtain ⟨huser, hentries⟩ := step_congr hsame hid hdiscreet hnotice hstep hstep'
      subst hid
      rw [huser] at hrest'
      obtain ⟨hlast, hrest⟩ := ih hrest' hlater (step_cases hstep).id
        (hdiscreet.step hhooks (step_cases hstep)) hover
      rw [hlast, hentries, hrest]
      exact ⟨rfl, rfl⟩

end User

/-! ## What a user hears in a run -/

namespace State

variable {G V : Type} {state next : State G V} {move : Move}

/-- What user `id` is told by a move. -/
def hears (state : State G V) (id : Nat) : Move → List Notice
  | .user mover outside =>
    if mover = id then
      ((state.users[id]?).bind (·.notice? state.shared.stopping outside)).toList
    else []
  | .control _ | .deadline | .interrupt | .drain | .backgroundOpen | .backgroundClose _ => []

/-- What user `id` is told by moves, one after the other. -/
def heardBy (state : State G V) (id : Nat) : List Move → List Notice
  | [] => []
  | move :: moves => state.hears id move ++ (state.step move).heardBy id moves

theorem heardBy_concat (state : State G V) (id : Nat) (moves : List Move) (move : Move) :
    state.heardBy id (moves ++ [move]) =
      state.heardBy id moves ++ (state.after moves).hears id move := by
  induction moves generalizing state with
  | nil => exact List.append_nil _
  | cons first moves ih =>
    rw [List.cons_append, heardBy, ih, heardBy, List.append_assoc, after_cons]

/-- A move of a user is a step of it; where it takes none, it is told nothing. -/
theorem step_user_cases (hstaged : state.Staged) {id : Nat} {user : User V}
    (huser : state.users[id]? = some user) (outside : Outside) :
    (∃ stepped, user.step state.setting state.shared outside = some stepped ∧
      state.step (.user id outside) = state.put id stepped) ∨
    user.notice? state.shared.stopping outside = none ∧
      state.step (.user id outside) = state := by
  rw [step]
  cases hstep : user.step state.setting state.shared outside with
  | none =>
    refine .inr ⟨User.notice?_eq_none hstep, ?_⟩
    split
    · rfl
    · simp only [move?, stepUser, huser, Option.bind_eq_bind, Option.bind_some, hstep,
        Option.bind_none, Option.getD_none]
  | some stepped =>
    refine .inl ⟨stepped, rfl, ?_⟩
    split
    · rename_i hconcluded
      have hover := hstaged.isOver_of_concluded (Option.isSome_iff_exists.mpr ⟨_, hconcluded⟩)
        (List.mem_of_getElem? huser)
      rw [(User.step_cases hstep).not_isOver] at hover
      cases hover
    · simp only [move?, stepUser, huser, Option.bind_eq_bind, Option.bind_some, hstep]
      rfl

/-- A move that is not its own leaves a user and its notes as they are, or launches it. -/
theorem Transition.apart (h : state.Transition move next) (hplaced : state.Placed) {id : Nat}
    (hmove : ∀ outside, move ≠ .user id outside) :
    next.notes id = state.notes id ∧ (next.users[id]? = state.users[id]? ∨
      state.stage = .launch ∧ state.users[id]? = none ∧
        next.users[id]? = some (User.start state.setting id)) := by
  rcases h.users_cases with ⟨mover, outside, user, stepped, rfl, huser, hstep, rfl⟩ |
    ⟨hstage, -, rfl, -⟩ | ⟨haside, -⟩
  · have hne : mover ≠ id := by
      rintro rfl
      exact hmove outside rfl
    rw [notes_put hstep, hplaced mover user huser, if_neg hne, List.append_nil, users_put,
      List.getElem?_set_ne hne]
    exact ⟨rfl, .inl rfl⟩
  · refine ⟨rfl, ?_⟩
    rcases Nat.lt_trichotomy id state.users.length with hlt | rfl | hgt
    · exact .inl (List.getElem?_append_left hlt)
    · refine .inr ⟨hstage, List.getElem?_eq_none_iff.mpr (Nat.le_refl _), ?_⟩
      exact List.getElem?_concat_length
    · left
      rw [List.getElem?_eq_none_iff.mpr (Nat.le_of_lt hgt), List.getElem?_eq_none_iff,
        List.length_append, List.length_singleton]
      exact hgt
  · rw [haside.notes, haside.users]
    exact ⟨rfl, .inl rfl⟩

theorem hears_eq_nil (state : State G V) {id : Nat} (hmove : ∀ outside, move ≠ .user id outside) :
    state.hears id move = [] := by
  cases move with
  | user mover outside =>
    rw [hears, if_neg]
    rintro rfl
    exact hmove outside rfl
  | control | deadline | interrupt | drain | backgroundOpen | backgroundClose => rfl

/-- What a user has come to and what it has noted is what it makes of what it was told. -/
structure Heeds (setting : Setting G V) (id : Nat) (heard : List Notice) (state : State G V) :
    Prop where
  absent : state.users[id]? = none → heard = [] ∧ state.notes id = []
  present : ∀ user, state.users[id]? = some user →
    User.Leads setting (User.start setting id) heard (state.notes id) user

variable {setting : Setting G V} {id : Nat} {heard : List Notice}

/-- A move of the user itself is a step of it, or nothing. -/
theorem Heeds.own (h : state.Heeds setting id heard) (hplaced : state.Placed)
    (hstaged : state.Staged)
    (hsetting : state.stage = .launch ∨ state.stage = .announce ∨ state.stage = .join →
      state.setting = setting) (outside : Outside) :
    (state.step (.user id outside)).Heeds setting id
      (heard ++ state.hears id (.user id outside)) := by
  cases huser : state.users[id]? with
  | none =>
    have hstep : state.step (.user id outside) = state := by
      rw [step]
      split
      · rfl
      · simp only [move?, stepUser, huser, Option.bind_eq_bind, Option.bind_none, Option.getD_none]
    rw [hstep, hears, if_pos rfl, huser, Option.bind_none, Option.toList_none, List.append_nil]
    exact h
  | some user =>
    rw [hears, if_pos rfl, huser, Option.bind_some]
    rcases step_user_cases hstaged huser outside with ⟨stepped, hstep, heq⟩ | ⟨hnone, heq⟩
    · have hone := User.step_cases hstep
      have hself : (state.put id stepped).users[id]? = some stepped.user :=
        List.getElem?_set_self (List.getElem?_eq_some_iff.mp huser).1
      rw [heq]
      constructor
      case absent =>
        intro hnone
        rw [hself] at hnone
        cases hnone
      case present =>
        intro later hlater
        rw [hself, Option.some.injEq] at hlater
        subst hlater
        rw [hsetting (stage_of_step hstaged huser hone)] at hstep
        rw [notes_put hone, hplaced id user huser, if_pos rfl]
        exact (h.present user huser).snoc hstep
    · rw [heq, hnone, Option.toList_none, List.append_nil]
      exact h

/-- A move of anyone else tells the user nothing. -/
theorem Heeds.other (h : state.Heeds setting id heard) (hplaced : state.Placed)
    (hsetting : state.stage = .launch ∨ state.stage = .announce ∨ state.stage = .join →
      state.setting = setting) (hmove : ∀ outside, move ≠ .user id outside) :
    (state.step move).Heeds setting id (heard ++ state.hears id move) := by
  rw [hears_eq_nil state hmove, List.append_nil]
  rcases step_cases state move with heq | ⟨-, htransition⟩
  · rw [heq]
    exact h
  · obtain ⟨hnotes, husers | ⟨hstage, hnone, hstart⟩⟩ := htransition.apart hplaced hmove
    · constructor
      case absent =>
        rw [husers, hnotes]
        exact h.absent
      case present =>
        rw [husers, hnotes]
        exact h.present
    · obtain ⟨hheard, hquiet⟩ := h.absent hnone
      constructor
      case absent =>
        rw [hstart]
        exact fun hnone => by cases hnone
      case present =>
        intro user huser
        rw [hstart, hsetting (.inl hstage), Option.some.injEq] at huser
        rw [hnotes, hquiet, hheard, ← huser]
        exact .refl _

/-- In a run that has the value `g` as long as there are users that go on, a user does what it makes
of what it is told. -/
theorem heeds_after (scenario : Scenario G V) (options : Options) (startedAt : Int) {g : G}
    (id : Nat) (moves : List Move)
    (hglobal : ∀ front, front <+: moves →
      let state := (State.start scenario options startedAt).after front
      state.stage = .launch ∨ state.stage = .announce ∨ state.stage = .join → state.global = g) :
    ((State.start scenario options startedAt).after moves).Heeds ⟨scenario, options, g⟩ id
      ((State.start scenario options startedAt).heardBy id moves) := by
  induction moves using List.reverseRecOn with
  | nil => exact ⟨fun _ => ⟨rfl, rfl⟩, fun _ h => by cases h⟩
  | append_singleton moves move ih =>
    obtain ⟨hscenario, hoptions, -⟩ := fixed_after (State.start scenario options startedAt) moves
    have hplaced := placed_after scenario options startedAt moves
    have hstaged := staged_after scenario options startedAt moves
    have hearlier := ih fun front hfront => hglobal front (hfront.trans (List.prefix_append _ _))
    have hvalue := hglobal moves (List.prefix_append _ _)
    rw [heardBy_concat, after_append, after_cons, after_nil]
    generalize (State.start scenario options startedAt).after moves = state at *
    have hsetting : state.stage = .launch ∨ state.stage = .announce ∨ state.stage = .join →
        state.setting = ⟨scenario, options, g⟩ := by
      intro hstage
      rw [setting, hscenario, hoptions, hvalue hstage]
      rfl
    by_cases hmine : ∃ outside, move = .user id outside
    · obtain ⟨outside, rfl⟩ := hmine
      exact hearlier.own hplaced hstaged hsetting outside
    · rw [not_exists] at hmine
      exact hearlier.other hplaced hsetting hmine

end State

end Run

end LoadHarness
