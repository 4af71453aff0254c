import LoadHarness.Proofs.Run.Lockstep
import LoadHarness.Proofs.Run.Progress

/-! Runs do not depend on who moves when.

Between the setup and the teardown two runs are interleavings of the same solo
runs, so they are ready for their teardown alike (`State.Ready.alike`); before and
after that they are in step.  So they come to summaries that agree and to logs that
are equal once sorted (`summary_independent`), and pauses between iterations
make no difference but to the setting that says how long they are, unless hooks look
at that setting (`Scenario.SameUnder`): then the run may come to other checks. -/

namespace LoadHarness

/-- The hooks of a scenario do the same under both options. -/
structure Scenario.SameUnder {G V : Type} (scenario : Scenario G V) (options other : Options) :
    Prop where
  setup : ∀ hook, scenario.setup = some hook → hook ⟨other⟩ = hook ⟨options⟩
  users : ∀ (hook : Run.UserHook) body, hook.ofScenario scenario = some body →
    ∀ id iteration global,
      body ⟨id, iteration, other, global⟩ = body ⟨id, iteration, options, global⟩
  teardown : ∀ hook, scenario.teardown = some hook → hook ⟨other⟩ = hook ⟨options⟩

theorem Scenario.SameUnder.refl {G V : Type} (scenario : Scenario G V) (options : Options) :
    scenario.SameUnder options options :=
  ⟨fun _ _ => rfl, fun _ _ _ _ _ _ => rfl, fun _ _ => rfl⟩

namespace Run

variable {G V : Type}

theorem Setting.Agrees.of_sameUnder {setting other : Setting G V}
    (hscenario : other.scenario = setting.scenario)
    (hoptions : other.options = { setting.options with pacing := other.options.pacing })
    (hglobal : other.global = setting.global)
    (hsame : setting.scenario.SameUnder setting.options other.options) : setting.Agrees other := by
  refine ⟨hscenario, hoptions, ?_⟩
  intro hook body hbody user
  unfold User.begin User.context
  rw [hglobal, hsame.users hook body hbody]

namespace State

variable {state next : State G V}

theorem length_collectors_after (state : State G V) (moves : List Move) :
    (state.after moves).shared.reporter.collectors.length =
      state.shared.reporter.collectors.length :=
  after_induction moves (P := fun other => other.shared.reporter.collectors.length =
    state.shared.reporter.collectors.length) rfl
    fun _ _ _ h _ htransition => htransition.collectors.trans h

/-! ## Between the setup and the teardown -/

variable {own : Nat → V → Prop} {setting : Setting G V} {first first' : Books} {connects : Nat}
  {trace trace' : List (Nat × Deed)} {other : State G V}

/-- A run that is about to start its users has none, and the books as its setup has left them. -/
theorem Middle.of_start (hstaged : state.Staged) (hstage : state.stage = .start)
    (hagrees : setting.Agrees state.setting) (hglobal : state.global = setting.global) :
    Middle setting state.shared.books state.connects state := by
  have hnil : state.users = [] := by
    simp only [Staged, hstage] at hstaged
    exact hstaged
  constructor
  case stage => rw [hstage]; rfl
  case agrees => exact hagrees
  case global => exact hglobal
  case connects => rfl
  case raised =>
    intro hfinish
    rw [hstage] at hfinish
    cases hfinish
  case traced =>
    refine ⟨[], rfl, ?_, fun _ _ => rfl⟩
    intro id user huser
    rw [hnil] at huser
    cases huser

/-- A user whose life is over has nothing left to do by itself. -/
theorem rested_of_isOver {user : User V} (h : user.isOver = true) : user.rested = user := by
  apply rested_of_ne_pace
  intro hpace
  rw [User.isOver, hpace] at h
  cases h

/-- Two interleavings of solo runs in which all users are over leave the same users behind, and of
each user the same deeds. -/
theorem Ready.same_users (h : Ready setting first connects trace state)
    (h' : Ready setting first' connects trace' other)
    (hlength : other.users.length = state.users.length) :
    other.users = state.users ∧
      ∀ id, trace.filter (·.1 == id) = trace'.filter (·.1 == id) := by
  have hboth : ∀ id, other.users[id]? = state.users[id]? ∧
      trace.filter (·.1 == id) = trace'.filter (·.1 == id) := by
    intro id
    cases huser : state.users[id]? with
    | none =>
      have hnone : other.users[id]? = none := by
        rw [List.getElem?_eq_none_iff] at huser ⊢
        omega
      refine ⟨hnone, ?_⟩
      rw [h.traced.absent id huser, h'.traced.absent id hnone]
    | some user =>
      have hlt := (List.getElem?_eq_some_iff.mp huser).1
      obtain ⟨user', huser'⟩ : ∃ user', other.users[id]? = some user' :=
        ⟨_, List.getElem?_eq_getElem (by omega)⟩
      have hover := (allOver_iff state).mp h.allOver user (List.mem_of_getElem? huser)
      have hover' := (allOver_iff other).mp h'.allOver user' (List.mem_of_getElem? huser')
      obtain ⟨n, horbit, hbefore, hdeeds⟩ := h.traced.user id user huser
      obtain ⟨m, horbit', hbefore', hdeeds'⟩ := h'.traced.user id user' huser'
      rw [rested_of_isOver hover] at horbit
      rw [rested_of_isOver hover'] at horbit'
      rw [horbit] at hover
      rw [horbit'] at hover'
      -- the solo run ends once, so both have come equally far on it
      obtain rfl := orbit_unique hover hover' hbefore hbefore'
      rw [huser', horbit, horbit', hdeeds, hdeeds']
      exact ⟨rfl, rfl⟩
  exact ⟨List.ext_getElem? fun id => (hboth id).1, fun id => (hboth id).2⟩

/-- So runs that started their users alike are ready for their teardown alike. -/
theorem Ready.alike (hlocal : Local setting.scenario setting.options own)
    (h : Ready setting first connects trace state) (h' : Ready setting first' connects trace' other)
    (hfirst : first.Same first')
    (hcollectors : other.shared.reporter.collectors.length =
      state.shared.reporter.collectors.length) : state.Alike other := by
  have hoptions : state.options = { setting.options with pacing := state.options.pacing } :=
    h.agrees.options
  have hoptions' : other.options = { setting.options with pacing := other.options.pacing } :=
    h'.agrees.options
  have hlength : other.users.length = state.users.length := by
    rw [h.full, h'.full, hoptions, hoptions']
  obtain ⟨husers, hfilter⟩ := h.same_users h' hlength
  constructor
  case scenario => exact h'.agrees.scenario.trans h.agrees.scenario.symm
  case options => rw [hoptions', hoptions]
  case stage =>
    rw [h.stage, h'.stage]
    exact .refl _
  case global => rw [h.global, h'.global]
  case connects => rw [h.connects, h'.connects]
  case users => exact husers
  case shared =>
    refine ⟨?_, h'.raised.trans h.raised.symm, h'.phase.trans h.phase.symm, hcollectors⟩
    rw [h.traced.books, h'.traced.books]
    exact Books.same_play (h.traced.ownedBy hlocal) (h'.traced.ownedBy hlocal) hfilter hfirst

/-- A run that has raised its signal and is not disturbed has all its users. -/
theorem length_users_of_quiet (hquiet : state.quiet = true)
    (hsignal : state.shared.stopping = true) :
    state.users.length = state.options.virtualUsers := by
  rw [quiet, hsignal, Bool.not_true, Bool.false_or, Bool.and_eq_true] at hquiet
  exact beq_iff_eq.mp hquiet.1

theorem isMiddle_toTeardown (state : State G V) : state.toTeardown.stage.isMiddle = false := by
  unfold toTeardown
  split
  · rfl
  · unfold concludeTeardown
    split <;> rfl

theorem options_toTeardown (state : State G V) : state.toTeardown.options = state.options := by
  obtain ⟨stage, h⟩ := toTeardown_eq state
  rw [h]

theorem Ready.calm (h : Ready setting first connects trace state) : state.toTeardown.Calm := by
  refine .inr ⟨?_, ?_, ?_⟩
  · rw [State.allOver, (frame_toTeardown state).1]
    exact h.allOver
  · rw [shared_toTeardown]
    exact h.raised
  · rw [shared_toTeardown]
    exact h.phase

variable {moves moves' : List Move}

/-- Runs that are in step at their teardown come to conclusions that agree. -/
theorem InStep.alike_of_raised (h : InStep state other moves moves') (hstaged : state.Staged)
    (hpos : 0 < state.options.virtualUsers) (hmiddle : state.stage.isMiddle = false)
    (hsignal : state.shared.stopping = true) :
    (state.after moves).Alike (other.after moves') := by
  have hnot : ¬ state.stage.isMiddle = true := by
    rw [hmiddle]
    exact Bool.false_ne_true
  rcases h.lockstep fun h => absurd h hnot with
    ⟨front, back, front', back', rfl, rfl, hin, hstart⟩ | hend
  · -- no users are to be started once there are some
    have hfull := length_users_of_quiet (quiet_of_undisturbed hin.undisturbed)
      (stopping_after hsignal front)
    have hnil := hstaged.after front
    simp only [Staged, hstart] at hnil
    rw [hnil, (fixed_after state front).2.1, List.length_nil] at hfull
    omega
  · exact hend

/-- Runs that are in step when they start their users come to conclusions that agree. -/
theorem InStep.alike_of_start (h : InStep state other moves moves') (hstaged : state.Staged)
    (hstaged' : other.Staged) (hstage : state.stage = .start)
    (hlocal : Local state.scenario state.options own)
    (hsame : state.scenario.SameUnder state.options other.options)
    (hpos : 0 < state.options.virtualUsers) :
    (state.after moves).Alike (other.after moves') := by
  have hrunning : state.conclusion? = none := by rw [conclusion?, hstage]
  have hstage' := (h.alike.stage_eq hrunning).trans hstage
  have hagrees : state.setting.Agrees other.setting :=
    .of_sameUnder h.alike.scenario h.alike.options h.alike.global hsame
  obtain ⟨front, back, ready, trace, harrives⟩ :=
    exists_arrives hlocal (.of_start hstaged hstage (.refl state.setting) rfl) hstaged moves
      h.undisturbed h.concluded
  obtain ⟨front', back', ready', trace', harrives'⟩ :=
    exists_arrives hlocal (.of_start hstaged' hstage' hagrees h.alike.global) hstaged' moves'
      h.undisturbed' h.concluded'
  have hready := harrives.isReady
  have hready' := harrives'.isReady
  rw [h.alike.connects] at hready'
  have hoptions : ready.options = state.options := by
    rw [← options_toTeardown, ← harrives.after, (fixed_after state front).2.1]
  have hoptions' : ready'.options = other.options := by
    rw [← options_toTeardown, ← harrives'.after, (fixed_after other front').2.1]
  have hcollectors : ready'.shared.reporter.collectors.length =
      ready.shared.reporter.collectors.length := by
    rw [← shared_toTeardown ready, ← shared_toTeardown ready', ← harrives.after,
      ← harrives'.after, length_collectors_after, length_collectors_after,
      h.alike.shared.collectors]
  have halike := (hready.alike hlocal hready' h.alike.shared.books hcollectors).toTeardown (by
    intro hook hteardown
    rw [hoptions, hoptions']
    refine hsame.teardown hook ?_
    rw [← hteardown]
    exact congrArg Scenario.teardown hready.agrees.scenario.symm)
  have hlater := hstaged.after front
  have hconcluded := h.concluded
  have hconcluded' := h.concluded'
  rw [harrives.after] at hlater
  rw [harrives.split, after_append, harrives.after] at hconcluded ⊢
  rw [harrives'.split, after_append, harrives'.after] at hconcluded' ⊢
  have hin : InStep ready.toTeardown ready'.toTeardown back back' :=
    ⟨halike, hready.calm, hready'.calm, harrives.undisturbed, harrives'.undisturbed, hconcluded,
      hconcluded', harrives.heard.symm.trans (h.heard.trans harrives'.heard)⟩
  apply hin.alike_of_raised hlater
  · rw [options_toTeardown, hoptions]
    exact hpos
  · exact isMiddle_toTeardown ready
  · rw [shared_toTeardown]
    exact hready.raised

theorem alike_start {scenario : Scenario G V} {options : Options} {pacing : Option Duration}
    (hsame : scenario.SameUnder options { options with pacing := pacing })
    (startedAt startedAt' : Int) :
    (start scenario options startedAt).Alike
      (start scenario { options with pacing := pacing } startedAt') := by
  refine ⟨rfl, rfl, ?_, rfl, rfl, rfl, ⟨.refl _, rfl, rfl, rfl⟩⟩
  unfold start
  cases hsetup : scenario.setup with
  | none => exact .refl _
  | some hook =>
    simp only
    rw [hsame.setup hook hsetup]
    exact .refl _

theorem start_eq_of_isMiddle (scenario : Scenario G V) (options : Options) (startedAt : Int)
    (h : (start scenario options startedAt).stage.isMiddle = true) :
    (start scenario options startedAt).stage = .start := by
  unfold start at *
  cases hsetup : scenario.setup with
  | none => rfl
  | some hook =>
    simp only [hsetup] at h
    cases h

/-- Two runs of a scenario, whoever moves when and however long the pauses are, come to
conclusions that agree. -/
theorem alike_after {scenario : Scenario G V} {options : Options} {pacing : Option Duration}
    {startedAt startedAt' : Int} (hlocal : Local scenario options own)
    (hpos : 0 < options.virtualUsers)
    (hsame : scenario.SameUnder options { options with pacing := pacing })
    (h : InStep (start scenario options startedAt)
      (start scenario { options with pacing := pacing } startedAt') moves moves') :
    ((start scenario options startedAt).after moves).Alike
      ((start scenario { options with pacing := pacing } startedAt').after moves') := by
  rcases h.lockstep (start_eq_of_isMiddle scenario options startedAt) with
    ⟨front, back, front', back', rfl, rfl, hin, hstage⟩ | hend
  · have hfixed := fixed_after (start scenario options startedAt) front
    have hfixed' := fixed_after (start scenario { options with pacing := pacing } startedAt') front'
    have hlocal : Local ((start scenario options startedAt).after front).scenario
        ((start scenario options startedAt).after front).options own := by
      rw [hfixed.1, hfixed.2.1]
      exact hlocal
    rw [after_append, after_append]
    apply hin.alike_of_start (staged_after scenario options startedAt front)
      (staged_after scenario _ startedAt' front') hstage hlocal
    · rw [hfixed.1, hfixed.2.1, hfixed'.2.1]
      exact hsame
    · rw [hfixed.2.1]
      exact hpos
  · exact hend

theorem Alike.finished {summary : Summary} (h : state.Alike other)
    (hfinished : state.conclusion? = some (.finished summary)) :
    ∃ summary', other.conclusion? = some (.finished summary') ∧ summary.Agrees summary' := by
  have hstage := h.stage
  rw [conclusion?] at hfinished ⊢
  generalize state.stage = stage at hstage hfinished
  generalize other.stage = stage' at hstage
  cases hstage with
  | refl => exact ⟨summary, hfinished, .refl summary⟩
  | finished hagrees =>
    cases hfinished
    exact ⟨_, rfl, hagrees⟩

end State

theorem virtualUsers_pos_of_validate {options : Options} (h : options.validate = .ok ()) :
    0 < options.virtualUsers := by
  rw [Nat.pos_iff_ne_zero]
  intro hzero
  rw [Options.validate, if_pos hzero] at h
  cases h

/-- Whoever moves when: runs of one scenario whose users keep to what is their own, whose own hooks
are told the same from outside, and whose signal is not raised before all users have left their
cycles, come to summaries that agree and to logs of checks that are equal once they are sorted by
user.  This is so whether there are pauses between iterations and however long they are, if the
hooks make nothing of that. -/
theorem summary_independent {scenario : Scenario G V} {options : Options}
    {pacing : Option Duration} {startedAt startedAt' : Int} {own : Nat → V → Prop}
    {moves moves' : List Move} {summary : Summary} (hvalid : options.validate = .ok ())
    (hlocal : Local scenario options own)
    (hsame : pacing ≠ options.pacing →
      scenario.SameUnder options { options with pacing := pacing })
    (hundisturbed : (State.start scenario options startedAt).undisturbed moves = true)
    (hundisturbed' : (State.start scenario { options with pacing := pacing }
      startedAt').undisturbed moves' = true)
    (hheard : (State.start scenario options startedAt).heard moves =
      (State.start scenario { options with pacing := pacing } startedAt').heard moves')
    (hfinished : ((State.start scenario options startedAt).after moves).conclusion? =
      some (.finished summary))
    (hconcluded : ((State.start scenario { options with pacing := pacing }
      startedAt').after moves').conclusion?.isSome = true) :
    ∃ summary', ((State.start scenario { options with pacing := pacing }
        startedAt').after moves').conclusion? = some (.finished summary') ∧
      summary.Agrees summary' ∧
      (pacing = options.pacing → summary'.settings = summary.settings) ∧
      sortByUser ((State.start scenario options startedAt).after moves).shared.recorder.results =
        sortByUser ((State.start scenario { options with pacing := pacing }
          startedAt').after moves').shared.recorder.results := by
  have hsame : scenario.SameUnder options { options with pacing := pacing } := by
    by_cases heq : pacing = options.pacing
    · subst heq
      exact .refl scenario options
    · exact hsame heq
  have hpos := virtualUsers_pos_of_validate hvalid
  have hin : State.InStep (State.start scenario options startedAt)
      (State.start scenario { options with pacing := pacing } startedAt') moves moves' := by
    constructor
    case alike => exact State.alike_start hsame startedAt startedAt'
    case calm => exact .inl ⟨rfl, rfl, hpos⟩
    case calm' => exact .inl ⟨rfl, rfl, hpos⟩
    case undisturbed => exact hundisturbed
    case undisturbed' => exact hundisturbed'
    case concluded => rw [hfinished]; rfl
    case concluded' => exact hconcluded
    case heard => exact hheard
  have halike := State.alike_after hlocal hpos hsame hin
  obtain ⟨summary', hfinished', hagrees⟩ := halike.finished hfinished
  refine ⟨summary', hfinished', hagrees, ?_, sortByUser_congr halike.shared.books.results⟩
  rintro rfl
  obtain ⟨_, heq⟩ := State.summary_eq rfl hfinished
  obtain ⟨_, heq'⟩ := State.summary_eq rfl hfinished'
  rw [heq, heq']
  rfl

/-- Hooks that record a check, or do nothing, keep to what is their own. -/
theorem local_of_recording {scenario : Scenario G V} {options : Options}
    (h : ∀ (hook : UserHook) body, hook.ofScenario scenario = some body → ∀ context,
      body context = pure () ∨ ∃ name passed, body context = Hook.record name passed) :
    Local scenario options fun _ _ => True := by
  refine ⟨fun _ => trivial, fun hook body hbody id iteration global value _ => ?_⟩
  rcases h hook body hbody ⟨id, iteration, options, global⟩ with hnone | ⟨name, passed, hrecord⟩
  · rw [hnone]
    exact trivial
  · rw [hrecord]
    exact ⟨trivial, fun _ _ => trivial⟩

namespace Sample

/-- One user after the other. -/
def oneByOne : List Move :=
  setUpAt (.ofSecs 7) ++ control 5 ++ user 0 11 ++ user 1 11 ++ control 5

/-- Both users at once, with a pause for each. -/
def atOnce : List Move :=
  setUpAt (.ofSecs 7) ++ control 3 ++ user 1 5 ++ user 0 12 ++ user 1 7 ++ control 7

end Sample

theorem local_timed (options : Options) : Local Sample.timed options fun _ _ => True := by
  refine local_of_recording fun hook body hbody context => ?_
  cases hook with
  | setup | teardown =>
    cases hbody
    exact .inl rfl
  | behaviour =>
    cases hbody
    exact .inr ⟨_, _, rfl⟩

/-- One user after the other without pauses, and both at once with pauses. -/
theorem summary_independent_sample :
    (Sample.options 2 none).validate = .ok () ∧
      (State.start Sample.timed (Sample.options 2 none) 0).undisturbed Sample.oneByOne = true ∧
      (State.start Sample.timed (Sample.options 2 (some (.ofMillis 5))) 0).undisturbed
          Sample.atOnce = true ∧
      (State.start Sample.timed (Sample.options 2 none) 0).heard Sample.oneByOne =
        [Sample.atTime (.ofSecs 7)] ∧
      ∃ summary summary',
        ((State.start Sample.timed (Sample.options 2 none) 0).after
          Sample.oneByOne).conclusion? = some (.finished summary) ∧
        ((State.start Sample.timed (Sample.options 2 (some (.ofMillis 5))) 0).after
          Sample.atOnce).conclusion? = some (.finished summary') ∧
        summary.Agrees summary' := by
  have hvalid : (Sample.options 2 none).validate = .ok () := rfl
  have hundisturbed : (State.start Sample.timed (Sample.options 2 none) 0).undisturbed
      Sample.oneByOne = true := rfl
  have hundisturbed' : (State.start Sample.timed
      (Sample.options 2 (some (.ofMillis 5))) 0).undisturbed Sample.atOnce = true := rfl
  obtain ⟨summary, hfinished⟩ : ∃ summary, ((State.start Sample.timed
      (Sample.options 2 none) 0).after Sample.oneByOne).conclusion? =
        some (.finished summary) := ⟨_, rfl⟩
  have hconcluded' : ((State.start Sample.timed (Sample.options 2 (some (.ofMillis 5))) 0).after
      Sample.atOnce).conclusion?.isSome = true := rfl
  have hheard : (State.start Sample.timed (Sample.options 2 none) 0).heard Sample.oneByOne =
      [Sample.atTime (.ofSecs 7)] := rfl
  have hheard' : (State.start Sample.timed (Sample.options 2 (some (.ofMillis 5))) 0).heard
      Sample.atOnce = [Sample.atTime (.ofSecs 7)] := rfl
  have hpaced : Sample.options 2 (some (.ofMillis 5)) =
      { Sample.options 2 none with pacing := some (.ofMillis 5) } := rfl
  have hsame : Sample.timed.SameUnder (Sample.options 2 none)
      { Sample.options 2 none with pacing := some (.ofMillis 5) } := by
    refine ⟨fun hook hsetup => ?_, ?_, nofun⟩
    · cases hsetup
      rfl
    · intro hook body hbody id iteration global
      cases hook <;> (cases hbody; rfl)
  rw [hpaced] at hundisturbed' hconcluded' hheard' ⊢
  obtain ⟨summary', hfinished', hagrees, -⟩ :=
    summary_independent hvalid (local_timed _) (fun _ => hsame) hundisturbed hundisturbed'
      (hheard.trans hheard'.symm) hfinished hconcluded'
  exact ⟨hvalid, hundisturbed, hundisturbed', hheard, summary, summary', hfinished, hfinished',
    hagrees⟩

namespace Sample

/-- Users that record in each iteration whether there are pauses. -/
def watchful : Scenario Unit Unit :=
  { scenario with
    behaviour := some fun context => Hook.record "paced" context.options.pacing.isSome }

/-- A user by itself, with time for a pause. -/
def single : List Move := control 4 ++ user 0 12 ++ control 5

end Sample

theorem local_watchful (options : Options) : Local Sample.watchful options fun _ _ => True := by
  refine local_of_recording fun hook body hbody context => ?_
  cases hook with
  | setup | teardown =>
    cases hbody
    exact .inl rfl
  | behaviour =>
    cases hbody
    exact .inr ⟨_, _, rfl⟩

/-- Hooks are told the options, and how long the pauses are is one of them.  So a user whose hooks
depend on the options and its own alone can make its checks depend on the pauses: with and without
them, this run comes to other checks, and to another summary of them. -/
theorem pacing_observed :
    (∀ options, Local Sample.watchful options fun _ _ => True) ∧
      (Sample.options 1 none).validate = .ok () ∧
      (Sample.options 1 (some (.ofMillis 5))).validate = .ok () ∧
      (State.start Sample.watchful (Sample.options 1 none) 0).undisturbed Sample.single = true ∧
      (State.start Sample.watchful (Sample.options 1 (some (.ofMillis 5))) 0).undisturbed
        Sample.single = true ∧
      (State.start Sample.watchful (Sample.options 1 none) 0).heard Sample.single = [] ∧
      (State.start Sample.watchful (Sample.options 1 (some (.ofMillis 5))) 0).heard
        Sample.single = [] ∧
      ((State.start Sample.watchful (Sample.options 1 none) 0).after
        Sample.single).shared.recorder.results = [⟨"paced", false, 0, 0⟩] ∧
      ((State.start Sample.watchful (Sample.options 1 (some (.ofMillis 5))) 0).after
        Sample.single).shared.recorder.results = [⟨"paced", true, 0, 0⟩] ∧
      ∃ summary summary',
        ((State.start Sample.watchful (Sample.options 1 none) 0).after
          Sample.single).conclusion? = some (.finished summary) ∧
        ((State.start Sample.watchful (Sample.options 1 (some (.ofMillis 5))) 0).after
          Sample.single).conclusion? = some (.finished summary') ∧
        ¬ summary.Agrees summary' := by
  refine ⟨local_watchful, rfl, rfl, rfl, rfl, rfl, rfl, rfl, rfl, _, _, rfl, rfl, ?_⟩
  intro hagrees
  have hpassed : some 1 = some 0 :=
    congrArg (fun checks => (checks.get? "paced").map (·.passed)) hagrees.checks
  cases hpassed

end Run

end LoadHarness
