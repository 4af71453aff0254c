import LoadHarness.Net.Host
import LoadHarness.Proofs.Run.Calls
import Mathlib.Order.Bounds.Defs

/-! The exact trace of a virtual user that came to its end.

    setup?, b 0, b 1, …, b (k - 1), teardown?

`k` is the least pass at the top of which the user stops, and nothing in the cycle
is skipped, repeated or numbered twice (`exists_lived_of_ended`). -/

namespace LoadHarness.Run

/-- Whether an entry tells of a hook that came to its end. -/
def Entry.isCall : Entry → Bool
  | .called .. => true
  | .acted .. | .looked .. | .finalized _ => false

/-- Calls of the behaviour that come to these outcomes, from the first iteration on. -/
def behaviours (id : Nat) (outcomes : List (Except Failure Unit)) : List Entry :=
  outcomes.zipIdx.map fun (outcome, iteration) =>
    .called (.user id) .behaviour iteration (resultOf outcome)

/-- A user stops at the top of pass `i`: it sees the signal there, its cap keeps it from the pass,
or the iteration before has bailed. -/
def Stops (options : Options) (id : Nat) (turns : List Entry)
    (outcomes : List (Except Failure Unit)) (i : Nat) : Prop :=
  .looked id i true ∈ turns ∨ options.iterations.any (· ≤ i) = true ∨
    0 < i ∧ ∃ outcome, outcomes[i - 1]? = some outcome ∧ bails outcome = true

/-- The iteration of the teardown: the one after the last, unless that one bailed. -/
def lastIteration (outcomes : List (Except Failure Unit)) : Nat :=
  if outcomes.getLast?.any bails then outcomes.length - 1 else outcomes.length

/-- A whole life of user `id`: its setup and its teardown, where they are installed, came to these
outcomes, and so did the calls of its behaviour. -/
structure Lived {G V : Type} (scenario : Scenario G V) (options : Options) (id : Nat)
    (healthy : Bool) (turns : List Entry) (setup : Option (Except Failure Unit))
    (outcomes : List (Except Failure Unit)) (teardown : Option (Except Failure Unit)) : Prop where
  setUp : setup.isSome = scenario.userSetup.isSome
  tornDown : teardown.isSome = scenario.userTeardown.isSome
  calls : turns.filter Entry.isCall =
    (setup.toList.map fun outcome => .called (.user id) .userSetup 0 (resultOf outcome)) ++
      behaviours id outcomes ++
      teardown.toList.map fun outcome =>
        .called (.user id) .userTeardown (lastIteration outcomes) (resultOf outcome)
  none_of_not_begun : setup.all Except.isOk = false ∨ scenario.behaviour = none → outcomes = []
  isLeast : setup.all Except.isOk = true → scenario.behaviour.isSome = true →
    IsLeast {i | Stops options id turns outcomes i} outcomes.length
  leadsOn : ∀ i outcome, outcomes[i]? = some outcome → bails outcome = false →
    ∃ raised, .looked id (i + 1) raised ∈ turns
  healthy_iff : healthy = true ↔
    setup.all Except.isOk = true ∧ ∀ outcome ∈ outcomes, bails outcome = false

/-! ## Reading the notes of a life -/

theorem filter_isCall_passes (id : Nat) (outcomes : List (Except Failure Unit)) :
    (passes id outcomes).filter Entry.isCall = behaviours id outcomes := by
  rw [passes, List.filter_flatMap, behaviours, List.map_eq_flatMap]
  rfl

theorem looked_mem_passes {id i : Nat} {raised : Bool} {outcomes : List (Except Failure Unit)} :
    .looked id i raised ∈ passes id outcomes ↔ i < outcomes.length ∧ raised = false := by
  induction outcomes using List.reverseRecOn with
  | nil => simp [passes]
  | append_singleton outcomes outcome ih =>
    rw [passes_append_singleton, List.mem_append, ih, List.length_append, List.length_singleton]
    simp only [pass, List.mem_cons, Entry.looked.injEq, true_and, reduceCtorEq, List.not_mem_nil,
      or_false, Nat.lt_succ_iff_lt_or_eq]
    rw [or_and_right]

section

variable {G V : Type} (scenario : Scenario G V)

theorem opening_eq (id : Nat) :
    opening scenario id = (scenario.userSetup.map fun _ => Except.ok ()).toList.map fun outcome =>
      .called (.user id) .userSetup 0 (resultOf outcome) := by
  rw [opening]
  cases scenario.userSetup <;> rfl

theorem closing_eq (id iteration : Nat) (outcome : Except Failure Unit) :
    closing scenario id iteration outcome =
      (scenario.userTeardown.map fun _ => outcome).toList.map fun outcome =>
        .called (.user id) .userTeardown iteration (resultOf outcome) := by
  rw [closing]
  cases scenario.userTeardown <;> rfl

theorem filter_isCall_map {α : Type} (f : α → Entry) (hf : ∀ a, (f a).isCall = true) (l : List α) :
    (l.map f).filter Entry.isCall = l.map f := by
  rw [List.filter_eq_self]
  intro entry hmem
  obtain ⟨a, -, rfl⟩ := List.mem_map.mp hmem
  exact hf a

theorem looked_notMem_opening (id i : Nat) (raised : Bool) :
    .looked id i raised ∉ opening scenario id := by
  rw [opening_eq]
  simp

theorem looked_notMem_closing (id iteration i : Nat) (raised : Bool)
    (outcome : Except Failure Unit) :
    .looked id i raised ∉ closing scenario id iteration outcome := by
  rw [closing_eq]
  simp

end

/-! ## One life for every exit -/

section

variable {G V : Type} {scenario : Scenario G V} {options : Options} {id iteration : Nat}
  {healthy : Bool} {turns looks : List Entry} {outcomes : List (Except Failure Unit)}
  {last : Except Failure Unit}

theorem isLeast_stops
    (hstops : Stops options id turns outcomes outcomes.length)
    (hlook : ∀ i < outcomes.length, .looked id i true ∉ turns)
    (hbelow : ∀ i < outcomes.length, options.iterations.any (· ≤ i) = false)
    (hon : ∀ i outcome, i + 1 < outcomes.length → outcomes[i]? = some outcome →
      bails outcome = false) :
    IsLeast {i | Stops options id turns outcomes i} outcomes.length := by
  refine ⟨hstops, fun i hi => ?_⟩
  by_contra hlt
  rw [Nat.not_le] at hlt
  rcases hi with hsignal | hcap | ⟨hpos, outcome, hget, hbails⟩
  · exact hlook i hlt hsignal
  · rw [hbelow i hlt] at hcap
    cases hcap
  · rw [hon (i - 1) outcome (by omega) hget] at hbails
    cases hbails

/-- A life that reached the cycle: what each way out of it has to add. -/
theorem lived_of_cycle
    (hturns : turns = opening scenario id ++ passes id outcomes ++ looks ++
      closing scenario id iteration last)
    (hlooks : ∀ entry ∈ looks, ∃ raised, entry = .looked id outcomes.length raised)
    (hinstalled : scenario.behaviour.isSome = true)
    (hbelow : ∀ i < outcomes.length, options.iterations.any (· ≤ i) = false)
    (hon : ∀ i outcome, i + 1 < outcomes.length → outcomes[i]? = some outcome →
      bails outcome = false)
    (hstops : Stops options id turns outcomes outcomes.length)
    (hlast : outcomes.getLast?.any bails = false →
      ∃ raised, .looked id outcomes.length raised ∈ looks)
    (hiteration : iteration = lastIteration outcomes)
    (hhealthy : healthy = true ↔ ∀ outcome ∈ outcomes, bails outcome = false) :
    Lived scenario options id healthy turns (scenario.userSetup.map fun _ => .ok ()) outcomes
      (scenario.userTeardown.map fun _ => last) := by
  have hmem : ∀ i raised, .looked id i raised ∈ turns ↔
      i < outcomes.length ∧ raised = false ∨ .looked id i raised ∈ looks := by
    intro i raised
    rw [hturns]
    simp only [List.mem_append, looked_mem_passes, looked_notMem_opening, looked_notMem_closing,
      false_or, or_false]
  have hsetup : (scenario.userSetup.map fun _ => (Except.ok () : Except Failure Unit)).all
      Except.isOk = true := by
    cases scenario.userSetup <;> rfl
  constructor
  case setUp => exact Option.isSome_map
  case tornDown => exact Option.isSome_map
  case calls =>
    have hnone : looks.filter Entry.isCall = [] := by
      rw [List.filter_eq_nil_iff]
      intro entry hentry
      obtain ⟨raised, rfl⟩ := hlooks entry hentry
      exact Bool.false_ne_true
    rw [hturns, opening_eq, closing_eq, hiteration]
    simp only [List.filter_append, filter_isCall_passes, hnone, List.append_nil]
    rw [filter_isCall_map _ fun _ => rfl, filter_isCall_map _ fun _ => rfl]
  case none_of_not_begun =>
    rintro (hfailed | hnone)
    · rw [hsetup] at hfailed
      cases hfailed
    · rw [hnone] at hinstalled
      cases hinstalled
  case isLeast =>
    intro _ _
    refine isLeast_stops hstops (fun i hlt hsignal => ?_) hbelow hon
    rcases (hmem i true).mp hsignal with ⟨-, hfalse⟩ | hsignal
    · cases hfalse
    · obtain ⟨raised, heq⟩ := hlooks _ hsignal
      simp only [Entry.looked.injEq, true_and] at heq
      omega
  case leadsOn =>
    intro i outcome hget hbails
    have hlt := (List.getElem?_eq_some_iff.mp hget).1
    rcases Nat.lt_or_ge (i + 1) outcomes.length with hnext | hend
    · exact ⟨false, (hmem _ _).mpr (.inl ⟨hnext, rfl⟩)⟩
    · have hlength : i + 1 = outcomes.length := by omega
      have hi : outcomes.length - 1 = i := by omega
      rw [List.getLast?_eq_getElem?, hi, hget] at hlast
      obtain ⟨raised, hlook⟩ := hlast hbails
      rw [← hlength] at hlook
      exact ⟨raised, (hmem _ _).mpr (.inr hlook)⟩
  case healthy_iff =>
    rw [hsetup, hhealthy]
    simp only [true_and]

theorem getLast?_any_bails (h : ∀ outcome ∈ outcomes, bails outcome = false) :
    outcomes.getLast?.any bails = false := by
  cases hget : outcomes.getLast? with
  | none => rfl
  | some outcome => exact h outcome (List.mem_of_getLast? hget)

/-- A life that left the cycle at its top, with a last look at the signal. -/
theorem Cycle.lived {raised : Bool} (hcycle : Cycle scenario options outcomes)
    (hstops : raised = true ∨ options.iterations.any (· ≤ outcomes.length) = true) :
    Lived scenario options id true
      (opening scenario id ++ passes id outcomes ++ [.looked id outcomes.length raised] ++
        closing scenario id outcomes.length last)
      (scenario.userSetup.map fun _ => .ok ()) outcomes
      (scenario.userTeardown.map fun _ => last) := by
  have hlast := getLast?_any_bails hcycle.on
  refine lived_of_cycle rfl ?_ hcycle.installed hcycle.below ?_ ?_ ?_ ?_ ?_
  · intro entry hmem
    exact ⟨raised, List.mem_singleton.mp hmem⟩
  · intro i outcome _ hget
    exact hcycle.on outcome (List.mem_of_getElem? hget)
  · rcases hstops with rfl | hcap
    · exact .inl (by simp)
    · exact .inr (.inl hcap)
  · exact fun _ => ⟨raised, List.mem_singleton_self _⟩
  · rw [lastIteration, hlast, if_neg Bool.false_ne_true]
  · simp only [true_iff]
    exact hcycle.on

/-- A life that ended its cycle by a bail. -/
theorem Cycle.lived_of_bail (id : Nat) (last : Except Failure Unit) {outcome : Except Failure Unit}
    (hcycle : Cycle scenario options outcomes)
    (hcap : options.iterations.any (· ≤ outcomes.length) = false) (hbails : bails outcome = true) :
    Lived scenario options id false
      (opening scenario id ++ passes id (outcomes ++ [outcome]) ++ [] ++
        closing scenario id outcomes.length last)
      (scenario.userSetup.map fun _ => .ok ()) (outcomes ++ [outcome])
      (scenario.userTeardown.map fun _ => last) := by
  have hlength : (outcomes ++ [outcome]).length = outcomes.length + 1 := by simp
  have hlast : (outcomes ++ [outcome]).getLast?.any bails = true := by
    rw [List.getLast?_concat]
    exact hbails
  refine lived_of_cycle rfl (fun _ hmem => absurd hmem List.not_mem_nil) hcycle.installed
    ?_ ?_ ?_ ?_ ?_ ?_
  · intro i hlt
    rw [hlength] at hlt
    rcases Nat.lt_succ_iff_lt_or_eq.mp hlt with hlt | rfl
    · exact hcycle.below i hlt
    · exact hcap
  · intro i other hlt hget
    rw [List.getElem?_append_left (by omega)] at hget
    exact hcycle.on other (List.mem_of_getElem? hget)
  · refine .inr (.inr ⟨by omega, outcome, ?_, hbails⟩)
    rw [hlength, Nat.add_sub_cancel, List.getElem?_concat_length]
  · intro hnone
    rw [hlast] at hnone
    cases hnone
  · rw [lastIteration, hlast, if_pos rfl, hlength, Nat.add_sub_cancel]
  · constructor
    · exact nofun
    · intro hall
      rw [hall outcome (by simp)] at hbails
      cases hbails

/-- A life that never reached its cycle. -/
theorem lived_of_not_begun {setup : Option (Except Failure Unit)}
    (hsetup : setup.isSome = scenario.userSetup.isSome)
    (hnot : setup.all Except.isOk = false ∨ scenario.behaviour = none)
    (hhealthy : healthy = setup.all Except.isOk) :
    Lived scenario options id healthy
      ((setup.toList.map fun outcome => .called (.user id) .userSetup 0 (resultOf outcome)) ++
        closing scenario id 0 last) setup [] (scenario.userTeardown.map fun _ => last) := by
  constructor
  case setUp => exact hsetup
  case tornDown => exact Option.isSome_map
  case calls =>
    rw [closing_eq, List.filter_append, filter_isCall_map _ fun _ => rfl,
      filter_isCall_map _ fun _ => rfl]
    exact congrArg (· ++ _) (List.append_nil _).symm
  case none_of_not_begun => exact fun _ => rfl
  case isLeast =>
    intro hok hinstalled
    rcases hnot with hfailed | hnone
    · rw [hok] at hfailed
      cases hfailed
    · rw [hnone] at hinstalled
      cases hinstalled
  case leadsOn => exact fun _ _ h => by cases h
  case healthy_iff =>
    rw [hhealthy]
    exact (and_iff_left fun _ hmem => absurd hmem List.not_mem_nil).symm

theorem Exit.lived {before : List Entry} (h : Exit scenario options id healthy iteration before)
    (hturns : turns = before ++ closing scenario id iteration last) :
    ∃ setup outcomes teardown,
      Lived scenario options id healthy turns setup outcomes teardown := by
  subst hturns
  cases h with
  | setupFailed hinstalled =>
    rename_i failure
    have hlived : Lived scenario options id false
        (((some (Except.error failure)).toList.map fun outcome =>
          .called (.user id) .userSetup 0 (resultOf outcome)) ++ closing scenario id 0 last)
        (some (.error failure)) [] (scenario.userTeardown.map fun _ => last) :=
      lived_of_not_begun hinstalled.symm (.inl rfl) rfl
    exact ⟨_, _, _, hlived⟩
  | noBehaviour hnone =>
    refine ⟨scenario.userSetup.map fun _ => .ok (), [], scenario.userTeardown.map fun _ => last, ?_⟩
    rw [opening_eq]
    refine lived_of_not_begun Option.isSome_map (.inr hnone) ?_
    cases scenario.userSetup <;> rfl
  | signal hcycle => exact ⟨_, _, _, hcycle.lived (.inl rfl)⟩
  | cap hcycle hcap => exact ⟨_, _, _, hcycle.lived (.inr hcap)⟩
  | bail hcycle hcap hbails =>
    have hlived := hcycle.lived_of_bail id last hcap hbails
    rw [List.append_nil] at hlived
    exact ⟨_, _, _, hlived⟩

/-- Where nothing else stops it, a user makes as many calls as its cap says. -/
theorem Lived.length_eq_cap {setup teardown : Option (Except Failure Unit)}
    (h : Lived scenario options id healthy turns setup outcomes teardown) {cap : Nat}
    (hcap : options.iterations = some cap) (hinstalled : scenario.behaviour.isSome = true)
    (hsetup : setup.all Except.isOk = true) (hsignal : ∀ i, .looked id i true ∉ turns)
    (hon : ∀ outcome ∈ outcomes, bails outcome = false) : outcomes.length = cap := by
  obtain ⟨hstops, hleast⟩ := h.isLeast hsetup hinstalled
  apply Nat.le_antisymm
  · apply hleast
    refine .inr (.inl ?_)
    rw [hcap, Option.any_some]
    exact decide_eq_true (Nat.le_refl cap)
  · rcases hstops with hlook | hreached | ⟨-, outcome, hget, hbails⟩
    · exact absurd hlook (hsignal _)
    · rw [hcap, Option.any_some, decide_eq_true_eq] at hreached
      exact hreached
    · rw [hon outcome (List.mem_of_getElem? hget)] at hbails
      cases hbails

end

/-! ## A sample -/

/-- What a host without a network has to say. -/
def Outside.offline : Outside :=
  ⟨.zero, fun request => (Net.Offline.host.answer ⟨[], #[]⟩ request).1⟩

namespace Sample

/-- Users that have a hook for every occasion, and record a check in each iteration. -/
def scenario : Scenario Unit Unit where
  name := "sample"
  defaults := .none
  global := ()
  fresh := ()
  setup := none
  userSetup := some fun _ => pure ()
  behaviour := some fun _ => Hook.record "alive" true
  userTeardown := some fun _ => pure ()
  teardown := none
  farewell := fun _ => []

/-- One iteration each. -/
def options (users : Nat) (pacing : Option Duration) : Options where
  virtualUsers := users
  duration := .ofSecs 1
  iterations := some 1
  pacing := pacing
  ioTimeout := .ofSecs 1
  tls := .standard
  target := none
  runId := "sample"
  noProgress := true
  reporter := .noop

/-- The same users in a run whose setup asks what time it is, and leaves that to them.  They record
whether it was early. -/
def timed : Scenario Duration Unit where
  name := "timed"
  defaults := .none
  global := .zero
  fresh := ()
  setup := some fun _ => do
    let now ← Hook.perform .now
    set (show Duration from now)
  userSetup := some fun _ => pure ()
  behaviour := some fun context => Hook.record "early" (context.global.secs < 9)
  userTeardown := some fun _ => pure ()
  teardown := none
  farewell := fun _ => []

/-- A host without a network, at a time of the day. -/
def atTime (now : Duration) : Outside := { Outside.offline with now := now }

/-- The moves of a setup that asks what time it is. -/
def setUpAt (now : Duration) : List Move := .replicate 2 (.control (atTime now))

/-- So many moves of the run itself. -/
def control (moves : Nat) : List Move := .replicate moves (.control .offline)

/-- So many moves of one user. -/
def user (id moves : Nat) : List Move := .replicate moves (.user id .offline)

end Sample

/-! ## The trace of a user -/

variable {G V : Type}

/-- Whatever the other users do and whenever the signal is raised, a user that comes to its end
without breaking off has lived one life, and every call that it made is a call of the hook in the
iteration that is noted.  With a cap, it makes as many calls as the cap says, if neither its setup
nor the signal nor a bail keeps it from that. -/
theorem exists_lived_of_ended (scenario : Scenario G V) (options : Options) (startedAt : Int)
    (moves : List Move) {id : Nat} {user : User V}
    (huser : ((State.start scenario options startedAt).after moves).users[id]? = some user)
    (hended : user.point = .ended) :
    ∃ setup outcomes teardown,
      Lived scenario options id user.healthy
        (((State.start scenario options startedAt).after moves).turns id)
        setup outcomes teardown ∧
      (∀ (hook : UserHook) (iteration : Nat) (result : Except Fault Unit),
        .called (.user id) hook.kind iteration result ∈
            ((State.start scenario options startedAt).after moves).turns id →
          hook.CanYield scenario options id iteration result) ∧
      ∀ cap, options.iterations = some cap → scenario.behaviour.isSome = true →
        setup.all Except.isOk = true →
        (∀ i, .looked id i true ∉ ((State.start scenario options startedAt).after moves).turns id) →
        (∀ outcome ∈ outcomes, bails outcome = false) → outcomes.length = cap := by
  obtain ⟨rfl, hlife⟩ := State.life_after scenario options startedAt moves huser
  simp only [Life, hended] at hlife
  obtain ⟨before, last, hexit, hturns⟩ := hlife
  obtain ⟨setup, outcomes, teardown, hlived⟩ := hexit.lived hturns
  refine ⟨setup, outcomes, teardown, hlived, ?_, ?_⟩
  · intro hook iteration result hmem
    exact State.yields_of_mem_notes scenario options startedAt moves huser
      (List.mem_filter.mp hmem).1
  · intro cap hcap hinstalled hsetup hsignal hon
    exact hlived.length_eq_cap hcap hinstalled hsetup hsignal hon

theorem exists_lived_sample :
    ∃ user, ((State.start Sample.scenario (Sample.options 1 none) 0).after
        (Sample.control 2 ++ Sample.user 0 11)).users[0]? = some user ∧ user.point = .ended ∧
      ∃ setup outcomes teardown,
        Lived Sample.scenario (Sample.options 1 none) 0 user.healthy
          (((State.start Sample.scenario (Sample.options 1 none) 0).after
            (Sample.control 2 ++ Sample.user 0 11)).turns 0) setup outcomes teardown := by
  have hsome : ∃ user, ((State.start Sample.scenario (Sample.options 1 none) 0).after
      (Sample.control 2 ++ Sample.user 0 11)).users[0]? = some user ∧ user.point = .ended :=
    ⟨_, rfl, rfl⟩
  obtain ⟨user, huser, hended⟩ := hsome
  obtain ⟨setup, outcomes, teardown, hlived, -⟩ :=
    exists_lived_of_ended Sample.scenario (Sample.options 1 none) 0 _ huser hended
  exact ⟨user, huser, hended, setup, outcomes, teardown, hlived⟩

end LoadHarness.Run
