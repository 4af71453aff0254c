import LoadHarness.Run.Hook
import LoadHarness.Run.Shared

/-! The life of one virtual user, step by step.

    setup → test signal → test cap → behaviour → settle → advance → pace ─┐
               ↑ └──────────────┴────────→ teardown → leave → ended       │
               └──────────────────────────────────────────────────────────┘

A user leaves the cycle when it sees the signal, has reached its cap or bails,
and a failed setup keeps it out of the cycle.  Either way it goes on to its
teardown.  A hook that breaks off ends the user on the spot. -/

namespace LoadHarness.Run

/-- Work of a hook that has begun. -/
abbrev Begun (V : Type) : Type := Work (Except Fault Unit × V)

/-- Where a virtual user is in its life. -/
inductive Point (V : Type) where
  | setup (work : Begun V)
  | testSignal
  | testCap
  | behaviour (work : Begun V)
  /-- The behaviour has returned, and its outcome is to be recorded. -/
  | settle (outcome : Except Failure Unit)
  | advance
  | pace
  | teardown (work : Begun V)
  /-- Only the value is left to be given up. -/
  | leave
  | ended
  /-- A hook broke off. -/
  | panicked (text : String)

/-- A virtual user. -/
structure User (V : Type) where
  id : Nat
  value : V
  iteration : Nat
  /-- The connections it has opened. -/
  connects : Nat
  healthy : Bool
  point : Point V

/-- What is noted about a run as it goes on. -/
inductive Entry where
  /-- A hook has taken an action in this iteration. -/
  | acted (party : Party) (iteration : Nat) (action : Action)
  /-- A hook has come to its end in this iteration. -/
  | called (party : Party) (hook : HookKind) (iteration : Nat) (result : Except Fault Unit)
  /-- A virtual user has looked at the signal at the top of its cycle. -/
  | looked (user iteration : Nat) (raised : Bool)
  /-- The reporter was given the check counts of the whole run. -/
  | finalized (checks : NameMap CheckCounts)

/-- What does not change while virtual users run. -/
structure Setting (G V : Type) where
  scenario : Scenario G V
  options : Options
  global : G

/-- What a step of a virtual user leaves behind. -/
structure Stepped (V : Type) where
  shared : Shared
  user : User V
  entries : List Entry

namespace User

variable {G V : Type}

def name (user : User V) : String := userName user.id

def party (user : User V) : Party := .user user.id

def desk (user : User V) : Desk := ⟨user.party, user.iteration, user.connects⟩

/-- Whether the life of a user is over. -/
def isOver (user : User V) : Bool :=
  match user.point with
  | .ended | .panicked _ => true
  | _ => false

/-- What hooks of a user can look at. -/
def context (setting : Setting G V) (user : User V) : UserContext G :=
  ⟨user.id, user.iteration, setting.options, setting.global⟩

/-- Begin a hook. -/
def begin (setting : Setting G V) (user : User V) (hook : UserContext G → Hook V Unit) : Begun V :=
  (hook (user.context setting)).run.run user.value

/-- The user at its teardown, if there is one. -/
def toTeardown (setting : Setting G V) (user : User V) : User V :=
  match setting.scenario.userTeardown with
  | some hook => { user with point := .teardown (user.begin setting hook) }
  | none => { user with point := .leave }

/-- The user at the top of its cycle, if it is healthy and there is one. -/
def toCycle (setting : Setting G V) (user : User V) : User V :=
  if user.healthy && setting.scenario.behaviour.isSome then { user with point := .testSignal }
  else user.toTeardown setting

/-- A user that begins. -/
def start (setting : Setting G V) (id : Nat) : User V :=
  let user : User V := ⟨id, setting.scenario.fresh, 0, 0, true, .leave⟩
  match setting.scenario.userSetup with
  | some hook => { user with point := .setup (user.begin setting hook) }
  | none => user.toCycle setting

/-- Give up the value of a user, and with it every connection that the user kept. -/
def giveUp (setting : Setting G V) (user : User V) (shared : Shared) : Shared :=
  let shared := { shared with
    ledger := shared.ledger.closeWhere fun token => token.owner == user.party && !token.leaked }
  (setting.scenario.farewell user.value).foldl (fun shared line =>
    shared.write user.party .debug line) shared

/-- End a user whose hook broke off. -/
def breakOff (setting : Setting G V) (user : User V) (shared : Shared) (text : String) :
    Shared × User V :=
  (user.giveUp setting shared, { user with point := .panicked text })

/-- Record what came of an iteration, and go on or stop. -/
def settle (setting : Setting G V) (user : User V) (shared : Shared)
    (outcome : Except Failure Unit) : Shared × User V :=
  let next := { user with point := .advance }
  match outcome with
  | .ok () => ({ shared with recorder := shared.recorder.recordIteration none }, next)
  | .error failure =>
    let treatment := failure.treatment
    let record (shared : Shared) : Shared :=
      { shared with recorder := shared.recorder.recordIteration treatment.className? }
    let write (level : Level) (message : String) : Shared :=
      shared.write user.party level message
    match treatment with
    | .skip => (shared, next)
    | .bail =>
      (record (write .warn ("Virtual user " ++ user.name ++ " bailed: " ++ failure.report)),
        { user with healthy := false }.toTeardown setting)
    | .network _ =>
      (record (write .warn
        ("Iteration failed for virtual user " ++ user.name ++ ": " ++ failure.inline)), next)
    | .behaviour =>
      (record (write .error
        ("Agent behaviour failed for virtual user " ++ user.name ++ ": " ++ failure.report)), next)

/-- Take one action of a hook, or see that it has come to its end. -/
def stepHook (user : User V) (shared : Shared) (outside : Outside)
    (begun : Begun V) (again : Begun V → Point V)
    (finish : User V → Except Fault Unit → Stepped V) : Option (Stepped V) :=
  match begun with
  | .done (result, value) => some (finish { user with value := value } result)
  | .act action next =>
    match shared.perform user.desk outside action with
    | none => none
    | some (shared, desk, answer) =>
      some ⟨shared, { user with connects := desk.connects, point := again (next answer) },
        [.acted user.party user.iteration action]⟩

/-- The next step of a user; nothing if it has to wait, or its life is over. -/
def step (setting : Setting G V) (user : User V) (shared : Shared) (outside : Outside) :
    Option (Stepped V) :=
  let called (hook : HookKind) (result : Except Fault Unit) : List Entry :=
    [.called user.party hook user.iteration result]
  match user.point with
  | .setup work =>
    user.stepHook shared outside work .setup fun user result =>
      let (shared, user) := match result with
        | .ok () => (shared, user.toCycle setting)
        | .error (.failure failure) =>
          (shared.write user.party .error
            ("Agent setup failed for virtual user " ++ user.name ++ ": " ++ failure.report),
            { user with healthy := false }.toTeardown setting)
        | .error (.panic text) => user.breakOff setting shared text
      ⟨shared, user, called .userSetup result⟩
  | .testSignal =>
    let entries := [Entry.looked user.id user.iteration shared.stopping]
    if shared.stopping then
      some ⟨shared.write user.party .debug ("Stopping virtual user " ++ user.name),
        user.toTeardown setting, entries⟩
    else some ⟨shared, { user with point := .testCap }, entries⟩
  | .testCap =>
    if setting.options.iterations.any (· ≤ user.iteration) then
      some ⟨shared.write user.party .debug
        ("Virtual user " ++ user.name ++ " reached its iteration cap"),
        user.toTeardown setting, []⟩
    else
      match setting.scenario.behaviour with
      | some hook => some ⟨shared, { user with point := .behaviour (user.begin setting hook) }, []⟩
      | none => some ⟨shared, user.toTeardown setting, []⟩
  | .behaviour work =>
    user.stepHook shared outside work .behaviour fun user result =>
      let (shared, user) := match result with
        | .ok () => (shared, { user with point := .settle (.ok ()) })
        | .error (.failure failure) => (shared, { user with point := .settle (.error failure) })
        | .error (.panic text) => user.breakOff setting shared text
      ⟨shared, user, called .behaviour result⟩
  | .settle outcome =>
    let (shared, user) := user.settle setting shared outcome
    some ⟨shared, user, []⟩
  | .advance =>
    let point := if setting.options.pacing.isSome then .pace else .testSignal
    some ⟨shared, { user with iteration := user.iteration + 1, point := point }, []⟩
  | .pace => some ⟨shared, { user with point := .testSignal }, []⟩
  | .teardown work =>
    user.stepHook shared outside work .teardown fun user result =>
      let (shared, user) := match result with
        | .ok () => (shared, { user with point := .leave })
        | .error (.failure failure) =>
          (shared.write user.party .error
            ("Agent teardown failed for virtual user " ++ user.name ++ ": " ++ failure.report),
            { user with point := .leave })
        | .error (.panic text) => user.breakOff setting shared text
      ⟨shared, user, called .userTeardown result⟩
  | .leave => some ⟨user.giveUp setting shared, { user with point := .ended }, []⟩
  | .ended | .panicked _ => none

end User

end LoadHarness.Run
