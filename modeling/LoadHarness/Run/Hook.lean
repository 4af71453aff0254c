import LoadHarness.Failure.Treatment
import LoadHarness.Options
import LoadHarness.Work

/-! Hooks, and the scenarios that are made of them.

A hook is work on a value of its own that may fail.  What it has done to its
value before it fails is kept.  The hooks of the run share one value, and every
virtual user has one of its own. -/

namespace LoadHarness

/-- How a hook can fail. -/
inductive Fault where
  /-- The hook reports a failure. -/
  | failure (failure : Failure)
  /-- The hook breaks off. -/
  | panic (text : String)
deriving DecidableEq, Repr

/-- Work on a value of type `σ` that may fail. -/
abbrev Hook (σ α : Type) : Type := ExceptT Fault (StateT σ Work) α

namespace Hook

variable {σ α : Type}

/-- Work that neither fails nor touches the value. -/
def ofWork (work : Work α) : Hook σ α := ExceptT.lift (StateT.lift work)

/-- Take one action. -/
def perform (action : Action) : Hook σ (Answer action) := ofWork (Work.perform action)

def fail (failure : Failure) : Hook σ α := throw (.failure failure)

def panic (text : String) : Hook σ α := throw (.panic text)

/-- The value of something that may have failed. -/
def ofExcept : Except Failure α → Hook σ α
  | .ok value => pure value
  | .error failure => fail failure

/-- The value of a network operation that may have failed. -/
def ofNet : Except NetError α → Hook σ α
  | .ok value => pure value
  | .error e => fail (.ofNet e)

/-- The value there is, or a failure that says what is missing. -/
def ofOption (missing : String) : Option α → Hook σ α
  | some value => pure value
  | none => fail (.ofText missing)

/-- Do something, and go on whether or not it fails.  A hook that breaks off still does. -/
def attempt (hook : Hook σ α) : Hook σ (Except Failure α) :=
  tryCatch (do return .ok (← hook)) fun
    | .failure failure => return .error failure
    | .panic text => panic text

def log (level : Level) (message : String) : Hook σ Unit := ofWork (Work.log level message)

/-- Record the outcome of a named check. -/
def record (name : String) (passed : Bool) : Hook σ Unit := ofWork (Work.check name passed)

/-- Put a value to a test, and record the outcome. -/
def check {β : Type} (value : β) (name : String) (test : β → Bool) : Hook σ Bool := do
  let passed := test value
  record name passed
  return passed

/-- Put a value to one test after the other, and record every outcome, also once one has failed.
Whether it passes all of them. -/
def checkAll {β : Type} (value : β) : List (String × (β → Bool)) → Hook σ Bool
  | [] => return true
  | (name, test) :: rest => do
    let passed ← check value name test
    let others ← checkAll value rest
    return passed && others

end Hook

/-- What a hook of the run can look at. -/
structure RunContext where
  options : Options

/-- What a hook of a virtual user can look at. -/
structure UserContext (G : Type) where
  id : Nat
  iteration : Nat
  options : Options
  /-- The value of the run. -/
  global : G

namespace UserContext

def name {G : Type} (context : UserContext G) : String := userName context.id

end UserContext

/-- What virtual users do, and what is done before and after them.  `G` is the value of the run and
`V` that of a virtual user. -/
structure Scenario (G V : Type) where
  name : String
  defaults : Defaults
  /-- The value of a run that begins. -/
  global : G
  /-- The value of a virtual user that begins. -/
  fresh : V
  /-- Done once, before any virtual user starts. -/
  setup : Option (RunContext → Hook G Unit)
  /-- Done once by each virtual user, before its first iteration. -/
  userSetup : Option (UserContext G → Hook V Unit)
  /-- Done by each virtual user once per iteration. -/
  behaviour : Option (UserContext G → Hook V Unit)
  /-- Done once by each virtual user, after its last iteration. -/
  userTeardown : Option (UserContext G → Hook V Unit)
  /-- Done once, after all virtual users have stopped. -/
  teardown : Option (RunContext → Hook G Unit)
  /-- What the log says when the value of a virtual user is given up. -/
  farewell : V → List String

/-- The kinds of hooks. -/
inductive HookKind where
  | setup
  | userSetup
  | behaviour
  | userTeardown
  | teardown
deriving DecidableEq, Repr

end LoadHarness
