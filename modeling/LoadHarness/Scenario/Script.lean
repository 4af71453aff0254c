import LoadHarness.Run.Hook
import LoadHarness.Text.Search

/-! Scenarios written as scripts.

A script is a list of steps, each of which does one thing that a hook can do.
What is worth telling about a step is its event, and the events of a hook are
kept in its value, oldest first.  A step that fails ends its script. -/

namespace LoadHarness.Script

/-! ## Tests -/

/-- A test of a text. -/
inductive Predicate where
  | contains (part : String)
  | equals (text : String)
  | startsWith (front : String)
  | empty
  /-- Longer than so many bytes of UTF-8. -/
  | longerThan (bytes : Nat)
  /-- The same outcome for every text. -/
  | always (passed : Bool)
deriving DecidableEq, Repr

def Predicate.holds : Predicate → String → Bool
  | contains part, text => Text.occursIn part.toList text.toList
  | equals other, text => text == other
  | startsWith front, text => front.toList.isPrefixOf text.toList
  | empty, text => text.isEmpty
  | longerThan bytes, text => bytes < text.utf8ByteSize
  | always passed, _ => passed

/-! ## Playing a script -/

/-- Take steps in order, and keep the event of each that has one. -/
def play {σ ε δ : Type} (act : δ → Hook σ (Option ε)) (keep : ε → σ → σ) : List δ → Hook σ Unit
  | [] => return
  | step :: rest => do
    if let some event ← act step then modify (keep event)
    play act keep rest

/-! ## Steps of the run -/

/-- A step in the setup or the teardown of the run. -/
inductive RunStep where
  | check (name : String) (passed : Bool)
  /-- Open a connection, and keep it in the value of the run. -/
  | track
  /-- Close the connection that was kept last. -/
  | untrack
  | phase
  | options
  | counts
  | stop
  | fail (failure : Failure)
  | panic (text : String)
deriving DecidableEq

/-- What is worth telling about a step of the run. -/
inductive RunEvent where
  | phase (phase : Phase)
  | options (options : Options)
  | counts (counts : Counts)
deriving DecidableEq

/-- The value of a scripted run. -/
structure RunValue where
  counter : Nat
  /-- The connections that are kept, the last first. -/
  tokens : List Token
  setup : Array RunEvent
  teardown : Array RunEvent

namespace RunStep

def act (context : RunContext) : RunStep → Hook RunValue (Option RunEvent)
  | check name passed => do
    Hook.record name passed
    return none
  | track => do
    let token ← Hook.perform (.connect false)
    modify fun value => { value with tokens := token :: value.tokens }
    return none
  | untrack => do
    let value ← get
    if let token :: rest := value.tokens then
      set { value with tokens := rest }
      Hook.perform (.disconnect token)
    return none
  | phase => return some (.phase (← Hook.perform .phase))
  | options => return some (.options context.options)
  | counts => return some (.counts (← Hook.perform .counts))
  | stop => do
    Hook.perform .stop
    return none
  | fail failure => Hook.fail failure
  | panic text => Hook.panic text

end RunStep

/-! ## Steps of a virtual user -/

/-- A step in a hook of a virtual user.  Values that only pass through it are of type `α`. -/
inductive UserStep (α : Type) where
  | check (name : String) (passed : Bool)
  | test (value : String) (name : String) (predicate : Predicate)
  | testAll (value : String) (predicates : List (String × Predicate))
  /-- Open a connection, and keep it in the value of the user. -/
  | track
  /-- Close the connection that was kept last. -/
  | untrack
  /-- Open a connection that outlives the user. -/
  | leak
  /-- Add one to the counter in the value of the user. -/
  | count
  /-- Tell which user this is, and in which iteration. -/
  | place
  /-- Tell what all users share. -/
  | world
  | stop
  | stopping
  | awaitStop
  /-- Do something that ends with a value, or fails. -/
  | compute (outcome : Except Failure α)
  | fail (failure : Failure)
  | panic (text : String)

/-- What is worth telling about a step of a virtual user. -/
inductive UserEvent (α : Type) where
  | passed (passed : Bool)
  | count (count : Nat)
  | place (name : String) (id iteration : Nat)
  | world (counter : Nat) (runId : String) (target : Option String)
  | stopping (raised : Bool)
  | stopped
  | value (value : α)

/-- The value of a scripted virtual user. -/
structure UserValue (α : Type) where
  count : Nat
  /-- The connections that are kept, the last first. -/
  tokens : List Token
  events : Array (UserEvent α)

namespace UserStep

variable {α : Type}

def act (context : UserContext RunValue) :
    UserStep α → Hook (UserValue α) (Option (UserEvent α))
  | check name passed => do
    Hook.record name passed
    return none
  | test value name predicate =>
    return some (.passed (← Hook.check value name predicate.holds))
  | testAll value predicates => do
    let tests := predicates.map fun (name, predicate) => (name, predicate.holds)
    return some (.passed (← Hook.checkAll value tests))
  | track => do
    let token ← Hook.perform (.connect false)
    modify fun value => { value with tokens := token :: value.tokens }
    return none
  | untrack => do
    let value ← get
    if let token :: rest := value.tokens then
      set { value with tokens := rest }
      Hook.perform (.disconnect token)
    return none
  | leak => do
    let _ ← Hook.perform (.connect true)
    return none
  | count => do
    modify fun value => { value with count := value.count + 1 }
    return some (.count (← get).count)
  | place => return some (.place context.name context.id context.iteration)
  | world =>
    return some (.world context.global.counter context.options.runId context.options.target)
  | stop => do
    Hook.perform .stop
    return none
  | stopping => return some (.stopping (← Hook.perform .stopping))
  | awaitStop => do
    Hook.perform .awaitStop
    return some .stopped
  | compute outcome => return some (.value (← Hook.ofExcept outcome))
  | fail failure => Hook.fail failure
  | panic text => Hook.panic text

end UserStep

end LoadHarness.Script

namespace LoadHarness

open Script

/-- What is done in each hook of a scenario.  Hooks that are not there are not installed, and those
of virtual users are given for each user. -/
structure Script (α : Type) where
  name : String
  defaults : Defaults
  setup : Option (List RunStep)
  userSetup : Option (Nat → List (UserStep α))
  /-- The steps of each iteration.  An iteration that has none asks the run to stop. -/
  behaviour : Option (Nat → List (List (UserStep α)))
  userTeardown : Option (Nat → List (UserStep α))
  teardown : Option (List RunStep)

namespace Script

variable {α : Type}

/-- What the setup of the run adds to the counter that all users share. -/
def counterStart : Nat := 41

/-- Play a script for a virtual user. -/
def playUser (context : UserContext RunValue) (steps : List (UserStep α)) :
    Hook (UserValue α) Unit :=
  play (UserStep.act context)
    (fun event value => { value with events := value.events.push event }) steps

/-- The scenario that a script describes. -/
def scenario (script : Script α) : Scenario RunValue (UserValue α) where
  name := script.name
  defaults := script.defaults
  global := ⟨0, [], #[], #[]⟩
  fresh := ⟨0, [], #[]⟩
  setup := script.setup.map fun steps context => do
    modify fun value => { value with counter := value.counter + counterStart }
    play (RunStep.act context)
      (fun event value => { value with setup := value.setup.push event }) steps
  userSetup := script.userSetup.map fun steps context => playUser context (steps context.id)
  behaviour := script.behaviour.map fun iterations context =>
    match (iterations context.id)[context.iteration]? with
    | some steps => playUser context steps
    | none => Hook.perform .stop
  userTeardown := script.userTeardown.map fun steps context => playUser context (steps context.id)
  teardown := script.teardown.map fun steps context =>
    play (RunStep.act context)
      (fun event value => { value with teardown := value.teardown.push event }) steps
  farewell _ := []

end Script

end LoadHarness
