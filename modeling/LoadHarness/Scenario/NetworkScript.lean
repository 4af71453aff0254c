import LoadHarness.Scenario.Network
import LoadHarness.Scenario.Script
import LoadHarness.Text.Utf8

/-! Scenarios over a network, written as scripts.

Every step has an event, and the events of a virtual user are kept in its value,
oldest first. -/

namespace LoadHarness.NetworkScript

open Network

/-- A step of a virtual user. -/
inductive Step where
  | connect
  | write (text : String)
  /-- Read, and check what the text of the reply contains: the name of the check, and the part. -/
  | read (max : Nat) (part : Option (String × String))
  | close
  /-- Tell whether the connection is open, if there is one. -/
  | holds
  | httpsGet (url : String)
  | httpsGetTarget
  | stop
  | fail (failure : Failure)
  /-- Take a step that may fail. -/
  | attempt (step : Step)

/-- What came of a step. -/
inductive Event where
  | connected
  | written
  | reply (bytes : List UInt8)
  | holds (isOpen : Option Bool)
  | response (response : Net.HttpsResponse)
  /-- There is nothing to tell. -/
  | done
  /-- The step that was attempted has failed. -/
  | failed (failure : Failure)

/-- Take a step. -/
def Step.act (context : UserContext RunValue) : Step → Hook (UserValue (Array Event)) Event
  | connect => do
    Network.connect context
    return .connected
  | write text => do
    writeLine context text
    return .written
  | read max part => do
    let reply ← readUpTo context max
    if let some (name, part) := part then
      let _ ← Hook.check reply name fun bytes =>
        Text.occursIn part.toList (Text.Utf8.decode bytes)
    return .reply reply
  | close => do
    Network.close
    return .done
  | holds => return .holds ((← get).tcp.map (·.isOpen))
  | httpsGet url => return .response (← Network.httpsGet context url)
  | httpsGetTarget => return .response (← Network.httpsGetTarget context)
  | stop => do
    Hook.perform .stop
    return .done
  | fail failure => Hook.fail failure
  | attempt step => do
    match ← Hook.attempt (step.act context) with
    | .ok event => return event
    | .error failure => return .failed failure

/-- The scenario whose virtual users take these steps.  An iteration that has none asks the run to
stop.  Whether there is a client, and a teardown that closes connections, is for the script to
say. -/
def scenario (name : String) (defaults : Defaults) (configure teardown : Bool)
    (behaviour : Option (Nat → List (List Step))) : Scenario RunValue (UserValue (Array Event)) where
  name := name
  defaults := defaults
  global := ⟨none⟩
  fresh := ⟨none, #[]⟩
  setup := if configure then some configureClient else none
  userSetup := none
  behaviour := behaviour.map fun iterations context =>
    match (iterations context.id)[context.iteration]? with
    | some steps =>
      Script.play (fun step => some <$> Step.act context step)
        (fun event value => { value with own := value.own.push event }) steps
    | none => Hook.perform .stop
  userTeardown := if teardown then some fun _ => Network.close else none
  teardown := none
  farewell := farewell

end LoadHarness.NetworkScript
