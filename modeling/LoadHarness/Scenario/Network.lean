import LoadHarness.Net.Client
import LoadHarness.Run.Hook

/-! Hooks of scenarios that work over a network.

All virtual users share one client, which the setup of the run builds.  Each
holds at most one connection over TCP: opening another closes the one that it
held, and writing opens a fresh one where the old one is gone. -/

namespace LoadHarness.Network

/-- The value of a run: the client that its virtual users share, once it is built. -/
structure RunValue where
  client : Option Net.Client
deriving DecidableEq, Repr

/-- The value of a virtual user: its connection, and what its scenario keeps beside it. -/
structure UserValue (S : Type) where
  tcp : Option Net.TcpConnection
  own : S
deriving DecidableEq, Repr

/-- Build the client for the options of the run. -/
def configureClient (context : RunContext) : Hook RunValue Unit := do
  match ← Hook.ofWork (Net.Client.build context.options.ioTimeout context.options.tls) with
  | .error failure => Hook.fail (failure.context (.text "Failed to configure the network client"))
  | .ok client => set (RunValue.mk (some client))

variable {S : Type}

/-- The client of the run. -/
def client (context : UserContext RunValue) : Hook (UserValue S) Net.Client :=
  Hook.ofOption
    "Network client not configured, call 'configure_net_client' in the scenario 'setup'"
    context.global.client

/-- Close the connection, if there is one. -/
def close : Hook (UserValue S) Unit := do
  if let some connection := (← get).tcp then
    modify fun value => { value with tcp := none }
    let _ ← Hook.ofWork connection.close

/-- Open a connection to the target of the run, in place of any other. -/
def connect (context : UserContext RunValue) : Hook (UserValue S) Unit := do
  close
  let address ← Hook.ofOption "No target address, pass --target host:port" context.options.target
  let client ← client context
  let connection ← Hook.ofNet (← Hook.ofWork (client.connectTcp address))
  modify fun value => { value with tcp := some connection }

/-- Open a connection unless one is open. -/
def ensureConnected (context : UserContext RunValue) : Hook (UserValue S) Unit := do
  unless (← get).tcp.any (·.isOpen) do
    Hook.log .debug ("Opening a fresh TCP connection for " ++ context.name)
    connect context

/-- Write a line, over a fresh connection if need be. -/
def writeLine (context : UserContext RunValue) (text : String) : Hook (UserValue S) Unit := do
  ensureConnected context
  let connection ← Hook.ofOption "No TCP connection" (← get).tcp
  let (connection, result) ← Hook.ofWork (connection.writeLine context.options.ioTimeout text)
  modify fun value => { value with tcp := some connection }
  Hook.ofNet result

/-- Read up to `max` bytes from the connection. -/
def readUpTo (context : UserContext RunValue) (max : Nat) :
    Hook (UserValue S) (List UInt8) := do
  let connection ← Hook.ofOption "No TCP connection, write before reading" (← get).tcp
  let (connection, result) ← Hook.ofWork (connection.readUpTo context.options.ioTimeout max)
  modify fun value => { value with tcp := some connection }
  Hook.ofNet result

/-- Fetch a URL. -/
def httpsGet (context : UserContext RunValue) (url : String) :
    Hook (UserValue S) Net.HttpsResponse := do
  let client ← client context
  Hook.ofNet (← Hook.ofWork (client.httpsGet url))

/-- Fetch the target of the run. -/
def httpsGetTarget (context : UserContext RunValue) : Hook (UserValue S) Net.HttpsResponse := do
  let url ← Hook.ofOption "No target URL, pass --target https://host:port/path"
    context.options.target
  httpsGet context url

/-- What the log says when the value of a virtual user is given up: a connection that it still
holds is closed. -/
def farewell (value : UserValue S) : List String :=
  match value.tcp with
  | some connection =>
    if connection.isOpen then ["Closed connection to " ++ connection.address] else []
  | none => []

/-- A scenario whose setup builds the client, and whose virtual users only have a behaviour. -/
def scenario (name : String) (defaults : Defaults) (own : S)
    (behaviour : UserContext RunValue → Hook (UserValue S) Unit) :
    Scenario RunValue (UserValue S) where
  name := name
  defaults := defaults
  global := ⟨none⟩
  fresh := ⟨none, own⟩
  setup := some configureClient
  userSetup := none
  behaviour := some behaviour
  userTeardown := none
  teardown := none
  farewell := farewell

end LoadHarness.Network
