import LoadHarness.Scenario.Network
import LoadHarness.Text.Search
import LoadHarness.Text.Utf8

/-! The echo scenario: every iteration writes a greeting over a fresh connection, checks that the
reply has the greeting in it, and closes the connection again. -/

namespace LoadHarness.TcpEcho

open Network

/-- What the reply has to contain. -/
def greeting : String := "Hello"

def checkName : String := "verify ag tag"

/-- The text of a reply. -/
def replyText (reply : List UInt8) : String := String.ofList (Text.Utf8.decode reply)

/-- Whether the text of a reply has the greeting in it. -/
def greets (reply : List UInt8) : Bool :=
  Text.occursIn greeting.toList (Text.Utf8.decode reply)

/-- The most that is read of a reply, in bytes. -/
def replyLimit : Nat := 1024

def behaviour (context : UserContext RunValue) : Hook (UserValue Unit) Unit := do
  writeLine context "Say Hello"
  let reply ← readUpTo context replyLimit
  let passed ← Hook.check reply checkName greets
  unless passed do
    Hook.log .debug ("Unexpected reply for " ++ context.name ++ ": " ++ replyText reply)
  close

def defaults : Defaults :=
  { Defaults.none with target := some "127.0.0.1:8080", duration := some 60 }

def scenario : Scenario RunValue (UserValue Unit) :=
  { Network.scenario "tcp_echo" defaults () behaviour with userTeardown := some fun _ => close }

end LoadHarness.TcpEcho
