import LoadHarness.Scenario.Network

/-! The idle scenario: every iteration fetches the target, looks at nothing of the response, and
then lets a second pass. -/

namespace LoadHarness.IdleSleep

open Network

/-- How long a virtual user is idle after a request. -/
def idle : Duration := .ofSecs 1

def behaviour (context : UserContext RunValue) : Hook (UserValue Unit) Unit := do
  let _ ← httpsGetTarget context
  Hook.perform (.sleep idle)

def defaults : Defaults :=
  { Defaults.none with target := some "https://www.test1.com:8080", duration := some 10 }

def scenario : Scenario RunValue (UserValue Unit) :=
  Network.scenario "idle_sleep" defaults () behaviour

end LoadHarness.IdleSleep
