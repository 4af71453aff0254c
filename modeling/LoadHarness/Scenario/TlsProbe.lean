import LoadHarness.Scenario.Network

/-! The TLS probe: every iteration fetches the target and checks what its handshake settled on.
Where the request fails nothing was settled on, so both checks fail with it. -/

namespace LoadHarness.TlsProbe

open Network

def expectedSuite : String := "TLS_RSA_WITH_AES_128_GCM_SHA256"

def versionCheck : String := "is TLSv1.2"

def suiteCheck : String := "is sha256 cipher suite"

def behaviour (context : UserContext RunValue) : Hook (UserValue Unit) Unit := do
  match ← Hook.attempt (httpsGetTarget context) with
  | .ok response =>
    let _ ← Hook.checkAll response.tls [
      (versionCheck, fun tls => tls.version == some .tls12),
      (suiteCheck, fun tls => tls.suite == some expectedSuite)]
  | .error failure =>
    Hook.record versionCheck false
    Hook.record suiteCheck false
    Hook.fail failure

/-- Versions 1.1 and 1.2, with one old suite beside the one that is expected. -/
def policy : Tls.Policy where
  min := .tls11
  max := .tls12
  suites := .only (.ofList ["TLS_RSA_WITH_RC4_128_SHA", expectedSuite])
  insecure := false

def defaults : Defaults where
  target := some "https://www.test1.com:8080"
  duration := some 10
  pacing := none
  tls := policy

def scenario : Scenario RunValue (UserValue Unit) :=
  Network.scenario "tls_probe" defaults () behaviour

end LoadHarness.TlsProbe
