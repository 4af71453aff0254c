import LoadHarness.Net.Https
import LoadHarness.Net.Tcp

/-! The client that all virtual users of a run share. -/

namespace LoadHarness.Net

/-- A client: its limit on single operations, and what it knows about TLS. -/
structure Client where
  ioTimeout : Duration
  connector : Connector
deriving DecidableEq, Repr

namespace Client

/-- Build a client for a policy. -/
def build (ioTimeout : Duration) (policy : Tls.Policy) : Work (Except Failure Client) := do
  match ← Connector.build policy with
  | .error failure => return .error failure
  | .ok connector => return .ok ⟨ioTimeout, connector⟩

/-- An address without the scheme that may stand in front of it. -/
def bareAddress (address : String) : String :=
  let scheme := "tcp://".toList
  if scheme.isPrefixOf address.toList then String.ofList (address.toList.drop scheme.length)
  else address

/-- Open a connection to `host:port`. -/
def connectTcp (client : Client) (address : String) : Work (Except NetError TcpConnection) :=
  TcpConnection.connect client.ioTimeout (bareAddress address)

/-- Fetch a URL.  Every attempt makes one record. -/
def httpsGet (client : Client) (url : String) : Work (Except NetError HttpsResponse) := do
  let start ← Work.perform .now
  let result ← HttpsResponse.fetch client.connector client.ioTimeout url
  Work.report "https_get" start !result.isOk
  return result

end Client

end LoadHarness.Net
