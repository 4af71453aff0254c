import LoadHarness.Duration
import LoadHarness.Failure.Io

/-! Failures of the network primitives.

None of these ends a run.  Failed iterations are counted by `NetError.class`,
and the virtual user moves on to its next iteration. -/

namespace LoadHarness

/-- The classes by which failures of the network are counted. -/
inductive NetClass where
  | connect
  | io
  | timeout
  | tlsNegotiation
  | http
deriving DecidableEq, Repr

def NetClass.name : NetClass → String
  | connect => "connect"
  | io => "io"
  | timeout => "timeout"
  | tlsNegotiation => "tls_negotiation"
  | http => "http"

/-- A failure of the network. -/
inductive NetError where
  /-- The connection could not be established. -/
  | connect (address : String) (source : IoFault)
  /-- Reading or writing failed, or the connection was closed already. -/
  | io (fault : IoFault)
  /-- A single operation took longer than the limit. -/
  | timeout (operation : String) (after : Duration)
  /-- No version and suite suit both peers, or the certificate was refused. -/
  | tlsNegotiation (text : String)
  /-- The exchange failed after, or instead of, a handshake. -/
  | http (text : String)
deriving DecidableEq, Repr

namespace NetError

/-- The failure of every operation on a connection that is closed. -/
def closed : NetError := io (.custom .notConnected "connection is closed")

def «class» : NetError → NetClass
  | connect .. => .connect
  | io _ => .io
  | timeout .. => .timeout
  | tlsNegotiation _ => .tlsNegotiation
  | http _ => .http

def message : NetError → String
  | connect address source => "failed to connect to " ++ address ++ ": " ++ source.message
  | io fault => "I/O error: " ++ fault.message
  | timeout operation after => operation ++ " timed out after " ++ after.render
  | tlsNegotiation text => "TLS negotiation failed: " ++ text
  | http text => "HTTP error: " ++ text

/-- The fault behind a failure, where there is one. -/
def source? : NetError → Option IoFault
  | connect _ source => some source
  | io fault => some fault
  | _ => none

end NetError

end LoadHarness
