import LoadHarness.Net.Address
import LoadHarness.Net.Request

/-! Hosts: what answers requests to the network and to the TLS library.

A host has a state and answers one request after another.  The host that has no
network refuses every address it can read, and configures TLS as well as any
other; it keeps the calls to the TLS library that it was given. -/

namespace LoadHarness.Net

/-- What answers requests. -/
structure Host (σ : Type) where
  answer : σ → (request : Request) → Reply request × σ

namespace Offline

/-- The state of a host without a network. -/
structure State where
  /-- The names of the calls that the TLS library refuses. -/
  failing : List String
  /-- The calls that the TLS library was given, oldest first. -/
  calls : Array Tls.Call

/-- How looking up a name ends.  A name with a null character in it is not even asked for. -/
def lookUp (name : String) : IoFault :=
  if name.toList.contains '\x00' then
    .custom .invalidInput "file name contained an unexpected NUL byte"
  else
    .custom .other
      "failed to lookup address information: Temporary failure in name resolution"

/-- How opening a socket ends. -/
def dial (address : String) : IoFault :=
  match Address.parse address with
  | .error fault => fault
  | .ok ⟨.ipv4 _, _⟩ => .os .networkUnreachable
  | .ok ⟨.ipv6 _, _⟩ => .os .addressNotAvailable
  | .ok ⟨.domain name, _⟩ => lookUp name

/-- A host without a network. -/
def host : Host State where
  answer state request := match request with
    | .dial address => (.failed (dial address), state)
    | .tls call =>
      (if state.failing.contains call.name && call ≠ .verifyNone then
        .error (call.name ++ " failed")
      else .ok (), { state with calls := state.calls.push call })
    | .send .. => (.failed (.simple .notConnected), state)
    | .receive .. => (.failed (.simple .notConnected), state)
    | .handshake _ => (.socketError (.simple .notConnected), state)
    | .startExchange _ => (.error IoKind.notConnected.phrase, state)
    | .head .. => (.failed IoKind.notConnected.phrase, state)
    | .body _ => (.failed IoKind.notConnected.phrase, state)
    | .finish _ => (.failed IoKind.notConnected.phrase, state)

end Offline

end LoadHarness.Net
