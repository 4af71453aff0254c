/-! Faults of input and output: what a socket reports when it cannot do its work. -/

namespace LoadHarness

/-- The kinds of input and output faults. -/
inductive IoKind where
  | notFound
  | permissionDenied
  | connectionRefused
  | connectionReset
  | hostUnreachable
  | networkUnreachable
  | connectionAborted
  | notConnected
  | addrInUse
  | addrNotAvailable
  | networkDown
  | brokenPipe
  | alreadyExists
  | wouldBlock
  | invalidInput
  | invalidData
  | timedOut
  | writeZero
  | interrupted
  | unsupported
  | unexpectedEof
  | outOfMemory
  | other
deriving DecidableEq, Repr

namespace IoKind

/-- Each kind with its name and the phrase that describes it. -/
def table : List (IoKind × String × String) := [
  (notFound, "NotFound", "entity not found"),
  (permissionDenied, "PermissionDenied", "permission denied"),
  (connectionRefused, "ConnectionRefused", "connection refused"),
  (connectionReset, "ConnectionReset", "connection reset"),
  (hostUnreachable, "HostUnreachable", "host unreachable"),
  (networkUnreachable, "NetworkUnreachable", "network unreachable"),
  (connectionAborted, "ConnectionAborted", "connection aborted"),
  (notConnected, "NotConnected", "not connected"),
  (addrInUse, "AddrInUse", "address in use"),
  (addrNotAvailable, "AddrNotAvailable", "address not available"),
  (networkDown, "NetworkDown", "network down"),
  (brokenPipe, "BrokenPipe", "broken pipe"),
  (alreadyExists, "AlreadyExists", "entity already exists"),
  (wouldBlock, "WouldBlock", "operation would block"),
  (invalidInput, "InvalidInput", "invalid input parameter"),
  (invalidData, "InvalidData", "invalid data"),
  (timedOut, "TimedOut", "timed out"),
  (writeZero, "WriteZero", "write zero"),
  (interrupted, "Interrupted", "operation interrupted"),
  (unsupported, "Unsupported", "unsupported"),
  (unexpectedEof, "UnexpectedEof", "unexpected end of file"),
  (outOfMemory, "OutOfMemory", "out of memory"),
  (other, "Other", "other error")]

/-- The kind with this name. -/
def ofName? (name : String) : Option IoKind :=
  (table.find? (·.2.1 == name)).map (·.1)

/-- The phrase that describes a kind. -/
def phrase (kind : IoKind) : String :=
  ((table.find? (·.1 == kind)).map (·.2.2)).getD ""

end IoKind

/-- Errors that the operating system reports by number. -/
inductive OsError where
  | brokenPipe
  | addressNotAvailable
  | networkUnreachable
  | connectionReset
  | connectionRefused
deriving DecidableEq, Repr

namespace OsError

def number : OsError → Nat
  | brokenPipe => 32
  | addressNotAvailable => 99
  | networkUnreachable => 101
  | connectionReset => 104
  | connectionRefused => 111

def phrase : OsError → String
  | brokenPipe => "Broken pipe"
  | addressNotAvailable => "Cannot assign requested address"
  | networkUnreachable => "Network is unreachable"
  | connectionReset => "Connection reset by peer"
  | connectionRefused => "Connection refused"

end OsError

/-- A fault of input or output. -/
inductive IoFault where
  /-- Only the kind is known. -/
  | simple (kind : IoKind)
  /-- A fault with a text of its own. -/
  | custom (kind : IoKind) (text : String)
  /-- A fault that the operating system reported. -/
  | os (error : OsError)
deriving DecidableEq, Repr

def IoFault.message : IoFault → String
  | simple kind => kind.phrase
  | custom _ text => text
  | os error => error.phrase ++ " (os error " ++ toString error.number ++ ")"

end LoadHarness
