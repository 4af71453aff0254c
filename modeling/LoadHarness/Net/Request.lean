import LoadHarness.Failure.Net
import LoadHarness.Tls.Settings

/-! What is asked of the network and of the TLS library, and what they can reply.

Each request has its own type of reply, so a reply of the wrong kind cannot be
given.  Work with a time limit may time out; whether it does is part of the
reply. -/

namespace LoadHarness.Net

/-- An open socket, by the number its host gave it. -/
structure Socket where
  number : Nat
deriving DecidableEq, Repr

/-- How work with a time limit ends, when it fails by `ε`. -/
inductive Outcome (ε α : Type) where
  | ok (value : α)
  | failed (fault : ε)
  | timedOut

/-- Bytes that fit a buffer. -/
def Chunk (max : Nat) : Type := { bytes : List UInt8 // bytes.length ≤ max }

/-- How a handshake ends. -/
inductive Handshake where
  /-- Both sides agree, on what the library reports. -/
  | agreed (version : Option Tls.ReportedVersion) (suite : Option String)
  /-- The protocol of the handshake failed. -/
  | protocolError (text : String)
  /-- The socket below failed. -/
  | socketError (fault : IoFault)
  /-- The handshake failed in some other way. -/
  | otherError (text : String)
  | timedOut

/-- The request of one exchange. -/
structure HttpRequest where
  /-- The path with the query. -/
  target : String
  /-- Names and values, in the order in which they are sent. -/
  headers : List (String × String)
deriving DecidableEq, Repr

/-- The head of a response. -/
structure HttpHead where
  status : Nat
  /-- Names in lower case, with the bytes of their values. -/
  headers : List (String × List UInt8)
deriving DecidableEq, Repr

/-- What is asked of the network and of the TLS library. -/
inductive Request where
  /-- Open a socket to an address. -/
  | dial (address : String)
  | send (socket : Socket) (bytes : List UInt8)
  /-- Take what has arrived, up to a number of bytes; none means that the peer has closed. -/
  | receive (socket : Socket) (max : Nat)
  | tls (call : Tls.Call)
  | handshake (socket : Socket)
  /-- Get ready for an exchange over a handshaken socket. -/
  | startExchange (socket : Socket)
  /-- Send a request and read the head of the response. -/
  | head (socket : Socket) (request : HttpRequest)
  /-- Read the body of the response. -/
  | body (socket : Socket)
  /-- Close the TLS session. -/
  | finish (socket : Socket)

/-- What can be replied to a request. -/
def Reply : Request → Type
  | .dial _ => Outcome IoFault Socket
  | .send .. => Outcome IoFault Unit
  | .receive _ max => Outcome IoFault (Chunk max)
  | .tls _ => Except String Unit
  | .handshake _ => Handshake
  | .startExchange _ => Except String Unit
  | .head .. => Outcome String HttpHead
  | .body _ => Outcome String (List UInt8)
  | .finish _ => Outcome String Unit

/-- The result of work with a time limit. -/
def Outcome.within {ε α : Type} (operation : String) (limit : Duration) (fault : ε → NetError) :
    Outcome ε α → Except NetError α
  | ok value => .ok value
  | failed e => .error (fault e)
  | timedOut => .error (.timeout operation limit)

end LoadHarness.Net
