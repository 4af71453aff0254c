import LoadHarness.Work

/-! Connections of virtual users over TCP.

A failed read or write closes the connection.  Every later operation on it fails
without touching the network, until the virtual user opens another. -/

namespace LoadHarness.Net

/-- What is open of a connection: its socket, and the token under which it is in the books. -/
structure Stream where
  socket : Socket
  token : Token
deriving DecidableEq, Repr

/-- A connection, open or closed. -/
structure TcpConnection where
  address : String
  stream : Option Stream
deriving DecidableEq, Repr

/-- What ends a line that is written. -/
def lineTerminator : String := "\n"

namespace TcpConnection

def isOpen (connection : TcpConnection) : Bool := connection.stream.isSome

/-- Open a connection.  The attempt makes one record, whether it succeeds or not. -/
def connect (limit : Duration) (address : String) : Work (Except NetError TcpConnection) := do
  let start ← Work.perform .now
  let outcome ← Work.ask (.dial address)
  let result := outcome.within "connect" limit (.connect address)
  Work.report "tcp_connect" start !result.isOk
  match result with
  | .error e => return .error e
  | .ok socket =>
    Work.log .debug ("Connected to " ++ address)
    let token ← Work.perform (.connect false)
    return .ok ⟨address, some ⟨socket, token⟩⟩

/-- Release a connection, if it is open. -/
def close (connection : TcpConnection) : Work TcpConnection :=
  match connection.stream with
  | none => return connection
  | some stream => do
    Work.perform (.disconnect stream.token)
    Work.log .debug ("Closed connection to " ++ connection.address)
    return { connection with stream := none }

/-- Close a connection on which an operation failed. -/
def closeOnError {α : Type} (connection : TcpConnection) (result : Except NetError α) :
    Work TcpConnection :=
  match result with
  | .ok _ => return connection
  | .error e => do
    Work.log .debug
      ("Closing connection to " ++ connection.address ++ " after error: " ++ e.message)
    connection.close

/-- Do something over a connection: close it if that fails, and make one record. -/
def operate {α : Type} (connection : TcpConnection) (id : String)
    (work : Socket → Work (Except NetError α)) : Work (TcpConnection × Except NetError α) := do
  let start ← Work.perform .now
  let result ← match connection.stream with
    | some stream => work stream.socket
    | none => pure (.error .closed)
  let connection ← connection.closeOnError result
  Work.report id start !result.isOk
  return (connection, result)

/-- Write a text and the end of a line. -/
def writeLine (limit : Duration) (connection : TcpConnection) (text : String) :
    Work (TcpConnection × Except NetError Unit) :=
  connection.operate "tcp_write_line" fun socket => do
    let outcome ← Work.ask (.send socket (text ++ lineTerminator).toUTF8.toList)
    return outcome.within "write" limit .io

/-- Read what has arrived, up to `max` bytes.  Nothing where something was asked for means that the
peer has closed, which is a failure. -/
def readUpTo (limit : Duration) (connection : TcpConnection) (max : Nat) :
    Work (TcpConnection × Except NetError (List UInt8)) :=
  connection.operate "tcp_read" fun socket => do
    let outcome ← Work.ask (.receive socket max)
    return match outcome.within "read" limit .io with
      | .error e => .error e
      | .ok chunk =>
        if chunk.val.isEmpty && 0 < max then
          .error (.io (.custom .unexpectedEof "connection closed by peer"))
        else .ok chunk.val

end TcpConnection

end LoadHarness.Net
