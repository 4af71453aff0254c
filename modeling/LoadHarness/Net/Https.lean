import LoadHarness.Failure.Cause
import LoadHarness.Summary
import LoadHarness.Url.Parser
import LoadHarness.Work

/-! One request over HTTPS, on a connection of its own.

The request goes through its stages in order: the URL, the request itself, the
socket, the handshake, the head and the body of the response, and the end of the
TLS session.  The first stage that fails decides the failure; the last cannot
fail the request any more.  The connection is in the books from when the socket
is open until the request is over. -/

namespace LoadHarness.Net

/-- A response with more bytes in its body than this is refused. -/
def maxBody : Nat := 16 * 1024 * 1024

/-- The longest target of a request. -/
def maxTarget : Nat := 65534

/-- The response to a request, with what its handshake settled on. -/
structure HttpsResponse where
  status : Nat
  tls : Tls.Negotiated
  /-- Names in lower case, with the bytes of their values. -/
  headers : List (String × List UInt8)
  body : List UInt8
deriving DecidableEq

/-- The first header with this name in letters of either case, if it is visible ASCII. -/
def HttpsResponse.header? (response : HttpsResponse) (name : String) : Option String := do
  let bytes ← response.headers.lookup (name.map Char.toLower)
  if bytes.all fun byte => (0x20 ≤ byte && byte < 0x7F) || byte == 0x09 then
    String.fromUTF8? ⟨bytes.toArray⟩
  else none

/-- A URL that can be requested: where to connect, which host to name, and what to send. -/
structure HttpsTarget where
  address : String
  host : String
  request : HttpRequest
deriving DecidableEq, Repr

namespace HttpsTarget

/-- The request for a URL. -/
def requestFor (url : Url) (host : String) : HttpRequest where
  target := url.path ++ match url.query with
    | some query => "?" ++ query
    | none => ""
  headers := [
    ("host", match url.port with
      | some port => host ++ ":" ++ toString port
      | none => host),
    ("user-agent", "gale/" ++ version),
    ("accept", "*/*"),
    ("connection", "close")]

/-- What a text asks for, or why it cannot be requested. -/
def ofText (text : String) : Except NetError HttpsTarget :=
  match Url.parse text with
  | .error e => .error (.http ("invalid URL " ++ text ++ ": " ++ e.message))
  | .ok url =>
    if url.scheme ≠ "https" then
      .error (.http ("unsupported scheme [" ++ url.scheme ++ "], only https is supported"))
    else match url.host with
      | none => .error (.http ("no host in URL " ++ url.render))
      | some host =>
        let host := host.render
        let request := requestFor url host
        if maxTarget < request.target.utf8ByteSize then
          .error (.http ("invalid request for " ++ url.render ++ ": uri too long"))
        else
          let port := (url.port.or (Url.defaultPort? url.scheme)).getD 443
          .ok ⟨host ++ ":" ++ toString port, host, request⟩

/-- The host without the brackets of an address. -/
def bareHost (target : HttpsTarget) : String :=
  String.ofList ((target.host.toList.dropWhile (· == '[')).reverse.dropWhile (· == ']')).reverse

end HttpsTarget

/-- What a client knows about TLS: whether it checks the names in certificates. -/
structure Connector where
  verifyHostname : Bool
deriving DecidableEq, Repr

namespace Connector

/-- Make calls in order, each with what is said if the library refuses it. -/
def configure : List (Tls.Call × String) → Work (Except Failure Unit)
  | [] => return .ok ()
  | (call, refused) :: rest => do
    match ← Work.ask (.tls call) with
    | .error text => return .error ((Failure.ofText text).context (.text refused))
    | .ok () => configure rest

/-- Configure the TLS library for a policy. -/
def build (policy : Tls.Policy) : Work (Except Failure Connector) := do
  match ← configure policy.calls with
  | .error failure => return .error failure
  | .ok () =>
    if policy.insecure then
      Work.log .warn "TLS certificate verification is disabled"
      let _ ← Work.ask (.tls .verifyNone)
    return .ok ⟨!policy.insecure⟩

/-- Make calls for one handshake, any of which the library may refuse. -/
def prepare : List Tls.Call → Work (Except NetError Unit)
  | [] => return .ok ()
  | call :: rest => do
    match ← Work.ask (.tls call) with
    | .error text => return .error (.tlsNegotiation text)
    | .ok () => prepare rest

/-- The result of a handshake. -/
def settle (limit : Duration) : Handshake → Except NetError Tls.Negotiated
  | .agreed version suite => .ok (Tls.negotiated version suite)
  | .protocolError text => .error (.tlsNegotiation text)
  | .socketError fault => .error (.io fault)
  | .otherError text => .error (.tlsNegotiation text)
  | .timedOut => .error (.timeout "tls_handshake" limit)

/-- Run the handshake with a host over an open socket. -/
def handshake (connector : Connector) (limit : Duration) (host : String) (socket : Socket) :
    Work (Except NetError Tls.Negotiated) := do
  match ← prepare [.configure, .intoSsl host connector.verifyHostname, .stream] with
  | .error e => return .error e
  | .ok () => return settle limit (← Work.ask (.handshake socket))

end Connector

namespace HttpsResponse

/-- How a log shows an optional value. -/
def shown (value : Option String) : String :=
  match value with
  | some text => "Some(" ++ text ++ ")"
  | none => "None"

/-- How a log shows a version. -/
def shownVersion : Tls.Version → String
  | .tls10 => "Tls10"
  | .tls11 => "Tls11"
  | .tls12 => "Tls12"
  | .tls13 => "Tls13"

/-- A failed exchange. -/
def exchangeError (text : String) : NetError := .http ("HTTP exchange failed: " ++ text)

/-- The exchange over a socket whose handshake is done. -/
def exchange (limit : Duration) (tls : Tls.Negotiated) (request : HttpRequest) (socket : Socket) :
    Work (Except NetError HttpsResponse) := do
  let head ← Work.ask (.head socket request)
  match head.within "read_head" limit exchangeError with
  | .error e => return .error e
  | .ok head =>
    let bodyError (text : String) : NetError := .http ("failed to read response body: " ++ text)
    let body ← Work.ask (.body socket)
    match body.within "read_body" limit bodyError with
    | .error e => return .error e
    | .ok body =>
      if maxBody < body.length then return .error (bodyError "length limit exceeded")
      else return .ok ⟨head.status, tls, head.headers, body⟩

/-- All stages over an open socket. -/
def converse (connector : Connector) (limit : Duration) (target : HttpsTarget) (socket : Socket) :
    Work (Except NetError HttpsResponse) := do
  match ← connector.handshake limit target.bareHost socket with
  | .error e => return .error e
  | .ok tls =>
    Work.log .debug ("Negotiated " ++ shown (tls.version.map shownVersion) ++ " with " ++
      shown (tls.suite.map fun suite => "\"" ++ suite ++ "\"") ++ " for " ++ target.address)
    match ← Work.ask (.startExchange socket) with
    | .error text => return .error (exchangeError text)
    | .ok () =>
      let result ← exchange limit tls target.request socket
      -- Only a complete response is worth a proper end of the session, and whether that end
      -- fails or takes too long changes nothing any more.
      if result.isOk then
        let _ ← Work.ask (.finish socket)
      return result

/-- Fetch a URL. -/
def fetch (connector : Connector) (limit : Duration) (text : String) :
    Work (Except NetError HttpsResponse) := do
  match HttpsTarget.ofText text with
  | .error e => return .error e
  | .ok target =>
    let dialled ← Work.ask (.dial target.address)
    match dialled.within "connect" limit (.connect target.address) with
    | .error e => return .error e
    | .ok socket =>
      let token ← Work.perform (.connect false)
      let result ← converse connector limit target socket
      Work.perform (.disconnect token)
      return result

end HttpsResponse

end LoadHarness.Net
