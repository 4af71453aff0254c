import LoadHarness.Text.Number
import LoadHarness.Url.Host

/-! URLs, read from texts that people type.

White space around a URL is dropped, and so are tabs and line ends inside it.
Schemes that the web defines forgive more: any number of slashes in either
direction may stand before their host. -/

namespace LoadHarness

/-- A URL. -/
structure Url where
  scheme : String
  /-- User name and password, encoded, with the sign that ends them. -/
  credentials : String
  host : Option Url.Host
  /-- The port, if it is not the default of the scheme. -/
  port : Option Nat
  path : String
  query : Option String
  fragment : Option String
deriving DecidableEq, Repr

namespace Url

/-- How a scheme is read. -/
inductive SchemeKind where
  /-- The scheme of files, whose host may be missing. -/
  | file
  /-- The other schemes that the web defines. -/
  | special
  | other
deriving DecidableEq, Repr

def SchemeKind.isSpecial : SchemeKind → Bool
  | file | special => true
  | other => false

/-- The port of a scheme where a URL names none. -/
def defaultPort? (scheme : String) : Option Nat :=
  if scheme == "http" || scheme == "ws" then some 80
  else if scheme == "https" || scheme == "wss" then some 443
  else if scheme == "ftp" then some 21
  else none

def schemeKind (scheme : String) : SchemeKind :=
  if scheme == "file" then .file
  else if (defaultPort? scheme).isSome then .special
  else .other

/-- What is read of a typed text. -/
def clean (text : String) : List Char :=
  let outer (c : Char) : Bool := c.toNat ≤ 0x20
  ((text.toList.dropWhile outer).reverse.dropWhile outer).reverse.filter fun c =>
    !(c == '\t' || c == '\n' || c == '\x0d')

/-- The scheme and what follows its colon. -/
def splitScheme? (text : List Char) : Option (String × List Char) :=
  let inScheme (c : Char) : Bool := c.isAlphanum || c == '+' || c == '-' || c == '.'
  let scheme := text.takeWhile inScheme
  match scheme, text.dropWhile inScheme with
  | first :: _, ':' :: rest =>
    if first.isAlpha then some (String.ofList (scheme.map Char.toLower), rest) else none
  | _, _ => none

/-- Whether a character ends the part of a URL that names its host. -/
def endsAuthority (kind : SchemeKind) (c : Char) : Bool :=
  c == '/' || c == '?' || c == '#' || (c == '\\' && kind.isSpecial)

/-- User name and password as they are written. -/
def renderCredentials (text : List Char) : String :=
  let name := encode inUserInfo (text.takeWhile (· != ':'))
  let password := encode inUserInfo ((text.dropWhile (· != ':')).drop 1)
  let password := if password.isEmpty then [] else ':' :: password
  if name.isEmpty && password.isEmpty then "" else String.ofList (name ++ password ++ ['@'])

/-- Split at the last `@`, where there is one. -/
def splitAtLast? (text : List Char) : Option (List Char × List Char) :=
  let after := (text.reverse.takeWhile (· != '@')).reverse
  if after.length = text.length then none
  else some (text.take (text.length - after.length - 1), after)

/-- The part of a text before the colon that ends a host, outside brackets. -/
def takeHost : Bool → List Char → List Char
  | _, [] => []
  | inside, c :: rest =>
    if c == ':' && !inside then []
    else c :: takeHost (if c == '[' then true else if c == ']' then false else inside) rest

/-- Read a port, which is none where nothing is written or the default is. -/
def parsePort (default : Option Nat) (digits : List Char) : Except UrlError (Option Nat) :=
  if digits.isEmpty then .ok none
  else match Text.readDigits Text.maxPort 0 digits with
    | .ok port => .ok (if default = some port then none else some port)
    | .error _ => .error .invalidPort

/-- User, host and port of a URL. -/
structure Authority where
  credentials : String
  host : Option Host
  port : Option Nat

/-- Read user, host and port.  Whether the URL goes on behind them decides about a user without a
name whose host is missing. -/
def parseAuthority (scheme : String) (kind : SchemeKind) (goesOn : Bool) (text : List Char) :
    Except UrlError Authority := do
  let (user, text) := match splitAtLast? text with
    | some (user, text) => (some user, text)
    | none => (none, text)
  if user = some [] ∧ text = [] ∧ goesOn then throw .emptyHost
  let credentials := renderCredentials (user.getD [])
  let hostText := takeHost false text
  let portText := text.drop hostText.length
  if kind = .special ∧ hostText.isEmpty then throw .emptyHost
  let host ← if kind.isSpecial then parseHost hostText else parseOpaqueHost hostText
  let empty := host = .domain ""
  if empty ∧ (!portText.isEmpty) then throw .emptyHost
  -- A scheme of its own may go on after a port with a slash of either direction.
  let digits := (portText.drop 1).takeWhile (· != '\\')
  let port ← parsePort (defaultPort? scheme) digits
  if empty ∧ credentials ≠ "" then throw .emptyHost
  return ⟨credentials, if empty then none else some host, port⟩

/-- Read the host of a file, which may be missing. -/
def parseFileHost (text : List Char) : Except UrlError (Option Host) :=
  match text with
  | [] => .ok none
  | [letter, bar] =>
    if letter.isAlpha ∧ (bar = ':' ∨ bar = '|') then .ok none
    else (parseHost text).map some
  | _ => (parseHost text).map fun host => if host = .domain "localhost" then none else some host

/-! ## Paths -/

/-- Whether a segment stands for its own directory. -/
def isDot (segment : List Char) : Bool :=
  [".", "%2e"].contains (String.ofList (segment.map Char.toLower))

/-- Whether a segment stands for the directory above. -/
def isDotDot (segment : List Char) : Bool :=
  ["..", ".%2e", "%2e.", "%2e%2e"].contains (String.ofList (segment.map Char.toLower))

/-- Follow segments below those that are there already, in reverse. -/
def follow (above : List (List Char)) : List (List Char) → List (List Char)
  | [] => above
  | [last] =>
    if isDotDot last then [] :: above.drop 1
    else if isDot last then [] :: above
    else last :: above
  | segment :: rest =>
    if isDotDot segment then follow (above.drop 1) rest
    else if isDot segment then follow above rest
    else follow (segment :: above) rest

/-- The path of a text that begins after its first slash. -/
def normalPath (special : Bool) (text : List Char) : String :=
  let text := if special then text.map fun c => if c = '\\' then '/' else c else text
  let segments := follow [] (Text.splitOnChar '/' text)
  String.ofList (segments.reverse.flatMap fun segment => '/' :: encode inPath segment)

/-- Split off what follows the first `mark`. -/
def splitAtMark (mark : Char) (text : List Char) : List Char × Option (List Char) :=
  match text.dropWhile (· != mark) with
  | [] => (text, none)
  | _ :: rest => (text.takeWhile (· != mark), some rest)

/-- Path, query and fragment of a URL, below what is in front of them. -/
def withRest (url : Url) (kind : SchemeKind) (text : List Char) : Url :=
  let (text, fragment) := splitAtMark '#' text
  let (path, query) := splitAtMark '?' text
  let path := match path, kind with
    | '/' :: path, _ => normalPath kind.isSpecial path
    | '\\' :: path, .special | '\\' :: path, .file => normalPath true path
    | [], .other => ""
    | path, .special | path, .file => normalPath true path
    | path, .other => String.ofList (encode (fun _ => false) path)
  { url with
    path := path
    query := query.map fun query => String.ofList (encode (inQuery kind.isSpecial) query)
    fragment := fragment.map fun fragment => String.ofList (encode inFragment fragment) }

/-- Read what follows the slashes in front of an authority. -/
def withAuthority (url : Url) (kind : SchemeKind) (text : List Char) : Except UrlError Url := do
  let rest := text.dropWhile (!endsAuthority kind ·)
  let authority ← parseAuthority url.scheme kind (!rest.isEmpty)
    (text.takeWhile (!endsAuthority kind ·))
  return { url with
    credentials := authority.credentials
    host := authority.host
    port := authority.port }.withRest kind rest

/-- Read a URL that stands for itself. -/
def parse (text : String) : Except UrlError Url := do
  let some (scheme, rest) := splitScheme? (clean text) | throw .relative
  let kind := schemeKind scheme
  let bare : Url := ⟨scheme, "", none, none, "", none, none⟩
  let isSlash (c : Char) : Bool := c == '/' || c == '\\'
  match kind, rest with
  | .special, _ => bare.withAuthority kind (rest.dropWhile isSlash)
  | .other, '/' :: '/' :: rest => bare.withAuthority kind rest
  | .file, a :: b :: rest =>
    if isSlash a && isSlash b then
      let host ← parseFileHost (rest.takeWhile (!endsAuthority kind ·))
      return { bare with host := host }.withRest kind (rest.dropWhile (!endsAuthority kind ·))
    else return bare.withRest kind (a :: b :: rest)
  | _, rest => return bare.withRest kind rest

/-- The text of a URL. -/
def render (url : Url) : String :=
  url.scheme ++ ":" ++
    (match url.host with
      | some host => "//" ++ url.credentials ++ host.render
      | none => if url.scheme == "file" then "//" else "") ++
    (match url.port with | some port => ":" ++ toString port | none => "") ++
    url.path ++
    (match url.query with | some query => "?" ++ query | none => "") ++
    (match url.fragment with | some fragment => "#" ++ fragment | none => "")

end Url

end LoadHarness
