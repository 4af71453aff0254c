import LoadHarness.Failure.Io
import LoadHarness.Text.Number
import LoadHarness.Url.Host

/-! Addresses that sockets are opened to: a host and a port with a colon between them. -/

namespace LoadHarness.Net

/-- An address of a socket. -/
structure Address where
  host : Url.Host
  port : Nat
deriving DecidableEq, Repr

namespace Address

/-- Four bytes in plain decimal. -/
def plainIpv4? (text : List Char) : Option Url.Host :=
  match Url.dottedGroups? text with
  | some [high, low] => some (.ipv4 (65536 * high + low))
  | _ => none

/-- The host of an address.  Anything that is no address itself is a name, which may still turn out
to be an address without brackets or in one of the older forms. -/
def parseHost (text : List Char) : Url.Host :=
  let name := Url.Host.domain (String.ofList text)
  let bracketed := match text with
    | '[' :: rest => if rest.getLast? = some ']' then some rest.dropLast else none
    | _ => none
  match bracketed with
  | some inner => (Url.parseIpv6 inner).toOption.getD name
  | none =>
    match plainIpv4? text with
    | some host => host
    | none =>
      let older := if Url.endsInNumber text then Url.parseIpv4 text else Url.parseIpv6 text
      older.toOption.getD name

/-- The address that a text names, or what is wrong with it. -/
def parse (text : String) : Except IoFault Address :=
  let port := (text.toList.reverse.takeWhile (· != ':')).reverse
  if port.length = text.length then .error (.custom .invalidInput "invalid socket address")
  else match Text.readNumber Text.maxPort port with
    | .ok number =>
      .ok ⟨parseHost (text.toList.take (text.length - port.length - 1)), number⟩
    | .error _ => .error (.custom .invalidInput "invalid port value")

end Address

end LoadHarness.Net
