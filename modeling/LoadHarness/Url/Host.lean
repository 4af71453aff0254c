import LoadHarness.Domain.Label
import LoadHarness.Text.Search
import LoadHarness.Url.Percent

/-! Hosts of URLs: names, and addresses of two kinds.

A name whose last label is a number is an address of four bytes, in one to four
parts that may be decimal, octal or hexadecimal.  An address in brackets has
eight groups of sixteen bits, with one run of zeros left out at most. -/

namespace LoadHarness.Url

open Text (hexValue? splitOnChar)

/-- Why a text is not a URL. -/
inductive UrlError where
  | relative
  | emptyHost
  | invalidPort
  | invalidIpv4
  | invalidIpv6
  /-- A name that is no domain. -/
  | invalidName
  /-- A character that no host may have. -/
  | invalidHostChar
deriving DecidableEq, Repr

def UrlError.message : UrlError → String
  | relative => "relative URL without a base"
  | emptyHost => "empty host"
  | invalidPort => "invalid port number"
  | invalidIpv4 => "invalid IPv4 address"
  | invalidIpv6 => "invalid IPv6 address"
  | invalidName => "invalid international domain name"
  | invalidHostChar => "invalid domain character"

/-- The host of a URL. -/
inductive Host where
  | domain (name : String)
  /-- Four bytes as one number. -/
  | ipv4 (address : Nat)
  /-- Eight groups of sixteen bits. -/
  | ipv6 (groups : List Nat)
deriving DecidableEq, Repr

/-! ## Addresses of four bytes -/

/-- The value of digits in a base. -/
def ofDigits? (base : Nat) (digits : List Char) : Option Nat :=
  digits.foldl (fun value c => do
    let value ← value
    let digit ← hexValue? c
    if digit < base then some (base * value + digit) else none) (some 0)

/-- A part of an address: octal after a zero, hexadecimal after a zero and an `x`. -/
def ipv4Part? : List Char → Option Nat
  | [] => none
  | '0' :: 'x' :: digits => ofDigits? 16 digits
  | '0' :: 'X' :: digits => ofDigits? 16 digits
  | '0' :: c :: digits => ofDigits? 8 (c :: digits)
  | digits => ofDigits? 10 digits

/-- The parts of a name, less an empty one at the end. -/
def nameParts (name : List Char) : List (List Char) :=
  let parts := splitOnChar '.' name
  if parts.getLast? = some [] then parts.dropLast else parts

/-- Whether the last label of a name is a number. -/
def endsInNumber (name : List Char) : Bool :=
  match (nameParts name).getLast? with
  | none => false
  | some last => (!last.isEmpty && last.all (·.isDigit)) || (ipv4Part? last).isSome

/-- Put the parts of an address together.  All but the last are one byte, and the last is the rest. -/
def joinIpv4? (parts : List Nat) : Option Nat :=
  match parts.reverse with
  | [] => none
  | last :: before =>
    let before := before.reverse
    let room := Nat.pow 256 (4 - before.length)
    if before.any (255 < ·) || room ≤ last then none
    else some (before.foldl (fun value part => 256 * value + part) 0 * room + last)

/-- The address that a name is. -/
def parseIpv4 (name : List Char) : Except UrlError Host :=
  let parts := nameParts name
  if 4 < parts.length then .error .invalidIpv4
  else match (parts.mapM ipv4Part?).bind joinIpv4? with
    | some address => .ok (.ipv4 address)
    | none => .error .invalidIpv4

/-! ## Addresses of eight groups -/

/-- A group of one to four hexadecimal digits. -/
def group? (digits : List Char) : Option Nat :=
  if digits.isEmpty || 4 < digits.length then none else ofDigits? 16 digits

/-- A byte in decimal, without a zero in front. -/
def decimalByte? (digits : List Char) : Option Nat :=
  match digits with
  | [] => none
  | ['0'] => some 0
  | '0' :: _ => none
  | digits =>
    if 3 < digits.length then none
    else (ofDigits? 10 digits).bind fun n => if n ≤ 255 then some n else none

/-- The two groups of four bytes in decimal. -/
def dottedGroups? (text : List Char) : Option (List Nat) :=
  match (splitOnChar '.' text).mapM decimalByte? with
  | some [a, b, c, d] => some [256 * a + b, 256 * c + d]
  | _ => none

/-- Groups with colons between them; the last may be four bytes in decimal if `dotted`. -/
def groups? (dotted : Bool) (text : List Char) : Option (List Nat) :=
  if text.isEmpty then some []
  else
    let parts := splitOnChar ':' text
    let last := parts.getLast?.getD []
    if dotted && last.contains '.' then do
      return (← parts.dropLast.mapM group?) ++ (← dottedGroups? last)
    else parts.mapM group?

/-- Split at the first two colons in a row. -/
def splitAtColons? : List Char → Option (List Char × List Char)
  | ':' :: ':' :: rest => some ([], rest)
  | c :: rest => (splitAtColons? rest).map fun (before, after) => (c :: before, after)
  | [] => none

/-- The address between brackets. -/
def parseIpv6 (text : List Char) : Except UrlError Host :=
  let groups := match splitAtColons? text with
    | none => (groups? true text).bind fun groups =>
      if groups.length = 8 then some groups else none
    | some (before, after) => do
      let before ← groups? false before
      let after ← groups? true after
      if 7 < before.length + after.length then none
      else some (before ++ List.replicate (8 - before.length - after.length) 0 ++ after)
  match groups with
  | some groups => .ok (.ipv6 groups)
  | none => .error .invalidIpv6

/-! ## Names -/

/-- Characters that a domain may not have. -/
def forbiddenInDomain (c : Char) : Bool :=
  c.toNat ≤ 0x20 || c.toNat == 0x7F || "#/:<>?@[\\]^|%".toList.contains c

/-- Characters that a host of a scheme of its own may not have. -/
def forbiddenInHost (c : Char) : Bool := "\x00\t\n\x0d #/:<>?@[\\]^|".toList.contains c

/-- The host of a scheme that the web defines. -/
def parseHost (text : List Char) : Except UrlError Host :=
  match text with
  | '[' :: rest =>
    if rest.getLast? = some ']' then parseIpv6 rest.dropLast else .error .invalidIpv6
  | _ =>
    match (String.fromUTF8? ⟨(decode text).toArray⟩).bind fun name =>
      Domain.toAscii? forbiddenInDomain name.toList with
    | none => .error .invalidName
    | some name =>
      if name.isEmpty then .error .emptyHost
      else if endsInNumber name then parseIpv4 name
      else .ok (.domain (String.ofList name))

/-- The host of a scheme that the web does not define. -/
def parseOpaqueHost (text : List Char) : Except UrlError Host :=
  match text with
  | '[' :: rest =>
    if rest.getLast? = some ']' then parseIpv6 rest.dropLast else .error .invalidIpv6
  | _ =>
    if text.any forbiddenInHost then .error .invalidHostChar
    else .ok (.domain (String.ofList (encode (fun _ => false) text)))

/-! ## Texts of hosts -/

/-- The length of the run of zeros at the front. -/
def zeros (groups : List Nat) : Nat := (groups.takeWhile (· == 0)).length

/-- Where the first of the longest runs of zeros begins, and how long it is. -/
def longestZeros (groups : List Nat) : Nat × Nat :=
  (List.range groups.length).foldl (fun (start, length) n =>
    let here := zeros (groups.drop n)
    if length < here then (n, here) else (start, length)) (0, 0)

/-- Groups in hexadecimal with colons between them. -/
def renderGroups (groups : List Nat) : String :=
  ":".intercalate (groups.map fun group => String.ofList (Nat.toDigits 16 group))

/-- The text of a host.  The longest run of zeros is left out of eight groups, if it has two. -/
def Host.render : Host → String
  | domain name => name
  | ipv4 address =>
    ".".intercalate ([16777216, 65536, 256, 1].map fun unit => toString (address / unit % 256))
  | ipv6 groups =>
    let (start, length) := longestZeros groups
    let text :=
      if length < 2 then renderGroups groups
      else renderGroups (groups.take start) ++ "::" ++ renderGroups (groups.drop (start + length))
    "[" ++ text ++ "]"

end LoadHarness.Url
