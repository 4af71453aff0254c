import LoadHarness.Text.Number

/-! Percent-encoding: bytes written as a percent sign and two hexadecimal digits.

A text is encoded character by character; a character outside ASCII always is,
byte by byte of its UTF-8.  Decoding leaves every percent sign alone that two
digits do not follow. -/

namespace LoadHarness.Url

open Text (hexValue?)

def hexDigits : List Char := "0123456789ABCDEF".toList

/-- One byte, encoded. -/
def encodeByte (byte : UInt8) : List Char :=
  ['%', hexDigits.getD (byte.toNat / 16) '0', hexDigits.getD (byte.toNat % 16) '0']

/-- One character, encoded where `escaped` says so or ASCII does not have it. -/
def encodeChar (escaped : Char → Bool) (c : Char) : List Char :=
  if escaped c || 0x7F ≤ c.toNat || c.toNat < 0x20 then
    (String.singleton c).toUTF8.toList.flatMap encodeByte
  else [c]

def encode (escaped : Char → Bool) (text : List Char) : List Char :=
  text.flatMap (encodeChar escaped)

/-- What is escaped in a fragment. -/
def inFragment (c : Char) : Bool := " \"<>\x60".toList.contains c

/-- What is escaped in a path. -/
def inPath (c : Char) : Bool := inFragment c || "#?\x7b\x7d".toList.contains c

/-- What is escaped in a user name and a password. -/
def inUserInfo (c : Char) : Bool := inPath c || "/:;=@[\\]^|".toList.contains c

/-- What is escaped in a query. -/
def inQuery (special : Bool) (c : Char) : Bool :=
  " \"#<>".toList.contains c || (special && c == '\'')

/-- The bytes of a text once its escapes are undone. -/
def decode : List Char → List UInt8
  | '%' :: a :: b :: rest =>
    match hexValue? a, hexValue? b with
    | some high, some low => UInt8.ofNat (16 * high + low) :: decode rest
    | _, _ => UInt8.ofNat '%'.toNat :: decode (a :: b :: rest)
  | c :: rest => (String.singleton c).toUTF8.toList ++ decode rest
  | [] => []

end LoadHarness.Url
