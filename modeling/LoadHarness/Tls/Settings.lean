import LoadHarness.Tls.Policy

/-! What the TLS library is told about a policy.

`Policy.settings` narrows the range of versions to those that have an allowed
suite, so that the library never falls back on suites of its own choice, and
lists the suites by their library names.  `Settings.calls` are the calls that
pass the settings on, each with what is said if the library refuses it. -/

namespace LoadHarness.Tls

/-- What the TLS library is told. -/
structure Settings where
  min : Version
  max : Version
  /-- Suites for TLS 1.2 and below with the security level, unset where the library's are good. -/
  cipherList : Option String
  /-- Suites for TLS 1.3, unset where the library's are good. -/
  ciphersuites : Option String
  /-- Whether certificates go unchecked. -/
  insecure : Bool
deriving DecidableEq, Repr

/-- Lowers the security level of the library, which by itself refuses versions below 1.2 and weak
suites. -/
def lowestSecurity : String := ":@SECLEVEL=0"

/-- Library names with colons between them. -/
def libraryNames (suites : List CipherSuite) : String :=
  ":".intercalate (suites.map (·.libraryName))

namespace Policy

/-- The lowest version to offer: 1.3 where an explicit choice allows no earlier suite. -/
def offeredMin (policy : Policy) : Version :=
  if policy.suites ≠ .any ∧ policy.legacySuites.isEmpty then .tls13 else policy.min

/-- The highest version to offer: at most 1.2 where an explicit choice allows no suite of 1.3. -/
def offeredMax (policy : Policy) : Version :=
  if policy.suites ≠ .any ∧ policy.tls13Suites.isEmpty then Min.min policy.max .tls12
  else policy.max

/-- The security level is lowered when a version below 1.2 is the lowest offered. -/
def securityLevel (policy : Policy) : String :=
  if policy.offeredMin < .tls12 then lowestSecurity else ""

/-- What the TLS library is told about a policy. -/
def settings (policy : Policy) : Settings where
  min := policy.offeredMin
  max := policy.offeredMax
  cipherList := match policy.suites with
    | .any => if policy.securityLevel = "" then none else some ("DEFAULT" ++ policy.securityLevel)
    | .only _ =>
      if policy.legacySuites.isEmpty then none
      else some (libraryNames policy.legacySuites ++ policy.securityLevel)
  ciphersuites :=
    if policy.tls13Suites.isEmpty then none else some (libraryNames policy.tls13Suites)
  insecure := policy.insecure

end Policy

/-- Calls to the TLS library. -/
inductive Call where
  /-- Start the configuration that all handshakes share. -/
  | builder
  | minVersion (version : Version)
  | maxVersion (version : Version)
  | cipherList (names : String)
  | ciphersuites (names : String)
  /-- Leave certificates unchecked; this cannot fail. -/
  | verifyNone
  /-- Start the configuration of one handshake. -/
  | configure
  /-- Name the host of one handshake. -/
  | intoSsl (host : String) (verifyHostname : Bool)
  /-- Put a socket under one handshake. -/
  | stream
deriving DecidableEq, Repr

/-- A protocol version as two bytes in hexadecimal. -/
def Version.code : Version → String
  | tls10 => "0301"
  | tls11 => "0302"
  | tls12 => "0303"
  | tls13 => "0304"

namespace Call

def name : Call → String
  | builder => "builder"
  | minVersion _ => "min_version"
  | maxVersion _ => "max_version"
  | cipherList _ => "cipher_list"
  | ciphersuites _ => "ciphersuites"
  | verifyNone => "verify"
  | configure => "configure"
  | intoSsl .. => "into_ssl"
  | stream => "stream"

/-- What a call passes on, as text. -/
def value : Call → String
  | minVersion version | maxVersion version => version.code
  | cipherList names | ciphersuites names => names
  | verifyNone => "none"
  | intoSsl host verifyHostname => host ++ " verify_hostname=" ++ toString verifyHostname
  | builder | configure | stream => ""

end Call

namespace Policy

/-- The calls that pass the settings of a policy on, in order, each with what is said if the library
refuses it. -/
def calls (policy : Policy) : List (Call × String) :=
  let settings := policy.settings
  let unavailable (suites : List CipherSuite) : String :=
    "None of the cipher suites [" ++ libraryNames suites ++ "] are available"
  let refused := match policy.suites with
    | .any => "Failed to set cipher list"
    | .only _ => unavailable policy.legacySuites
  [(.builder, "Failed to create TLS connector"),
    (.minVersion settings.min, "Failed to set minimum TLS version"),
    (.maxVersion settings.max, "Failed to set maximum TLS version")] ++
    settings.cipherList.toList.map (fun names => (.cipherList names, refused)) ++
    settings.ciphersuites.toList.map
      (fun names => (.ciphersuites names, unavailable policy.tls13Suites))

end Policy

/-- What a handshake settled on. -/
structure Negotiated where
  /-- The version, if it is one that policies speak of. -/
  version : Option Version
  /-- The suite by its IANA name if it is known, and by its library name otherwise. -/
  suite : Option String
deriving DecidableEq, Repr

/-- A protocol version as the TLS library reports it. -/
inductive ReportedVersion where
  /-- The predecessor of TLS, which no policy allows. -/
  | ssl3
  | tls (version : Version)
deriving DecidableEq, Repr

def ReportedVersion.version? : ReportedVersion → Option Version
  | ssl3 => none
  | tls version => some version

/-- The name under which a suite is reported. -/
def reportedSuite (libraryName : String) : String :=
  ((CipherSuite.ofLibraryName? libraryName).map (·.name)).getD libraryName

/-- What a handshake settled on, from what the TLS library reports. -/
def negotiated (version : Option ReportedVersion) (libraryName : Option String) : Negotiated where
  version := version.bind (·.version?)
  suite := libraryName.map reportedSuite

end LoadHarness.Tls
