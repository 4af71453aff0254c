import LoadHarness.Tls.CipherSuite
import LoadHarness.Tls.Version

/-! The constraints that every TLS handshake of a run obeys, and when they make sense.

`Policy.validate` accepts a policy when some version in its range has an
allowed suite; otherwise it names the first thing wrong. -/

namespace LoadHarness.Tls

/-- Why a policy, or a version in one, is refused. -/
inductive PolicyError where
  /-- The text names no version. -/
  | unknownVersion (text : String)
  /-- The range of versions is empty. -/
  | invertedVersions (min max : Version)
  /-- An explicit choice of suites that allows none. -/
  | emptyCipherSuites
  /-- An allowed suite that is not known. -/
  | unknownCipherSuite (name : String)
  /-- No allowed suite belongs to a version in the range. -/
  | noUsableCipherSuite (min max : Version)
deriving DecidableEq, Repr

namespace PolicyError

def message : PolicyError → String
  | unknownVersion text =>
    "unknown TLS version [" ++ text ++ "], expected one of tls1.0, tls1.1, tls1.2, tls1.3"
  | invertedVersions min max =>
    "minimum TLS version " ++ min.name ++ " is above maximum TLS version " ++ max.name
  | emptyCipherSuites =>
    "the allowed cipher suite list is empty, use [any] to allow every suite"
  | unknownCipherSuite name => "unknown cipher suite [" ++ name ++ "]"
  | noUsableCipherSuite min max =>
    "none of the allowed cipher suites can be used with TLS versions " ++ min.name ++ " to " ++
      max.name

instance : ToString PolicyError := ⟨message⟩

end PolicyError

/-- Read a version, or say which text is not one. -/
def Version.parse (text : String) : Except PolicyError Version :=
  match Version.parse? text with
  | some version => .ok version
  | none => .error (.unknownVersion text)

/-- The constraints on every handshake of a run. -/
structure Policy where
  min : Version
  max : Version
  suites : CipherSuites
  /-- Skip the validation of certificate chain and host name. -/
  insecure : Bool
deriving DecidableEq

namespace Policy

/-- TLS 1.2 and 1.3 with any suite, and every certificate validated. -/
def standard : Policy := ⟨.tls12, .tls13, .any, false⟩

instance : Inhabited Policy := ⟨standard⟩

/-- The allowed suites that are known, in byte order of their names. -/
def knownSuites (policy : Policy) : List CipherSuite :=
  policy.suites.names.filterMap CipherSuite.lookup?

/-- Allowed suites for TLS 1.2 and below; empty when any suite is allowed. -/
def legacySuites (policy : Policy) : List CipherSuite :=
  policy.knownSuites.filter fun suite => !suite.tls13

/-- Allowed suites for TLS 1.3; empty when any suite is allowed. -/
def tls13Suites (policy : Policy) : List CipherSuite :=
  policy.knownSuites.filter fun suite => suite.tls13

/-- Whether an explicit choice leaves a version up to 1.2 something to offer. -/
def legacyUsable (policy : Policy) : Bool :=
  decide (policy.min ≤ .tls12) && !policy.legacySuites.isEmpty

/-- Whether an explicit choice leaves version 1.3 something to offer. -/
def tls13Usable (policy : Policy) : Bool :=
  policy.max == .tls13 && !policy.tls13Suites.isEmpty

/-- Accept a policy, or report the first of its faults. -/
def validate (policy : Policy) : Except PolicyError Unit :=
  if policy.max < policy.min then .error (.invertedVersions policy.min policy.max)
  else match policy.suites with
    | .any => .ok ()
    | .only names =>
      if names.isEmpty then .error .emptyCipherSuites
      else match names.toList.find? fun name => (CipherSuite.lookup? name).isNone with
        | some unknown => .error (.unknownCipherSuite unknown)
        | none =>
          if policy.legacyUsable || policy.tls13Usable then .ok ()
          else .error (.noUsableCipherSuite policy.min policy.max)

end Policy

end LoadHarness.Tls
